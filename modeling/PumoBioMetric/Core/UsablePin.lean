import PumoBioMetric.Core.PinResolution
import PumoBioMetric.Py.Split

/-!
# The PIN that `resolve_target_pin` answers with

Either the preferred PIN, which nobody else holds first, or the least free number from
where the search starts.
-/

set_option autoImplicit false

namespace PumoBioMetric.Core

open Py

/-- Where the search starts: at the number itself, or at 1 where it is none. -/
inductive SearchStart (pin : String) : Nat → Prop where
  | number {value : Nat} : isDigit pin = true → int? pin = some (value : Int) → SearchStart pin value
  | one : isDigit pin = false → SearchStart pin 1

structure LeastFree (userIds : List String) (start : Nat) (pin : String) (number : Nat) :
    Prop where
  loop : FreeNumber.Loop (usedPins userIds) start number
  spelled : pin = toString number
  unheld : pin ∉ userIds
  unread : ∀ userId ∈ userIds, int? userId ≠ some (number : Int)
  low : start ≤ number
  passed : ∀ smaller, start ≤ smaller → smaller < number →
    ∃ userId ∈ userIds, int? userId = some (smaller : Int)

theorem leastFree_of_loop {userIds : List String} {start number : Nat}
    (loop : FreeNumber.Loop (usedPins userIds) start number) :
    LeastFree userIds start (toString number) number where
  loop := loop
  spelled := rfl
  unheld := by
    intro member
    exact loop.notMem (List.mem_filterMap.mpr ⟨_, member, int?_toString number⟩)
  unread := by
    intro userId member read
    exact loop.notMem (List.mem_filterMap.mpr ⟨userId, member, read⟩)
  low := loop.le
  passed := by
    intro smaller low high
    exact List.mem_filterMap.mp (loop.used low high)

/-- From ASCII text the search ends at the least free number. -/
theorem nextFreePin_least {pin : String} (ascii : isAscii pin) (userIds : List String) :
    ∃ free start number, nextFreePin pin userIds = some free ∧ SearchStart pin start ∧
      LeastFree userIds start free number := by
  cases digits : isDigit pin with
  | true =>
      obtain ⟨start, read⟩ := int?_of_isDigit digits ascii
      refine ⟨_, start, _, ?_, .number digits read,
        leastFree_of_loop (FreeNumber.loop_firstFree _ start)⟩
      simp [nextFreePin, digits, read]
  | false =>
      refine ⟨_, 1, _, ?_, .one digits, leastFree_of_loop (FreeNumber.loop_firstFree _ 1)⟩
      simp [nextFreePin, digits]

theorem isAscii_strip {text : String} (ascii : isAscii text) : isAscii (strip text) :=
  fun char member => ascii char ((strip_isInfix text).subset member)

theorem not_unreadable {pin : String} (ascii : isAscii pin) : ¬ Unreadable pin := by
  rintro ⟨digits, unread⟩
  obtain ⟨number, read⟩ := int?_of_isDigit digits ascii
  exact absurd (unread.symm.trans read) (by simp)

section

variable [UnicodeTables]

/-- What the answer promises about its PIN. -/
structure PinAnswered (existingUsers : List ListedUser) (preferredPin : String)
    (userName : Option String) (check : PinCheck) : Prop where
  kept : check.isMapped = false → check.targetPin = strip preferredPin ∧
    ∀ holder, existingUsers.find? (ListedUser.hasId (strip preferredPin)) = some holder →
      ∃ name, userName = some name ∧ lower (strip holder.name) = lower (strip name)
  mapped : check.isMapped = true → ∃ start number, SearchStart (strip preferredPin) start ∧
    LeastFree (existingUsers.map ListedUser.userId) start check.targetPin number

theorem isSameUser_iff {userName : Option String} {holderName : String} :
    isSameUser userName holderName = true ↔
      ∃ name, userName = some name ∧ name ≠ "" ∧ lower (strip holderName) = lower (strip name) := by
  cases userName with
  | none => simp [isSameUser]
  | some name => simp [isSameUser]

theorem PinChosen.answered {existingUsers : List ListedUser} {preferredPin : String}
    {userName : Option String} {check : PinCheck} (ascii : isAscii preferredPin)
    (chosen : PinChosen existingUsers preferredPin userName check) :
    PinAnswered existingUsers preferredPin userName check := by
  cases chosen with
  | free missing target unmapped =>
      refine ⟨fun _ => ⟨target, ?_⟩, fun mapped => absurd (unmapped.symm.trans mapped) (by simp)⟩
      intro holder found
      exact absurd (missing.symm.trans found) (by simp)
  | sameUser first same target unmapped =>
      refine ⟨fun _ => ⟨target, ?_⟩, fun mapped => absurd (unmapped.symm.trans mapped) (by simp)⟩
      intro holder found
      cases first.symm.trans found
      obtain ⟨name, given, _, equal⟩ := isSameUser_iff.mp same
      exact ⟨name, given, equal⟩
  | mapped _ _ found isMapped =>
      refine ⟨fun kept => absurd (isMapped.symm.trans kept) (by simp), fun _ => ?_⟩
      obtain ⟨free, start, number, again, starts, least⟩ :=
        nextFreePin_least (isAscii_strip ascii) (existingUsers.map ListedUser.userId)
      cases again.symm.trans found
      exact ⟨start, number, starts, least⟩

/-- For ASCII preferred PINs `resolve_target_pin` answers with the preferred PIN where
nobody else holds it first, and else with the least free number from its start. -/
theorem resolved_pin_usable (targetSn : String) {preferredPin : String}
    (ascii : isAscii preferredPin) (userName : Option String) (existingUsers : List ListedUser) :
    ∃ check, choosePin targetSn preferredPin userName existingUsers = some check ∧
      PinAnswered existingUsers preferredPin userName check := by
  cases answer : choosePin targetSn preferredPin userName existingUsers with
  | some check => exact ⟨check, rfl, (pinChosen_of_choosePin answer).answered ascii⟩
  | none =>
      obtain ⟨_, _, _, unreadable⟩ := unreadable_of_choosePin answer
      exact absurd unreadable (not_unreadable (isAscii_strip ascii))

end

theorem resolved_pin_usable_collision :
    ∃ check, @choosePin .ascii "UFZ9876543210" " 9999" (some "John Doe")
        [⟨"9999", "Master Super Admin"⟩, ⟨"010000", ""⟩, ⟨"9999", "John Doe"⟩] = some check ∧
      @PinAnswered .ascii
        [⟨"9999", "Master Super Admin"⟩, ⟨"010000", ""⟩, ⟨"9999", "John Doe"⟩] " 9999"
        (some "John Doe") check :=
  @resolved_pin_usable .ascii "UFZ9876543210" " 9999" (by simp [isAscii]) (some "John Doe") _

end PumoBioMetric.Core
