import PumoBioMetric.Core.DeviceNaming
import PumoBioMetric.Core.HardwareRun

/-!
# When a resolved serial resolves to the same reader

`run_migration` resolves both identifiers, keeps the serials and lets the migration
resolve these.  An entry of the registry is found again under its own serial unless blanks
around it lead elsewhere; the serial that the last rule makes up for an address is taken
for a host name by the second pass.
-/

set_option autoImplicit false

namespace PumoBioMetric.Core

open Py FaultyCalls

def ResolvedDevice.address (device : ResolvedDevice) : Address := ⟨device.ip, device.port⟩

theorem strip_simulated_sn (device : SimDevice) : strip device.sn = device.sn := by
  cases device <;> decide +kernel

section

variable [UnicodeTables] (registry : Registry) (identifier : String) (port : Int)

/-- The serial that was returned leads to the same serial, address and port. -/
def ResolvesAgain : Prop :=
  let first := resolveDevice registry identifier port
  let second := resolveDevice registry first.sn port
  second.sn = first.sn ∧ second.ip = first.ip ∧ second.port = first.port

/-- An empty serial is passed over for the default reader of its side. -/
def DefaultsAt (address : Address) : Prop :=
  ∀ default : SimDevice,
    (∀ entry, NamesEntry registry default.sn entry → (entry.2.withPort port).address = address) ∧
      (Unregistered registry default.sn → Address.mk default.ip default.port = address)

/-- The identifiers whose serial leads back to the reader that they name. -/
structure Settled : Prop where
  named : ∀ entry, NamesEntry registry (strip identifier) entry → NamesEntry registry (strip entry.1) entry
  simulated : Unregistered registry (strip identifier) →
    ∀ device, simulatedDevices.lookup (strip identifier) = some device →
      ∀ entry, NamesEntry registry device.sn entry →
        entry.1 = device.sn ∧ entry.2.ip = device.ip ∧ entry.2.port.getD port = device.port
  notIp : Unregistered registry (strip identifier) →
    simulatedDevices.lookup (strip identifier) = none → looksLikeIp (strip identifier) = false

/-- A serial that is passed on is not empty, or the default readers are at its address. -/
structure PassedOn : Prop where
  named : ∀ entry, NamesEntry registry (strip identifier) entry → entry.1 = "" →
    DefaultsAt registry port (entry.2.withPort port).address
  unnamed : Unregistered registry (strip identifier) → strip identifier ≠ ""

theorem looksLikeIp_of_dev {text : String} (member : 'D' ∈ text.toList) :
    looksLikeIp text = false := by
  have letter : isAlpha 'D' = true := by
    rw [UnicodeTables.isAlpha_ascii 'D' (by decide)]
    rfl
  have some : text.toList.any isAlpha = true := List.any_eq_true.mpr ⟨'D', member, letter⟩
  simp [looksLikeIp, some]

variable {registry identifier port}

theorem looksLikeIp_strip_dev (cleanId : String) : looksLikeIp (strip ("DEV-" ++ cleanId)) = false := by
  apply looksLikeIp_of_dev
  exact mem_strip_of_visible (by simp) (by decide)

theorem resolvesAgain_of_names (keys : OwnKeys registry) {entry : String × DeviceInfo}
    (names : NamesEntry registry (strip identifier) entry) :
    ResolvesAgain registry identifier port ↔ NamesEntry registry (strip entry.1) entry := by
  have first := resolveDevice_of_names keys names port
  have own : entry.2.sn = entry.1 := keys.own entry names.mem
  simp only [ResolvesAgain, first, DeviceInfo.withPort, own]
  constructor
  · rintro ⟨sameSn, -, -⟩
    rcases names_or_unregistered registry (strip entry.1) with ⟨other, again⟩ | unregistered
    · rw [resolveDevice_of_names keys again, DeviceInfo.withPort, keys.own other again.mem] at sameSn
      have same := keys.eq_of_key again.mem names.mem sameSn
      exact same ▸ again
    · -- The key itself is in the registry, so the last two rules cannot return it.
      rw [resolveDevice_of_unregistered unregistered, unregisteredDevice] at sameSn
      have stripped : strip entry.1 ≠ entry.1 := fun same => (unregistered entry names.mem).1 same.symm
      split at sameSn
      · rename_i device _
        have key : device.sn = entry.1 := sameSn
        rw [← key, strip_simulated_sn] at stripped
        exact absurd rfl stripped
      · split at sameSn
        · rename_i ipLike
          have key : "DEV-" ++ strip entry.1 = entry.1 := sameSn
          have letter := looksLikeIp_strip_dev (strip entry.1)
          rw [key, ipLike] at letter
          cases letter
        · exact absurd sameSn stripped
  · intro again
    rw [resolveDevice_of_names keys again, DeviceInfo.withPort, own]
    exact ⟨rfl, rfl, rfl⟩

theorem resolvesAgain_of_simulated (keys : OwnKeys registry)
    (unregistered : Unregistered registry (strip identifier)) {device : SimDevice}
    (listed : simulatedDevices.lookup (strip identifier) = some device) :
    ResolvesAgain registry identifier port ↔ ∀ entry, NamesEntry registry device.sn entry →
      entry.1 = device.sn ∧ entry.2.ip = device.ip ∧ entry.2.port.getD port = device.port := by
  have first : resolveDevice registry identifier port =
      ⟨device.sn, device.ip, device.port, device.name⟩ := by
    rw [resolveDevice_of_unregistered unregistered, unregisteredDevice, listed]
  simp only [ResolvesAgain, first]
  rcases names_or_unregistered registry device.sn with ⟨entry, names⟩ | free
  · have stripped : strip device.sn = device.sn := strip_simulated_sn device
    rw [← stripped] at names
    rw [resolveDevice_of_names keys names, DeviceInfo.withPort, keys.own entry names.mem]
    constructor
    · intro same other otherNames
      rw [← stripped] at otherNames
      rw [otherNames.unique keys names]
      exact same
    · intro agrees
      rw [stripped] at names
      exact agrees entry names
  · have second : resolveDevice registry device.sn port =
        ⟨device.sn, device.ip, device.port, device.name⟩ := by
      rw [resolveDevice_of_unregistered ((strip_simulated_sn device).symm ▸ free),
        strip_simulated_sn, unregisteredDevice]
      cases device <;> rfl
    rw [second]
    exact iff_of_true ⟨rfl, rfl, rfl⟩ fun entry names => absurd names free.not_names

theorem resolvesAgain_of_unlisted (keys : OwnKeys registry)
    (unregistered : Unregistered registry (strip identifier))
    (unlisted : simulatedDevices.lookup (strip identifier) = none) :
    ResolvesAgain registry identifier port ↔ looksLikeIp (strip identifier) = false := by
  have first : resolveDevice registry identifier port =
      if looksLikeIp (strip identifier) then
        ⟨"DEV-" ++ strip identifier, strip identifier, port, "Device " ++ strip identifier⟩
      else ⟨strip identifier, strip identifier, port, "Device " ++ strip identifier⟩ := by
    rw [resolveDevice_of_unregistered unregistered, unregisteredDevice, unlisted]
  cases ipLike : looksLikeIp (strip identifier) with
  | false =>
      rw [ipLike, if_neg Bool.false_ne_true] at first
      refine iff_of_true ?_ rfl
      have second : resolveDevice registry (strip identifier) port =
          resolveDevice registry identifier port := by
        have again : Unregistered registry (strip (strip identifier)) := by
          rw [strip_strip]
          exact unregistered
        rw [resolveDevice_of_unregistered again, resolveDevice_of_unregistered unregistered,
          strip_strip]
      simp only [ResolvesAgain, first, second, and_self]
  | true =>
      rw [ipLike, if_pos rfl] at first
      refine iff_of_false ?_ (by simp)
      simp only [ResolvesAgain, first]
      rintro ⟨-, sameIp, -⟩
      rcases names_or_unregistered registry (strip ("DEV-" ++ strip identifier)) with
        ⟨entry, names⟩ | free
      · rw [resolveDevice_of_names keys names] at sameIp
        exact (unregistered entry names.mem).2.2 sameIp
      · rw [resolveDevice_of_unregistered free, unregisteredDevice] at sameIp
        split at sameIp
        · rename_i device _
          have listed : simulatedDevices.lookup device.ip = some device := by
            cases device <;> rfl
          have key : device.ip = strip identifier := sameIp
          rw [key, unlisted] at listed
          cases listed
        · rw [if_neg (by simp [looksLikeIp_strip_dev])] at sameIp
          have host : strip ("DEV-" ++ strip identifier) = strip identifier := sameIp
          have letter := looksLikeIp_strip_dev (strip identifier)
          rw [host, ipLike] at letter
          cases letter

/-- The serial leads back to the reader exactly for the settled identifiers. -/
theorem resolvesAgain_iff (keys : OwnKeys registry) :
    ResolvesAgain registry identifier port ↔ Settled registry identifier port := by
  rcases names_or_unregistered registry (strip identifier) with ⟨entry, names⟩ | unregistered
  · rw [resolvesAgain_of_names keys names]
    constructor
    · intro again
      refine ⟨?_, fun free => absurd names free.not_names, fun free => absurd names free.not_names⟩
      intro other otherNames
      rw [otherNames.unique keys names]
      exact again
    · intro settled
      exact settled.named entry names
  · have unnamed : ∀ entry, ¬ NamesEntry registry (strip identifier) entry :=
      fun _ => unregistered.not_names
    cases listed : simulatedDevices.lookup (strip identifier) with
    | some device =>
        rw [resolvesAgain_of_simulated keys unregistered listed]
        constructor
        · intro agrees
          refine ⟨fun entry names => absurd names (unnamed entry), ?_, ?_⟩
          · intro _ other found
            cases found.symm.trans listed
            exact agrees
          · intro _ unlisted
            rw [listed] at unlisted
            cases unlisted
        · intro settled
          exact settled.simulated unregistered device listed
    | none =>
        rw [resolvesAgain_of_unlisted keys unregistered listed]
        constructor
        · intro host
          refine ⟨fun entry names => absurd names (unnamed entry), ?_, fun _ _ => host⟩
          intro _ device found
          rw [listed] at found
          cases found
        · intro settled
          exact settled.notIp unregistered listed

/-! ## The reader that is contacted -/

variable (registry identifier port)

/-- In every run with the identifier on one side, that side's connections lead to the reader
that the first resolution named. -/
def ContactsNamed : Prop :=
  ∀ (Net : Type) [Network Net] (hasPyzk : Bool) (run : MigrationRun) (faults : Faults String)
    (readers : Net), ∀ connection ∈
      (runMigrationReal hasPyzk registry run faults (ReaderSession.fresh readers)).2.world.opened,
      (run.sourceIp = identifier → run.sourcePort = port → connection.role = .source →
        connection.address = (resolveDevice registry identifier port).address) ∧
      (run.targetIp = identifier → run.targetPort = port → connection.role = .target →
        connection.address = (resolveDevice registry identifier port).address)

def secondAddress (default : SimDevice) : Address :=
  let sn := (resolveDevice registry identifier port).sn
  (resolveDevice registry (if sn = "" then default.sn else sn) port).address

theorem sourceAddress_run (run : MigrationRun) :
    (run.endpoints registry).srcConnection.address =
      secondAddress registry run.sourceIp run.sourcePort .source := by
  rw [secondAddress, ← srcIdentifier_request]
  rfl

theorem targetAddress_run (run : MigrationRun) :
    (run.endpoints registry).tgtConnection.address =
      secondAddress registry run.targetIp run.targetPort .target := by
  rw [secondAddress, ← tgtIdentifier_request]
  rfl

theorem contactsNamed_iff :
    ContactsNamed registry identifier port ↔ ∀ default,
      secondAddress registry identifier port default =
        (resolveDevice registry identifier port).address := by
  constructor
  · intro contacts default
    obtain ⟨run, same⟩ : ∃ run : MigrationRun, run =
        ⟨identifier, identifier, ["1"], port, port, "copy", none⟩ := ⟨_, rfl⟩
    have all := contacts (Address → Reader) true run failsAfterFive (sameReaders "1")
    rw [opened_run_same registry run (by rw [same])] at all
    cases default with
    | source =>
        have address := (all _ List.mem_cons_self).1 (by rw [same]) (by rw [same]) rfl
        rw [sourceAddress_run, same] at address
        exact address
    | target =>
        have address := (all _ (List.mem_cons_of_mem _ List.mem_cons_self)).2
          (by rw [same]) (by rw [same]) rfl
        rw [targetAddress_run, same] at address
        exact address
  · intro second Net _ hasPyzk run faults readers connection member
    have within := opened_runMigrationReal hasPyzk registry run faults readers connection member
    rcases List.mem_cons.mp within with rfl | within
    · refine ⟨?_, fun _ _ otherRole => by cases otherRole⟩
      rintro rfl rfl _
      exact (sourceAddress_run registry _).trans (second .source)
    · rw [List.mem_singleton.mp within]
      refine ⟨fun _ _ otherRole => (by cases otherRole), ?_⟩
      rintro rfl rfl _
      exact (targetAddress_run registry _).trans (second .target)

variable {registry identifier port}

theorem defaultsAt_iff (keys : OwnKeys registry) {address : Address} :
    DefaultsAt registry port address ↔
      ∀ default : SimDevice, (resolveDevice registry default.sn port).address = address := by
  refine forall_congr' fun default => ?_
  have stripped : strip default.sn = default.sn := strip_simulated_sn default
  rcases names_or_unregistered registry default.sn with ⟨entry, names⟩ | free
  · have namesStripped : NamesEntry registry (strip default.sn) entry := by
      rw [stripped]
      exact names
    rw [resolveDevice_of_names keys namesStripped]
    constructor
    · rintro ⟨named, -⟩
      exact named entry names
    · intro same
      refine ⟨fun other otherNames => ?_, fun free => absurd names free.not_names⟩
      rw [← stripped] at otherNames
      rw [otherNames.unique keys namesStripped]
      exact same
  · have freeStripped : Unregistered registry (strip default.sn) := by
      rw [stripped]
      exact free
    have found : unregisteredDevice default.sn port =
        ⟨default.sn, default.ip, default.port, default.name⟩ := by
      cases default <;> rfl
    rw [resolveDevice_of_unregistered freeStripped, stripped, found]
    constructor
    · rintro ⟨-, unnamed⟩
      exact unnamed free
    · intro same
      exact ⟨fun entry names => absurd names free.not_names, fun _ => same⟩

theorem unregisteredDevice_empty :
    unregisteredDevice "" port = ⟨"", "", port, "Device "⟩ := rfl

theorem eq_empty_of_unregistered {cleanId : String}
    (blank : (unregisteredDevice cleanId port).sn = "") : cleanId = "" := by
  unfold unregisteredDevice at blank
  split at blank
  · rename_i device _
    cases device <;> exact absurd blank (by decide)
  · split at blank
    · have letters := congrArg String.toList blank
      simp at letters
    · exact blank

theorem not_defaultsAt_empty (free : Unregistered registry "") :
    ¬ DefaultsAt registry port ⟨"", port⟩ := by
  intro defaults
  obtain ⟨named, unnamed⟩ := defaults .source
  rcases names_or_unregistered registry SimDevice.source.sn with ⟨entry, names⟩ | unregistered
  · have empty : entry.2.ip = "" := congrArg Address.ip (named entry names)
    exact (free entry names.mem).2.2 empty
  · have empty : SimDevice.source.ip = "" := congrArg Address.ip (unnamed unregistered)
    exact absurd empty (by decide)

theorem secondAddress_iff (keys : OwnKeys registry)
    (again : ResolvesAgain registry identifier port) :
    (∀ default, secondAddress registry identifier port default =
      (resolveDevice registry identifier port).address) ↔
      PassedOn registry identifier port := by
  by_cases blank : (resolveDevice registry identifier port).sn = ""
  · simp only [secondAddress, blank, if_true]
    rw [← defaultsAt_iff keys]
    rcases names_or_unregistered registry (strip identifier) with ⟨entry, names⟩ | free
    · have first := resolveDevice_of_names keys names port
      have own : entry.1 = "" := by
        rw [first, DeviceInfo.withPort, keys.own entry names.mem] at blank
        exact blank
      rw [first]
      constructor
      · intro defaults
        refine ⟨?_, fun free => absurd names free.not_names⟩
        intro other otherNames _
        rw [otherNames.unique keys names]
        exact defaults
      · intro passed
        exact passed.named entry names own
    · have empty : strip identifier = "" := by
        rw [resolveDevice_of_unregistered free] at blank
        exact eq_empty_of_unregistered blank
      rw [resolveDevice_of_unregistered free, empty, unregisteredDevice_empty]
      refine iff_of_false (not_defaultsAt_empty (empty ▸ free)) ?_
      intro passed
      exact passed.unnamed free empty
  · refine iff_of_true ?_ ?_
    · intro default
      simp only [secondAddress, blank, if_false]
      exact congrArg₂ Address.mk again.2.1 again.2.2
    · refine ⟨?_, ?_⟩
      · intro entry names empty
        rw [resolveDevice_of_names keys names, DeviceInfo.withPort, keys.own entry names.mem] at blank
        exact absurd empty blank
      · intro free empty
        rw [resolveDevice_of_unregistered free, empty] at blank
        exact blank rfl

theorem settled_of_registered
    (plain : ∀ entry ∈ registry, strip entry.1 = entry.1 ∧ entry.1 ≠ "")
    (registered : ¬ Unregistered registry (strip identifier)) :
    Settled registry identifier port ∧ PassedOn registry identifier port := by
  have again : ∀ entry, NamesEntry registry (strip identifier) entry →
      NamesEntry registry (strip entry.1) entry := by
    intro entry names
    rw [(plain entry names.mem).1]
    exact .serial names.mem rfl
  refine ⟨⟨again, fun free => absurd free registered, fun free => absurd free registered⟩, ?_, ?_⟩
  · intro entry names empty
    exact absurd empty (plain entry names.mem).2
  · intro free
    exact absurd free registered

/-- Resolving is stable, and every run contacts the readers that it named first, exactly
for the settled identifiers whose serial is passed on. -/
theorem resolving_stable_iff (keys : OwnKeys registry) (identifier : String) (port : Int) :
    (ResolvesAgain registry identifier port ∧ ContactsNamed registry identifier port) ↔
      Settled registry identifier port ∧ PassedOn registry identifier port := by
  rw [contactsNamed_iff, ← resolvesAgain_iff keys]
  constructor
  · rintro ⟨again, second⟩
    exact ⟨again, (secondAddress_iff keys again).mp second⟩
  · rintro ⟨again, passed⟩
    exact ⟨again, (secondAddress_iff keys again).mpr passed⟩

end

theorem ownKeys_defaultRegistry : OwnKeys defaultRegistry := ⟨by decide, by decide⟩

theorem resolving_stable_registered_address :
    let := UnicodeTables.ascii
    ResolvesAgain defaultRegistry "192.168.0.210" 4370 ∧
      ContactsNamed defaultRegistry "192.168.0.210" 4370 := by
  intro _
  apply (resolving_stable_iff ownKeys_defaultRegistry "192.168.0.210" 4370).mpr
  apply settled_of_registered
  · decide +kernel
  · intro free
    have first := free _ List.mem_cons_self
    exact first.2.2 (by decide +kernel)

/-- An address that is not registered leads to a host named after it. -/
theorem unregistered_address_not_stable :
    let := UnicodeTables.ascii
    OwnKeys defaultRegistry ∧ ¬ ResolvesAgain defaultRegistry "10.0.0.9" 4370 ∧
      ¬ ContactsNamed defaultRegistry "10.0.0.9" 4370 := by
  intro _
  refine ⟨ownKeys_defaultRegistry, ?_, ?_⟩
  · unfold ResolvesAgain
    decide +kernel
  · rw [contactsNamed_iff]
    intro same
    exact absurd (same .source) (by decide +kernel)

end PumoBioMetric.Core
