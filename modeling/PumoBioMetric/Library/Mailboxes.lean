import Mathlib.Logic.Function.Basic
import PumoBioMetric.Library.TransitionRun

/-!
# First-in first-out mailboxes

Items are put into boxes under a key and taken out again, the oldest first.  In every
run and for every key, what was there and what was put is what was taken followed by
what is left.
-/

set_option autoImplicit false

namespace Mailboxes

open TransitionRun

universe u v

variable {Key : Type u} {Item : Type v}

/-- What happened at a box: an item came, the oldest item left, or nobody was there. -/
inductive Entry (Key : Type u) (Item : Type v) where
  | put (key : Key) (item : Item)
  | got (key : Key) (item : Item)
  | nothing (key : Key)

variable [DecidableEq Key]

inductive Step (boxes : Key → List Item) : Entry Key Item → (Key → List Item) → Prop where
  | put (key : Key) (item : Item) :
      Step boxes (.put key item) (Function.update boxes key (boxes key ++ [item]))
  | got (key : Key) (item : Item) (rest : List Item) (oldest : boxes key = item :: rest) :
      Step boxes (.got key item) (Function.update boxes key rest)
  | nothing (key : Key) (empty : boxes key = []) : Step boxes (.nothing key) boxes

def Entry.putFor (key : Key) : Entry Key Item → Option Item
  | .put box item => if box = key then some item else none
  | .got _ _ => none
  | .nothing _ => none

def Entry.gotFor (key : Key) : Entry Key Item → Option Item
  | .put _ _ => none
  | .got box item => if box = key then some item else none
  | .nothing _ => none

theorem Step.balanced {before after : Key → List Item} {entry : Entry Key Item}
    (step : Step before entry after) (key : Key) :
    before key ++ (entry.putFor key).toList = (entry.gotFor key).toList ++ after key := by
  cases step with
  | put box item =>
      by_cases same : box = key
      · subst same
        simp [Entry.putFor, Entry.gotFor]
      · simp [Entry.putFor, Entry.gotFor, same, Function.update_of_ne (Ne.symm same)]
  | got box item rest oldest =>
      by_cases same : box = key
      · subst same
        simp [Entry.putFor, Entry.gotFor, oldest]
      · simp [Entry.putFor, Entry.gotFor, same, Function.update_of_ne (Ne.symm same)]
  | nothing box empty => simp [Entry.putFor, Entry.gotFor]

theorem balanced {first final : Key → List Item} {log : List (Entry Key Item)}
    (run : Run Step first log final) (key : Key) :
    first key ++ log.filterMap (Entry.putFor key) =
      log.filterMap (Entry.gotFor key) ++ final key := by
  induction run with
  | nil boxes => simp
  | @cons first middle final entry rest step _ ih =>
      have puts : (entry :: rest).filterMap (Entry.putFor key) =
          (entry.putFor key).toList ++ rest.filterMap (Entry.putFor key) := by
        cases putHere : entry.putFor key <;> simp [putHere]
      have gots : (entry :: rest).filterMap (Entry.gotFor key) =
          (entry.gotFor key).toList ++ rest.filterMap (Entry.gotFor key) := by
        cases gotHere : entry.gotFor key <;> simp [gotHere]
      rw [puts, gots, ← List.append_assoc, step.balanced key, List.append_assoc, ih,
        List.append_assoc]

end Mailboxes
