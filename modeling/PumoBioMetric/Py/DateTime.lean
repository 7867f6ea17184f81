import Mathlib.Data.Int.Order.Basic

/-!
# Naive and offset-aware date-times

A naive date-time carries the proof that its fields are in range, so what the
`datetime` constructor rejects cannot be built.  Naive values are ordered by
their microseconds since 0001-01-01, which is the order Python compares fields
in.  An aware and a naive value cannot be compared at all.
-/

set_option autoImplicit false

namespace PumoBioMetric.Py

def isLeap (year : Nat) : Bool :=
  year % 4 == 0 && (year % 100 != 0 || year % 400 == 0)

def daysInMonth (year month : Nat) : Nat :=
  if month = 2 then (if isLeap year then 29 else 28)
  else if month = 4 ∨ month = 6 ∨ month = 9 ∨ month = 11 then 30 else 31

def validDateTime (year month day hour minute second microsecond : Nat) : Prop :=
  (1 ≤ year ∧ year ≤ 9999) ∧ (1 ≤ month ∧ month ≤ 12) ∧
    (1 ≤ day ∧ day ≤ daysInMonth year month) ∧
    hour < 24 ∧ minute < 60 ∧ second < 60 ∧ microsecond < 1000000

instance (year month day hour minute second microsecond : Nat) :
    Decidable (validDateTime year month day hour minute second microsecond) := by
  unfold validDateTime
  infer_instance

structure Naive where
  year : Nat
  month : Nat
  day : Nat
  hour : Nat
  minute : Nat
  second : Nat
  microsecond : Nat
  valid : validDateTime year month day hour minute second microsecond
  deriving DecidableEq

/-- `datetime(year, month, ...)`; `none` is `ValueError`. -/
def Naive.new? (year month day hour minute second microsecond : Nat) : Option Naive :=
  if valid : validDateTime year month day hour minute second microsecond then
    some ⟨year, month, day, hour, minute, second, microsecond, valid⟩
  else none

def daysBeforeYear (year : Nat) : Nat :=
  (year - 1) * 365 + (year - 1) / 4 - (year - 1) / 100 + (year - 1) / 400

def daysBeforeMonth (year : Nat) : Nat → Nat
  | 0 => 0
  | month + 1 => daysBeforeMonth year month + (if month = 0 then 0 else daysInMonth year month)

/-- Microseconds since midnight of 0001-01-01. -/
def Naive.micros (time : Naive) : Int :=
  let days := daysBeforeYear time.year + daysBeforeMonth time.year time.month + time.day - 1
  ((((days * 24 + time.hour) * 60 + time.minute) * 60 + time.second) * 1000000 +
    time.microsecond : Nat)

def microsPerDay : Int := 24 * 60 * 60 * 1000000

/-- What `datetime.fromisoformat` can return. -/
inductive Stamp where
  | naive (time : Naive)
  | aware (time : Naive) (offsetMicros : Int)
  deriving DecidableEq

def Stamp.isAware : Stamp → Bool
  | .naive _ => false
  | .aware _ _ => true

/-- `stamp >= cutoff` for a naive `cutoff`; `none` is the `TypeError` of comparing
an aware with a naive date-time. -/
def Stamp.atLeast? (stamp : Stamp) (cutoffMicros : Int) : Option Bool :=
  match stamp with
  | .naive time => some (decide (cutoffMicros ≤ time.micros))
  | .aware _ _ => none

theorem Stamp.atLeast?_eq_none_iff (stamp : Stamp) (cutoffMicros : Int) :
    stamp.atLeast? cutoffMicros = none ↔ stamp.isAware = true := by
  cases stamp <;> simp [Stamp.atLeast?, Stamp.isAware]

theorem Stamp.exists_atLeast? (stamp : Stamp) (naive : stamp.isAware = false)
    (cutoffMicros : Int) : ∃ recent, stamp.atLeast? cutoffMicros = some recent := by
  cases stamp with
  | naive time => exact ⟨_, rfl⟩
  | aware => cases naive

end PumoBioMetric.Py
