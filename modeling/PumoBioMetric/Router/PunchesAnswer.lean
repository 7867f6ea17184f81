import PumoBioMetric.Router.PunchHistory

/-!
# `GET /api/punches`

The answer of `get_punches` for any number of days, at any time after a series of broadcasts.
-/

set_option autoImplicit false

namespace PumoBioMetric.Router

open Py

structure PunchesAnswer where
  count : Nat
  days : Int
  data : List PunchRecord
deriving DecidableEq, Repr

section

variable [IsoFormat]

/-- `get_punches`; `none` is its `TypeError`. -/
def getPunches (now days : Int) (logs : List PunchRecord) : Option PunchesAnswer :=
  let window := min (max days 1) historyDays
  (keepRecent (now - window * microsPerDay) logs).map fun rows => ⟨rows.length, window, rows⟩

/-- The timestamp, where it is read, is of that many days before now, or later. -/
def WithinDays (window now : Int) (timestamp : String) : Prop :=
  ∀ time, readTimestamp timestamp = some (.naive time) → now - window * microsPerDay ≤ time.micros

/-- The rows are the announced ones of the window, each once and the newest first. -/
def Shows (window now : Int) (announced rows : List PunchRecord) : Prop :=
  ∃ kept : List (Nat × PunchRecord), kept.map Prod.snd = rows ∧ kept.Nodup ∧
    (∀ number row, (number, row) ∈ kept ↔
      announced[number]? = some row ∧ WithinDays window now row.timestamp) ∧
    kept.Pairwise Newer

theorem isRecent_iff_withinDays (window now : Int) (punch : PunchRecord) :
    isRecent (now - window * microsPerDay) punch = true ↔
      WithinDays window now punch.timestamp := by
  have same : logTimestamp punch = readTimestamp punch.timestamp := rfl
  rw [isRecent, WithinDays, same]
  cases readTimestamp punch.timestamp with
  | none => simp
  | some stamp =>
      cases stamp with
      | naive time => simp
      | aware => simp

theorem WithinDays.inWindow {window before now : Int} {timestamp : String}
    (short : window ≤ historyDays) (later : before ≤ now)
    (within : WithinDays window now timestamp) : InWindow before timestamp := by
  intro time read
  have young := within time read
  have days : max 1 historyDays = historyDays := by decide
  rw [days]
  have size : 0 < microsPerDay := by decide
  have shorter : window * microsPerDay ≤ historyDays * microsPerDay :=
    Int.mul_le_mul_of_nonneg_right short (Int.le_of_lt size)
  omega

theorem RankedLog.shows {before now window : Int} {announced logs : List PunchRecord}
    (log : RankedLog before announced logs) (short : window ≤ historyDays) (later : before ≤ now)
    (past : max 1 historyDays * microsPerDay < now)
    (naive : ∀ row ∈ announced, ¬ ReadsAware row.timestamp) :
    Shows window now announced (logs.filter (isRecent (now - window * microsPerDay))) := by
  obtain ⟨kept, rfl, members, ranked⟩ := log
  have shown : ∀ number row,
      (number, row) ∈ kept.filter (fun pair => isRecent (now - window * microsPerDay) pair.2) ↔
        announced[number]? = some row ∧ WithinDays window now row.timestamp := by
    intro number row
    rw [List.mem_filter, isRecent_iff_withinDays, members, and_assoc]
    exact and_congr_right fun _ => and_iff_right_of_imp fun within => within.inWindow short later
  have newest : (kept.filter fun pair => isRecent (now - window * microsPerDay) pair.2).Pairwise
      Newer := by
    refine (ranked.filter _).imp_of_mem fun {first second} firstKept secondKept ahead => ?_
    obtain ⟨firstRow, _⟩ := (shown first.1 first.2).mp firstKept
    obtain ⟨secondRow, secondWithin⟩ := (shown second.1 second.2).mp secondKept
    exact ahead.newer past (naive _ (List.mem_of_getElem? firstRow))
      (naive _ (List.mem_of_getElem? secondRow)) (secondWithin.inWindow short (Int.le_refl now))
  refine ⟨_, by rw [List.filter_map]; rfl, newest.imp Newer.ne, shown, newest⟩

/-- At any time after any broadcasts into an empty log, and for any number of days, the answer is
the announced rows of the days that are asked for, at least one and at most thirty, the newest
first. -/
theorem getPunches_shows (dashboard : Dashboard) (empty : dashboard.logs = [])
    (calls : List BroadcastCall) (naive : ∀ call ∈ calls, ¬ ReadsAware call.punch.timestamp)
    (ordered : calls.Pairwise fun earlier later => earlier.now ≤ later.now) (now days : Int)
    (reached : ∀ call ∈ calls, call.now ≤ now) (past : max 1 historyDays * microsPerDay < now) :
    List.Forall₂ (fun call row => ∃ info, row = labelled info call.punch) calls
        (broadcastAll dashboard calls).1 ∧
      ∃ answer, getPunches now days (broadcastAll dashboard calls).2.logs = some answer ∧
        answer.count = answer.data.length ∧ answer.days = min (max days 1) historyDays ∧
        Shows answer.days now (broadcastAll dashboard calls).1 answer.data := by
  obtain ⟨before, later, told⟩ := told_all dashboard empty calls naive ordered now reached
  refine ⟨told.rows, ?_⟩
  have short : min (max days 1) historyDays ≤ historyDays := Int.min_le_right _ _
  cases kept : keepRecent (now - min (max days 1) historyDays * microsPerDay)
      (broadcastAll dashboard calls).2.logs with
  | none => exact absurd ((keepRecent_eq_none_iff _ _).mp kept) told.clean
  | some rows =>
      refine ⟨⟨rows.length, min (max days 1) historyDays, rows⟩, ?_, rfl, rfl, ?_⟩
      · rw [getPunches, kept]
        rfl
      · rw [keepRecent_eq_filter kept]
        exact told.log.shows short later past told.naive

end

theorem getPunches_shows_ten_days_later :
    let calls := [noonCall "a" "2026-08-15 09:00:00", noonCall "b" "when"]
    let later : Int := 63922392000000000 + 10 * microsPerDay
    ∃ answer, @getPunches .extended later 20
        (@broadcastAll .extended ⟨[], some [], []⟩ calls).2.logs = some answer ∧
      @Shows .extended 20 later (@broadcastAll .extended ⟨[], some [], []⟩ calls).1
        answer.data := by
  let := IsoFormat.extended
  intro calls later
  have naive : ∀ call ∈ calls, ¬ ReadsAware call.punch.timestamp := by
    have checked : calls.all fun call =>
        (readTimestamp call.punch.timestamp).all fun stamp => !stamp.isAware := by
      decide +kernel
    intro call member
    exact not_readsAware_of_all (List.all_eq_true.mp checked call member)
  obtain ⟨_, answer, asked, _, days, shows⟩ :=
    getPunches_shows ⟨[], some [], []⟩ rfl calls naive (by decide +kernel) later 20
      (by decide +kernel) (by decide +kernel)
  rw [days] at shows
  exact ⟨answer, asked, shows⟩

end PumoBioMetric.Router
