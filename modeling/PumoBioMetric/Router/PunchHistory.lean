import PumoBioMetric.Router.PunchLog

/-!
# The punch log after a series of broadcasts

Each broadcast puts its row in front, drops what has left the window and sorts again.  Rows
are numbered in the order of their broadcast, so that the order among equal timestamps can be
stated: the log is sorted by timestamp and then by number, the latest first.
-/

set_option autoImplicit false

namespace PumoBioMetric.Router

open Py

section

variable [IsoFormat]

structure BroadcastCall where
  lms : LmsNames
  now : Int
  writable : Bool
  punch : PunchRecord

/-- One more broadcast, with the rows that were announced so far. -/
def announce (state : List PunchRecord × Dashboard) (call : BroadcastCall) :
    List PunchRecord × Dashboard :=
  let told := broadcastPunch call.lms call.now call.writable state.2 call.punch
  (state.1 ++ told.1.toList, told.2)

def broadcastAll (dashboard : Dashboard) (calls : List BroadcastCall) :
    List PunchRecord × Dashboard :=
  calls.foldl announce ([], dashboard)

/-- The first of two numbered rows comes first in the log: it has the newer timestamp, or the
same or neither has one and it was broadcast later. -/
def Newer (first second : Nat × PunchRecord) : Prop :=
  match logTimestamp first.2, logTimestamp second.2 with
  | some (.naive left), some (.naive right) =>
      right.micros < left.micros ∨ right.micros = left.micros ∧ second.1 < first.1
  | some _, none => True
  | none, none => second.1 < first.1
  | _, _ => False

/-- The log is the announced rows that are in the window, each once and the newest first. -/
def History (now : Int) (announced logs : List PunchRecord) : Prop :=
  ∃ kept : List (Nat × PunchRecord), kept.map Prod.snd = logs ∧ kept.Nodup ∧
    (∀ number row, (number, row) ∈ kept ↔
      announced[number]? = some row ∧ InWindow now row.timestamp) ∧
    kept.Pairwise Newer

/-! ## Pruning a sorted log -/

def isRecent (cutoff : Int) (punch : PunchRecord) : Bool :=
  match logTimestamp punch with
  | some (.naive time) => cutoff ≤ time.micros
  | _ => true

theorem isRecent_iff (now : Int) (punch : PunchRecord) :
    isRecent (now - max 1 historyDays * microsPerDay) punch = true ↔
      InWindow now punch.timestamp := by
  have same : logTimestamp punch = readTimestamp punch.timestamp := rfl
  rw [isRecent, InWindow, same]
  cases readTimestamp punch.timestamp with
  | none => simp
  | some stamp =>
      cases stamp with
      | naive time => simp
      | aware => simp

theorem keepRecent_eq_filter {cutoff : Int} {logs kept : List PunchRecord}
    (pruned : keepRecent cutoff logs = some kept) : kept = logs.filter (isRecent cutoff) := by
  induction logs generalizing kept with
  | nil => exact (Option.some.inj pruned).symm
  | cons punch rest ih =>
      rw [keepRecent] at pruned
      rw [List.filter_cons, isRecent]
      cases read : logTimestamp punch with
      | none =>
          rw [read] at pruned
          obtain ⟨left, keptRest, rfl⟩ := Option.map_eq_some_iff.mp pruned
          simp [ih keptRest]
      | some stamp =>
          rw [read] at pruned
          obtain ⟨recent, compared, onward⟩ := Option.bind_eq_some_iff.mp pruned
          obtain ⟨left, keptRest, rfl⟩ := Option.map_eq_some_iff.mp onward
          cases stamp with
          | aware => cases compared
          | naive time =>
              cases Option.some.inj compared
              simp [ih keptRest]

def Descending (logs : List PunchRecord) : Prop :=
  logs.Pairwise fun left right => sortKey right ≤ sortKey left

/-- Without an aware timestamp pruning filters the log and sorts it. -/
theorem prune_eq {now : Int} {logs : List PunchRecord} (clean : ¬ Poisoned logs) :
    prunePunchLogs now logs =
      some ((logs.filter (isRecent (now - max 1 historyDays * microsPerDay))).mergeSort
        fun left right => sortKey right ≤ sortKey left) := by
  cases pruned : keepRecent (now - max 1 historyDays * microsPerDay) logs with
  | none => exact absurd ((keepRecent_eq_none_iff _ logs).mp pruned) clean
  | some kept => rw [prunePunchLogs, pruned, Option.map_some, keepRecent_eq_filter pruned]

theorem mergeSort_sorted_cons {logs : List PunchRecord} (sorted : Descending logs)
    (row : PunchRecord) :
    ∃ newer older, logs = newer ++ older ∧
      (row :: logs).mergeSort (fun left right => sortKey right ≤ sortKey left) =
        newer ++ row :: older ∧
      (∀ other ∈ newer, sortKey row < sortKey other) ∧
      ∀ other ∈ older, sortKey other ≤ sortKey row := by
  have trans : ∀ first second third : PunchRecord,
      decide (sortKey second ≤ sortKey first) = true →
        decide (sortKey third ≤ sortKey second) = true →
          decide (sortKey third ≤ sortKey first) = true := by
    intro first second third left right
    rw [decide_eq_true_eq] at left right ⊢
    omega
  have total : ∀ first second : PunchRecord,
      (decide (sortKey second ≤ sortKey first) || decide (sortKey first ≤ sortKey second)) =
        true := by
    intro first second
    rw [Bool.or_eq_true, decide_eq_true_eq, decide_eq_true_eq]
    omega
  obtain ⟨newer, older, inserted, whole, above⟩ := List.mergeSort_cons trans total row logs
  have unchanged : logs.mergeSort (fun left right => sortKey right ≤ sortKey left) = logs :=
    List.mergeSort_of_pairwise (sorted.imp fun held => by rwa [decide_eq_true_eq])
  have ordered := List.pairwise_mergeSort trans total (row :: logs)
  rw [inserted] at ordered
  refine ⟨newer, older, unchanged.symm.trans whole, inserted, ?_, ?_⟩
  · intro other member
    have strict := above other member
    simp only [Bool.not_eq_true', decide_eq_false_iff_not] at strict
    omega
  · intro other member
    have after := (List.pairwise_cons.mp (List.pairwise_append.mp ordered).2.1).1 other member
    rwa [decide_eq_true_eq] at after

/-! ## One broadcast more -/

/-- Sorted as the sort sees it, equal keys by the number of the broadcast. -/
def Ranked (first second : Nat × PunchRecord) : Prop :=
  sortKey second.2 < sortKey first.2 ∨
    sortKey second.2 = sortKey first.2 ∧ second.1 < first.1

def RankedLog (now : Int) (announced logs : List PunchRecord) : Prop :=
  ∃ kept : List (Nat × PunchRecord), kept.map Prod.snd = logs ∧
    (∀ number row, (number, row) ∈ kept ↔
      announced[number]? = some row ∧ InWindow now row.timestamp) ∧
    kept.Pairwise Ranked

theorem Ranked.descending {kept : List (Nat × PunchRecord)} (ranked : kept.Pairwise Ranked) :
    Descending (kept.map Prod.snd) := by
  rw [Descending, List.pairwise_map]
  refine ranked.imp fun before => ?_
  rcases before with newer | ⟨same, _⟩
  · exact Int.le_of_lt newer
  · exact Int.le_of_eq same

omit [IsoFormat] in
theorem getElem?_concat_eq_some_iff (announced : List PunchRecord) (row other : PunchRecord)
    (number : Nat) :
    (announced ++ [row])[number]? = some other ↔
      announced[number]? = some other ∨ number = announced.length ∧ other = row := by
  rcases Nat.lt_trichotomy number announced.length with known | last | beyond
  · rw [List.getElem?_append_left known]
    exact (or_iff_left fun same => Nat.ne_of_lt known same.1).symm
  · rw [last, List.getElem?_concat_length, List.getElem?_eq_none (Nat.le_refl _)]
    simp [eq_comm]
  · rw [List.getElem?_eq_none (by rw [List.length_append, List.length_singleton]; omega),
      List.getElem?_eq_none (by omega)]
    simp only [reduceCtorEq, false_or, false_iff, not_and]
    omega

theorem RankedLog.filter {before now : Int} {announced logs : List PunchRecord}
    (later : before ≤ now) (log : RankedLog before announced logs) :
    RankedLog now announced
      (logs.filter (isRecent (now - max 1 historyDays * microsPerDay))) := by
  obtain ⟨kept, rfl, members, ranked⟩ := log
  refine ⟨kept.filter fun pair => isRecent (now - max 1 historyDays * microsPerDay) pair.2,
    by rw [List.filter_map]; rfl, ?_, ranked.filter _⟩
  intro number row
  rw [List.mem_filter, isRecent_iff, members, and_assoc]
  refine and_congr_right fun _ => and_iff_right_of_imp fun inside time read => ?_
  have young := inside time read
  omega

/-- The new row gets the next number and goes in front of the rows with its timestamp. -/
theorem RankedLog.insert {now : Int} {announced logs : List PunchRecord}
    (log : RankedLog now announced logs) {row : PunchRecord}
    (inside : InWindow now row.timestamp) :
    RankedLog now (announced ++ [row])
      ((row :: logs).mergeSort fun left right => sortKey right ≤ sortKey left) := by
  obtain ⟨kept, rfl, members, ranked⟩ := log
  obtain ⟨newer, older, parts, sorted, above, below⟩ :=
    mergeSort_sorted_cons (Ranked.descending ranked) row
  obtain ⟨front, back, rfl, rfl, rfl⟩ := List.map_eq_append_iff.mp parts
  have earlier : ∀ pair ∈ front ++ back, pair.1 < announced.length := by
    intro pair member
    exact (List.getElem?_eq_some_iff.mp ((members pair.1 pair.2).mp member).1).1
  refine ⟨front ++ (announced.length, row) :: back, ?_, ?_, ?_⟩
  · rw [sorted, List.map_append, List.map_cons]
  · intro number other
    have split : (number, other) ∈ front ++ (announced.length, row) :: back ↔
        (number, other) ∈ front ++ back ∨ number = announced.length ∧ other = row := by
      simp only [List.mem_append, List.mem_cons, Prod.mk.injEq]
      tauto
    rw [split, members, getElem?_concat_eq_some_iff, or_and_right]
    refine or_congr_right ⟨fun ⟨last, same⟩ => ⟨⟨last, same⟩, same ▸ inside⟩, And.left⟩
  · obtain ⟨frontRanked, backRanked, across⟩ := List.pairwise_append.mp ranked
    refine List.pairwise_append.mpr ⟨frontRanked, List.pairwise_cons.mpr ⟨?_, backRanked⟩, ?_⟩
    · intro pair member
      have key := below pair.2 (List.mem_map_of_mem member)
      have number := earlier pair (List.mem_append_right _ member)
      rcases Int.lt_or_eq_of_le key with less | same
      · exact Or.inl less
      · exact Or.inr ⟨same, number⟩
    · intro pair member other listed
      rcases List.mem_cons.mp listed with rfl | behind
      · exact Or.inl (above pair.2 (List.mem_map_of_mem member))
      · exact across pair member other behind

theorem RankedLog.pass {now : Int} {announced logs : List PunchRecord}
    (log : RankedLog now announced logs) {row : PunchRecord}
    (outside : ¬ InWindow now row.timestamp) : RankedLog now (announced ++ [row]) logs := by
  obtain ⟨kept, parts, members, ranked⟩ := log
  refine ⟨kept, parts, fun number other => ?_, ranked⟩
  rw [members, getElem?_concat_eq_some_iff, or_and_right]
  exact (or_iff_left fun ⟨⟨_, same⟩, inside⟩ => outside (same ▸ inside)).symm

theorem RankedLog.prune {before now : Int} {announced logs pruned : List PunchRecord}
    {row : PunchRecord} (later : before ≤ now) (log : RankedLog before announced logs)
    (clean : ¬ Poisoned (row :: logs)) (kept : prunePunchLogs now (row :: logs) = some pruned) :
    RankedLog now (announced ++ [row]) pruned := by
  rw [prune_eq clean] at kept
  cases Option.some.inj kept
  have onward := log.filter later
  by_cases inside : isRecent (now - max 1 historyDays * microsPerDay) row = true
  · rw [List.filter_cons_of_pos inside]
    exact onward.insert ((isRecent_iff now row).mp inside)
  · have stays := onward.pass fun held => inside ((isRecent_iff now row).mpr held)
    rw [List.filter_cons_of_neg inside]
    obtain ⟨tagged, parts, _, ranked⟩ := onward
    rw [← parts] at stays ⊢
    rwa [List.mergeSort_of_pairwise
      ((Ranked.descending ranked).imp fun held => by rwa [decide_eq_true_eq])]

/-- What holds after the broadcasts so far. -/
structure Told (now : Int) (calls : List BroadcastCall)
    (state : List PunchRecord × Dashboard) : Prop where
  rows : List.Forall₂ (fun call row => ∃ info, row = labelled info call.punch) calls state.1
  naive : ∀ row ∈ state.1, ¬ ReadsAware row.timestamp
  clean : ¬ Poisoned state.2.logs
  log : RankedLog now state.1 state.2.logs

theorem broadcast_announces (lms : LmsNames) (now : Int) (writable : Bool) (dashboard : Dashboard)
    (punch : PunchRecord) (naive : ¬ ReadsAware punch.timestamp)
    (clean : ¬ Poisoned dashboard.logs) :
    ∃ info, (broadcastPunch lms now writable dashboard punch).1 = some (labelled info punch) ∧
      ¬ Poisoned (labelled info punch :: dashboard.logs) ∧
      prunePunchLogs now (labelled info punch :: dashboard.logs) =
        some (broadcastPunch lms now writable dashboard punch).2.logs := by
  unfold broadcastPunch
  generalize getUserInfo lms dashboard.cache (strip punch.userId) = known
  obtain ⟨info, cache⟩ := known
  have both : ¬ Poisoned (labelled info punch :: dashboard.logs) := by
    rw [poisoned_cons_iff]
    exact not_or.mpr ⟨naive, clean⟩
  dsimp only
  cases pruned : prunePunchLogs now (labelled info punch :: dashboard.logs) with
  | none => exact absurd ((prune_eq_none_iff _ _).mp pruned) both
  | some logs => exact ⟨info, rfl, both, pruned⟩

theorem Told.step {before : Int} {calls : List BroadcastCall}
    {state : List PunchRecord × Dashboard} (told : Told before calls state) (call : BroadcastCall)
    (naive : ¬ ReadsAware call.punch.timestamp) (later : before ≤ call.now) :
    Told call.now (calls ++ [call]) (announce state call) := by
  obtain ⟨info, announced, clean, pruned⟩ :=
    broadcast_announces call.lms call.now call.writable state.2 call.punch naive told.clean
  have rows : (announce state call).1 = state.1 ++ [labelled info call.punch] := by
    rw [announce, announced, Option.toList_some]
  constructor
  · rw [rows]
    exact List.rel_append told.rows (.cons ⟨info, rfl⟩ .nil)
  · rw [rows]
    intro row member
    rcases List.mem_append.mp member with before | same
    · exact told.naive row before
    · rw [List.mem_singleton.mp same]
      exact naive
  · exact not_poisoned_of_prune pruned
  · rw [rows]
    exact told.log.prune later clean pruned

theorem told_nothing (now : Int) (dashboard : Dashboard) (empty : dashboard.logs = []) :
    Told now [] ([], dashboard) where
  rows := .nil
  naive := by
    intro row member
    cases member
  clean := by
    rintro ⟨row, member, _⟩
    rw [empty] at member
    cases member
  log := ⟨[], empty.symm, fun _ _ => by simp, .nil⟩

/-- The history after any number of broadcasts, seen from the last of them. -/
theorem told_all (dashboard : Dashboard) (empty : dashboard.logs = [])
    (calls : List BroadcastCall) (naive : ∀ call ∈ calls, ¬ ReadsAware call.punch.timestamp)
    (ordered : calls.Pairwise fun earlier later => earlier.now ≤ later.now) (now : Int)
    (reached : ∀ call ∈ calls, call.now ≤ now) :
    ∃ before ≤ now, Told before calls (broadcastAll dashboard calls) := by
  induction calls using List.reverseRecOn generalizing now with
  | nil => exact ⟨now, Int.le_refl _, told_nothing now dashboard empty⟩
  | append_singleton calls call ih =>
      rw [List.pairwise_append] at ordered
      obtain ⟨before, later, told⟩ :=
        ih (fun other member => naive other (List.mem_append_left _ member)) ordered.1 call.now
          fun other member => ordered.2.2 other member call List.mem_cons_self
      refine ⟨call.now, reached call (by simp), ?_⟩
      rw [broadcastAll, List.foldl_append]
      exact told.step call (naive call (by simp)) later

/-! ## The order by timestamp -/

theorem logTimestamp_cases {punch : PunchRecord} (naive : ¬ ReadsAware punch.timestamp) :
    logTimestamp punch = none ∧ sortKey punch = 0 ∨
      ∃ time, logTimestamp punch = some (.naive time) ∧ sortKey punch = time.micros := by
  rw [sortKey]
  cases read : logTimestamp punch with
  | none => exact Or.inl ⟨rfl, rfl⟩
  | some stamp =>
      cases stamp with
      | aware => exact absurd ⟨_, read, rfl⟩ naive
      | naive time => exact Or.inr ⟨time, rfl, rfl⟩

theorem Ranked.newer {now : Int} (past : max 1 historyDays * microsPerDay < now)
    {first second : Nat × PunchRecord} (ranked : Ranked first second)
    (firstNaive : ¬ ReadsAware first.2.timestamp) (secondNaive : ¬ ReadsAware second.2.timestamp)
    (secondInside : InWindow now second.2.timestamp) : Newer first second := by
  rw [Ranked] at ranked
  rw [Newer]
  rcases logTimestamp_cases firstNaive with ⟨unread, key⟩ | ⟨time, read, key⟩ <;>
    rcases logTimestamp_cases secondNaive with ⟨unread', key'⟩ | ⟨time', read', key'⟩
  · rw [unread, unread']
    omega
  · have young := secondInside time' read'
    omega
  · rw [read, unread']
    trivial
  · rw [read, read']
    rwa [key, key'] at ranked

theorem Newer.ne {first second : Nat × PunchRecord} (newer : Newer first second) :
    first ≠ second := by
  rintro rfl
  rw [Newer] at newer
  cases read : logTimestamp first.2 with
  | none =>
      rw [read] at newer
      exact Nat.lt_irrefl _ newer
  | some stamp =>
      rw [read] at newer
      cases stamp with
      | aware => exact newer
      | naive time =>
          dsimp only at newer
          omega

theorem RankedLog.history {now : Int} (past : max 1 historyDays * microsPerDay < now)
    {announced logs : List PunchRecord} (log : RankedLog now announced logs)
    (naive : ∀ row ∈ announced, ¬ ReadsAware row.timestamp) : History now announced logs := by
  obtain ⟨kept, parts, members, ranked⟩ := log
  have newest : kept.Pairwise Newer := by
    refine ranked.imp_of_mem fun {first second} firstKept secondKept before => ?_
    obtain ⟨firstRow, _⟩ := (members first.1 first.2).mp firstKept
    obtain ⟨secondRow, secondInside⟩ := (members second.1 second.2).mp secondKept
    exact before.newer past (naive _ (List.mem_of_getElem? firstRow))
      (naive _ (List.mem_of_getElem? secondRow)) secondInside
  exact ⟨kept, parts, newest.imp Newer.ne, members, newest⟩

/-- After any broadcasts into an empty log it holds the rows in the window of the last one,
each once, the newest timestamp first and equal ones in reverse order. -/
theorem broadcastAll_history (dashboard : Dashboard) (empty : dashboard.logs = [])
    (calls : List BroadcastCall) (last : BroadcastCall)
    (naive : ∀ call ∈ calls ++ [last], ¬ ReadsAware call.punch.timestamp)
    (ordered : (calls ++ [last]).Pairwise fun earlier later => earlier.now ≤ later.now)
    (past : ∀ call ∈ calls ++ [last], max 1 historyDays * microsPerDay < call.now) :
    List.Forall₂ (fun call row => ∃ info, row = labelled info call.punch) (calls ++ [last])
        (broadcastAll dashboard (calls ++ [last])).1 ∧
      History last.now (broadcastAll dashboard (calls ++ [last])).1
        (broadcastAll dashboard (calls ++ [last])).2.logs := by
  have earlierLast : ∀ call ∈ calls, call.now ≤ last.now := fun call member =>
    (List.pairwise_append.mp ordered).2.2 call member last List.mem_cons_self
  obtain ⟨before, later, told⟩ := told_all dashboard empty calls
    (fun call member => naive call (List.mem_append_left _ member))
    (List.pairwise_append.mp ordered).1 last.now earlierLast
  have final := told.step last (naive last (by simp)) later
  rw [broadcastAll, List.foldl_append]
  exact ⟨final.rows, final.log.history (past last (by simp)) final.naive⟩

end

def noonCall (id timestamp : String) : BroadcastCall where
  lms := fun _ => none
  now := 63922392000000000
  writable := true
  punch :=
    { id := id, sn := "A", userId := "7", userName := "Ann", userRole := "Normal User"
      timestamp := timestamp, status := "0", verifyType := "1", workCode := "0", raw := ""
      receivedAt := "" }

theorem broadcastAll_history_out_of_order :
    let calls := [noonCall "a" "2026-08-15 09:00:00", noonCall "b" "2026-08-14 09:00:00",
      noonCall "c" "2026/08/15 09:00:00", noonCall "d" "when"]
    let last := noonCall "e" "2026-06-01 09:00:00"
    let final := @broadcastAll .extended ⟨[], some [], []⟩ (calls ++ [last])
    @History .extended last.now final.1 final.2.logs := by
  intro calls last final
  have naive : ∀ call ∈ calls ++ [last],
      ¬ @ReadsAware .extended call.punch.timestamp := by
    have checked : (calls ++ [last]).all fun call =>
        (@readTimestamp .extended call.punch.timestamp).all fun stamp => !stamp.isAware := by
      decide +kernel
    intro call member ⟨stamp, read, aware⟩
    have plain := List.all_eq_true.mp checked call member
    rw [read, Option.all_some, aware] at plain
    cases plain
  exact (@broadcastAll_history .extended ⟨[], some [], []⟩ rfl calls last naive
    (by decide +kernel) (by decide +kernel)).2

end PumoBioMetric.Router
