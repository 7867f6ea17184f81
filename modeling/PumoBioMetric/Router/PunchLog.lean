import Mathlib.Data.List.Sort
import PumoBioMetric.Py.IsoFormat
import PumoBioMetric.Py.Split
import PumoBioMetric.Router.PunchRecord
import PumoBioMetric.Router.UserCache

/-!
# The dashboard's punch log

`PUNCH_LOGS` with `prune_punch_logs` and `broadcast_punch`.  Pruning compares every
timestamp of the log with a naive cutoff before it assigns the pruned list, so an aware
timestamp raises `TypeError` and stays in the log.
-/

set_option autoImplicit false

namespace PumoBioMetric.Router

open Py

def verifyModes : Dict String :=
  [("0", "Password / PIN"), ("1", "Fingerprint"), ("2", "RFID Card"), ("3", "Password"),
    ("4", "Face Recognition"), ("15", "Face / Palm"), ("255", "Standard Biometric")]

def punchStatusMap : Dict String :=
  [("0", "Check-In"), ("1", "Check-Out"), ("2", "Break-Out"), ("3", "Break-In"),
    ("4", "Overtime-In"), ("5", "Overtime-Out"), ("255", "Present (Auto Attendance)")]

def historyDays : Int := 30

section

variable [IsoFormat]

/-! ## Pruning -/

/-- The reading of a timestamp, as it stands or with `-` for `/`. -/
def readTimestamp (timestamp : String) : Option Stamp :=
  let raw := strip timestamp
  if raw = "" then none
  else (fromisoformat raw).or (fromisoformat (replaceChar '/' '-' raw))

def logTimestamp (punch : PunchRecord) : Option Stamp := readTimestamp punch.timestamp

/-- The timestamp is read as a date-time with an offset. -/
def ReadsAware (timestamp : String) : Prop :=
  ∃ stamp, readTimestamp timestamp = some stamp ∧ stamp.isAware = true

theorem not_readsAware_of_all {timestamp : String}
    (plain : (readTimestamp timestamp).all (fun stamp => !stamp.isAware) = true) :
    ¬ ReadsAware timestamp := by
  rintro ⟨stamp, read, aware⟩
  rw [read, Option.all_some, aware] at plain
  cases plain

/-- The comprehension of `prune_punch_logs`; `none` is its `TypeError`. -/
def keepRecent (cutoff : Int) : List PunchRecord → Option (List PunchRecord)
  | [] => some []
  | punch :: rest =>
      match logTimestamp punch with
      | none => (keepRecent cutoff rest).map fun kept => punch :: kept
      | some when =>
          (when.atLeast? cutoff).bind fun recent =>
            (keepRecent cutoff rest).map fun kept => if recent then punch :: kept else kept

/-- `_log_timestamp(punch) or datetime.min`, of a naive or unreadable timestamp. -/
def sortKey (punch : PunchRecord) : Int :=
  match logTimestamp punch with
  | some (.naive time) => time.micros
  | _ => 0

/-- `prune_punch_logs`: newest first, equal timestamps in the order they had. -/
def prunePunchLogs (now : Int) (logs : List PunchRecord) : Option (List PunchRecord) :=
  (keepRecent (now - max 1 historyDays * microsPerDay) logs).map fun kept =>
    kept.mergeSort fun left right => sortKey right ≤ sortKey left

/-! ## Broadcasting -/

/-- The keys that `broadcast_punch` sets. -/
def labelled (info : UserInfo) (punch : PunchRecord) : PunchRecord :=
  { punch with
    userName :=
      if (punch.userName = "" ∨ startsWith punch.userName "User ") ∧ info.isNamed then
        info.name.getD punch.userName
      else punch.userName
    statusLabel := some ((punchStatusMap.get? punch.status).getD ("Status " ++ punch.status))
    verifyLabel := some ((verifyModes.get? punch.verifyType).getD ("Verify " ++ punch.verifyType)) }

/-- `PUNCH_LOGS`, what `LOGS_FILE` decodes to (`none` after a failed write), and the names. -/
structure Dashboard where
  logs : List PunchRecord
  logsFile : Option (List PunchRecord)
  cache : UserCache

/-- `broadcast_punch`: the punch as it is now, `none` where an exception leaves. -/
def broadcastPunch (lms : LmsNames) (now : Int) (writable : Bool) (dashboard : Dashboard)
    (punch : PunchRecord) : Option PunchRecord × Dashboard :=
  let (info, cache) := getUserInfo lms dashboard.cache (strip punch.userId)
  let announced := labelled info punch
  match prunePunchLogs now (announced :: dashboard.logs) with
  | none =>
      (none, { logs := announced :: dashboard.logs, logsFile := dashboard.logsFile, cache := cache })
  | some logs =>
      (some announced,
        { logs := logs, logsFile := if writable then some logs else none, cache := cache })

/-! ## What an aware timestamp does -/

/-- A punch of the log has an aware timestamp. -/
def Poisoned (logs : List PunchRecord) : Prop := ∃ punch ∈ logs, ReadsAware punch.timestamp

theorem poisoned_cons_iff (punch : PunchRecord) (rest : List PunchRecord) :
    Poisoned (punch :: rest) ↔ ReadsAware punch.timestamp ∨ Poisoned rest := by
  simp [Poisoned]

theorem keepRecent_eq_none_iff (cutoff : Int) (logs : List PunchRecord) :
    keepRecent cutoff logs = none ↔ Poisoned logs := by
  induction logs with
  | nil => simp [keepRecent, Poisoned]
  | cons punch rest ih =>
      rw [poisoned_cons_iff, keepRecent]
      cases read : logTimestamp punch with
      | none =>
          have plain : ¬ ReadsAware punch.timestamp := by
            rintro ⟨stamp, found, _⟩
            exact absurd (read.symm.trans found) (by simp)
          simp [ih, plain]
      | some stamp =>
          have here : ReadsAware punch.timestamp ↔ stamp.isAware = true := by
            constructor
            · rintro ⟨other, found, aware⟩
              rw [Option.some.inj (read.symm.trans found)]
              exact aware
            · intro aware
              exact ⟨stamp, read, aware⟩
          cases aware : stamp.isAware with
          | true =>
              have raises := (stamp.atLeast?_eq_none_iff cutoff).mpr aware
              simp [raises, here, aware]
          | false =>
              obtain ⟨recent, compared⟩ := stamp.exists_atLeast? aware cutoff
              simp [compared, here, aware, ih]

theorem mem_keepRecent_iff {cutoff : Int} {logs kept : List PunchRecord}
    (pruned : keepRecent cutoff logs = some kept) (punch : PunchRecord) :
    punch ∈ kept ↔ punch ∈ logs ∧
      ∀ time, logTimestamp punch = some (.naive time) → cutoff ≤ time.micros := by
  induction logs generalizing kept with
  | nil =>
      cases pruned
      simp
  | cons head rest ih =>
      rw [keepRecent] at pruned
      split at pruned
      · rename_i unread
        obtain ⟨left, keptRest, rfl⟩ := Option.map_eq_some_iff.mp pruned
        rw [List.mem_cons, List.mem_cons, ih keptRest, or_and_right]
        refine or_congr_left (iff_self_and.mpr ?_)
        rintro rfl time read
        rw [unread] at read
        cases read
      · rename_i stamp read
        obtain ⟨recent, compared, onward⟩ := Option.bind_eq_some_iff.mp pruned
        obtain ⟨left, keptRest, rfl⟩ := Option.map_eq_some_iff.mp onward
        have own : recent = true ↔
            ∀ time, logTimestamp head = some (.naive time) → cutoff ≤ time.micros := by
          cases stamp with
          | aware => cases compared
          | naive time =>
              cases Option.some.inj compared
              simp [read]
        rw [List.mem_cons, or_and_right, ← ih keptRest]
        cases recent with
        | false =>
            refine (or_iff_right ?_).symm
            rintro ⟨rfl, held⟩
            exact absurd (own.mpr held) Bool.false_ne_true
        | true =>
            rw [if_pos rfl, List.mem_cons]
            refine or_congr_left (iff_self_and.mpr ?_)
            rintro rfl
            exact own.mp rfl

theorem prune_eq_none_iff (now : Int) (logs : List PunchRecord) :
    prunePunchLogs now logs = none ↔ Poisoned logs := by
  rw [prunePunchLogs, Option.map_eq_none_iff, keepRecent_eq_none_iff]

/-- The timestamp, where it is read, is not before the history window. -/
def InWindow (now : Int) (timestamp : String) : Prop :=
  ∀ time, readTimestamp timestamp = some (.naive time) →
    now - max 1 historyDays * microsPerDay ≤ time.micros

theorem mem_prune_iff {now : Int} {logs pruned : List PunchRecord}
    (kept : prunePunchLogs now logs = some pruned) (punch : PunchRecord) :
    punch ∈ pruned ↔ punch ∈ logs ∧ InWindow now punch.timestamp := by
  obtain ⟨recent, keptRecent, rfl⟩ := Option.map_eq_some_iff.mp kept
  rw [List.mem_mergeSort, mem_keepRecent_iff keptRecent]
  rfl

theorem mem_of_prune {now : Int} {logs pruned : List PunchRecord} {punch : PunchRecord}
    (kept : prunePunchLogs now logs = some pruned) (member : punch ∈ pruned) : punch ∈ logs :=
  ((mem_prune_iff kept punch).mp member).1

theorem not_poisoned_of_prune {now : Int} {logs pruned : List PunchRecord}
    (kept : prunePunchLogs now logs = some pruned) : ¬ Poisoned pruned := by
  rintro ⟨punch, member, aware⟩
  have raised := (prune_eq_none_iff now logs).mpr ⟨punch, mem_of_prune kept member, aware⟩
  exact absurd (raised.symm.trans kept) (by simp)

/-- A broadcast raises exactly where the log or the punch has an aware timestamp, and then
the log has one afterwards; else it announces the punch and leaves none. -/
theorem broadcast_cases (lms : LmsNames) (now : Int) (writable : Bool) (dashboard : Dashboard)
    (punch : PunchRecord) :
    ((ReadsAware punch.timestamp ∨ Poisoned dashboard.logs) ∧
      (broadcastPunch lms now writable dashboard punch).1 = none ∧
      Poisoned (broadcastPunch lms now writable dashboard punch).2.logs) ∨
    (¬ ReadsAware punch.timestamp ∧ ¬ Poisoned dashboard.logs ∧
      (∃ info, (broadcastPunch lms now writable dashboard punch).1 = some (labelled info punch)) ∧
      ¬ Poisoned (broadcastPunch lms now writable dashboard punch).2.logs) := by
  have split : ∀ info, Poisoned (labelled info punch :: dashboard.logs) ↔
      ReadsAware punch.timestamp ∨ Poisoned dashboard.logs :=
    fun info => poisoned_cons_iff (labelled info punch) dashboard.logs
  unfold broadcastPunch
  cases pruned : prunePunchLogs now
      (labelled (getUserInfo lms dashboard.cache (strip punch.userId)).1 punch ::
        dashboard.logs) with
  | none =>
      have raised := (prune_eq_none_iff _ _).mp pruned
      exact Or.inl ⟨(split _).mp raised, by simp [pruned], by simpa [pruned] using raised⟩
  | some logs =>
      have plain : ¬ (ReadsAware punch.timestamp ∨ Poisoned dashboard.logs) := by
        rw [← split, ← prune_eq_none_iff now, pruned]
        simp
      obtain ⟨here, before⟩ := not_or.mp plain
      exact Or.inr ⟨here, before,
        ⟨(getUserInfo lms dashboard.cache (strip punch.userId)).1, by simp [pruned]⟩,
        by simpa [pruned] using not_poisoned_of_prune pruned⟩

theorem broadcast_leaves (lms : LmsNames) (now : Int) (writable : Bool) (dashboard : Dashboard)
    (punch : PunchRecord) :
    ∃ row, row = labelled (getUserInfo lms dashboard.cache (strip punch.userId)).1 punch ∧
      (broadcastPunch lms now writable dashboard punch).2.cache =
        (getUserInfo lms dashboard.cache (strip punch.userId)).2 ∧
      (Poisoned (row :: dashboard.logs) →
        (broadcastPunch lms now writable dashboard punch).2.logs = row :: dashboard.logs) ∧
      (¬ Poisoned (row :: dashboard.logs) →
        prunePunchLogs now (row :: dashboard.logs) =
          some (broadcastPunch lms now writable dashboard punch).2.logs) := by
  refine ⟨_, rfl, ?_⟩
  unfold broadcastPunch
  generalize getUserInfo lms dashboard.cache (strip punch.userId) = known
  obtain ⟨info, cache⟩ := known
  have raises := prune_eq_none_iff now (labelled info punch :: dashboard.logs)
  dsimp only
  generalize prunePunchLogs now (labelled info punch :: dashboard.logs) = pruned at raises ⊢
  cases pruned with
  | none => exact ⟨rfl, fun _ => rfl, fun clean => absurd (raises.mp rfl) clean⟩
  | some logs =>
      have clean : ¬ Poisoned (labelled info punch :: dashboard.logs) := by simp [← raises]
      exact ⟨rfl, fun poisoned => absurd poisoned clean, fun _ => rfl⟩

end

end PumoBioMetric.Router
