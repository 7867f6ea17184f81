import PumoBioMetric.Sync.SpoolBytes

/-!
# The flush loop

`SyncSupervisor._run` and `_flush`.  Other calls may change the spool file between two steps of
the loop, so each pass has the file that it meets.  The loop catches `LmsUnavailableError` and
nothing else.
-/

set_option autoImplicit false

namespace PumoBioMetric.Sync

open PumoBioMetric.Py PumoBioMetric.Router

/-- What a call of `save_punches` does: it returns, raises `LmsUnavailableError`, or raises
something else. -/
inductive SaveResult where
  | stored
  | unavailable
  | failed
deriving DecidableEq

inductive FlushError where
  | reading (error : DrainError)
  | osError
  | lmsUnavailable
  | saving
deriving DecidableEq

structure FlushPass where
  /-- Stop is requested before the wait ends. -/
  stopRequested : Bool
  /-- The file that `pending` counts, absent where reading it raises `OSError`. -/
  counted : SpoolBytes
  /-- The file that `drain` takes, absent where nothing can be renamed. -/
  taken : SpoolBytes
  /-- The staged file can be unlinked. -/
  unlinks : Bool
  save : List SpooledPunch → SaveResult
  /-- `restore` can write. -/
  restores : Bool

inductive LoopState where
  | running (announcedOutage : Bool)
  | stopped
  | raised (error : FlushError)
deriving DecidableEq

def SpoolBytes.pending (file : SpoolBytes) : Except DrainError Nat :=
  match decodeUtf8 (file.getD []) with
  | none => .error .unicodeDecodeError
  | some text => .ok (visibleLines text).length

section

variable [ValueTables] (limits : Limits)

namespace FlushPass

variable (pass : FlushPass)

/-- `drain` with its `finally`. -/
def drained : Except FlushError (List SpooledPunch) :=
  if pass.taken.isSome && !pass.unlinks then .error .osError
  else (pass.taken.drain limits).1.mapError .reading

/-- `restore` before the exception is raised again. -/
def restoring (error : FlushError) : FlushError := if pass.restores then error else .osError

def flush : Except FlushError Unit :=
  match pass.drained limits with
  | .error error => .error error
  | .ok [] => .ok ()
  | .ok (first :: others) =>
      match pass.save (first :: others) with
      | .stored => .ok ()
      | .unavailable => .error (pass.restoring .lmsUnavailable)
      | .failed => .error (pass.restoring .saving)

def run (announcedOutage : Bool) : LoopState :=
  if pass.stopRequested then .stopped
  else
    match pass.counted.pending with
    | .error error => .raised (.reading error)
    | .ok 0 => .running announcedOutage
    | .ok (_ + 1) =>
        match pass.flush limits with
        | .ok () => .running false
        | .error .lmsUnavailable => .running true
        | .error error => .raised error

end FlushPass

/-- `_run`, as long as it meets these passes. -/
def runLoop : LoopState → List FlushPass → LoopState
  | .running announcedOutage, pass :: passes => runLoop (pass.run limits announcedOutage) passes
  | state, _ => state

/-! ## The property -/

/-- The loop still runs, or it has been left because stop was requested. -/
def LeftOnRequest (passes : List FlushPass) : Prop :=
  (∃ announcedOutage, runLoop limits (.running false) passes = .running announcedOutage) ∨
    (runLoop limits (.running false) passes = .stopped ∧
      ∃ pass ∈ passes, pass.stopRequested = true)

/-! ## The condition -/

/-- The file is text, and no line of it raises what the loop of `drain` does not catch. -/
def SpoolBytes.Readable (file : SpoolBytes) : Prop :=
  ∃ text, file.getD [] = encodeUtf8 text ∧ ∀ line ∈ visibleLines text, ¬ LineEscapes limits line

/-- What the pass takes is read and unlinked, and its punches are saved, or put back while the
database is unreachable. -/
structure FlushPass.Flushes (pass : FlushPass) : Prop where
  readable : pass.taken.Readable limits
  unlinked : pass.taken.isSome = true → pass.unlinks = true
  saved : validRecords limits (pass.taken.getD []) ≠ [] →
    pass.save (validRecords limits (pass.taken.getD [])) = .stored ∨
      (pass.save (validRecords limits (pass.taken.getD [])) = .unavailable ∧
        pass.restores = true)

/-- The file that is counted is text, and where it has a line that is not blank the pass
flushes. -/
structure FlushPass.Calm (pass : FlushPass) : Prop where
  isText : ∃ text, pass.counted.getD [] = encodeUtf8 text
  flushes : ∀ text, pass.counted.getD [] = encodeUtf8 text → visibleLines text ≠ [] →
    pass.Flushes limits

/-! ## One pass -/

variable {limits} {pass : FlushPass}

theorem drained_eq_ok_iff {punches : List SpooledPunch} :
    pass.drained limits = .ok punches ↔
      pass.taken.Readable limits ∧ (pass.taken.isSome = true → pass.unlinks = true) ∧
        punches = validRecords limits (pass.taken.getD []) := by
  have drains : (pass.taken.drain limits).1.mapError FlushError.reading = .ok punches ↔
      (pass.taken.drain limits).1 = .ok punches := by
    cases (pass.taken.drain limits).1 <;> simp [Except.mapError]
  have left : pass.drained limits = .ok punches ↔
      (pass.taken.isSome = true → pass.unlinks = true) ∧
        (pass.taken.drain limits).1 = .ok punches := by
    rw [FlushPass.drained, ← drains]
    cases present : pass.taken.isSome <;> cases unlinked : pass.unlinks <;> simp
  rw [left, drain_eq_ok_iff, SpoolBytes.Readable]
  tauto

theorem drained_ne_unavailable : pass.drained limits ≠ .error .lmsUnavailable := by
  rw [FlushPass.drained]
  split
  · simp
  · cases (pass.taken.drain limits).1 <;> simp [Except.mapError]

theorem flushes_iff :
    pass.Flushes limits ↔
      pass.flush limits = .ok () ∨ pass.flush limits = .error .lmsUnavailable := by
  rw [FlushPass.flush]
  cases drained : pass.drained limits with
  | error error =>
      refine iff_of_false (fun flushes => ?_) ?_
      · have returned := drained_eq_ok_iff.mpr ⟨flushes.readable, flushes.unlinked, rfl⟩
        rw [drained] at returned
        cases returned
      · rintro (returned | unavailable)
        · cases returned
        · rw [Except.error.inj unavailable] at drained
          exact drained_ne_unavailable drained
  | ok waiting =>
      obtain ⟨readable, unlinked, records⟩ := drained_eq_ok_iff.mp drained
      have saved : pass.Flushes limits ↔ (waiting ≠ [] → pass.save waiting = .stored ∨
          (pass.save waiting = .unavailable ∧ pass.restores = true)) := by
        rw [records]
        exact ⟨fun flushes => flushes.saved, fun saved => ⟨readable, unlinked, saved⟩⟩
      rw [saved]
      cases waiting with
      | nil => simp
      | cons first others =>
          dsimp only
          cases pass.save (first :: others) <;> cases restores : pass.restores <;>
            simp [FlushPass.restoring, restores]

/-- A pass that is not asked to stop goes on exactly where it is calm. -/
theorem calm_iff (going : pass.stopRequested = false) (announcedOutage : Bool) :
    pass.Calm limits ↔ ∃ announced, pass.run limits announcedOutage = .running announced := by
  cases decoded : decodeUtf8 (pass.counted.getD []) with
  | none =>
      refine iff_of_false (fun calm => ?_) ?_
      · obtain ⟨text, isText⟩ := calm.isText
        simp [isText] at decoded
      · simp [FlushPass.run, going, SpoolBytes.pending, decoded]
  | some text =>
      have isText : pass.counted.getD [] = encodeUtf8 text := decodeUtf8_eq_some_iff.mp decoded
      have only : pass.Calm limits ↔ (visibleLines text ≠ [] → pass.Flushes limits) := by
        constructor
        · intro calm lines
          exact calm.flushes text isText lines
        · intro flushes
          refine ⟨⟨text, isText⟩, fun other same => ?_⟩
          rw [same, decodeUtf8_encodeUtf8] at decoded
          rw [Option.some.inj decoded]
          exact flushes
      have counted : pass.counted.pending = .ok (visibleLines text).length := by
        rw [SpoolBytes.pending, decoded]
      rw [only, flushes_iff, FlushPass.run, going, counted]
      cases visibleLines text with
      | nil => simp
      | cons line rest =>
          cases pass.flush limits with
          | ok _ => simp
          | error error => cases error <;> simp

/-! ## The loop -/

theorem runLoop_of_stopRequested (stop : pass.stopRequested = true) (announcedOutage : Bool)
    (passes : List FlushPass) :
    runLoop limits (.running announcedOutage) (pass :: passes) = .stopped := by
  rw [runLoop, FlushPass.run, stop]
  cases passes <;> rfl

variable (limits) in
theorem run_cases (going : pass.stopRequested = false) (announcedOutage : Bool) :
    (∃ announced, pass.run limits announcedOutage = .running announced) ∨
      ∃ error, pass.run limits announcedOutage = .raised error := by
  rw [FlushPass.run, going]
  cases pass.counted.pending with
  | error error => exact .inr ⟨_, rfl⟩
  | ok count =>
      cases count with
      | zero => exact .inl ⟨_, rfl⟩
      | succ count =>
          dsimp only
          cases pass.flush limits with
          | ok _ => exact .inl ⟨_, rfl⟩
          | error error =>
              cases error with
              | lmsUnavailable => exact .inl ⟨_, rfl⟩
              | reading | osError | saving => exact .inr ⟨_, rfl⟩

theorem leftOnRequest_iff (announcedOutage : Bool) (passes : List FlushPass) :
    ((∃ announced, runLoop limits (.running announcedOutage) passes = .running announced) ∨
      (runLoop limits (.running announcedOutage) passes = .stopped ∧
        ∃ pass ∈ passes, pass.stopRequested = true)) ↔
      ∀ pass ∈ passes.takeWhile fun pass => !pass.stopRequested, pass.Calm limits := by
  induction passes generalizing announcedOutage with
  | nil => simp [runLoop]
  | cons pass passes ih =>
      cases stop : pass.stopRequested with
      | true =>
          rw [runLoop_of_stopRequested stop]
          simp [stop]
      | false =>
          rw [List.takeWhile_cons_of_pos (by simpa using stop), List.forall_mem_cons,
            calm_iff stop announcedOutage, runLoop]
          rcases run_cases limits stop announcedOutage with ⟨announced, went⟩ | ⟨error, raised⟩
          · rw [went]
            have later := ih announced
            simp only [List.exists_mem_cons_iff, stop, Bool.false_eq_true, false_or]
            rw [later]
            simp
          · rw [raised]
            have stays : runLoop limits (.raised error) passes = .raised error := by
              cases passes <;> rfl
            rw [stays]
            simp

end

/-- The loop outlives every pass, and is left on request only, exactly where each pass before
the request is calm. -/
theorem flush_loop_outlives_iff [ValueTables] (limits : Limits) (passes : List FlushPass) :
    LeftOnRequest limits passes ↔
      ∀ pass ∈ passes.takeWhile fun pass => !pass.stopRequested, pass.Calm limits :=
  leftOnRequest_iff false passes

def listLinePass : FlushPass where
  stopRequested := false
  counted := some (encodeUtf8 ['[', ']', '\n'])
  taken := some (encodeUtf8 ['[', ']', '\n'])
  unlinks := true
  save _ := .stored
  restores := true

theorem list_line_ends_loop :
    ¬ @LeftOnRequest .scalars (fun _ => none) [listLinePass] := by
  have raised : @runLoop .scalars (fun _ => none) (.running false) [listLinePass] =
      .raised (.reading (.fromLine .typeError)) := by
    decide +kernel
  rintro (⟨announced, running⟩ | ⟨stopped, _⟩)
  · rw [raised] at running
    cases running
  · rw [raised] at stopped
    cases stopped

end PumoBioMetric.Sync
