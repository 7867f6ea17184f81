import Mathlib.Data.List.Induction
import PumoBioMetric.Sync.Liveness

/-!
# The throttle of `mark_seen` over a whole run

Contacts stamp `_last_write` when they are submitted.  The one background thread finishes the
writes in the order of submission, and a write that finds the LMS unavailable removes the
stamp of its serial, whichever contact put it there.
-/

set_option autoImplicit false

namespace PumoBioMetric.Sync

open PumoBioMetric.Py

inductive HeartbeatResult where
  | recorded
  | unavailable
deriving DecidableEq, Repr

/-- A call of `mark_seen`, or the end of the oldest write that is still queued. -/
inductive LivenessEvent where
  | contact (now : Int) (serial : String) (ipAddress : Option String) (force : Bool)
  | finished (result : HeartbeatResult)
deriving DecidableEq, Repr

/-- What an event came to; writes are numbered in the order of submission. -/
inductive LivenessNote where
  | submitted (write : Nat) (serial : String) (time : Int) (forced : Bool)
  | suppressed (serial : String) (time : Int)
  | succeeded (write : Nat) (serial : String)
  | failed (write : Nat) (serial : String)
deriving DecidableEq, Repr

/-- The throttle, how many of its writes have finished, and what happened, newest first. -/
structure Throttled where
  liveness : Liveness
  done : Nat
  history : List LivenessNote
deriving DecidableEq, Repr

/-- `_write` on the throttle: only an unavailable LMS erases a stamp. -/
def Liveness.finish (liveness : Liveness) (serial : String) : HeartbeatResult → Liveness
  | .recorded => liveness
  | .unavailable => { liveness with lastWrite := liveness.lastWrite.pop serial }

namespace Throttled

def start : Throttled := ⟨⟨[], []⟩, 0, []⟩

/-- What a contact came to, read from the queue before and after it. -/
def contactNote (config : SyncConfig) (before after : Liveness) (now : Int) (serial : String)
    (force : Bool) : List LivenessNote :=
  if serial = "" || !config.active then []
  else if before.submitted.length < after.submitted.length then
    [.submitted before.submitted.length serial now force]
  else [.suppressed serial now]

def resultNote (write : Nat) (serial : String) : HeartbeatResult → LivenessNote
  | .recorded => .succeeded write serial
  | .unavailable => .failed write serial

def step (config : SyncConfig) (state : Throttled) : LivenessEvent → Throttled
  | .contact now serial ipAddress force =>
      let after := recordContact config now state.liveness serial ipAddress force
      { state with
        liveness := after
        history := contactNote config state.liveness after now serial force ++ state.history }
  | .finished result =>
      match state.liveness.submitted[state.done]? with
      | none => state
      | some write =>
          { liveness := state.liveness.finish write.serial result
            done := state.done + 1
            history := resultNote state.done write.serial result :: state.history }

def run (config : SyncConfig) (events : List LivenessEvent) : Throttled :=
  events.foldl (step config) start

end Throttled

def contactTimes (events : List LivenessEvent) : List Int :=
  events.filterMap fun
    | .contact now _ _ _ => some now
    | .finished _ => none

/-- Two unforced submissions for one serial, with no failed write for it between them, are
at least a heartbeat apart. -/
def Spaced (heartbeat : Int) (history : List LivenessNote) : Prop :=
  ∀ later between earlier serial first second before after,
    history = later ++ .submitted second serial after false ::
        (between ++ .submitted first serial before false :: earlier) →
      (∀ write, LivenessNote.failed write serial ∉ between) → heartbeat ≤ after - before

/-- Behind every suppressed contact stands a submission for its serial, made less than a
heartbeat ago, whose write has not failed. -/
def Fresh (heartbeat : Int) (history : List LivenessNote) : Prop :=
  ∀ later earlier serial now,
    history = later ++ .suppressed serial now :: earlier →
      ∃ write time forced, LivenessNote.submitted write serial time forced ∈ earlier ∧
        now - time < heartbeat ∧ ∀ other, LivenessNote.failed write other ∉ earlier

/-! ## What one event does -/

theorem shouldWrite_refused {config : SyncConfig} {now stamp : Int} {lastWrite : Dict Int}
    {serial : String} {force : Bool} (held : lastWrite.get? serial = some stamp)
    (young : (!force && now - stamp < config.heartbeatSeconds) = true) :
    shouldWrite config now lastWrite serial force = (false, lastWrite) := by
  simp only [shouldWrite, held]
  rw [if_pos young]

theorem shouldWrite_allowed {config : SyncConfig} {now : Int} {lastWrite : Dict Int}
    {serial : String} {force : Bool}
    (old : ∀ stamp, lastWrite.get? serial = some stamp →
      ¬(!force && now - stamp < config.heartbeatSeconds) = true) :
    shouldWrite config now lastWrite serial force = (true, lastWrite.set serial now) := by
  cases held : lastWrite.get? serial with
  | none => simp only [shouldWrite, held]
  | some stamp =>
      simp only [shouldWrite, held]
      rw [if_neg (old stamp held)]

/-- A contact is passed over, suppressed by a young stamp, or stamped and submitted. -/
theorem step_contact_cases (config : SyncConfig) (state : Throttled) (now : Int)
    (serial : String) (ipAddress : Option String) (force : Bool) :
    let after := state.step config (.contact now serial ipAddress force)
    after = state ∨
      (∃ stamp, state.liveness.lastWrite.get? serial = some stamp ∧
        now - stamp < config.heartbeatSeconds ∧
        after = { state with history := .suppressed serial now :: state.history }) ∨
      ((force = false → ∀ stamp, state.liveness.lastWrite.get? serial = some stamp →
          config.heartbeatSeconds ≤ now - stamp) ∧
        after =
          { state with
            liveness :=
              { lastWrite := state.liveness.lastWrite.set serial now
                submitted := state.liveness.submitted ++ [⟨serial, ipAddress⟩] }
            history :=
              .submitted state.liveness.submitted.length serial now force :: state.history }) := by
  intro after
  by_cases skipped : (serial = "" || !config.active) = true
  · left
    simp only [after, Throttled.step, recordContact, Throttled.contactNote, if_pos skipped,
      List.nil_append]
  · right
    by_cases refused : ∃ stamp, state.liveness.lastWrite.get? serial = some stamp ∧
        (!force && now - stamp < config.heartbeatSeconds) = true
    · left
      obtain ⟨stamp, held, young⟩ := refused
      have short : now - stamp < config.heartbeatSeconds := by
        simp only [Bool.and_eq_true, decide_eq_true_eq] at young
        exact young.2
      refine ⟨stamp, held, short, ?_⟩
      simp only [after, Throttled.step, recordContact, Throttled.contactNote, if_neg skipped,
        shouldWrite_refused held young]
      simp
    · right
      have old : ∀ stamp, state.liveness.lastWrite.get? serial = some stamp →
          ¬(!force && now - stamp < config.heartbeatSeconds) = true :=
        fun stamp held young => refused ⟨stamp, held, young⟩
      refine ⟨fun unforced stamp held => ?_, ?_⟩
      · have waited := old stamp held
        simp only [unforced, Bool.not_false, Bool.true_and, decide_eq_true_eq] at waited
        omega
      · simp only [after, Throttled.step, recordContact, Throttled.contactNote, if_neg skipped,
          shouldWrite_allowed old]
        simp

/-! ## What holds after every run -/

structure StampsKept (heartbeat : Int) (events : List LivenessEvent) (state : Throttled) :
    Prop where
  queued : state.done ≤ state.liveness.submitted.length
  /-- A submitted write stands in the queue under its number. -/
  numbered : ∀ write serial time forced,
    .submitted write serial time forced ∈ state.history →
      (state.liveness.submitted[write]?).map ContactWrite.serial = some serial
  timed : ∀ write serial time forced,
    .submitted write serial time forced ∈ state.history → time ∈ contactTimes events
  finished : ∀ write serial, LivenessNote.failed write serial ∈ state.history → write < state.done
  /-- A stamp is the time of a submission whose write has not failed. -/
  stamped : ∀ serial stamp, state.liveness.lastWrite.get? serial = some stamp →
    ∃ write forced, .submitted write serial stamp forced ∈ state.history ∧
      ∀ other, LivenessNote.failed write other ∉ state.history
  /-- Since a submission the stamp of its serial is there and no older, until a write fails. -/
  covered : ∀ later write serial time forced earlier,
    state.history = later ++ .submitted write serial time forced :: earlier →
      (∀ other, LivenessNote.failed other serial ∉ later) →
        ∃ stamp, state.liveness.lastWrite.get? serial = some stamp ∧ time ≤ stamp
  spaced : Spaced heartbeat state.history
  fresh : Fresh heartbeat state.history

theorem stampsKept_start (heartbeat : Int) : StampsKept heartbeat [] Throttled.start where
  queued := Nat.le_refl _
  numbered := by intro _ _ _ _ listed; cases listed
  timed := by intro _ _ _ _ listed; cases listed
  finished := by intro _ _ listed; cases listed
  stamped := by intro _ _ held; cases held
  covered := by
    intro later _ _ _ _ earlier parts
    exact absurd parts (by simp [Throttled.start])
  spaced := by
    intro later _ _ _ _ _ _ _ parts
    exact absurd parts (by simp [Throttled.start])
  fresh := by
    intro later _ _ _ parts
    exact absurd parts (by simp [Throttled.start])

theorem cons_split {note first : LivenessNote} {later earlier history : List LivenessNote}
    (parts : note :: history = later ++ first :: earlier) :
    (later = [] ∧ note = first ∧ history = earlier) ∨
      ∃ rest, later = note :: rest ∧ history = rest ++ first :: earlier := by
  cases later with
  | nil =>
      obtain ⟨same, tail⟩ := List.cons.inj parts
      exact Or.inl ⟨rfl, same, tail⟩
  | cons head rest =>
      obtain ⟨same, tail⟩ := List.cons.inj parts
      exact Or.inr ⟨rest, by rw [same], tail⟩

theorem Spaced.cons {heartbeat : Int} {history : List LivenessNote}
    (spaced : Spaced heartbeat history) {note : LivenessNote} (other : ∀ write serial time forced,
      note ≠ .submitted write serial time forced) : Spaced heartbeat (note :: history) := by
  intro later between earlier serial first second before after parts unfailed
  rcases cons_split parts with ⟨_, same, _⟩ | ⟨rest, _, tail⟩
  · exact absurd same (other second serial after false)
  · exact spaced rest between earlier serial first second before after tail unfailed

theorem Fresh.cons {heartbeat : Int} {history : List LivenessNote} (fresh : Fresh heartbeat history)
    {note : LivenessNote} (other : ∀ serial now, note ≠ .suppressed serial now) :
    Fresh heartbeat (note :: history) := by
  intro later earlier serial now parts
  rcases cons_split parts with ⟨_, same, _⟩ | ⟨rest, _, tail⟩
  · exact absurd same (other serial now)
  · exact fresh rest earlier serial now tail

theorem contactTimes_snoc (events : List LivenessEvent) (event : LivenessEvent) :
    contactTimes (events ++ [event]) = contactTimes events ++ contactTimes [event] :=
  List.filterMap_append

variable {config : SyncConfig} {events : List LivenessEvent} {state : Throttled}

theorem StampsKept.skip (kept : StampsKept config.heartbeatSeconds events state)
    (event : LivenessEvent) :
    StampsKept config.heartbeatSeconds (events ++ [event]) state :=
  { kept with
    timed := by
      intro write other time forced listed
      rw [contactTimes_snoc]
      exact List.mem_append_left _ (kept.timed write other time forced listed) }

theorem StampsKept.note (kept : StampsKept config.heartbeatSeconds events state)
    {note : LivenessNote}
    (unsubmitted : ∀ write serial time forced, note ≠ .submitted write serial time forced)
    (unfailed : ∀ write serial, note ≠ .failed write serial)
    (fresh : Fresh config.heartbeatSeconds (note :: state.history)) :
    StampsKept config.heartbeatSeconds events { state with history := note :: state.history } where
  queued := kept.queued
  numbered := by
    intro write other time forced listed
    exact kept.numbered write other time forced
      (List.mem_of_ne_of_mem (unsubmitted write other time forced).symm listed)
  timed := by
    intro write other time forced listed
    exact kept.timed write other time forced
      (List.mem_of_ne_of_mem (unsubmitted write other time forced).symm listed)
  finished := by
    intro write other listed
    exact kept.finished write other
      (List.mem_of_ne_of_mem (unfailed write other).symm listed)
  stamped := by
    intro other time found
    obtain ⟨write, forced, listed, alive⟩ := kept.stamped other time found
    refine ⟨write, forced, List.mem_cons_of_mem _ listed, fun owner failed => alive owner ?_⟩
    exact List.mem_of_ne_of_mem (unfailed write owner).symm failed
  covered := by
    intro later write other time forced earlier parts alive
    rcases cons_split parts with ⟨_, same, _⟩ | ⟨rest, front, tail⟩
    · exact absurd same (unsubmitted write other time forced)
    · exact kept.covered rest write other time forced earlier tail fun k failed =>
        alive k (front ▸ List.mem_cons_of_mem _ failed)
  spaced := kept.spaced.cons unsubmitted
  fresh := fresh

theorem StampsKept.suppress (kept : StampsKept config.heartbeatSeconds events state)
    {now stamp : Int} {serial : String} (event : LivenessEvent)
    (held : state.liveness.lastWrite.get? serial = some stamp)
    (young : now - stamp < config.heartbeatSeconds) :
    StampsKept config.heartbeatSeconds (events ++ [event])
      { state with history := .suppressed serial now :: state.history } := by
  refine (kept.note (fun _ _ _ _ same => by cases same) (fun _ _ same => by cases same) ?_).skip
    event
  intro later earlier other time parts
  rcases cons_split parts with ⟨_, same, tail⟩ | ⟨rest, _, tail⟩
  · obtain ⟨rfl, rfl⟩ := LivenessNote.suppressed.inj same
    obtain ⟨write, forced, listed, alive⟩ := kept.stamped serial stamp held
    exact ⟨write, stamp, forced, tail ▸ listed, young, fun owner => tail ▸ alive owner⟩
  · exact kept.fresh rest earlier other time tail

/-- A submission stamps its serial with the newest time of all. -/
theorem StampsKept.submit (kept : StampsKept config.heartbeatSeconds events state) {now : Int}
    {serial : String} {ipAddress : Option String} {force : Bool}
    (newest : ∀ time ∈ contactTimes events, time ≤ now)
    (waited : force = false → ∀ stamp, state.liveness.lastWrite.get? serial = some stamp →
      config.heartbeatSeconds ≤ now - stamp) :
    StampsKept config.heartbeatSeconds (events ++ [.contact now serial ipAddress force])
      { state with
        liveness :=
          { lastWrite := state.liveness.lastWrite.set serial now
            submitted := state.liveness.submitted ++ [⟨serial, ipAddress⟩] }
        history :=
          .submitted state.liveness.submitted.length serial now force :: state.history } where
  queued := by
    rw [List.length_append]
    exact Nat.le_add_right_of_le kept.queued
  numbered := by
    intro write other time forced listed
    rcases List.mem_cons.mp listed with same | before
    · obtain ⟨rfl, rfl, _, _⟩ := LivenessNote.submitted.inj same
      rw [List.getElem?_concat_length]
      rfl
    · have found := kept.numbered write other time forced before
      have inside : write < state.liveness.submitted.length := by
        by_contra outside
        rw [List.getElem?_eq_none (by omega)] at found
        cases found
      rw [List.getElem?_append_left inside]
      exact found
  timed := by
    intro write other time forced listed
    rw [contactTimes_snoc]
    rcases List.mem_cons.mp listed with same | before
    · obtain ⟨_, _, rfl, _⟩ := LivenessNote.submitted.inj same
      exact List.mem_append_right _ List.mem_cons_self
    · exact List.mem_append_left _ (kept.timed write other time forced before)
  finished := by
    intro write other listed
    exact kept.finished write other (by simpa using listed)
  stamped := by
    intro other stamp found
    rw [Dict.get?_set] at found
    by_cases own : other = serial
    · rw [if_pos own] at found
      cases Option.some.inj found
      subst own
      refine ⟨_, force, List.mem_cons_self, fun owner failed => ?_⟩
      have before := kept.finished _ owner (by simpa using failed)
      have queued := kept.queued
      omega
    · rw [if_neg own] at found
      obtain ⟨write, forced, listed, alive⟩ := kept.stamped other stamp found
      exact ⟨write, forced, List.mem_cons_of_mem _ listed,
        fun owner => by simpa using alive owner⟩
  covered := by
    intro later write other time forced earlier parts unfailed
    rcases cons_split parts with ⟨_, same, _⟩ | ⟨rest, front, tail⟩
    · obtain ⟨_, rfl, rfl, _⟩ := LivenessNote.submitted.inj same
      exact ⟨now, by rw [Dict.get?_set, if_pos rfl], Int.le_refl _⟩
    · by_cases own : other = serial
      · refine ⟨now, by rw [Dict.get?_set, if_pos own], newest time ?_⟩
        exact kept.timed write other time forced (by rw [tail]; simp)
      · rw [Dict.get?_set, if_neg own]
        exact kept.covered rest write other time forced earlier tail fun k failed =>
          unfailed k (front ▸ List.mem_cons_of_mem _ failed)
  spaced := by
    intro later between earlier other first second before after parts unfailed
    rcases cons_split parts with ⟨_, same, tail⟩ | ⟨rest, _, tail⟩
    · -- the stamp of the earlier submission is still there, so this one has waited
      obtain ⟨_, rfl, rfl, unforced⟩ := LivenessNote.submitted.inj same
      obtain ⟨stamp, held, older⟩ :=
        kept.covered between first serial before false earlier tail unfailed
      have gap := waited unforced stamp held
      omega
    · exact kept.spaced rest between earlier other first second before after tail unfailed
  fresh := kept.fresh.cons fun _ _ same => by cases same

theorem StampsKept.succeed (kept : StampsKept config.heartbeatSeconds events state)
    {serial : String}
    (pending : state.done < state.liveness.submitted.length) :
    StampsKept config.heartbeatSeconds (events ++ [.finished .recorded])
      { state with
        done := state.done + 1
        history := .succeeded state.done serial :: state.history } := by
  have fresh : Fresh config.heartbeatSeconds (.succeeded state.done serial :: state.history) :=
    kept.fresh.cons fun _ _ same => by cases same
  have noted := kept.note (fun _ _ _ _ same => by cases same) (fun _ _ same => by cases same) fresh
  exact
    { noted.skip (.finished .recorded) with
      queued := pending
      finished := fun write other failed => Nat.lt_succ_of_lt (noted.finished write other failed) }

/-- A write that fails takes the stamp of its serial with it: every stamp that stays belongs
to another serial, and so to another write. -/
theorem StampsKept.fail (kept : StampsKept config.heartbeatSeconds events state)
    {write : ContactWrite}
    (pending : state.liveness.submitted[state.done]? = some write) :
    StampsKept config.heartbeatSeconds (events ++ [.finished .unavailable])
      { liveness :=
          { state.liveness with lastWrite := state.liveness.lastWrite.pop write.serial }
        done := state.done + 1
        history := .failed state.done write.serial :: state.history } where
  queued := (List.getElem?_eq_some_iff.mp pending).1
  numbered := by
    intro number other time forced listed
    exact kept.numbered number other time forced (by simpa using listed)
  timed := by
    intro number other time forced listed
    rw [contactTimes_snoc]
    exact List.mem_append_left _ (kept.timed number other time forced (by simpa using listed))
  finished := by
    intro number other listed
    rcases List.mem_cons.mp listed with same | before
    · rw [(LivenessNote.failed.inj same).1]
      exact Nat.lt_succ_self _
    · exact Nat.lt_succ_of_lt (kept.finished number other before)
  stamped := by
    intro other time found
    rw [Dict.get?_pop] at found
    by_cases own : other = write.serial
    · rw [if_pos own] at found
      cases found
    · rw [if_neg own] at found
      obtain ⟨number, forced, listed, alive⟩ := kept.stamped other time found
      refine ⟨number, forced, List.mem_cons_of_mem _ listed, fun owner failed => ?_⟩
      rcases List.mem_cons.mp failed with same | before
      · have owned := kept.numbered number other time forced listed
        rw [(LivenessNote.failed.inj same).1, pending] at owned
        exact own (Option.some.inj owned).symm
      · exact alive owner before
  covered := by
    intro later number other time forced earlier parts unfailed
    rcases cons_split parts with ⟨_, same, _⟩ | ⟨rest, front, tail⟩
    · cases same
    · have spared : other ≠ write.serial := fun own =>
        unfailed state.done (by rw [front, own]; exact List.mem_cons_self)
      rw [Dict.get?_pop, if_neg spared]
      exact kept.covered rest number other time forced earlier tail fun k failed =>
        unfailed k (front ▸ List.mem_cons_of_mem _ failed)
  spaced := kept.spaced.cons fun _ _ _ _ same => by cases same
  fresh := kept.fresh.cons fun _ _ same => by cases same

theorem StampsKept.step (kept : StampsKept config.heartbeatSeconds events state)
    (event : LivenessEvent)
    (ordered : ∀ time ∈ contactTimes events, ∀ now ∈ contactTimes [event], time ≤ now) :
    StampsKept config.heartbeatSeconds (events ++ [event]) (state.step config event) := by
  cases event with
  | contact now serial ipAddress force =>
      have newest : ∀ time ∈ contactTimes events, time ≤ now := fun time listed =>
        ordered time listed now List.mem_cons_self
      rcases step_contact_cases config state now serial ipAddress force with
        skipped | ⟨stamp, held, young, suppressed⟩ | ⟨waited, submitted⟩
      · rw [skipped]
        exact kept.skip _
      · rw [suppressed]
        exact kept.suppress _ held young
      · rw [submitted]
        exact kept.submit newest waited
  | finished result =>
      cases pending : state.liveness.submitted[state.done]? with
      | none =>
          rw [Throttled.step, pending]
          exact kept.skip _
      | some write =>
          rw [Throttled.step, pending]
          cases result with
          | recorded => exact kept.succeed (List.getElem?_eq_some_iff.mp pending).1
          | unavailable => exact kept.fail pending

theorem stampsKept_run (config : SyncConfig) (events : List LivenessEvent)
    (ordered : (contactTimes events).Pairwise (· ≤ ·)) :
    StampsKept config.heartbeatSeconds events (Throttled.run config events) := by
  induction events using List.reverseRecOn with
  | nil => exact stampsKept_start _
  | append_singleton events event ih =>
      rw [contactTimes_snoc, List.pairwise_append] at ordered
      rw [Throttled.run, List.foldl_append]
      exact (ih ordered.1).step event ordered.2.2

/-- The throttle is neither too eager nor stale. -/
theorem throttle_spaced_and_fresh (config : SyncConfig) (events : List LivenessEvent)
    (ordered : (contactTimes events).Pairwise (· ≤ ·)) :
    Spaced config.heartbeatSeconds (Throttled.run config events).history ∧
      Fresh config.heartbeatSeconds (Throttled.run config events).history :=
  ⟨(stampsKept_run config events ordered).spaced, (stampsKept_run config events ordered).fresh⟩

theorem throttle_spaced_and_fresh_one_reader :
    let events := [.contact 0 "A" none false, .contact 5 "A" none false, .finished .unavailable,
      .contact 7 "A" none false, .contact 70 "A" none false]
    Spaced 60 (Throttled.run ⟨true, 60⟩ events).history ∧
      Fresh 60 (Throttled.run ⟨true, 60⟩ events).history ∧
      (Throttled.run ⟨true, 60⟩ events).history =
        [.submitted 2 "A" 70 false, .submitted 1 "A" 7 false, .failed 0 "A",
          .suppressed "A" 5, .submitted 0 "A" 0 false] :=
  let guarded := throttle_spaced_and_fresh ⟨true, 60⟩
    [.contact 0 "A" none false, .contact 5 "A" none false, .finished .unavailable,
      .contact 7 "A" none false, .contact 70 "A" none false] (by decide)
  ⟨guarded.1, guarded.2, by decide +kernel⟩

end PumoBioMetric.Sync
