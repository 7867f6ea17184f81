import PumoBioMetric.Library.TransitionRun
import PumoBioMetric.Sync.Liveness

/-!
# What the console shows of a reader's contacts

The handlers submit writes, one background thread works them off in order, and each of them may
fail.  Handlers and thread take turns in any way.
-/

set_option autoImplicit false

namespace PumoBioMetric.Sync

open PumoBioMetric.Py TransitionRun

inductive WriteOutcome where
  | committed (now : Int)
  /-- `LmsUnavailableError` -/
  | unavailable
  | otherError
deriving DecidableEq, Repr

/-- A job of `_writer`; the time of its submission is not part of it in the code. -/
inductive WriterJob where
  | write (serial : String) (ipAddress : Option String) (submittedAt : Int)
  | recordError (serial message : String)
deriving DecidableEq, Repr

/-- A heartbeat that the thread has tried to write. -/
structure WriteAttempt where
  submittedAt : Int
  ipAddress : Option String
  outcome : WriteOutcome
deriving DecidableEq, Repr

structure LivenessService where
  /-- `_last_write` -/
  lastWrite : Dict Int
  /-- What waits for the thread. -/
  queue : List WriterJob
  devices : List LmsDevice
  /-- The last submission of each serial. -/
  submitted : Dict Int
  /-- The last attempt for each serial. -/
  attempted : Dict WriteAttempt

def LivenessService.started (devices : List LmsDevice) : LivenessService :=
  ⟨[], [], devices, [], []⟩

/-- `record_traffic_error` of `LmsDatabase`. -/
def recordTrafficError (serialNo message : String) (devices : List LmsDevice) : List LmsDevice :=
  devices.map fun device =>
    if device.serialNo = serialNo then
      { device with lastError := some (String.ofList (message.toList.take 300)) }
    else device

inductive WriterEvent where
  /-- `mark_seen` with a serial, at this time of the monotonic clock. -/
  | contact (serial : String) (ipAddress : Option String) (now : Int) (force : Bool)
  /-- `record_traffic_error` with a serial. -/
  | trafficError (serial message : String)
  /-- The thread ends its oldest job. -/
  | work (outcome : WriteOutcome)
deriving DecidableEq, Repr

namespace LivenessService

variable (service : LivenessService)

def markSeen (config : SyncConfig) (serial : String) (ipAddress : Option String) (now : Int)
    (force : Bool) : LivenessService :=
  if serial = "" || !config.active then service
  else
    match shouldWrite config now service.lastWrite serial force with
    | (false, lastWrite) => { service with lastWrite := lastWrite }
    | (true, lastWrite) =>
        { service with
          lastWrite := lastWrite
          queue := service.queue ++ [.write serial ipAddress now]
          submitted := service.submitted.set serial now }

def recordTrafficError (config : SyncConfig) (serial message : String) : LivenessService :=
  if serial = "" || !config.active then service
  else { service with queue := service.queue ++ [.recordError serial message] }

/-- `_write` and `_record_error`. -/
def work (outcome : WriteOutcome) : Option LivenessService :=
  match service.queue with
  | [] => none
  | .write serial ipAddress submittedAt :: rest =>
      some { service with
        queue := rest
        -- The next contact is not held back by one that was not recorded.
        lastWrite :=
          if outcome = .unavailable then service.lastWrite.pop serial else service.lastWrite
        devices :=
          match outcome with
          | .committed now => (heartbeat now serial ipAddress service.devices).1
          | .unavailable | .otherError => service.devices
        attempted := service.attempted.set serial ⟨submittedAt, ipAddress, outcome⟩ }
  | .recordError serial message :: rest =>
      some { service with
        queue := rest
        devices :=
          match outcome with
          | .committed _ => Sync.recordTrafficError serial message service.devices
          | .unavailable | .otherError => service.devices }

def step (config : SyncConfig) : WriterEvent → Option LivenessService
  | .contact serial ipAddress now force =>
      some (service.markSeen config serial ipAddress now force)
  | .trafficError serial message => some (service.recordTrafficError config serial message)
  | .work outcome => service.work outcome

end LivenessService

def WriterStep (config : SyncConfig) (before : LivenessService) (event : WriterEvent)
    (after : LivenessService) : Prop :=
  before.step config event = some after

/-! ## What holds in every state -/

def WriterJob.timeFor (serial : String) : WriterJob → Option Int
  | .write other _ submittedAt => if other = serial then some submittedAt else none
  | .recordError _ _ => none

def pendingFor (serial : String) (queue : List WriterJob) : List Int :=
  queue.filterMap (WriterJob.timeFor serial)

/-- The devices of the serial show the heartbeat. -/
def Stamped (devices : List LmsDevice) (serial : String) (attempt : WriteAttempt) (now : Int) :
    Prop :=
  ∀ device ∈ devices, device.serialNo = serial →
    device.lastSeenAt = some now ∧ device.offlineAlertedAt = none ∧
      ∀ ip ∈ attempt.ipAddress, device.ipAddress = some ip

structure Followed (service : LivenessService) (serial : String) : Prop where
  /-- A contact that is remembered was the last one submitted. -/
  remembered : ∀ time, service.lastWrite.get? serial = some time →
    service.submitted.get? serial = some time
  /-- The last submission waits, or was the last that was tried. -/
  last : (((service.attempted.get? serial).map WriteAttempt.submittedAt).toList ++
    pendingFor serial service.queue).getLast? = service.submitted.get? serial
  shown : ∀ attempt now, service.attempted.get? serial = some attempt →
    attempt.outcome = .committed now → Stamped service.devices serial attempt now
  /-- A contact that was not recorded does not hold back the next one. -/
  forgotten : ∀ attempt, service.attempted.get? serial = some attempt →
    attempt.outcome = .unavailable → pendingFor serial service.queue = [] →
      service.lastWrite.get? serial = none

theorem followed_started (devices : List LmsDevice) (serial : String) :
    Followed (.started devices) serial where
  remembered := fun _ held => by cases held
  last := rfl
  shown := fun _ _ tried => by cases tried
  forgotten := fun _ tried => by cases tried

theorem shouldWrite_cases (config : SyncConfig) (now : Int) (lastWrite : Dict Int) (serial : String)
    (force : Bool) :
    shouldWrite config now lastWrite serial force = (true, lastWrite.set serial now) ∨
      ∃ previous, lastWrite.get? serial = some previous ∧
        now - previous < config.heartbeatSeconds ∧
        shouldWrite config now lastWrite serial force = (false, lastWrite) := by
  unfold shouldWrite
  cases lastWrite.get? serial with
  | none => exact .inl rfl
  | some previous =>
      by_cases recent : (!force && now - previous < config.heartbeatSeconds) = true
      · refine .inr ⟨previous, rfl, ?_, by simp [recent]⟩
        rw [Bool.and_eq_true, decide_eq_true_eq] at recent
        exact recent.2
      · exact .inl (by simp [recent])

theorem pendingFor_append (serial : String) (queue : List WriterJob) (job : WriterJob) :
    pendingFor serial (queue ++ [job]) =
      pendingFor serial queue ++ (job.timeFor serial).toList := by
  rw [pendingFor, List.filterMap_append, pendingFor]
  cases found : job.timeFor serial <;> simp [found]

theorem pendingFor_cons (serial : String) (job : WriterJob) (rest : List WriterJob) :
    pendingFor serial (job :: rest) = (job.timeFor serial).toList ++ pendingFor serial rest := by
  rw [pendingFor, List.filterMap_cons, pendingFor]
  cases found : job.timeFor serial <;> simp

theorem followed_markSeen {service : LivenessService} {serial : String}
    (followed : Followed service serial) (config : SyncConfig) (other : String)
    (ipAddress : Option String) (now : Int) (force : Bool) :
    Followed (service.markSeen config other ipAddress now force) serial := by
  unfold LivenessService.markSeen
  split
  · exact followed
  · rcases shouldWrite_cases config now service.lastWrite other force with
      fires | ⟨previous, held, recent, skips⟩
    · rw [fires]
      by_cases own : serial = other
      · subst own
        refine ⟨?_, ?_, followed.shown, ?_⟩
        · intro time held
          rw [Dict.get?_set, if_pos rfl] at held ⊢
          exact held
        · rw [pendingFor_append, WriterJob.timeFor, if_pos rfl, Option.toList_some,
            ← List.append_assoc, List.getLast?_concat, Dict.get?_set, if_pos rfl]
        · intro attempt _ _ nothing
          rw [pendingFor_append, WriterJob.timeFor, if_pos rfl] at nothing
          exact absurd nothing (by simp)
      · refine ⟨?_, ?_, followed.shown, ?_⟩
        · intro time held
          rw [Dict.get?_set, if_neg own] at held ⊢
          exact followed.remembered time held
        · rw [pendingFor_append, WriterJob.timeFor, if_neg (Ne.symm own), Option.toList_none,
            List.append_nil, Dict.get?_set, if_neg own]
          exact followed.last
        · intro attempt tried failed nothing
          rw [pendingFor_append, WriterJob.timeFor, if_neg (Ne.symm own), Option.toList_none,
            List.append_nil] at nothing
          rw [Dict.get?_set, if_neg own]
          exact followed.forgotten attempt tried failed nothing
    · rw [skips]
      exact followed

theorem followed_recordTrafficError {service : LivenessService} {serial : String}
    (followed : Followed service serial) (config : SyncConfig) (other message : String) :
    Followed (service.recordTrafficError config other message) serial := by
  unfold LivenessService.recordTrafficError
  split
  · exact followed
  · have same : pendingFor serial (service.queue ++ [.recordError other message]) =
        pendingFor serial service.queue := by
      rw [pendingFor_append, WriterJob.timeFor, Option.toList_none, List.append_nil]
    exact ⟨followed.remembered, same ▸ followed.last, followed.shown, same ▸ followed.forgotten⟩

theorem stamped_heartbeat (devices : List LmsDevice) (now : Int) {serial : String}
    {attempt : WriteAttempt} {ipAddress : Option String} (same : attempt.ipAddress = ipAddress) :
    Stamped (heartbeat now serial ipAddress devices).1 serial attempt now := by
  intro device listed own
  obtain ⟨before, member, rfl⟩ := List.mem_map.mp listed
  by_cases named : before.serialNo = serial
  · rw [if_pos named]
    refine ⟨rfl, rfl, fun ip given => ?_⟩
    rw [same, Option.mem_def] at given
    rw [given]
    rfl
  · rw [if_neg named] at own
    exact absurd own named

theorem Stamped.map {devices : List LmsDevice} {serial : String} {attempt : WriteAttempt}
    {now : Int} (stamped : Stamped devices serial attempt now) {change : LmsDevice → LmsDevice}
    (serials : ∀ device, (change device).serialNo = device.serialNo)
    (keeps : ∀ device, device.serialNo = serial →
      (change device).lastSeenAt = device.lastSeenAt ∧
        (change device).offlineAlertedAt = device.offlineAlertedAt ∧
        (change device).ipAddress = device.ipAddress) :
    Stamped (devices.map change) serial attempt now := by
  intro device listed own
  obtain ⟨before, member, rfl⟩ := List.mem_map.mp listed
  rw [serials] at own
  obtain ⟨seen, alerted, address⟩ := keeps before own
  rw [seen, alerted, address]
  exact stamped before member own

theorem Stamped.heartbeat {devices : List LmsDevice} {serial other : String}
    {attempt : WriteAttempt} {now : Int} (stamped : Stamped devices serial attempt now)
    (apart : serial ≠ other) (time : Int) (ipAddress : Option String) :
    Stamped (heartbeat time other ipAddress devices).1 serial attempt now := by
  refine stamped.map (fun device => ?_) fun device named => ?_
  · split <;> rfl
  · rw [if_neg (by rw [named]; exact apart)]
    exact ⟨rfl, rfl, rfl⟩

theorem Stamped.recordTrafficError {devices : List LmsDevice} {serial : String}
    {attempt : WriteAttempt} {now : Int} (stamped : Stamped devices serial attempt now)
    (other message : String) :
    Stamped (recordTrafficError other message devices) serial attempt now := by
  refine stamped.map (fun device => ?_) fun device _ => ?_
  · split <;> rfl
  · split <;> exact ⟨rfl, rfl, rfl⟩

theorem get?_of_forgotten {lastWrite : Dict Int} {serial other : String} {time : Int}
    {outcome : WriteOutcome}
    (held : (if outcome = .unavailable then lastWrite.pop other else lastWrite).get? serial =
      some time) : lastWrite.get? serial = some time := by
  split at held
  · rw [Dict.get?_pop] at held
    split at held
    · cases held
    · exact held
  · exact held

theorem followed_work {service after : LivenessService} {serial : String}
    (followed : Followed service serial) {outcome : WriteOutcome}
    (worked : service.work outcome = some after) : Followed after serial := by
  obtain ⟨remembered, last, shown, forgotten⟩ := followed
  unfold LivenessService.work at worked
  split at worked
  · cases worked
  · rename_i other ipAddress submittedAt rest waiting
    cases Option.some.inj worked
    rw [waiting, pendingFor_cons, WriterJob.timeFor] at last forgotten
    refine ⟨fun time held => remembered time (get?_of_forgotten held), ?_, ?_, ?_⟩
    · by_cases own : serial = other
      · subst own
        rw [if_pos rfl, Option.toList_some, List.singleton_append, List.getLast?_append_cons]
          at last
        rw [Dict.get?_set, if_pos rfl]
        exact last
      · rw [if_neg (Ne.symm own), Option.toList_none, List.nil_append] at last
        rw [Dict.get?_set, if_neg own]
        exact last
    · intro attempt now tried committed
      rw [Dict.get?_set] at tried
      by_cases own : serial = other
      · subst own
        rw [if_pos rfl] at tried
        cases tried
        rw [show outcome = .committed now from committed]
        exact stamped_heartbeat service.devices now rfl
      · rw [if_neg own] at tried
        have before := shown attempt now tried committed
        cases outcome with
        | committed time => exact before.heartbeat own time ipAddress
        | unavailable => exact before
        | otherError => exact before
    · intro attempt tried failed nothing
      rw [Dict.get?_set] at tried
      by_cases own : serial = other
      · subst own
        rw [if_pos rfl] at tried
        cases tried
        rw [if_pos (show outcome = .unavailable from failed), Dict.get?_pop, if_pos rfl]
      · rw [if_neg own] at tried
        rw [if_neg (Ne.symm own), Option.toList_none, List.nil_append] at forgotten
        have before := forgotten attempt tried failed nothing
        split
        · rw [Dict.get?_pop, if_neg own]
          exact before
        · exact before
  · rename_i other message rest waiting
    cases Option.some.inj worked
    rw [waiting, pendingFor_cons, WriterJob.timeFor, Option.toList_none, List.nil_append]
      at last forgotten
    refine ⟨remembered, last, ?_, forgotten⟩
    intro attempt now tried committed
    have before := shown attempt now tried committed
    cases outcome with
    | committed time => exact before.recordTrafficError other message
    | unavailable => exact before
    | otherError => exact before

theorem followed_step (config : SyncConfig) (serial : String) (before : LivenessService)
    (event : WriterEvent) (after : LivenessService) (followed : Followed before serial)
    (step : WriterStep config before event after) : Followed after serial := by
  cases event with
  | contact other ipAddress now force =>
      cases Option.some.inj step
      exact followed_markSeen followed config other ipAddress now force
  | trafficError other message =>
      cases Option.some.inj step
      exact followed_recordTrafficError followed config other message
  | work outcome => exact followed_work followed step

/-! ## The last contact of a reader -/

def WriterEvent.ContactOf (serial : String) : WriterEvent → Prop
  | .contact other _ _ _ => other = serial
  | _ => False

/-- The last submission of the serial was at this contact, or less than the throttle before. -/
def Recent (config : SyncConfig) (service : LivenessService) (serial : String) (now : Int) : Prop :=
  ∃ submittedAt, service.submitted.get? serial = some submittedAt ∧
    (submittedAt = now ∨ now - submittedAt < config.heartbeatSeconds)

theorem recent_markSeen {config : SyncConfig} (active : config.active = true)
    {service : LivenessService} {serial : String} (present : serial ≠ "")
    (followed : Followed service serial) (ipAddress : Option String) (now : Int) (force : Bool) :
    Recent config (service.markSeen config serial ipAddress now force) serial now := by
  unfold LivenessService.markSeen
  rw [if_neg (by simp [present, active])]
  rcases shouldWrite_cases config now service.lastWrite serial force with
    fires | ⟨previous, held, recent, skips⟩
  · rw [fires]
    exact ⟨now, by rw [Dict.get?_set, if_pos rfl], .inl rfl⟩
  · rw [skips]
    exact ⟨previous, followed.remembered previous held, .inr recent⟩

theorem submitted_step (config : SyncConfig) {serial : String} {before after : LivenessService}
    {event : WriterEvent} (other : ¬ event.ContactOf serial)
    (step : WriterStep config before event after) :
    after.submitted.get? serial = before.submitted.get? serial := by
  cases event with
  | contact key ipAddress now force =>
      cases Option.some.inj step
      unfold LivenessService.markSeen
      split
      · rfl
      · split
        · rfl
        · rw [Dict.get?_set, if_neg (Ne.symm other)]
  | trafficError key message =>
      cases Option.some.inj step
      unfold LivenessService.recordTrafficError
      split <;> rfl
  | work outcome =>
      rw [WriterStep, LivenessService.step, LivenessService.work] at step
      split at step
      · cases step
      · cases Option.some.inj step
        rfl
      · cases Option.some.inj step
        rfl

/-- Of a reader that called in, at any later moment before its next contact: a heartbeat waits for
the thread, or the last one was submitted at that contact or less than the throttle before, and the
console shows it where it was written, and the next contact submits another one where the database
could not be reached. -/
theorem contact_reaches_console {config : SyncConfig} (active : config.active = true)
    {devices : List LmsDevice} {earlier later : List WriterEvent} {serial : String}
    (present : serial ≠ "") {ipAddress : Option String} {now : Int} {force : Bool}
    {final : LivenessService}
    (run : Run (WriterStep config) (.started devices)
      (earlier ++ .contact serial ipAddress now force :: later) final)
    (quiet : ∀ event ∈ later, ¬ event.ContactOf serial) :
    pendingFor serial final.queue ≠ [] ∨
      ∃ attempt, final.attempted.get? serial = some attempt ∧
        (attempt.submittedAt = now ∨ now - attempt.submittedAt < config.heartbeatSeconds) ∧
        (∀ time, attempt.outcome = .committed time → Stamped final.devices serial attempt time) ∧
        (attempt.outcome = .unavailable → ∀ address time forced,
          (final.markSeen config serial address time forced).queue =
            final.queue ++ [.write serial address time]) := by
  obtain ⟨before, front, back⟩ := run.split
  obtain ⟨after, step, onward⟩ := back.uncons
  have start := front.preserves (followed_step config serial) (followed_started devices serial)
  have recent : Recent config after serial now := by
    cases Option.some.inj step
    exact recent_markSeen active present start ipAddress now force
  have next := followed_step config serial before _ after start step
  have followed := onward.preserves (followed_step config serial) next
  have stays : ∀ first event second, ¬ event.ContactOf serial →
      WriterStep config first event second → Recent config first serial now →
      Recent config second serial now := by
    intro first event second other taken ⟨submittedAt, held, close⟩
    exact ⟨submittedAt, (submitted_step config other taken).trans held, close⟩
  obtain ⟨submittedAt, held, close⟩ := onward.preserves_while stays quiet recent
  by_cases waits : pendingFor serial final.queue = []
  · right
    have last := followed.last
    rw [waits, List.append_nil, held] at last
    cases tried : final.attempted.get? serial with
    | none =>
        rw [tried] at last
        cases last
    | some attempt =>
        rw [tried] at last
        cases last
        refine ⟨attempt, rfl, close, fun time committed =>
          followed.shown attempt time tried committed, fun failed address time forced => ?_⟩
        have unheld := followed.forgotten attempt tried failed waits
        unfold LivenessService.markSeen
        rw [if_neg (by simp [present, active]), shouldWrite, unheld]
  · exact .inl waits

def handshakeWritten : LivenessService where
  lastWrite := [("ZK1", 0)]
  queue := []
  devices := [⟨"ZK1", some 100, none, none, some "192.168.0.50"⟩]
  submitted := [("ZK1", 0)]
  attempted := [("ZK1", ⟨0, some "192.168.0.50", .committed 100⟩)]

theorem contact_reaches_console_handshake :
    Stamped handshakeWritten.devices "ZK1" ⟨0, some "192.168.0.50", .committed 100⟩ 100 := by
  have run : Run (WriterStep ⟨true, 60⟩) (.started [⟨"ZK1", none, some 5, none, none⟩])
      ([] ++ .contact "ZK1" (some "192.168.0.50") 0 true :: [.work (.committed 100)])
      handshakeWritten := .cons rfl (.cons rfl (.nil _))
  have quiet : ∀ event ∈ [WriterEvent.work (.committed 100)], ¬ event.ContactOf "ZK1" := by
    intro event listed
    rw [List.mem_singleton.mp listed]
    exact id
  have active : (SyncConfig.mk true 60).active = true := rfl
  rcases contact_reaches_console active (by decide) run quiet with waits |
    ⟨attempt, tried, _, shown, _⟩
  · exact absurd rfl waits
  · cases tried
    exact shown 100 rfl

end PumoBioMetric.Sync
