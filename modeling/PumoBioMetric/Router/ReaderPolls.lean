import PumoBioMetric.Router.IclockServer

/-!
# When a queued command reaches its reader

The commands that wait for a reader are the answers to its next polls, in their order, whatever
other calls come in between.  A command that is queued behind them is the answer to the poll after
those, to no other one and to no other reader.
-/

set_option autoImplicit false

namespace PumoBioMetric.Router

open Py Sync

section

variable [UnicodeTables]

/-! ## The queue -/

def CommandRecord.pollOf (serial : String) : CommandRecord → Option String
  | .queued _ _ => none
  | .polled sn answer => if cleanSerial sn = serial then some answer else none

def polls (serial : String) (records : List CommandRecord) : List String :=
  records.filterMap (CommandRecord.pollOf serial)

theorem waiting_queueDeviceCmd (queue : CommandQueue) (sn cmdBody serial : String) :
    (queueDeviceCmd queue sn cmdBody).2.waiting serial =
      queue.waiting serial ++
        if cleanSerial (some sn) = serial then [(queueDeviceCmd queue sn cmdBody).1] else [] := by
  have changed : (queueDeviceCmd queue sn cmdBody).2.waiting =
      Function.update queue.waiting (cleanSerial (some sn))
        (queue.waiting (cleanSerial (some sn)) ++ [(queueDeviceCmd queue sn cmdBody).1]) :=
    waiting_set _ _ _ _
  rw [changed, Function.update_apply]
  by_cases own : serial = cleanSerial (some sn)
  · rw [if_pos own, if_pos own.symm, own]
  · rw [if_neg own, if_neg (Ne.symm own), List.append_nil]

/-- A poll takes the oldest command of its reader and leaves those of all others. -/
theorem waiting_pollCommand (queue : CommandQueue) (sn : Option String) :
    (∀ serial, serial ≠ cleanSerial sn →
      (pollCommand queue sn).2.waiting serial = queue.waiting serial) ∧
    (cleanSerial sn ≠ "" →
      (pollCommand queue sn).2.waiting (cleanSerial sn) = (queue.waiting (cleanSerial sn)).tail ∧
        (pollCommand queue sn).1 = (queue.waiting (cleanSerial sn)).head?.getD "OK") ∧
    (cleanSerial sn = "" → pollCommand queue sn = ("OK", queue)) := by
  refine ⟨?_, ?_, fun blank => if_pos blank⟩
  · intro serial other
    by_cases blank : cleanSerial sn = ""
    · rw [show pollCommand queue sn = ("OK", queue) from if_pos blank]
    · rw [show pollCommand queue sn = queue.serve (cleanSerial sn) from if_neg blank]
      rcases serve_cases queue (cleanSerial sn) with ⟨_, served⟩ | ⟨_, rest, _, _, changed⟩
      · rw [served]
      · rw [changed, Function.update_of_ne other]
  · intro present
    rw [show pollCommand queue sn = queue.serve (cleanSerial sn) from if_neg present]
    rcases serve_cases queue (cleanSerial sn) with
      ⟨empty, served⟩ | ⟨command, rest, oldest, given, changed⟩
    · simp [served, empty]
    · rw [changed, Function.update_self, given, oldest]
      exact ⟨rfl, rfl⟩

theorem polls_poll (serial : String) (queue : CommandQueue) (sn : Option String)
    (rest : List CommandEvent) :
    polls serial (runCommands queue (.poll sn :: rest)).1 =
      (if cleanSerial sn = serial then [(pollCommand queue sn).1] else []) ++
        polls serial (runCommands (pollCommand queue sn).2 rest).1 := by
  by_cases own : cleanSerial sn = serial
  · simp [polls, runCommands, commandStep, CommandRecord.pollOf, own]
  · simp [polls, runCommands, commandStep, CommandRecord.pollOf, own]

theorem polls_take_prefix {serial : String} (present : serial ≠ "") (queue : CommandQueue)
    (events : List CommandEvent) :
    (polls serial (runCommands queue events).1).take (queue.waiting serial).length <+:
      queue.waiting serial := by
  induction events generalizing queue with
  | nil => simp [runCommands, polls]
  | cons event rest ih =>
      cases event with
      | queue sn cmdBody =>
          have later := (ih (queueDeviceCmd queue sn cmdBody).2).take (queue.waiting serial).length
          rw [waiting_queueDeviceCmd, List.take_take, List.length_append,
            Nat.min_eq_left (Nat.le_add_right _ _), List.take_left'  rfl] at later
          exact later
      | poll sn =>
          obtain ⟨others, own, _⟩ := waiting_pollCommand queue sn
          have later := ih (pollCommand queue sn).2
          by_cases same : cleanSerial sn = serial
          · subst same
            obtain ⟨left, answer⟩ := own present
            rw [left] at later
            rw [polls_poll, if_pos rfl, answer]
            cases waits : queue.waiting (cleanSerial sn) with
            | nil => simp
            | cons command behind =>
                rw [waits] at later
                simpa using later
          · rw [others serial (Ne.symm same)] at later
            rw [polls_poll, if_neg same]
            exact later

/-- How often a command was answered to a reader and how often it waits. -/
theorem count_polls {serial command : String} (present : serial ≠ "") (real : command ≠ "OK")
    (queue : CommandQueue) (events : List CommandEvent) :
    (polls serial (runCommands queue events).1).count command +
        ((runCommands queue events).2.waiting serial).count command =
      (queue.waiting serial).count command +
        ((runCommands queue events).1.filterMap (CommandRecord.queuedFor serial)).count
          command := by
  induction events generalizing queue with
  | nil => simp [runCommands, polls]
  | cons event rest ih =>
      cases event with
      | queue sn cmdBody =>
          have later := ih (queueDeviceCmd queue sn cmdBody).2
          rw [waiting_queueDeviceCmd, List.count_append] at later
          simp only [polls, runCommands, commandStep, List.filterMap_cons, CommandRecord.pollOf,
            CommandRecord.queuedFor] at later ⊢
          by_cases own : cleanSerial (some sn) = serial
          · simp only [own, if_true, List.count_cons, List.count_nil] at later ⊢
            omega
          · simp only [own, if_false, List.count_nil, Nat.add_zero] at later ⊢
            exact later
      | poll sn =>
          obtain ⟨others, own, _⟩ := waiting_pollCommand queue sn
          have later := ih (pollCommand queue sn).2
          have queued : (runCommands queue (.poll sn :: rest)).1.filterMap
              (CommandRecord.queuedFor serial) =
                (runCommands (pollCommand queue sn).2 rest).1.filterMap
                  (CommandRecord.queuedFor serial) := rfl
          have final : (runCommands queue (.poll sn :: rest)).2 =
              (runCommands (pollCommand queue sn).2 rest).2 := rfl
          rw [polls_poll, queued, final]
          by_cases same : cleanSerial sn = serial
          · subst same
            obtain ⟨left, answer⟩ := own present
            rw [left] at later
            rw [if_pos rfl, answer, List.count_append]
            cases waits : queue.waiting (cleanSerial sn) with
            | nil =>
                rw [waits] at later
                have none : List.count command ["OK"] = 0 := by simp [Ne.symm real]
                simp only [List.head?_nil, Option.getD_none, List.tail_nil, none] at later ⊢
                omega
            | cons first behind =>
                rw [waits] at later
                have parts : (first :: behind).count command =
                    [first].count command + behind.count command := by
                  rw [← List.count_append]
                  rfl
                simp only [List.tail_cons, List.head?_cons, Option.getD_some, parts] at later ⊢
                omega
          · rw [others serial (Ne.symm same)] at later
            rw [if_neg same]
            exact later

/-! ## Numbers -/

def CommandQueue.Below (queue : CommandQueue) : Prop :=
  ∀ serial, ∀ command ∈ queue.waiting serial,
    ∃ number : Nat, number ≤ queue.counter ∧ commandNumber command = some (number : Int)

omit [UnicodeTables] in
theorem below_initial : CommandQueue.initial.Below := by
  intro serial command listed
  cases listed

theorem below_queueDeviceCmd {queue : CommandQueue} (below : queue.Below) (sn cmdBody : String) :
    (queueDeviceCmd queue sn cmdBody).2.Below := by
  intro serial command listed
  have counted : (queueDeviceCmd queue sn cmdBody).2.counter = queue.counter + 1 := rfl
  rw [waiting_queueDeviceCmd] at listed
  rcases List.mem_append.mp listed with before | new
  · obtain ⟨number, small, read⟩ := below serial command before
    exact ⟨number, by omega, read⟩
  · split at new
    · rw [List.mem_singleton.mp new]
      exact ⟨queue.counter + 1, by omega, commandNumber_text _ _⟩
    · cases new

theorem below_pollCommand {queue : CommandQueue} (below : queue.Below) (sn : Option String) :
    (pollCommand queue sn).2.Below := by
  intro serial command listed
  rw [counter_pollCommand]
  obtain ⟨others, own, blank⟩ := waiting_pollCommand queue sn
  by_cases same : serial = cleanSerial sn
  · subst same
    by_cases present : cleanSerial sn = ""
    · rw [blank present] at listed
      exact below _ command listed
    · rw [(own present).1] at listed
      exact below _ command (List.mem_of_mem_tail listed)
  · rw [others serial same] at listed
    exact below serial command listed

theorem number_queuedFor (queue : CommandQueue) (events : List CommandEvent) (serial : String) :
    ∀ command ∈ (runCommands queue events).1.filterMap (CommandRecord.queuedFor serial),
      ∃ number : Nat, queue.counter < number ∧ commandNumber command = some (number : Int) := by
  intro command listed
  obtain ⟨count, numbers⟩ := numbers_runCommands queue events
  obtain ⟨record, recorded, own⟩ := List.mem_filterMap.mp listed
  have queued : record.command = some command := by
    cases record with
    | queued sn text =>
        rw [CommandRecord.queuedFor] at own
        split at own
        · exact own
        · cases own
    | polled sn answer => cases own
  have numbered : commandNumber command ∈
      (List.range' (queue.counter + 1) count).map fun number : Nat => some (number : Int) := by
    rw [← numbers]
    exact List.mem_map_of_mem (List.mem_filterMap.mpr ⟨record, recorded, queued⟩)
  obtain ⟨number, inRange, same⟩ := List.mem_map.mp numbered
  exact ⟨number, by have := (List.mem_range'_1.mp inRange).1; omega, same.symm⟩

/-- A command that is queued behind others is the answer to its reader's poll after those, once,
and no answer to another reader. -/
theorem queued_answered_once {queue : CommandQueue} (below : queue.Below) (sn cmdBody : String)
    (present : cleanSerial (some sn) ≠ "") (events : List CommandEvent) :
    let queued := queueDeviceCmd queue sn cmdBody
    let records := (runCommands queued.2 events).1
    let ahead := (queue.waiting (cleanSerial (some sn))).length
    ahead < (polls (cleanSerial (some sn)) records).length →
      (polls (cleanSerial (some sn)) records)[ahead]? = some queued.1 ∧
        (polls (cleanSerial (some sn)) records).count queued.1 = 1 ∧
        ∀ other, other ≠ "" → other ≠ cleanSerial (some sn) → queued.1 ∉ polls other records := by
  intro queued records ahead enough
  have number : commandNumber queued.1 = some ((queue.counter + 1 : Nat) : Int) :=
    commandNumber_text _ _
  have real : queued.1 ≠ "OK" := command_ne_ok _ _
  have fresh (serial : String) : queued.1 ∉ queue.waiting serial := by
    intro listed
    obtain ⟨old, small, read⟩ := below serial queued.1 listed
    rw [number] at read
    have same := Int.ofNat.inj (Option.some.inj read)
    omega
  have never (serial : String) :
      (records.filterMap (CommandRecord.queuedFor serial)).count queued.1 = 0 := by
    refine List.count_eq_zero.mpr fun listed => ?_
    obtain ⟨later, higher, read⟩ := number_queuedFor queued.2 events serial queued.1 listed
    rw [number] at read
    have same := Int.ofNat.inj (Option.some.inj read)
    have counted : queued.2.counter = queue.counter + 1 := rfl
    omega
  have behind := waiting_queueDeviceCmd queue sn cmdBody (cleanSerial (some sn))
  rw [if_pos rfl] at behind
  have place : (polls (cleanSerial (some sn)) records)[ahead]? = some queued.1 := by
    have first := polls_take_prefix present queued.2 events
    rw [behind, List.length_append, List.length_singleton] at first
    obtain ⟨rest, split⟩ := first
    have kept : ahead < ((polls (cleanSerial (some sn)) records).take (ahead + 1)).length := by
      rw [List.length_take]
      omega
    have same := congrArg (fun answers : List String => answers[ahead]?) split
    rw [List.getElem?_append_left kept, List.getElem?_take_of_lt (Nat.lt_succ_self ahead),
      List.getElem?_append_right (Nat.le_refl _), Nat.sub_self] at same
    exact same
  have balance (serial : String) (filled : serial ≠ "") :
      (polls serial records).count queued.1 ≤ (queued.2.waiting serial).count queued.1 := by
    have counted := count_polls filled real queued.2 events
    rw [never serial, Nat.add_zero] at counted
    exact counted ▸ Nat.le_add_right _ _
  have once : (queued.2.waiting (cleanSerial (some sn))).count queued.1 = 1 := by
    rw [behind, List.count_append, List.count_eq_zero.mpr (fresh _), Nat.zero_add]
    exact List.count_singleton_self
  refine ⟨place, ?_, fun other filled differs listed => ?_⟩
  · have answered := List.count_pos_iff.mpr (List.mem_of_getElem? place)
    have most := balance (cleanSerial (some sn)) present
    omega
  · have most := balance other filled
    have nothing : (queued.2.waiting other).count queued.1 = 0 := by
      rw [waiting_queueDeviceCmd, if_neg (Ne.symm differs), List.append_nil]
      exact List.count_eq_zero.mpr (fresh other)
    have answered := List.count_pos_iff.mpr listed
    omega

/-! ## The server -/

def answersTo (serial : String) (history : List (IclockCall × Option String)) : List String :=
  history.filterMap fun entry =>
    entry.1.poll.bind fun sn => if cleanSerial sn = serial then entry.2 else none

section

variable [IsoFormat] [ValueTables] (config : SyncConfig)

/-- The calls are `queue_device_cmd` calls and polls, as far as commands go. -/
theorem serveAll_commands (server : IclockServer) (calls : List (ContactMoment × IclockCall)) :
    ∃ events, (server.serveAll config calls).2.log.commands =
        (runCommands server.log.commands events).2 ∧
      ∀ serial, answersTo serial (server.serveAll config calls).1 =
        polls serial (runCommands server.log.commands events).1 := by
  induction calls generalizing server with
  | nil => exact ⟨[], rfl, fun _ => rfl⟩
  | cons first rest ih =>
      obtain ⟨moment, call⟩ := first
      obtain ⟨events, final, answers⟩ := ih (server.serve config moment call).server
      have history (serial : String) :
          answersTo serial (server.serveAll config ((moment, call) :: rest)).1 =
            (call.poll.bind fun sn => if cleanSerial sn = serial then
                (server.serve config moment call).answer else none).toList ++
              answersTo serial
                ((server.serve config moment call).server.serveAll config rest).1 := by
        rw [IclockServer.serveAll, answersTo, List.filterMap_cons]
        cases call.poll.bind fun sn => if cleanSerial sn = serial then
          (server.serve config moment call).answer else none <;> rfl
      rcases serve_commands config moment server call with
        ⟨sn, polled, answer, after⟩ | ⟨noPoll, same | ⟨sn, cmdBody, queued⟩⟩
      · rw [after] at final answers
        refine ⟨.poll sn :: events, final, fun serial => ?_⟩
        rw [history, answers, polls_poll, polled, answer]
        by_cases own : cleanSerial sn = serial
        · simp [own]
        · simp [own]
      · rw [same] at final answers
        refine ⟨events, final, fun serial => ?_⟩
        rw [history, answers, noPoll]
        rfl
      · rw [queued] at final answers
        refine ⟨.queue sn cmdBody :: events, final, fun serial => ?_⟩
        rw [history, answers, noPoll]
        rfl

omit [IsoFormat] [ValueTables] in
theorem below_runCommands {queue : CommandQueue} (below : queue.Below)
    (events : List CommandEvent) : (runCommands queue events).2.Below := by
  induction events generalizing queue with
  | nil => exact below
  | cons event rest ih =>
      cases event with
      | queue sn cmdBody => exact ih (below_queueDeviceCmd below sn cmdBody)
      | poll sn => exact ih (below_pollCommand below sn)

/-- In any history of a service that starts with nothing queued, and whichever call queues a
command for a reader, the command is the answer to that reader's poll after those that waited
before it, is given once, and is given to no other reader. -/
theorem queued_command_delivered {server : IclockServer}
    (started : server.log.commands = .initial)
    (earlier later : List (ContactMoment × IclockCall)) (moment : ContactMoment)
    (call : IclockCall) {sn cmdBody : String} (present : cleanSerial (some sn) ≠ "") :
    let before := (server.serveAll config earlier).2
    let served := before.serve config moment call
    let queued := queueDeviceCmd before.log.commands sn cmdBody
    let answers := fun serial => answersTo serial (served.server.serveAll config later).1
    let ahead := (before.log.commands.waiting (cleanSerial (some sn))).length
    served.server.log.commands = queued.2 → ahead < (answers (cleanSerial (some sn))).length →
      (answers (cleanSerial (some sn)))[ahead]? = some queued.1 ∧
        (answers (cleanSerial (some sn))).count queued.1 = 1 ∧
        ∀ other, other ≠ "" → other ≠ cleanSerial (some sn) → queued.1 ∉ answers other := by
  intro before served queued answers ahead queues enough
  obtain ⟨past, reached, _⟩ := serveAll_commands config server earlier
  obtain ⟨future, _, told⟩ := serveAll_commands config served.server later
  have below : before.log.commands.Below := by
    rw [show before.log.commands = _ from reached, started]
    exact below_runCommands below_initial past
  have same (serial : String) : answers serial = polls serial (runCommands queued.2 future).1 :=
    (told serial).trans (by rw [queues])
  have once := queued_answered_once below sn cmdBody present future
  simp only [same] at enough ⊢
  exact once enough

end

end

/-! ## A handshake and a poll -/

def readerRequest : Request := ⟨[("sn", "zk1 ")], some "192.168.0.50"⟩

def atNoon : ContactMoment := ⟨1786795200, 0, "2026-08-15T12:00:00", true⟩

def startedServer : IclockServer := ⟨.started none, savedState []⟩

theorem queued_command_delivered_handshake :
    let served := @IclockServer.serve .ascii ⟨true, 60⟩ atNoon startedServer .extended .scalars
      (.handshake readerRequest)
    let later := @IclockServer.serveAll .ascii ⟨true, 60⟩ .extended .scalars served.server
      [(atNoon, .getrequest readerRequest)]
    (@answersTo .ascii "ZK1" later.1)[0]? = some "C:1001:DATA QUERY USERINFO" := by
  let := UnicodeTables.ascii
  let := IsoFormat.extended
  let := ValueTables.scalars
  have started : startedServer.log.commands = .initial := rfl
  have present : cleanSerial (some "zk1 ") ≠ "" := by decide
  have serial : cleanSerial (some "zk1 ") = "ZK1" := by decide
  have command : (queueDeviceCmd .initial "zk1 " "DATA QUERY USERINFO").1 =
      "C:1001:DATA QUERY USERINFO" := by decide
  have given := (queued_command_delivered ⟨true, 60⟩ started []
    [(atNoon, .getrequest readerRequest)] atNoon (.handshake readerRequest) present rfl
    (by decide)).1
  rw [serial] at given
  rw [← command]
  exact given

end PumoBioMetric.Router
