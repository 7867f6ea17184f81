import PumoBioMetric.Core.DeviceNaming
import PumoBioMetric.Router.ReaderPolls

/-!
# Where and when a reader was last seen

`mark_seen` notes every contact under the normalised serial: the time, which is gone after a
restart, and the address, which is saved and which `resolve_device` of `device_migration.py`
reads again.
-/

set_option autoImplicit false

namespace PumoBioMetric.Router

open Py Sync PumoBioMetric.Core TransitionRun

/-! ## `get_device_status` -/

structure DeviceStatus where
  status : String
  lastSeen : Option Int
  sn : String
  secondsSinceLastSeen : Option Int
deriving DecidableEq, Repr

/-- `get_device_status`; the serial is taken as it is given. -/
def getDeviceStatus (contacts : Contacts) (now : Int) (sn : String) : DeviceStatus :=
  match contacts.lastSyncTimes.get? sn with
  | none => ⟨"offline", none, sn, none⟩
  | some lastSeenTime =>
      if lastSeenTime = 0 then ⟨"offline", none, sn, none⟩
      else
        let diff := now - lastSeenTime
        ⟨if diff < 120 then "online" else "offline", some lastSeenTime, sn, some diff⟩

section

variable [UnicodeTables]

/-! ## Calls and restarts -/

/-- A call, or a new process that reads what the one before has saved. -/
inductive ContactEvent where
  | call (moment : ContactMoment) (call : IclockCall)
  | restart

def IclockCall.noted (call : IclockCall) : Option String :=
  call.contact.bind fun contact => (contact.1.filter (· ≠ "")).map fun sn => upper (strip sn)

/-- `client_ip`, empty where it is not known. -/
def IclockCall.client (call : IclockCall) : String :=
  (call.contact.bind fun contact => contact.2.1).getD ""

/-- The contact renews the time of the serial, or the process that knew it is gone. -/
def ContactEvent.Renews (serial : String) : ContactEvent → Prop
  | .call _ told => told.noted = some serial
  | .restart => True

def LastCalled (serial : String) (time : Int) (events : List ContactEvent) : Prop :=
  ∃ earlier moment call later, events = earlier ++ .call moment call :: later ∧
    call.noted = some serial ∧ moment.time = time ∧ ∀ event ∈ later, ¬ event.Renews serial

variable [IsoFormat] [ValueTables]

def ContactStep (config : SyncConfig) (before : IclockServer) :
    ContactEvent → IclockServer → Prop
  | .call moment call, after => after = (before.serve config moment call).server
  | .restart, after => after.contacts = .started before.contacts.registryFile

variable (config : SyncConfig)

theorem contacts_of_noted (moment : ContactMoment) (server : IclockServer) {call : IclockCall}
    {serial : String} (noted : call.noted = some serial) :
    let contacts := server.contacts
    let after := (server.serve config moment call).server.contacts
    let registry := if serial = "" then contacts.registry
      else contacts.registry.set serial
        (contactEntry moment serial call.client (contacts.registry.get? serial))
    after.lastSyncTimes = contacts.lastSyncTimes.set serial moment.time ∧
      after.registry = registry ∧
      after.registryFile =
        if serial = "" then contacts.registryFile
        else if moment.writable then some registry else none := by
  rw [serve_contacts]
  unfold IclockCall.noted at noted
  cases contact : call.contact with
  | none => simp [contact] at noted
  | some told =>
      obtain ⟨sn, client, force⟩ := told
      rw [contact] at noted
      cases sn with
      | none => simp at noted
      | some sn =>
          by_cases blank : sn = ""
          · simp [blank] at noted
          · simp only [Option.bind_some, Option.filter, blank, ne_eq, not_false_eq_true,
              decide_true, if_true, Option.map_some, Option.some.injEq] at noted
            have from_client : call.client = client.getD "" := by
              rw [IclockCall.client, contact]
              rfl
            simp only [markSeen, blank, if_false, noted, from_client, and_self]

theorem contacts_of_unnoted (moment : ContactMoment) (server : IclockServer) {call : IclockCall}
    (unnoted : call.noted = none) :
    (server.serve config moment call).server.contacts = server.contacts := by
  rw [serve_contacts]
  unfold IclockCall.noted at unnoted
  cases contact : call.contact with
  | none => rfl
  | some told =>
      obtain ⟨sn, client, force⟩ := told
      rw [contact] at unnoted
      cases sn with
      | none => rfl
      | some sn =>
          by_cases blank : sn = ""
          · simp [markSeen, blank]
          · simp [Option.filter, blank] at unnoted

/-! ## The last contact -/

theorem lastSyncTimes_latch (serial : String) (time : Int) :
    Latch (ContactStep config) (fun _ => True)
      (fun server => server.contacts.lastSyncTimes.get? serial = some time)
      (fun _ event => ∃ moment call, event = .call moment call ∧ call.noted = some serial ∧
        moment.time = time)
      (ContactEvent.Renews serial) where
  kept := fun _ _ _ _ _ => trivial
  latch := by
    intro before event after _ step
    cases event with
    | restart =>
        rw [ContactStep] at step
        simp [step, Contacts.started, Dict.get?, ContactEvent.Renews]
    | call moment call =>
        rw [ContactStep] at step
        subst step
        cases noted : call.noted with
        | none =>
            rw [contacts_of_unnoted config moment before noted]
            simp [ContactEvent.Renews, noted]
        | some key =>
            rw [(contacts_of_noted config moment before noted).1, Dict.get?_set]
            by_cases own : serial = key
            · subst own
              simp [ContactEvent.Renews, noted]
            · simp [ContactEvent.Renews, noted, own, Ne.symm own]

theorem lastSyncTimes_iff {server final : IclockServer} {file : Option (Dict ContactEntry)}
    (started : server.contacts = .started file) {events : List ContactEvent}
    (run : Run (ContactStep config) server events final) (serial : String) (time : Int) :
    final.contacts.lastSyncTimes.get? serial = some time ↔ LastCalled serial time events := by
  rw [(lastSyncTimes_latch config serial time).run_iff_label run trivial]
  constructor
  · rintro (⟨before, _⟩ | ⟨earlier, _, later, split, ⟨moment, call, rfl, noted, at_time⟩, unset⟩)
    · rw [started] at before
      cases before
    · exact ⟨earlier, moment, call, later, split, noted, at_time, unset⟩
  · rintro ⟨earlier, moment, call, later, split, noted, at_time, unset⟩
    exact .inr ⟨earlier, _, later, split, ⟨moment, call, rfl, noted, at_time⟩, unset⟩

/-- The status of a serial tells when its last contact in this process was, whatever was called in
between, and is online where that is less than 120 seconds ago. -/
theorem device_status_exact {server final : IclockServer} {file : Option (Dict ContactEntry)}
    (started : server.contacts = .started file) {events : List ContactEvent}
    (run : Run (ContactStep config) server events final) (now : Int) (sn : String) :
    (∀ time, (getDeviceStatus final.contacts now sn).lastSeen = some time ↔
      time ≠ 0 ∧ LastCalled sn time events) ∧
    ((getDeviceStatus final.contacts now sn).status = "online" ↔
      ∃ time, time ≠ 0 ∧ LastCalled sn time events ∧ now - time < 120) := by
  have exactly (time : Int) := lastSyncTimes_iff config started run sn time
  simp only [← exactly]
  unfold getDeviceStatus
  cases final.contacts.lastSyncTimes.get? sn with
  | none => simp
  | some last =>
      by_cases never : last = 0
      · subst never
        simp [eq_comm]
      · by_cases recent : now - last < 120
        · simp [never, recent]
        · simp [never, recent]

/-! ## The saved addresses -/

/-- In memory and where it is saved, each entry of the registry is filed under its own serial. -/
structure Registered (contacts : Contacts) : Prop where
  memory : Dict.Keyed ContactEntry.sn contacts.registry
  saved : ∀ entries ∈ contacts.registryFile, Dict.Keyed ContactEntry.sn entries

/-- What `device_migration.py` reads of an entry. -/
def ContactEntry.info (entry : ContactEntry) : DeviceInfo :=
  ⟨entry.sn, entry.ip, some entry.port, entry.name⟩

/-- `get_registered_devices` on the file that `iclock.py` saves. -/
def registeredDevices (contacts : Contacts) : Registry :=
  getRegisteredDevices (contacts.registryFile.map fun entries =>
    entries.map fun entry => (entry.1, entry.2.info))

def FoundAt (serial ip : String) (contacts : Contacts) : Prop :=
  ∃ entries, contacts.registryFile = some entries ∧
    (∃ entry, entries.get? serial = some entry ∧ entry.ip = ip) ∧
    ∃ entry, contacts.registry.get? serial = some entry ∧ entry.ip = ip

/-- A contact is saved, and does not come from the reader at another address. -/
def ContactEvent.Keeps (serial ip : String) : ContactEvent → Prop
  | .call moment told =>
      (∀ key ∈ told.noted, key ≠ "" → moment.writable = true) ∧
        (told.noted = some serial → told.client = "" ∨ told.client = ip)
  | .restart => True

omit [UnicodeTables] [IsoFormat] [ValueTables] in
theorem registered_started {file : Option (Dict ContactEntry)}
    (saved : ∀ entries ∈ file, Dict.Keyed ContactEntry.sn entries) :
    Registered (.started file) where
  memory := by
    have base : Dict.Keyed ContactEntry.sn iclockRegistry := ⟨by decide, by decide⟩
    refine base.update ?_
    cases file with
    | none => simp
    | some entries => exact (saved entries rfl).own
  saved := saved

omit [UnicodeTables] [IsoFormat] [ValueTables] in
theorem sn_contactEntry {contacts : Contacts} (registered : Registered contacts)
    (moment : ContactMoment) (serial client : String) :
    (contactEntry moment serial client (contacts.registry.get? serial)).sn = serial := by
  cases held : contacts.registry.get? serial with
  | none => rfl
  | some entry =>
      have own := registered.memory.of_get? held
      exact own

theorem registered_step (before : IclockServer) (event : ContactEvent) (after : IclockServer)
    (registered : Registered before.contacts) (step : ContactStep config before event after) :
    Registered after.contacts := by
  cases event with
  | restart =>
      rw [ContactStep] at step
      rw [step]
      exact registered_started registered.saved
  | call moment call =>
      rw [ContactStep] at step
      subst step
      cases noted : call.noted with
      | none =>
          rw [contacts_of_unnoted config moment before noted]
          exact registered
      | some serial =>
          obtain ⟨_, memory, file⟩ := contacts_of_noted config moment before noted
          by_cases blank : serial = ""
          · rw [if_pos blank] at memory file
            exact ⟨memory ▸ registered.memory, file ▸ registered.saved⟩
          · rw [if_neg blank] at memory file
            have keyed := registered.memory.set
              (sn_contactEntry registered moment serial call.client)
            rw [if_neg blank] at file
            refine ⟨memory ▸ keyed, ?_⟩
            intro entries saved
            rw [file] at saved
            split at saved
            · cases saved
              exact keyed
            · cases saved

omit [UnicodeTables] [IsoFormat] [ValueTables] in
theorem ip_contactEntry (moment : ContactMoment) (serial client : String)
    (known : Option ContactEntry) :
    (contactEntry moment serial client known).ip =
      if client = "" then (known.map ContactEntry.ip).getD "127.0.0.1" else client := by
  cases known <;> rfl

theorem foundAt_step {serial ip : String} (before : IclockServer)
    (event : ContactEvent) (after : IclockServer) (keeps : event.Keeps serial ip)
    (step : ContactStep config before event after)
    (good : Registered before.contacts ∧ FoundAt serial ip before.contacts) :
    Registered after.contacts ∧ FoundAt serial ip after.contacts := by
  obtain ⟨registered, found⟩ := good
  refine ⟨registered_step config before event after registered step, ?_⟩
  obtain ⟨entries, saved, ⟨here, listed, at_ip⟩, there, known, known_ip⟩ := found
  cases event with
  | restart =>
      rw [ContactStep] at step
      rw [step]
      refine ⟨entries, saved, ⟨here, listed, at_ip⟩, here, ?_, at_ip⟩
      rw [saved, Contacts.started, loadedRegistry, Option.getD_some,
        Dict.get?_update (registered.saved entries saved).unique, listed]
      rfl
  | call moment call =>
      obtain ⟨writes, same⟩ := keeps
      rw [ContactStep] at step
      subst step
      cases noted : call.noted with
      | none =>
          rw [contacts_of_unnoted config moment before noted]
          exact ⟨entries, saved, ⟨here, listed, at_ip⟩, there, known, known_ip⟩
      | some key =>
          obtain ⟨_, memory, file⟩ := contacts_of_noted config moment before noted
          by_cases blank : key = ""
          · rw [if_pos blank] at memory file
            rw [FoundAt, memory, file]
            exact ⟨entries, saved, ⟨here, listed, at_ip⟩, there, known, known_ip⟩
          · rw [if_neg blank] at memory file
            rw [if_neg blank, if_pos (writes key noted blank)] at file
            rw [← memory] at file
            suffices entry : ∃ entry,
                (before.serve config moment call).server.contacts.registry.get? serial =
                  some entry ∧ entry.ip = ip from ⟨_, file, entry, entry⟩
            rw [memory, Dict.get?_set]
            by_cases own : serial = key
            · subst own
              rw [if_pos rfl, known]
              refine ⟨_, rfl, ?_⟩
              rw [ip_contactEntry]
              split
              · exact known_ip
              · rename_i client
                exact (same noted).resolve_left client
            · rw [if_neg own]
              exact ⟨there, known, known_ip⟩

omit [IsoFormat] [ValueTables] in
theorem resolve_of_foundAt {contacts : Contacts} (registered : Registered contacts)
    {serial ip : String} (found : FoundAt serial ip contacts) {identifier : String}
    (names : strip identifier = serial) (port : Int) :
    (resolveDevice (registeredDevices contacts) identifier port).sn = serial ∧
      (resolveDevice (registeredDevices contacts) identifier port).ip = ip := by
  obtain ⟨entries, saved, ⟨entry, listed, at_ip⟩, _⟩ := found
  have keyed := registered.saved entries saved
  have mapped : (entries.map fun entry => (entry.1, entry.2.info)).map Prod.fst =
      entries.map Prod.fst := by
    rw [List.map_map]
    rfl
  have base : Dict.Keyed DeviceInfo.sn defaultRegistry := ⟨by decide, by decide⟩
  have all : Dict.Keyed DeviceInfo.sn (registeredDevices contacts) := by
    rw [registeredDevices, saved]
    refine base.update ?_
    intro entry member
    obtain ⟨original, held, rfl⟩ := List.mem_map.mp member
    exact keyed.own original held
  have entry_found : (registeredDevices contacts).get? serial = some entry.info := by
    rw [registeredDevices, saved]
    refine (Dict.get?_update (mapped ▸ keyed.unique) defaultRegistry serial).trans ?_
    rw [Dict.get?_map, listed]
    rfl
  have resolved := resolveDevice_of_names ⟨all.unique, all.own⟩
    (.serial (Dict.mem_of_get? entry_found) names.symm) port
  rw [resolved]
  exact ⟨all.of_get? entry_found, at_ip⟩

/-- A reader is found where it last called from: whatever happened before, once its contact is
saved every identifier with its serial is resolved to that address, across restarts and all other
calls, until it calls from elsewhere or a save fails. -/
theorem resolved_where_it_called {server final : IclockServer}
    (registered : Registered server.contacts) {earlier later : List ContactEvent}
    {moment : ContactMoment} {call : IclockCall} {serial : String}
    (run : Run (ContactStep config) server (earlier ++ .call moment call :: later) final)
    (noted : call.noted = some serial) (present : serial ≠ "") (known : call.client ≠ "")
    (writes : moment.writable = true) (keeps : ∀ event ∈ later, event.Keeps serial call.client)
    {identifier : String} (names : strip identifier = serial) (port : Int) :
    (resolveDevice (registeredDevices final.contacts) identifier port).sn = serial ∧
      (resolveDevice (registeredDevices final.contacts) identifier port).ip = call.client := by
  obtain ⟨before, front, back⟩ := run.split
  obtain ⟨after, step, onward⟩ := back.uncons
  have reached : Registered before.contacts :=
    front.preserves (fun _ _ _ good step => registered_step config _ _ _ good step) registered
  have next := registered_step config _ _ _ reached step
  have found : FoundAt serial call.client after.contacts := by
    rw [ContactStep] at step
    subst step
    obtain ⟨_, memory, file⟩ := contacts_of_noted config moment before noted
    rw [if_neg present] at memory
    rw [if_neg present, if_neg present, if_pos writes, ← memory] at file
    suffices entry : ∃ entry,
        (before.serve config moment call).server.contacts.registry.get? serial = some entry ∧
          entry.ip = call.client from ⟨_, file, entry, entry⟩
    rw [memory, Dict.get?_set, if_pos rfl]
    exact ⟨_, rfl, by rw [ip_contactEntry, if_neg known]⟩
  have kept := onward.preserves_while (foundAt_step config) keeps ⟨next, found⟩
  exact resolve_of_foundAt kept.1 kept.2 names port

end

/-! ## A handshake from a new address -/

def afterHandshake : IclockServer :=
  (@IclockServer.serve .ascii ⟨true, 60⟩ atNoon startedServer .extended .scalars
    (.handshake readerRequest)).server

theorem device_status_exact_handshake :
    (getDeviceStatus afterHandshake.contacts 1786795260 "ZK1").status = "online" := by
  let := UnicodeTables.ascii
  let := IsoFormat.extended
  let := ValueTables.scalars
  have started : startedServer.contacts = .started none := rfl
  have run : Run (ContactStep ⟨true, 60⟩) startedServer
      [.call atNoon (.handshake readerRequest)] afterHandshake := .cons rfl (.nil _)
  refine (device_status_exact ⟨true, 60⟩ started run 1786795260 "ZK1").2.mpr ?_
  exact ⟨1786795200, by decide, ⟨[], atNoon, _, [], rfl, by decide, rfl, by simp⟩, by decide⟩

theorem resolved_where_it_called_restart :
    let file := afterHandshake.contacts.registryFile
    (@resolveDevice .ascii (registeredDevices (.started file)) " ZK1 " 4370).ip =
      "192.168.0.50" := by
  let := UnicodeTables.ascii
  let := IsoFormat.extended
  let := ValueTables.scalars
  have unsaved : ∀ entries ∈ (none : Option (Dict ContactEntry)),
      Dict.Keyed ContactEntry.sn entries := by simp
  have registered : Registered startedServer.contacts := registered_started unsaved
  have restarted : ContactStep ⟨true, 60⟩ afterHandshake .restart
      ⟨.started afterHandshake.contacts.registryFile, savedState []⟩ := rfl
  have run : Run (ContactStep ⟨true, 60⟩) startedServer
      ([] ++ .call atNoon (.handshake readerRequest) :: [.restart])
      ⟨.started afterHandshake.contacts.registryFile, savedState []⟩ :=
    .cons rfl (.cons restarted (.nil _))
  have noted : (IclockCall.handshake readerRequest).noted = some "ZK1" := by decide
  have known : (IclockCall.handshake readerRequest).client ≠ "" := by decide
  have names : strip " ZK1 " = "ZK1" := by decide
  have keeps : ∀ event ∈ [ContactEvent.restart],
      event.Keeps "ZK1" (IclockCall.handshake readerRequest).client := by
    intro event listed
    rw [List.mem_singleton.mp listed]
    trivial
  exact (resolved_where_it_called ⟨true, 60⟩ registered run noted (by decide) known rfl keeps names
    4370).2

end PumoBioMetric.Router
