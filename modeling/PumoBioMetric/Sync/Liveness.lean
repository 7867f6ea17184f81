import PumoBioMetric.Py.Dict

/-!
# Contacts on their way to the LMS

`app/sync/liveness.py`: a contact is written at most once in `heartbeat_seconds` for each
serial unless it is forced, by one background thread in the order of submission.  The
write is `LmsDatabase.heartbeat`.
-/

set_option autoImplicit false

namespace PumoBioMetric.Sync

open PumoBioMetric.Py

/-- `config.enabled and config.configured`, and the throttle. -/
structure SyncConfig where
  active : Bool
  heartbeatSeconds : Int
deriving DecidableEq, Repr

/-! ## The database side -/

/-- The columns of `biometric_devices` that a heartbeat reads or writes. -/
structure LmsDevice where
  serialNo : String
  lastSeenAt : Option Int
  offlineAlertedAt : Option Int
  lastError : Option String
  ipAddress : Option String
deriving DecidableEq, Repr

/-- `heartbeat` and whether a registered reader was updated. -/
def heartbeat (now : Int) (serialNo : String) (ipAddress : Option String)
    (devices : List LmsDevice) : List LmsDevice × Bool :=
  (devices.map fun device =>
      if device.serialNo = serialNo then
        { device with
          lastSeenAt := some now
          offlineAlertedAt := none
          lastError := none
          ipAddress := ipAddress.or device.ipAddress }
      else device,
    devices.any fun device => device.serialNo == serialNo)

structure ContactWrite where
  serial : String
  ipAddress : Option String
deriving DecidableEq, Repr

/-- `_write` with the database reachable. -/
def ContactWrite.run (now : Int) (devices : List LmsDevice) (write : ContactWrite) :
    List LmsDevice × Bool :=
  heartbeat now write.serial write.ipAddress devices

/-- The write stamps the devices of this serial and leaves all others as they are. -/
def ContactWrite.StampsOnly (serial : String) (write : ContactWrite) : Prop :=
  ∀ now devices, ∀ device ∈ (write.run now devices).1,
    device.serialNo = serial ∧ device.lastSeenAt = some now ∨
      device.serialNo ≠ serial ∧ device ∈ devices

theorem ContactWrite.stampsOnly (write : ContactWrite) : write.StampsOnly write.serial := by
  intro now devices device listed
  obtain ⟨before, member, rfl⟩ := List.mem_map.mp listed
  by_cases own : before.serialNo = write.serial
  · rw [if_pos own]
    exact Or.inl ⟨own, rfl⟩
  · rw [if_neg own]
    exact Or.inr ⟨own, member⟩

/-! ## The throttle -/

/-- `_last_write`, and what was submitted to `_writer`. -/
structure Liveness where
  lastWrite : Dict Int
  submitted : List ContactWrite
deriving DecidableEq, Repr

/-- `_should_write` and `_last_write` after it. -/
def shouldWrite (config : SyncConfig) (now : Int) (lastWrite : Dict Int) (serial : String)
    (force : Bool) : Bool × Dict Int :=
  match lastWrite.get? serial with
  | some previous =>
      if !force && now - previous < config.heartbeatSeconds then (false, lastWrite)
      else (true, lastWrite.set serial now)
  | none => (true, lastWrite.set serial now)

/-- `mark_seen` of `liveness.py`. -/
def recordContact (config : SyncConfig) (now : Int) (liveness : Liveness) (serial : String)
    (ipAddress : Option String) (force : Bool) : Liveness :=
  if serial = "" || !config.active then liveness
  else
    match shouldWrite config now liveness.lastWrite serial force with
    | (false, lastWrite) => { liveness with lastWrite := lastWrite }
    | (true, lastWrite) =>
        { lastWrite := lastWrite
          submitted := liveness.submitted ++ [⟨serial, ipAddress⟩] }

/-- A contact submits at most one write, for its own serial; a forced one does. -/
theorem submitted_recordContact (config : SyncConfig) (now : Int) (liveness : Liveness)
    (serial : String) (ipAddress : Option String) (force : Bool) :
    ∃ writes, (recordContact config now liveness serial ipAddress force).submitted =
        liveness.submitted ++ writes ∧ (∀ write ∈ writes, write.serial = serial) ∧
      (serial ≠ "" → config.active = true → force = true → writes = [⟨serial, ipAddress⟩]) := by
  unfold recordContact
  split
  · rename_i skipped
    refine ⟨[], by simp, by simp, fun present active _ => ?_⟩
    simp [present, active] at skipped
  · split
    · rename_i suppressed
      refine ⟨[], by simp, by simp, fun _ _ forced => ?_⟩
      unfold shouldWrite at suppressed
      split at suppressed
      · simp [forced] at suppressed
      · simp at suppressed
    · exact ⟨[⟨serial, ipAddress⟩], rfl, by simp, fun _ _ _ => rfl⟩

end PumoBioMetric.Sync
