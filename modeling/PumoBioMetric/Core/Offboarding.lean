import PumoBioMetric.Library.TransitionRun
import PumoBioMetric.Core.RecordedPin
import PumoBioMetric.Core.DirectoryCall

/-!
# From enrolment to dismissal

A dismissal deletes what the access list names.  The profiles that are one employee's
are followed through a run of calls: those held at the start and those that migrations
for the employee created, as long as they are on a reader.
-/

set_option autoImplicit false

namespace PumoBioMetric.Core

open Py FirstMatch TransitionRun

/-! ## Runs of calls -/

structure AccessCall where
  today : String
  call : EnrolCall ⊕ RevokeArgs
deriving DecidableEq

def AccessCall.directoryCall (label : AccessCall) : DirectoryCall :=
  match label.call with
  | .inl call => .enrol call
  | .inr args => .remove (.revoke args)

/-- The directory, the readers and the profiles that are the followed employee's. -/
structure Followed where
  employees : Directory
  devices : SimDevices
  owned : List (SimDevice × String)
deriving DecidableEq, Repr

def SimDevices.holds (devices : SimDevices) (profile : SimDevice × String) : Bool :=
  ((devices.users profile.1).map SimUser.userId).contains profile.2

section

variable [UnicodeTables] (registry : Registry) (employeeId : String)

/-- The profile a migration that returned ok has written, where it was for the employee. -/
def createdFor (employees : Directory) (label : AccessCall) (report : Option MigrationReport) :
    List (SimDevice × String) :=
  match label.call, report with
  | .inl call, some done =>
      if done.migration.ok && sameRecord employees call.employeeId employeeId then
        match ((findEmployee employees call.employeeId).bind fun emp =>
            call.route registry emp).bind fun route => simulatedDevice registry route.tgtSn with
        | some device => [(device, done.migration.targetUserId)]
        | none => []
      else []
  | _, _ => []

/-- One call; a call that raises changes nothing. -/
def follow (state : Followed) (label : AccessCall) : Followed :=
  match label.directoryCall.run (simulatedReaders registry) registry label.today
      state.employees state.devices with
  | none => state
  | some (report, saved, after) =>
      { employees := saved
        devices := after
        owned := (state.owned ++ createdFor registry employeeId state.employees label
          report).filter fun profile => after.holds profile }

def Follows (before : Followed) (label : AccessCall) (after : Followed) : Prop :=
  after = follow registry employeeId before label

/-! ## What the access list names -/

def Names (entry : AccessEntry) (profile : SimDevice × String) : Prop :=
  simulatedDevice registry entry.deviceSn = some profile.1 ∧ entry.pin = some profile.2

/-- Every profile of the employee has an access entry. -/
def Listed (state : Followed) : Prop :=
  ∃ emp, findEmployee state.employees employeeId = some emp ∧
    ∀ profile ∈ state.owned, ∃ entry ∈ emp.access, Names registry entry profile

def untouchedEntries (mode : String) (route : Route) (accessList : List AccessEntry) :
    List AccessEntry :=
  (if mode = "move" then accessList.filter fun entry => !entry.isFor route.srcSn
    else accessList).eraseP (AccessEntry.isFor route.tgtSn)

/-- An enrolment of the employee records the PIN it enrols, and the entries it drops or
overwrites are not the last to name a profile of the employee that stays on a reader. -/
def EnrolmentKeepsTrack (state : Followed) (call : EnrolCall) : Prop :=
  ∀ emp route empPin srcDev tgtDev srcUser,
    findEmployee state.employees call.employeeId = some emp →
    call.route registry emp = some route →
    emp.pinOn route.srcSn = some empPin →
    simulatedDevice registry route.srcSn = some srcDev →
    simulatedDevice registry route.tgtSn = some tgtDev →
    (state.devices.users srcDev).find? (SimUser.hasId empPin) = some srcUser →
    ¬ SearchRaises (state.devices.users tgtDev) emp.name srcUser.name empPin →
      PinAgrees (state.devices.users tgtDev) emp.name srcUser.name empPin ∧
      ∀ profile ∈ state.owned, state.devices.holds profile = true →
        (call.mode = "move" ∧ profile = (srcDev, empPin)) ∨
        (¬ HeldByOther (state.devices.users tgtDev) emp.name empPin ∧
          profile = (tgtDev, strip empPin)) ∨
        ∃ entry ∈ untouchedEntries call.mode route emp.access, Names registry entry profile

/-- A full revocation drops no entry that is the last to name a profile it leaves. -/
def RevocationKeepsTrack (state : Followed) (args : RevokeArgs) : Prop :=
  ∀ emp pin device,
    findEmployee state.employees args.employeeId = some emp →
    emp.pinOn args.deviceSn = some pin →
    simulatedDevice registry args.deviceSn = some device →
    args.deleteBiometricsOnly = false →
      ∀ profile ∈ state.owned, state.devices.holds profile = true →
        profile = (device, pin) ∨
        ∃ entry ∈ emp.access, entry.deviceSn ≠ args.deviceSn ∧ Names registry entry profile

def KeepsTrack (state : Followed) (label : AccessCall) : Prop :=
  sameRecord state.employees label.directoryCall.employeeId employeeId = true →
    match label.call with
    | .inl call => EnrolmentKeepsTrack registry state call
    | .inr args => RevocationKeepsTrack registry state args

end

theorem mem_accessAfterTransfer {mode : String} {route : Route} {accessList : List AccessEntry}
    {entry : AccessEntry} (targetPin : String)
    (member : entry ∈ untouchedEntries mode route accessList) :
    entry ∈ accessAfterTransfer mode accessList route.srcSn route.tgtSn targetPin := by
  unfold untouchedEntries at member
  unfold accessAfterTransfer
  by_cases move : mode = "move"
  · rw [if_pos move] at member ⊢
    exact mem_recordAccess_of_eraseP _ _ member
  · rw [if_neg move] at member ⊢
    exact mem_recordAccess_of_eraseP _ _ member

theorem SimDevices.holds_iff {devices : SimDevices} {profile : SimDevice × String} :
    devices.holds profile = true ↔ profile.2 ∈ (devices.users profile.1).map SimUser.userId := by
  simp [SimDevices.holds]

section

variable [UnicodeTables] {registry : Registry} {employeeId today : String}
  {employees saved : Directory} {devices after : SimDevices}

/-! ## One enrolment -/

theorem lower_move : lower "move" = "move" := by
  have ascii : isAscii "move" := by
    simp [isAscii]
  rw [UnicodeTables.lower_ascii _ ascii]
  decide

namespace EnrolmentDone

variable {call : EnrolCall} {report : MigrationReport}
  (done : EnrolmentDone registry employees devices call report saved after)

/-- A profile that is on the readers after the call and is not the one written was on
them before. -/
theorem holds_before {profile : SimDevice × String} (held : after.holds profile = true)
    (notWritten : profile ≠ (done.tgtDev, done.destPin)) : devices.holds profile = true := by
  obtain ⟨device, pin⟩ := profile
  rw [SimDevices.holds_iff] at held ⊢
  by_cases moved : device = done.srcDev ∧ pin = done.empPin
  · obtain ⟨rfl, rfl⟩ := moved
    exact List.mem_map.mpr ⟨done.srcUser, List.mem_of_find?_eq_some done.first,
      userId_of_find? done.first⟩
  · have same := done.filter_other
      (fun written => notWritten (Prod.ext written.1 written.2)) moved
    by_contra absent
    rw [← find?_hasId_eq_none, ← find?_of_filter_eq same, find?_hasId_eq_none] at absent
    exact absent held

theorem not_holds_moved (move : call.mode = "move") :
    after.holds (done.srcDev, done.empPin) = false := by
  rw [Bool.eq_false_iff, ne_eq, SimDevices.holds_iff]
  let request := enrolRequest done.route.srcSn done.route.tgtSn done.empPin call.mode
    done.pinCheck.targetPin
  have moves : lower request.mode = "move" := (congrArg lower move).trans lower_move
  have gone := notMem_deleteIfMove (devices.setUsers done.tgtDev done.tgtUsers) done.srcDev moves
  have left := congrArg (fun devices => (devices.users done.srcDev).map SimUser.userId)
    done.afterEq
  intro listed
  exact gone (Eq.subst (motive := fun userIds => done.empPin ∈ userIds) left listed)

theorem names_written
    (agrees : PinAgrees (devices.users done.tgtDev) done.emp.name done.srcUser.name done.empPin) :
    ∃ entry ∈ done.changed.access, Names registry entry (done.tgtDev, done.destPin) := by
  have samePin : done.destPin = done.pinCheck.targetPin :=
    done.reported_destPin.symm.trans (done.reported_eq_iff.mpr agrees)
  obtain ⟨entry, first, pin⟩ := done.entry_recorded
  have owner : entry.deviceSn = done.route.tgtSn := by simpa using List.find?_some first
  refine ⟨entry, List.mem_of_find?_eq_some first, ?_, ?_⟩
  · rw [owner]
    exact done.tgtFound
  · rw [pin, samePin]

/-- Under its condition an enrolment leaves an entry for every profile that stays. -/
theorem names_kept {state : Followed}
    (done : EnrolmentDone registry state.employees state.devices call report saved after)
    (keeps : EnrolmentKeepsTrack registry state call) {profile : SimDevice × String}
    (owned : profile ∈ state.owned) (held : after.holds profile = true) :
    ∃ entry ∈ done.changed.access, Names registry entry profile := by
  obtain ⟨agrees, tracked⟩ := keeps _ _ _ _ _ _ done.found done.routed done.pinOnSource
    done.srcFound done.tgtFound done.first done.not_searchRaises
  by_cases written : profile = (done.tgtDev, done.destPin)
  · rw [written]
    exact done.names_written agrees
  · rcases tracked profile owned (done.holds_before held written) with
      ⟨move, rfl⟩ | ⟨notHeld, rfl⟩ | ⟨entry, member, names⟩
    · rw [done.not_holds_moved move] at held
      cases held
    · rcases done.target_cases with ⟨other, _⟩ | ⟨_, target⟩
      · exact absurd other notHeld
      · have samePin : done.destPin = done.pinCheck.targetPin :=
          done.reported_destPin.symm.trans (done.reported_eq_iff.mpr agrees)
        exact absurd (congrArg (Prod.mk done.tgtDev) (target.symm.trans samePin.symm)) written
    · refine ⟨entry, ?_, names⟩
      rw [done.recorded]
      exact mem_accessAfterTransfer _ member

end EnrolmentDone

/-! ## What a call saves -/

theorem DirectoryCall.saves {call : DirectoryCall} {report : Option MigrationReport}
    {emp : Employee}
    (returned : call.run (simulatedReaders registry) registry today employees devices =
      some (report, saved, after))
    (found : findEmployee employees call.employeeId = some emp) :
    ∃ changed, changed.id = emp.id ∧ changed.employeeCode = emp.employeeCode ∧
      saved = saveEmployee employees call.employeeId changed := by
  cases call with
  | enrol call =>
      cases enrolEffect_of_run returned with
      | unknown missing => exact absurd (found.symm.trans missing) (by simp)
      | unreached foundAgain _ same _ =>
          cases found.symm.trans foundAgain
          exact ⟨_, same.id_eq, same.employeeCode_eq, rfl⟩
      | migrated foundAgain _ _ _ _ same _ =>
          cases found.symm.trans foundAgain
          exact ⟨_, same.id_eq, same.employeeCode_eq, rfl⟩
  | remove call =>
      rw [remove_run found] at returned
      obtain ⟨⟨biometricsOnly, targets⟩, _, outcome⟩ := Option.map_eq_some_iff.mp returned
      cases outcome
      refine ⟨_, ?_, ?_, rfl⟩
      · cases call <;> simp [RemovalCall.changed, apply_ite Employee.id]
      · cases call <;> simp [RemovalCall.changed, apply_ite Employee.employeeCode]

theorem DirectoryCall.findEmployee_other {call : DirectoryCall}
    {report : Option MigrationReport}
    (returned : call.run (simulatedReaders registry) registry today employees devices =
      some (report, saved, after))
    (other : sameRecord employees call.employeeId employeeId = false) :
    findEmployee saved employeeId = findEmployee employees employeeId := by
  cases found : findEmployee employees call.employeeId with
  | some emp =>
      obtain ⟨changed, sameId, sameCode, rfl⟩ := DirectoryCall.saves returned found
      rw [findEmployee_saveEmployee_other found sameId sameCode, if_neg (by simp [other])]
  | none =>
      cases call with
      | enrol call =>
          cases enrolEffect_of_run returned with
          | unknown => rfl
          | unreached foundAgain => exact absurd (found.symm.trans foundAgain) (by simp)
          | migrated foundAgain => exact absurd (found.symm.trans foundAgain) (by simp)
      | remove call =>
          rw [remove_unknown found] at returned
          cases returned
          rfl

/-! ## One call -/

theorem createdFor_other {label : AccessCall} (report : Option MigrationReport)
    (other : sameRecord employees label.directoryCall.employeeId employeeId = false) :
    createdFor registry employeeId employees label report = [] := by
  obtain ⟨date, call | args⟩ := label
  · have apart : sameRecord employees call.employeeId employeeId = false := other
    cases report <;> simp [createdFor, apart]
  · rfl

theorem createdFor_done {call : EnrolCall} {report : MigrationReport}
    (done : EnrolmentDone registry employees devices call report saved after)
    (ok : report.migration.ok = true)
    (same : sameRecord employees call.employeeId employeeId = true) :
    createdFor registry employeeId employees ⟨today, .inl call⟩ (some report) =
      [(done.tgtDev, done.destPin)] := by
  simp [createdFor, ok, same, done.found, done.routed, done.tgtFound, done.reported_destPin]

/-- An employee's profiles after a call that creates none are among those before it. -/
theorem listed_of_access {state : Followed} {label : AccessCall}
    {report : Option MigrationReport} {changed : Employee}
    (found : findEmployee saved employeeId = some changed)
    (nothing : createdFor registry employeeId state.employees label report = [])
    (names : ∀ profile ∈ state.owned, after.holds profile = true →
      ∃ entry ∈ changed.access, Names registry entry profile) :
    Listed registry employeeId
      { employees := saved
        devices := after
        owned := (state.owned ++ createdFor registry employeeId state.employees label
          report).filter fun profile => after.holds profile } := by
  refine ⟨changed, found, ?_⟩
  intro profile member
  rw [nothing, List.append_nil] at member
  obtain ⟨owned, held⟩ := List.mem_filter.mp member
  exact names profile owned held

theorem listed_enrolment {state : Followed} {call : EnrolCall}
    {report : Option MigrationReport}
    (returned : call.run (simulatedReaders registry) registry today state.employees
      state.devices = some (report, saved, after))
    (same : sameRecord state.employees call.employeeId employeeId = true)
    (keeps : EnrolmentKeepsTrack registry state call)
    (listed : Listed registry employeeId state) :
    Listed registry employeeId
      { employees := saved
        devices := after
        owned := (state.owned ++ createdFor registry employeeId state.employees
          ⟨today, .inl call⟩ report).filter fun profile => after.holds profile } := by
  obtain ⟨emp, found, named⟩ := listed
  have foundCall : findEmployee state.employees call.employeeId = some emp :=
    (findEmployee_of_sameRecord same).trans found
  have foundSaved : ∀ changed : Employee, changed.SameButAccess emp →
      findEmployee (saveEmployee state.employees call.employeeId changed) employeeId =
        some changed := by
    intro changed sameBut
    rw [findEmployee_saveEmployee_other foundCall sameBut.id_eq sameBut.employeeCode_eq,
      if_pos same]
  cases enrolEffect_of_run returned with
  | unknown missing => exact absurd (foundCall.symm.trans missing) (by simp)
  | unreached foundAgain _ sameBut access =>
      cases foundCall.symm.trans foundAgain
      apply listed_of_access (foundSaved _ sameBut) rfl
      intro profile owned _
      rw [access]
      exact named profile owned
  | @migrated emp' changed route pinCheck res report _ foundAgain _ _ sameReport _ sameBut
      access =>
      cases foundCall.symm.trans foundAgain
      cases ok : res.ok with
      | false =>
          have notOk : report.migration.ok = false := by
            rw [sameReport]
            exact ok
          apply listed_of_access (foundSaved _ sameBut) (by simp [createdFor, notOk])
          intro profile owned _
          rw [access, ok, if_neg (by simp)]
          exact named profile owned
      | true =>
          have reportOk : report.migration.ok = true := by
            rw [sameReport]
            exact ok
          obtain ⟨done⟩ := enrolmentDone_of_run returned reportOk
          obtain ⟨agrees, _⟩ := keeps _ _ _ _ _ _ done.found done.routed done.pinOnSource
            done.srcFound done.tgtFound done.first done.not_searchRaises
          have foundDone := (congrArg (fun directory => findEmployee directory employeeId)
            done.savedEq).trans (foundSaved _ (by
              cases done.found.symm.trans foundCall
              exact done.sameRecord))
          refine ⟨done.changed, foundDone, ?_⟩
          intro profile member
          rw [createdFor_done done reportOk same] at member
          obtain ⟨either, held⟩ := List.mem_filter.mp member
          rcases List.mem_append.mp either with owned | written
          · exact done.names_kept keeps owned held
          · rw [List.mem_singleton.mp written]
            exact done.names_written agrees

theorem revoke_changed (emp : Employee) (args : RevokeArgs) (pin : String) :
    (RemovalCall.revoke args).changed today emp
        (deleteFromReaders (simulatedReaders registry) registry args.deleteBiometricsOnly devices
          [(args.deviceSn, pin)]).1 =
      if (simulatedDevice registry args.deviceSn).isSome then revokedEmployee emp args
      else emp := by
  simp [RemovalCall.changed, deleteFromReaders, simulatedReaders, deleteDeviceUserSimulated_ok]

theorem names_revoked {emp : Employee} {args : RevokeArgs} {entry : AccessEntry}
    {profile : SimDevice × String} (member : entry ∈ emp.access)
    (stays : args.deleteBiometricsOnly = true ∨ entry.deviceSn ≠ args.deviceSn)
    (names : Names registry entry profile) :
    ∃ left ∈ (revokedEmployee emp args).access, Names registry left profile := by
  unfold revokedEmployee
  by_cases biometricsOnly : args.deleteBiometricsOnly = true
  · rw [if_pos biometricsOnly]
    refine ⟨_, List.mem_map.mpr ⟨entry, member, rfl⟩, ?_⟩
    split
    · exact names
    · exact names
  · have other := stays.resolve_left biometricsOnly
    rw [if_neg biometricsOnly]
    exact ⟨entry, List.mem_filter.mpr ⟨member, by simpa [AccessEntry.isFor] using other⟩, names⟩

theorem listed_revocation {state : Followed} {args : RevokeArgs}
    {report : Option MigrationReport}
    (returned : DirectoryCall.run (simulatedReaders registry) registry today state.employees
      state.devices (.remove (.revoke args)) = some (report, saved, after))
    (same : sameRecord state.employees args.employeeId employeeId = true)
    (keeps : RevocationKeepsTrack registry state args)
    (listed : Listed registry employeeId state) :
    Listed registry employeeId
      { employees := saved
        devices := after
        owned := (state.owned ++ createdFor registry employeeId state.employees
          ⟨today, .inr args⟩ report).filter fun profile => after.holds profile } := by
  obtain ⟨emp, found, named⟩ := listed
  have foundCall : findEmployee state.employees args.employeeId = some emp :=
    (findEmployee_of_sameRecord same).trans found
  have foundAsCall : findEmployee state.employees
      (RemovalCall.employeeId (.revoke args)) = some emp := foundCall
  rw [remove_run foundAsCall] at returned
  obtain ⟨⟨biometricsOnly, targets⟩, chosen, outcome⟩ := Option.map_eq_some_iff.mp returned
  obtain ⟨pin, pinFound, deletion⟩ := Option.map_eq_some_iff.mp chosen
  cases deletion
  cases outcome
  have foundSaved : ∀ changed : Employee, changed.id = emp.id →
      changed.employeeCode = emp.employeeCode →
      findEmployee (saveEmployee state.employees args.employeeId changed) employeeId =
        some changed := by
    intro changed sameId sameCode
    rw [findEmployee_saveEmployee_other foundCall sameId sameCode, if_pos same]
  rw [revoke_changed]
  cases device : simulatedDevice registry args.deviceSn with
  | none =>
      apply listed_of_access (foundSaved emp rfl rfl) rfl
      intro profile owned _
      exact named profile owned
  | some device' =>
      apply listed_of_access (foundSaved _ (by simp) (by simp)) rfl
      intro profile owned held
      by_cases biometricsOnly : args.deleteBiometricsOnly = true
      · obtain ⟨entry, member, names⟩ := named profile owned
        exact names_revoked member (Or.inl biometricsOnly) names
      · have full : args.deleteBiometricsOnly = false := by simpa using biometricsOnly
        rw [SimDevices.holds_iff] at held
        have heldBefore : state.devices.holds profile = true :=
          SimDevices.holds_iff.mpr (userIds_deletions_subset held)
        rcases keeps emp pin device' foundCall pinFound device full profile owned heldBefore with
          rfl | ⟨entry, member, other, names⟩
        · rw [full] at held
          exact absurd held (notMem_deletions_full (List.mem_singleton.mpr rfl) device)
        · exact names_revoked member (Or.inr other) names

/-- Under its condition a call leaves every profile of the employee listed. -/
theorem listed_follow {state : Followed} {label : AccessCall}
    (keeps : KeepsTrack registry employeeId state label)
    (listed : Listed registry employeeId state) :
    Listed registry employeeId (follow registry employeeId state label) := by
  unfold follow
  split
  · exact listed
  · rename_i report saved after returned
    cases same : sameRecord state.employees label.directoryCall.employeeId employeeId with
    | false =>
        obtain ⟨emp, found, named⟩ := listed
        apply listed_of_access ((DirectoryCall.findEmployee_other returned same).trans found)
          (createdFor_other report same)
        intro profile owned _
        exact named profile owned
    | true =>
        obtain ⟨today, call | args⟩ := label
        · exact listed_enrolment returned same (keeps same) listed
        · exact listed_revocation returned same (keeps same) listed

/-! ## Dismissal -/

/-- Where every deletion of the dismissal returned ok, none of the employee's profiles is
on a reader. -/
def DismissalReachesAll (registry : Registry) (employeeId : String) (state : Followed) : Prop :=
  ∀ today deviceSn result saved after,
    fireEmployeeAndWipeBiometrics (simulatedReaders registry) registry today state.employees
        state.devices ⟨employeeId, "fire_all", deviceSn, "full"⟩ = some (result, saved, after) →
      (∀ deletion ∈ result.deviceResults, deletion.ok = true) →
        ∀ profile ∈ state.owned, after.holds profile = false

theorem dismissal_reaches_listed {state : Followed}
    (listed : Listed registry employeeId state) :
    DismissalReachesAll registry employeeId state := by
  intro today deviceSn result saved after fired _ profile owned
  obtain ⟨emp, found, named⟩ := listed
  obtain ⟨entry, member, device, pin⟩ := named profile owned
  simp only [fireEmployeeAndWipeBiometrics, found] at fired
  obtain ⟨targets, chosen, outcome⟩ := Option.map_eq_some_iff.mp fired
  cases outcome
  have target : (entry.deviceSn, profile.2) ∈ targets := by
    cases access : emp.access with
    | nil => simp [access] at member
    | cons first rest =>
        rw [access] at member
        simp only [targetDevices, FireArgs.singleDevice, access] at chosen
        cases chosen
        exact List.mem_map.mpr ⟨entry, member, by simp [pin]⟩
  rw [Bool.eq_false_iff, ne_eq, SimDevices.holds_iff, deleteFromReaders_devices]
  exact notMem_deletions_full target device

/-- After every run of calls that keep track of the employee's profiles a dismissal
deletes all of them. -/
theorem offboarding_reaches_all {start final : Followed} {labels : List AccessCall}
    (listed : Listed registry employeeId start)
    (run : Run (Guarded (KeepsTrack registry employeeId) (Follows registry employeeId)) start
      labels final) :
    DismissalReachesAll registry employeeId final := by
  apply dismissal_reaches_listed
  apply run.preserves _ listed
  rintro before label after listed ⟨keeps, rfl⟩
  exact listed_follow keeps listed

end

/-! ## A PIN that the directory forgets -/

/-- Every profile on a device is listed under its PIN for an employee of its name. -/
def EveryProfileListed [UnicodeTables] (registry : Registry) (employees : Directory)
    (devices : SimDevices) : Prop :=
  ∀ device, ∀ user ∈ devices.users device, ∃ emp ∈ employees, emp.name = user.name ∧
    ∃ entry ∈ emp.access, Names registry entry (device, user.userId)

def sharedPin : Followed where
  employees :=
    [enrolledAt "101" "EMP-101" "Member 1o" 1 "NFZ8254900401" "101",
      enrolledAt "7" "EMP-7" "Visitor" 2 "UFZ9876543210" "101"]
  devices :=
    { sourceUsers := [⟨⟨"Member 1o", 0, "", "1", 0, []⟩, 1, "101"⟩]
      targetUsers := [⟨⟨"Visitor", 0, "", "1", 0, []⟩, 1, "101"⟩] }
  owned := [(.source, "101")]

/-- `sharedPin` after a number of grants of the target: each enrols the next free PIN and
records it over the one before. -/
def afterGrants (pins : List String) (recorded : String) : Followed where
  employees :=
    [{ enrolledAt "101" "EMP-101" "Member 1o" 1 "NFZ8254900401" "101" with
        access := [⟨"NFZ8254900401", some "101", true, false⟩,
          ⟨"UFZ9876543210", some recorded, false, false⟩] },
      enrolledAt "7" "EMP-7" "Visitor" 2 "UFZ9876543210" "101"]
  devices :=
    { sourceUsers := [⟨⟨"Member 1o", 0, "", "1", 0, []⟩, 1, "101"⟩]
      targetUsers := ⟨⟨"Visitor", 0, "", "1", 0, []⟩, 1, "101"⟩ ::
        pins.zipIdx.map fun (pin, index) =>
          ⟨⟨"Member 1o", 0, "", "1", 0, []⟩, Int.ofNat index + 2, pin⟩ }
  owned := (.source, "101") :: pins.map fun pin => (.target, pin)

def grantTargetReader : AccessCall := ⟨"2026-09-14", .inl (.grant ⟨"101", some 2, none⟩)⟩

theorem sharedPin_listed : @Listed UnicodeTables.ascii defaultRegistry "101" sharedPin := by
  let := UnicodeTables.ascii
  have reader : simulatedDevice defaultRegistry "NFZ8254900401" = some .source := by decide
  refine ⟨enrolledAt "101" "EMP-101" "Member 1o" 1 "NFZ8254900401" "101", by decide, ?_⟩
  intro profile member
  rw [List.mem_singleton.mp member]
  exact ⟨_, List.mem_singleton.mpr rfl, reader, rfl⟩

theorem first_grant :
    @Follows UnicodeTables.ascii defaultRegistry "101" sharedPin grantTargetReader
      (afterGrants ["102"] "102") := by
  let := UnicodeTables.ascii
  unfold Follows
  decide +kernel

theorem second_grant :
    @Follows UnicodeTables.ascii defaultRegistry "101" (afterGrants ["102"] "102")
      grantTargetReader (afterGrants ["102", "103"] "103") := by
  let := UnicodeTables.ascii
  unfold Follows
  decide +kernel

theorem offboarding_reaches_all_first_grant :
    @DismissalReachesAll UnicodeTables.ascii defaultRegistry "101"
      (afterGrants ["102"] "102") := by
  let := UnicodeTables.ascii
  have keeps : KeepsTrack defaultRegistry "101" sharedPin grantTargetReader := by
    intro _ emp route empPin srcDev tgtDev srcUser found routed pinFound srcFound tgtFound _ _
    have foundIt : findEmployee sharedPin.employees "101" =
        some (enrolledAt "101" "EMP-101" "Member 1o" 1 "NFZ8254900401" "101") := by decide
    cases foundIt.symm.trans found
    have routedIt : (EnrolCall.grant ⟨"101", some 2, none⟩).route defaultRegistry
        (enrolledAt "101" "EMP-101" "Member 1o" 1 "NFZ8254900401" "101") =
        some ⟨"NFZ8254900401", "UFZ9876543210", 4370, 4370⟩ := by decide
    cases routedIt.symm.trans routed
    cases pinFound
    have source : simulatedDevice defaultRegistry "NFZ8254900401" = some .source := by decide
    have target : simulatedDevice defaultRegistry "UFZ9876543210" = some .target := by decide
    cases target.symm.trans tgtFound
    refine ⟨Or.inl ⟨⟨⟨"Visitor", 0, "", "1", 0, []⟩, 1, "101"⟩, by decide, by decide +kernel⟩, ?_⟩
    intro profile owned _
    rw [List.mem_singleton.mp owned]
    exact Or.inr (Or.inr ⟨⟨"NFZ8254900401", some "101", true, false⟩, by decide, source, rfl⟩)
  exact offboarding_reaches_all sharedPin_listed (.cons ⟨keeps, first_grant⟩ (.nil _))

/-- The second grant overwrites the entry of the first, whose profile outlives the
dismissal. -/
theorem second_grant_outlives_dismissal :
    @Listed UnicodeTables.ascii defaultRegistry "101" sharedPin ∧
      @EveryProfileListed UnicodeTables.ascii defaultRegistry sharedPin.employees
        sharedPin.devices ∧
      ∃ final, Run (@Follows UnicodeTables.ascii defaultRegistry "101") sharedPin
          [grantTargetReader, grantTargetReader] final ∧
        ¬ @DismissalReachesAll UnicodeTables.ascii defaultRegistry "101" final := by
  let := UnicodeTables.ascii
  have source : simulatedDevice defaultRegistry "NFZ8254900401" = some .source := by decide
  have target : simulatedDevice defaultRegistry "UFZ9876543210" = some .target := by decide
  refine ⟨sharedPin_listed, ?_, _, .cons first_grant (.cons second_grant (.nil _)), ?_⟩
  · intro device user member
    cases device with
    | source =>
        rw [List.mem_singleton.mp member]
        exact ⟨_, List.mem_cons_self, rfl, _, List.mem_singleton.mpr rfl, source, rfl⟩
    | target =>
        rw [List.mem_singleton.mp member]
        exact ⟨_, List.mem_cons_of_mem _ List.mem_cons_self, rfl, _, List.mem_singleton.mpr rfl,
          target, rfl⟩
  · intro reaches
    have fired : (fireEmployeeAndWipeBiometrics (simulatedReaders defaultRegistry)
        defaultRegistry "2026-09-14" (afterGrants ["102", "103"] "103").employees
        (afterGrants ["102", "103"] "103").devices
        ⟨"101", "fire_all", none, "full"⟩).any (fun (result, _, after) =>
          result.deviceResults.all DeviceDeletion.ok && after.holds (.target, "102")) = true := by
      decide +kernel
    obtain ⟨⟨result, saved, after⟩, returned, outcome⟩ := (Option.any_eq_true _ _).mp fired
    obtain ⟨allOk, held⟩ := Bool.and_eq_true_iff.mp outcome
    have gone := reaches _ _ _ _ _ returned (List.all_eq_true.mp allOk)
      (.target, "102") (by decide)
    rw [gone] at held
    cases held

end PumoBioMetric.Core
