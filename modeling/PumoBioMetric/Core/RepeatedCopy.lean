import PumoBioMetric.Core.CopiedAgain

/-!
# Granting access twice

`grant_multi_branch_access` and `migrate_single_user_simulated` in copy mode, each called
again with the arguments of a call that returned ok.
-/

set_option autoImplicit false

namespace PumoBioMetric.Core

open Py FirstMatch

/-! ## Recording the same PIN again -/

theorem recordAccess_recordAccess (accessList : List AccessEntry) (sn pin : String) :
    recordAccess (recordAccess accessList sn pin false) sn pin false =
      recordAccess accessList sn pin false := by
  obtain ⟨entry, first, owner, recorded⟩ := accessFor_recordAccess accessList sn pin false
  have unchanged : updateFirst (AccessEntry.isFor sn)
      (fun entry => { entry with pin := some pin, primary := entry.primary || false })
      (recordAccess accessList sn pin false) = recordAccess accessList sn pin false :=
    updateFirst_self _ _ first (by simp [← recorded])
  rw [recordAccess, first]
  exact unchanged

theorem find?_recordAccess_other (accessList : List AccessEntry) {sn other : String}
    (pin : String) (primary : Bool) (apart : other ≠ sn) :
    (recordAccess accessList sn pin primary).find? (AccessEntry.isFor other) =
      accessList.find? (AccessEntry.isFor other) := by
  rw [← List.head?_filter, ← List.head?_filter]
  congr 1
  unfold recordAccess
  split
  · apply filter_updateFirst
    · intro entry held
      simp only [AccessEntry.isFor_iff] at held
      simp [AccessEntry.isFor, held, apart.symm]
    · intro entry _
      rfl
  · simp [List.filter_append, AccessEntry.isFor, apart.symm]

section

variable [UnicodeTables] {registry : Registry} {employees : Directory} {devices : SimDevices}
  {args : GrantArgs} {emp : Employee} {route : Route} {empPin : String}
  {srcDev tgtDev : SimDevice}

/-! ## One grant -/

/-- Everything a grant looks up before it reaches the readers. -/
structure GrantFound (registry : Registry) (employees : Directory) (args : GrantArgs)
    (emp : Employee) (route : Route) (empPin : String) (srcDev tgtDev : SimDevice) : Prop where
  found : findEmployee employees args.employeeId = some emp
  routed : (EnrolCall.grant args).route registry emp = some route
  pinOnSource : emp.pinOn route.srcSn = some empPin
  srcFound : simulatedDevice registry route.srcSn = some srcDev
  tgtFound : simulatedDevice registry route.tgtSn = some tgtDev

def grantedEmployee (emp : Employee) (tgtSn pin : String) : Employee :=
  { emp with access := recordAccess emp.access tgtSn pin false }

def resolvedSn (registry : Registry) (tgtSn : String) : String :=
  (resolveDevice registry tgtSn 4370).sn

theorem lower_copy_ne_move : lower "copy" ≠ "move" := by
  rw [UnicodeTables.lower_ascii "copy" (by simp [isAscii])]
  decide

theorem grant_eq_migrateEmployee
    (looked : GrantFound registry employees args emp route empPin srcDev tgtDev) :
    grantMultiBranchAccess (simulatedReaders registry) registry employees devices args =
      (migrateEmployee (simulatedReaders registry) devices emp route.srcSn route.tgtSn
        route.srcPort route.tgtPort "copy").map fun (pinCheck, res, migrated) =>
          (⟨res.ok, none,
            some (if res.ok then grantedEmployee emp route.tgtSn pinCheck.targetPin else emp),
            some ⟨res.toDict, none, none, pinCheck.isMapped, pinCheck.targetPin⟩,
            some ("Multi-branch access to " ++ route.tgtSn ++
              (if res.ok then " granted successfully." else " failed."))⟩,
            if res.ok then saveEmployee employees args.employeeId
              (if res.ok then grantedEmployee emp route.tgtSn pinCheck.targetPin else emp)
            else employees,
            migrated) := by
  obtain ⟨srcReader, srcFirst, onward⟩ := Option.bind_eq_some_iff.mp looked.routed
  obtain ⟨⟨tgtSn, tgtPort⟩, targeted, same⟩ := Option.map_eq_some_iff.mp onward
  cases same
  simp only [grantMultiBranchAccess, looked.found, srcFirst, targeted]
  rfl

def copyResult (registry : Registry) (route : Route) (empPin dest : String) (srcUser : SimUser) :
    MigrationResult :=
  ⟨true, "copy", empPin, srcUser.name, resolvedSn registry route.srcSn,
    resolvedSn registry route.tgtSn, dest, srcUser.fingers.length, none⟩

theorem copy_of_found
    (looked : GrantFound registry employees args emp route empPin srcDev tgtDev)
    (targetPin : String) {srcUser : SimUser}
    (first : (devices.users srcDev).find? (SimUser.hasId empPin) = some srcUser) :
    migrateSingleUserSimulated registry devices
        (enrolRequest route.srcSn route.tgtSn empPin "copy" targetPin) =
      (enrol (devices.users tgtDev) srcUser.toProfile (requestedPin empPin targetPin)).map
        fun (dest, tgtUsers) =>
          (copyResult registry route empPin dest srcUser, devices.setUsers tgtDev tgtUsers) := by
  obtain ⟨srcNamed, tgtNamed⟩ := EnrolCall.route_sn_ne_empty looked.routed
  have kept : ∀ written, deleteIfMove written srcDev
      (enrolRequest route.srcSn route.tgtSn empPin "copy" targetPin) = written := by
    intro written
    exact if_neg lower_copy_ne_move
  have searched : (devices.users srcDev).find? (SimUser.hasId
      (enrolRequest route.srcSn route.tgtSn empPin "copy" targetPin).userId) = some srcUser := first
  unfold migrateSingleUserSimulated
  rw [enrolRequest_srcIdentifier srcNamed, enrolRequest_tgtIdentifier tgtNamed]
  simp only [looked.srcFound, looked.tgtFound, searched, kept]
  rfl

theorem copy_of_absent
    (looked : GrantFound registry employees args emp route empPin srcDev tgtDev)
    (targetPin : String)
    (missing : (devices.users srcDev).find? (SimUser.hasId empPin) = none) :
    ∃ res, migrateSingleUserSimulated registry devices
        (enrolRequest route.srcSn route.tgtSn empPin "copy" targetPin) = some (res, devices) ∧
      res.ok = false := by
  obtain ⟨srcNamed, tgtNamed⟩ := EnrolCall.route_sn_ne_empty looked.routed
  have searched : (devices.users srcDev).find? (SimUser.hasId
      (enrolRequest route.srcSn route.tgtSn empPin "copy" targetPin).userId) = none := missing
  unfold migrateSingleUserSimulated
  rw [enrolRequest_srcIdentifier srcNamed, enrolRequest_tgtIdentifier tgtNamed]
  simp only [looked.srcFound, looked.tgtFound, searched]
  exact ⟨_, rfl, rfl⟩

theorem migrateEmployee_of_absent
    (looked : GrantFound registry employees args emp route empPin srcDev tgtDev)
    (missing : (devices.users srcDev).find? (SimUser.hasId empPin) = none)
    {pinCheck : PinCheck} {res : MigrationResult} {after : SimDevices}
    (migrated : migrateEmployee (simulatedReaders registry) devices emp route.srcSn route.tgtSn
      route.srcPort route.tgtPort "copy" = some (pinCheck, res, after)) :
    res.ok = false ∧ after = devices := by
  obtain ⟨_, pinFound, _, ran⟩ := migrateEmployee_simulated.mp migrated
  cases looked.pinOnSource.symm.trans pinFound
  obtain ⟨_, refused, failed⟩ := copy_of_absent looked pinCheck.targetPin missing
  cases refused.symm.trans ran
  exact ⟨failed, rfl⟩

theorem migrateEmployee_of_found
    (looked : GrantFound registry employees args emp route empPin srcDev tgtDev)
    {srcUser : SimUser}
    (first : (devices.users srcDev).find? (SimUser.hasId empPin) = some srcUser) :
    (∀ pin after, copyOnto (resolvedSn registry route.tgtSn) (devices.users tgtDev) emp.name empPin
        srcUser.toProfile = some (pin, after) →
      ∃ pinCheck res, migrateEmployee (simulatedReaders registry) devices emp route.srcSn
          route.tgtSn route.srcPort route.tgtPort "copy" =
            some (pinCheck, res, devices.setUsers tgtDev after) ∧
        res.ok = true ∧ pinCheck.targetPin = pin) ∧
    (copyOnto (resolvedSn registry route.tgtSn) (devices.users tgtDev) emp.name empPin
        srcUser.toProfile = none →
      migrateEmployee (simulatedReaders registry) devices emp route.srcSn route.tgtSn
        route.srcPort route.tgtPort "copy" = none) := by
  have resolves : resolveTargetPinSimulated registry devices route.tgtSn empPin (some emp.name) =
      choosePin (resolvedSn registry route.tgtSn) empPin (some emp.name)
        ((devices.users tgtDev).map SimUser.listed) := by
    rw [resolveTargetPinSimulated, simulatedUsers, looked.tgtFound]
    rfl
  constructor
  · intro pin after copied
    obtain ⟨pinCheck, answer, onward⟩ := Option.bind_eq_some_iff.mp copied
    obtain ⟨⟨dest, list⟩, written, same⟩ := Option.map_eq_some_iff.mp onward
    cases same
    refine ⟨pinCheck, copyResult registry route empPin dest srcUser,
      migrateEmployee_simulated.mpr ⟨empPin, looked.pinOnSource, resolves.trans answer, ?_⟩,
      rfl, rfl⟩
    rw [copy_of_found looked pinCheck.targetPin first, written]
    rfl
  · intro raised
    rw [Option.eq_none_iff_forall_ne_some]
    rintro ⟨pinCheck, res, after⟩ migrated
    obtain ⟨_, pinFound, resolved, ran⟩ := migrateEmployee_simulated.mp migrated
    cases looked.pinOnSource.symm.trans pinFound
    rw [copy_of_found looked pinCheck.targetPin first] at ran
    obtain ⟨⟨dest, list⟩, written, _⟩ := Option.map_eq_some_iff.mp ran
    have copied : copyOnto (resolvedSn registry route.tgtSn) (devices.users tgtDev) emp.name empPin
        srcUser.toProfile = some (pinCheck.targetPin, list) := by
      rw [copyOnto, ← resolves, resolved]
      simp [written]
    exact absurd (raised.symm.trans copied) (by simp)

/-- The directory and the devices after a grant; an exception leaves them as they were. -/
def afterGrant (registry : Registry) (employees : Directory) (devices : SimDevices)
    (args : GrantArgs) : Directory × SimDevices :=
  match grantMultiBranchAccess (simulatedReaders registry) registry employees devices args with
  | none => (employees, devices)
  | some (_, saved, after) => (saved, after)

theorem afterGrant_of_absent
    (looked : GrantFound registry employees args emp route empPin srcDev tgtDev)
    (missing : (devices.users srcDev).find? (SimUser.hasId empPin) = none) :
    afterGrant registry employees devices args = (employees, devices) := by
  unfold afterGrant
  rw [grant_eq_migrateEmployee looked]
  cases migrated : migrateEmployee (simulatedReaders registry) devices emp route.srcSn route.tgtSn
      route.srcPort route.tgtPort "copy" with
  | none => rfl
  | some outcome =>
      obtain ⟨pinCheck, res, after⟩ := outcome
      obtain ⟨failed, rfl⟩ := migrateEmployee_of_absent looked missing migrated
      simp [failed]

theorem afterGrant_of_raised
    (looked : GrantFound registry employees args emp route empPin srcDev tgtDev)
    {srcUser : SimUser}
    (first : (devices.users srcDev).find? (SimUser.hasId empPin) = some srcUser)
    (raised : copyOnto (resolvedSn registry route.tgtSn) (devices.users tgtDev) emp.name empPin
      srcUser.toProfile = none) :
    afterGrant registry employees devices args = (employees, devices) := by
  unfold afterGrant
  rw [grant_eq_migrateEmployee looked, (migrateEmployee_of_found looked first).2 raised]
  rfl

theorem afterGrant_of_copied
    (looked : GrantFound registry employees args emp route empPin srcDev tgtDev)
    {srcUser : SimUser} {pin : String} {after : List SimUser}
    (first : (devices.users srcDev).find? (SimUser.hasId empPin) = some srcUser)
    (copied : copyOnto (resolvedSn registry route.tgtSn) (devices.users tgtDev) emp.name empPin
      srcUser.toProfile = some (pin, after)) :
    afterGrant registry employees devices args =
      (saveEmployee employees args.employeeId (grantedEmployee emp route.tgtSn pin),
        devices.setUsers tgtDev after) := by
  obtain ⟨pinCheck, res, migrated, ok, rfl⟩ :=
    (migrateEmployee_of_found looked first).1 pin after copied
  unfold afterGrant
  rw [grant_eq_migrateEmployee looked, migrated]
  simp [ok]

theorem copied_of_grant {result : GrantResult} {saved : Directory} {after : SimDevices}
    (returned : grantMultiBranchAccess (simulatedReaders registry) registry employees devices args =
      some (result, saved, after)) (ok : result.ok = true) :
    ∃ emp route empPin srcDev tgtDev srcUser pin tgtUsers,
      GrantFound registry employees args emp route empPin srcDev tgtDev ∧
      (devices.users srcDev).find? (SimUser.hasId empPin) = some srcUser ∧
      copyOnto (resolvedSn registry route.tgtSn) (devices.users tgtDev) emp.name empPin
        srcUser.toProfile = some (pin, tgtUsers) ∧
      saved = saveEmployee employees args.employeeId (grantedEmployee emp route.tgtSn pin) ∧
      after = devices.setUsers tgtDev tgtUsers := by
  have whole := returned
  unfold grantMultiBranchAccess at returned
  split at returned
  · cases returned
    cases ok
  · rename_i emp found
    split at returned
    · cases returned
      cases ok
    · rename_i srcReader srcFirst
      split at returned
      · cases returned
        cases ok
      · rename_i tgtSn tgtPort targeted
        obtain ⟨⟨pinCheck, res, world⟩, migrated, same⟩ := Option.map_eq_some_iff.mp returned
        cases same
        have routed : (EnrolCall.grant args).route registry emp =
            some ⟨srcReader.sn, tgtSn, srcReader.port, tgtPort⟩ := by
          simp [EnrolCall.route, srcFirst, targeted]
        obtain ⟨srcNamed, tgtNamed⟩ := EnrolCall.route_sn_ne_empty routed
        obtain ⟨empPin, pinFound, _, ran⟩ := migrateEmployee_simulated.mp migrated
        cases migrated_of_migrate registry ran with
        | refused failed => exact absurd (failed.symm.trans ok) (by simp)
        | @enrolled srcDev tgtDev srcUser _ srcFound tgtFound first _ _ _ =>
            rw [enrolRequest_srcIdentifier srcNamed] at srcFound
            rw [enrolRequest_tgtIdentifier tgtNamed] at tgtFound
            have looked : GrantFound registry employees args emp
                ⟨srcReader.sn, tgtSn, srcReader.port, tgtPort⟩ empPin srcDev tgtDev :=
              ⟨found, routed, pinFound, srcFound, tgtFound⟩
            have searched : (devices.users srcDev).find? (SimUser.hasId empPin) = some srcUser :=
              first
            cases copied : copyOnto (resolvedSn registry tgtSn) (devices.users tgtDev) emp.name
                empPin srcUser.toProfile with
            | none =>
                have raised := (migrateEmployee_of_found looked searched).2 copied
                exact absurd (raised.symm.trans migrated) (by simp)
            | some outcome =>
                have left := afterGrant_of_copied looked searched copied
                rw [afterGrant, whole] at left
                obtain ⟨savedEq, afterEq⟩ := Prod.mk.inj left
                exact ⟨emp, _, empPin, srcDev, tgtDev, srcUser, outcome.1, outcome.2, looked,
                  searched, copied, savedEq, afterEq⟩

/-! ## The second grant -/

theorem GrantFound.again
    (looked : GrantFound registry employees args emp route empPin srcDev tgtDev) (pin : String) :
    GrantFound registry
      (saveEmployee employees args.employeeId (grantedEmployee emp route.tgtSn pin)) args
      (grantedEmployee emp route.tgtSn pin) route
      (if route.tgtSn = route.srcSn then pin else empPin) srcDev tgtDev where
  found := findEmployee_saveEmployee looked.found rfl rfl
  routed := looked.routed
  srcFound := looked.srcFound
  tgtFound := looked.tgtFound
  pinOnSource := by
    unfold Employee.pinOn Employee.accessFor grantedEmployee
    by_cases home : route.tgtSn = route.srcSn
    · obtain ⟨entry, first, _, recorded⟩ :=
        accessFor_recordAccess emp.access route.tgtSn pin false
      rw [if_pos home, ← home, first]
      exact recorded
    · rw [if_neg home, find?_recordAccess_other emp.access pin false (Ne.symm home)]
      exact looked.pinOnSource

theorem sourceUser_after {targetSn pin : String} {srcUser : SimUser} {tgtUsers : List SimUser}
    {empName : String}
    (first : (devices.users srcDev).find? (SimUser.hasId empPin) = some srcUser)
    (copied : copyOnto targetSn (devices.users tgtDev) empName empPin srcUser.toProfile =
      some (pin, tgtUsers)) :
    ∃ user, ((devices.setUsers tgtDev tgtUsers).users srcDev).find? (SimUser.hasId empPin) =
      some user ∧ user.toProfile = srcUser.toProfile := by
  by_cases same : srcDev = tgtDev
  · subst same
    rw [SimDevices.users_setUsers_same]
    have found : ∀ requested dest, Enrolled (devices.users srcDev) srcUser.toProfile requested dest
        tgtUsers → ∃ user, tgtUsers.find? (SimUser.hasId empPin) = some user ∧
          user.toProfile = srcUser.toProfile := by
      intro requested dest enrolled
      by_cases atPin : empPin = dest
      · obtain ⟨user, found, _, profile⟩ := enrolled.readsBack
        exact ⟨user, atPin ▸ found, profile⟩
      · exact ⟨srcUser, (enrolled.find?_other atPin).trans first, rfl⟩
    cases firstCopy_of_copyOnto copied with
    | mapped _ _ _ _ _ enrolled => exact found _ _ enrolled
    | kept _ enrolled => exact found _ _ enrolled
  · rw [SimDevices.users_setUsers_other _ _ same]
    exact ⟨srcUser, first, rfl⟩

omit [UnicodeTables] in
theorem setUsers_setUsers (devices : SimDevices) (device : SimDevice) (first second : List SimUser) :
    (devices.setUsers device first).setUsers device second = devices.setUsers device second := by
  cases device <;> rfl

def accessOf (employees : Directory) (employeeId : String) : Option (List AccessEntry) :=
  (findEmployee employees employeeId).map Employee.access

/-- The second of two grants leaves the devices and the access list as the first did. -/
def GrantRepeats (registry : Registry) (saved : Directory) (after : SimDevices)
    (args : GrantArgs) : Prop :=
  (afterGrant registry saved after args).2 = after ∧
    accessOf (afterGrant registry saved after args).1 args.employeeId =
      accessOf saved args.employeeId

/-- For every employee and reader that the grant looks up, the copy is recognised. -/
def GrantRecognised (registry : Registry) (employees : Directory) (devices : SimDevices)
    (args : GrantArgs) : Prop :=
  ∀ emp route empPin srcDev tgtDev srcUser,
    GrantFound registry employees args emp route empPin srcDev tgtDev →
    (devices.users srcDev).find? (SimUser.hasId empPin) = some srcUser →
      CopyRecognised (devices.users tgtDev) emp.name empPin srcUser.name
        (route.tgtSn = route.srcSn)

section

variable {srcUser : SimUser} {pin : String} {tgtUsers : List SimUser}

theorem grantRepeats_of_same
    (looked : GrantFound registry employees args emp route empPin srcDev tgtDev)
    (same : ∀ user,
      ((devices.setUsers tgtDev tgtUsers).users srcDev).find? (SimUser.hasId
        (if route.tgtSn = route.srcSn then pin else empPin)) = some user →
      ∀ pin' after', copyOnto (resolvedSn registry route.tgtSn) tgtUsers emp.name
          (if route.tgtSn = route.srcSn then pin else empPin) user.toProfile = some (pin', after') →
        pin' = pin ∧ after' = tgtUsers) :
    GrantRepeats registry
      (saveEmployee employees args.employeeId (grantedEmployee emp route.tgtSn pin))
      (devices.setUsers tgtDev tgtUsers) args := by
  have second := looked.again pin
  have kept : afterGrant registry
      (saveEmployee employees args.employeeId (grantedEmployee emp route.tgtSn pin))
      (devices.setUsers tgtDev tgtUsers) args =
        (saveEmployee employees args.employeeId (grantedEmployee emp route.tgtSn pin),
          devices.setUsers tgtDev tgtUsers) := by
    cases source : ((devices.setUsers tgtDev tgtUsers).users srcDev).find? (SimUser.hasId
        (if route.tgtSn = route.srcSn then pin else empPin)) with
    | none => exact afterGrant_of_absent second source
    | some user =>
        cases copied : copyOnto (resolvedSn registry route.tgtSn) tgtUsers emp.name
            (if route.tgtSn = route.srcSn then pin else empPin) user.toProfile with
        | none =>
            apply afterGrant_of_raised second source
            rw [SimDevices.users_setUsers_same]
            exact copied
        | some outcome =>
            obtain ⟨pin', after'⟩ := outcome
            obtain ⟨rfl, rfl⟩ := same user source _ _ copied
            have recorded : grantedEmployee (grantedEmployee emp route.tgtSn pin') route.tgtSn pin' =
                grantedEmployee emp route.tgtSn pin' := by
              simp [grantedEmployee, recordAccess_recordAccess]
            rw [afterGrant_of_copied second source
              (by rw [SimDevices.users_setUsers_same]; exact copied), recorded,
              saveEmployee_self second.found, setUsers_setUsers]
  exact ⟨congrArg Prod.snd kept, by rw [kept]⟩

theorem not_grantRepeats_of_added
    (looked : GrantFound registry employees args emp route empPin srcDev tgtDev)
    (added : ∃ user,
      ((devices.setUsers tgtDev tgtUsers).users srcDev).find? (SimUser.hasId
        (if route.tgtSn = route.srcSn then pin else empPin)) = some user ∧
      ∃ pin' after', copyOnto (resolvedSn registry route.tgtSn) tgtUsers emp.name
          (if route.tgtSn = route.srcSn then pin else empPin) user.toProfile = some (pin', after') ∧
        after' ≠ tgtUsers) :
    ¬ GrantRepeats registry
      (saveEmployee employees args.employeeId (grantedEmployee emp route.tgtSn pin))
      (devices.setUsers tgtDev tgtUsers) args := by
  obtain ⟨user, source, pin', after', copied, differs⟩ := added
  rintro ⟨same, _⟩
  rw [afterGrant_of_copied (looked.again pin) source
    (by rw [SimDevices.users_setUsers_same]; exact copied), setUsers_setUsers] at same
  have written := congrArg (fun devices => devices.users tgtDev) same
  simp only [SimDevices.users_setUsers_same] at written
  exact differs written

theorem grantRepeats_iff_copyRecognised
    (looked : GrantFound registry employees args emp route empPin srcDev tgtDev)
    (first : (devices.users srcDev).find? (SimUser.hasId empPin) = some srcUser)
    (copied : copyOnto (resolvedSn registry route.tgtSn) (devices.users tgtDev) emp.name empPin
      srcUser.toProfile = some (pin, tgtUsers)) :
    GrantRepeats registry
        (saveEmployee employees args.employeeId (grantedEmployee emp route.tgtSn pin))
        (devices.setUsers tgtDev tgtUsers) args ↔
      CopyRecognised (devices.users tgtDev) emp.name empPin srcUser.name
        (route.tgtSn = route.srcSn) := by
  by_cases home : route.tgtSn = route.srcSn
  · have oneDevice : srcDev = tgtDev :=
      Option.some.inj (looked.srcFound.symm.trans (home ▸ looked.tgtFound))
    subst oneDevice
    rw [eq_true home]
    rcases copied_again_home copied with ⟨recognised, same⟩ | ⟨unrecognised, added⟩
    · refine iff_of_true (grantRepeats_of_same looked ?_) recognised
      rw [if_pos home, SimDevices.users_setUsers_same]
      exact same
    · refine iff_of_false (not_grantRepeats_of_added looked ?_) unrecognised
      rw [if_pos home, SimDevices.users_setUsers_same]
      exact added
  · rw [eq_false home]
    obtain ⟨user, source, profile⟩ := sourceUser_after first copied
    rcases copied_again copied with ⟨recognised, same⟩ | ⟨unrecognised, added⟩
    · refine iff_of_true (grantRepeats_of_same looked ?_) recognised
      rw [if_neg home]
      intro other found
      cases source.symm.trans found
      rw [profile]
      exact same
    · refine iff_of_false (not_grantRepeats_of_added looked ?_) unrecognised
      rw [if_neg home]
      exact ⟨user, source, by rw [profile]; exact added⟩

end

theorem grantRepeats_iff {result : GrantResult} {saved : Directory} {after : SimDevices}
    (returned : grantMultiBranchAccess (simulatedReaders registry) registry employees devices args =
      some (result, saved, after)) (ok : result.ok = true) :
    GrantRepeats registry saved after args ↔
      GrantRecognised registry employees devices args := by
  obtain ⟨emp, route, empPin, srcDev, tgtDev, srcUser, pin, tgtUsers, looked, first, copied, rfl,
    rfl⟩ := copied_of_grant returned ok
  rw [grantRepeats_iff_copyRecognised looked first copied]
  constructor
  · intro recognised emp' route' empPin' srcDev' tgtDev' srcUser' again found
    cases looked.found.symm.trans again.found
    cases looked.routed.symm.trans again.routed
    cases looked.pinOnSource.symm.trans again.pinOnSource
    cases looked.srcFound.symm.trans again.srcFound
    cases looked.tgtFound.symm.trans again.tgtFound
    cases first.symm.trans found
    exact recognised
  · exact fun recognised => recognised _ _ _ _ _ _ looked first

/-! ## The second migration -/

def afterMigration (registry : Registry) (devices : SimDevices) (request : MigrationRequest) :
    SimDevices :=
  match migrateSingleUserSimulated registry devices request with
  | none => devices
  | some (_, after) => after

/-- The second of two migrations leaves the users of the target as the first did. -/
def MigrationRepeats (registry : Registry) (devices : SimDevices) (request : MigrationRequest)
    (tgtDev : SimDevice) : Prop :=
  (afterMigration registry (afterMigration registry devices request) request).users tgtDev =
    (afterMigration registry devices request).users tgtDev

/-- A holder of the requested PIN has the name of the source user, or the search raises. -/
def TargetRecognised (srcUsers tgtUsers : List SimUser) (request : MigrationRequest) : Prop :=
  ∀ srcUser holder, srcUsers.find? (SimUser.hasId request.userId) = some srcUser →
    tgtUsers.find? (SimUser.hasId request.destUserId) = some holder →
      holder.name = srcUser.name ∨ Unreadable request.destUserId

section

variable {request : MigrationRequest}

theorem afterMigration_of_absent
    (srcFound : simulatedDevice registry request.srcIdentifier = some srcDev)
    (tgtFound : simulatedDevice registry request.tgtIdentifier = some tgtDev)
    (missing : (devices.users srcDev).find? (SimUser.hasId request.userId) = none) :
    afterMigration registry devices request = devices := by
  simp [afterMigration, migrateSingleUserSimulated, srcFound, tgtFound, missing]

theorem afterMigration_of_raised {srcUser : SimUser}
    (srcFound : simulatedDevice registry request.srcIdentifier = some srcDev)
    (tgtFound : simulatedDevice registry request.tgtIdentifier = some tgtDev)
    (first : (devices.users srcDev).find? (SimUser.hasId request.userId) = some srcUser)
    (raised : enrol (devices.users tgtDev) srcUser.toProfile request.destUserId = none) :
    afterMigration registry devices request = devices := by
  simp [afterMigration, migrateSingleUserSimulated, srcFound, tgtFound, first, raised]

theorem afterMigration_of_enrolled {srcUser : SimUser} {pin : String} {tgtUsers : List SimUser}
    (srcFound : simulatedDevice registry request.srcIdentifier = some srcDev)
    (tgtFound : simulatedDevice registry request.tgtIdentifier = some tgtDev)
    (copy : lower request.mode ≠ "move")
    (first : (devices.users srcDev).find? (SimUser.hasId request.userId) = some srcUser)
    (written : enrol (devices.users tgtDev) srcUser.toProfile request.destUserId =
      some (pin, tgtUsers)) :
    afterMigration registry devices request = devices.setUsers tgtDev tgtUsers := by
  simp [afterMigration, migrateSingleUserSimulated, srcFound, tgtFound, first, written,
    deleteIfMove, copy]

theorem migrationRepeats_iff
    (srcFound : simulatedDevice registry request.srcIdentifier = some srcDev)
    (tgtFound : simulatedDevice registry request.tgtIdentifier = some tgtDev)
    (different : srcDev ≠ tgtDev) (copy : lower request.mode ≠ "move") :
    MigrationRepeats registry devices request tgtDev ↔
      TargetRecognised (devices.users srcDev) (devices.users tgtDev) request := by
  unfold MigrationRepeats
  cases first : (devices.users srcDev).find? (SimUser.hasId request.userId) with
  | none =>
      rw [afterMigration_of_absent srcFound tgtFound first,
        afterMigration_of_absent srcFound tgtFound first]
      simp [TargetRecognised, first]
  | some srcUser =>
      cases written : enrol (devices.users tgtDev) srcUser.toProfile request.destUserId with
      | none =>
          rw [afterMigration_of_raised srcFound tgtFound first written,
            afterMigration_of_raised srcFound tgtFound first written]
          obtain ⟨_, _, _, unreadable⟩ := unreadable_of_enrol written
          simp [TargetRecognised, unreadable]
      | some outcome =>
          obtain ⟨pin, tgtUsers⟩ := outcome
          have source : ((devices.setUsers tgtDev tgtUsers).users srcDev).find?
              (SimUser.hasId request.userId) = some srcUser := by
            rw [SimDevices.users_setUsers_other _ _ different]
            exact first
          have target := SimDevices.users_setUsers_same devices tgtDev tgtUsers
          have repeats : (afterMigration registry (devices.setUsers tgtDev tgtUsers) request).users
                tgtDev = tgtUsers ↔
              ∀ pin' after', enrol tgtUsers srcUser.toProfile request.destUserId =
                some (pin', after') → after' = tgtUsers := by
            cases again : enrol tgtUsers srcUser.toProfile request.destUserId with
            | none =>
                rw [afterMigration_of_raised srcFound tgtFound source (target.symm ▸ again), target]
                simp
            | some second =>
                rw [afterMigration_of_enrolled srcFound tgtFound copy source (target.symm ▸ again),
                  SimDevices.users_setUsers_same]
                simp [Prod.ext_iff]
          rw [afterMigration_of_enrolled srcFound tgtFound copy first written, target, repeats,
            enrol_again_iff written]
          have enrolled := enrolled_of_enrol written
          constructor
          · intro named srcUser' holder found held
            cases first.symm.trans found
            exact Or.inl (named holder held)
          · intro recognised holder held
            by_contra differs
            rcases recognised srcUser holder first held with same | unreadable
            · exact differs same
            · exact enrolled.readable held differs unreadable

end

/-- A second grant, and a second copy between two devices, change nothing if and only if
the copy that is already there is recognised. -/
theorem repeated_copy_iff (registry : Registry) :
    (∀ (employees : Directory) (devices : SimDevices) (args : GrantArgs) (result : GrantResult)
        (saved : Directory) (after : SimDevices),
      grantMultiBranchAccess (simulatedReaders registry) registry employees devices args =
        some (result, saved, after) → result.ok = true →
      (GrantRepeats registry saved after args ↔
        GrantRecognised registry employees devices args)) ∧
    ∀ (devices : SimDevices) (request : MigrationRequest) (srcDev tgtDev : SimDevice),
      simulatedDevice registry request.srcIdentifier = some srcDev →
      simulatedDevice registry request.tgtIdentifier = some tgtDev → srcDev ≠ tgtDev →
      lower request.mode ≠ "move" →
      (MigrationRepeats registry devices request tgtDev ↔
        TargetRecognised (devices.users srcDev) (devices.users tgtDev) request) :=
  ⟨fun _ _ _ _ _ _ returned ok => grantRepeats_iff returned ok,
    fun _ _ _ _ srcFound tgtFound different copy =>
      migrationRepeats_iff srcFound tgtFound different copy⟩

end

/-! ## Two grants -/

def grantSecondReader : GrantArgs := ⟨"101", none, some "UFZ9876543210"⟩

theorem grant_second_reader (devices : SimDevices)
    (reached : ((@grantMultiBranchAccess .ascii SimDevices (@simulatedReaders .ascii defaultRegistry)
      defaultRegistry defaultEmployees devices grantSecondReader).map fun outcome =>
        outcome.1.ok) = some true) :
    ∃ result, @grantMultiBranchAccess .ascii SimDevices (@simulatedReaders .ascii defaultRegistry)
        defaultRegistry defaultEmployees devices grantSecondReader =
          some (result, @afterGrant .ascii defaultRegistry defaultEmployees devices
            grantSecondReader) ∧ result.ok = true := by
  obtain ⟨⟨result, saved, after⟩, returned, ok⟩ := Option.map_eq_some_iff.mp reached
  refine ⟨result, ?_, ok⟩
  unfold afterGrant
  rw [returned]

def copyFirst : MigrationRequest :=
  ⟨some "NFZ8254900401", some "UFZ9876543210", "101", "copy", none, none, none, none, none⟩

theorem repeated_copy_after_reset :
    @GrantRecognised .ascii defaultRegistry defaultEmployees resetSimulationState
        grantSecondReader ∧
      TargetRecognised resetSimulationState.sourceUsers resetSimulationState.targetUsers
        copyFirst := by
  let := UnicodeTables.ascii
  have both := repeated_copy_iff defaultRegistry
  constructor
  · obtain ⟨result, returned, ok⟩ := grant_second_reader resetSimulationState (by decide +kernel)
    refine (both.1 _ _ _ _ _ _ returned ok).mp ?_
    unfold GrantRepeats
    decide +kernel
  · refine (both.2 resetSimulationState copyFirst .source .target ?_ ?_ ?_ ?_).mp ?_
    · decide
    · decide
    · decide
    · decide
    · unfold MigrationRepeats
      decide +kernel

def visitorDevices : SimDevices :=
  { resetSimulationState with
    targetUsers := [⟨⟨"Visitor", 0, "", "1", 0, []⟩, 1, "101"⟩] }

theorem grant_twice_copies_twice :
    ∃ result saved after,
      @grantMultiBranchAccess .ascii SimDevices (@simulatedReaders .ascii defaultRegistry)
        defaultRegistry defaultEmployees visitorDevices grantSecondReader =
          some (result, saved, after) ∧
      result.ok = true ∧
      ¬ @GrantRepeats .ascii defaultRegistry saved after grantSecondReader := by
  obtain ⟨result, returned, ok⟩ := grant_second_reader visitorDevices (by decide +kernel)
  refine ⟨result, _, _, returned, ok, ?_⟩
  rintro ⟨same, _⟩
  exact absurd same (by decide +kernel)

end PumoBioMetric.Core
