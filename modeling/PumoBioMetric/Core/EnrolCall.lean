import PumoBioMetric.Core.EmployeeService

/-!
# The two operations that enrol

`transfer_employee` and `grant_multi_branch_access` as one kind of call: a route from
the home reader to another, one migration along it, and an edit of the access list
when the migration returned ok.
-/

set_option autoImplicit false

namespace PumoBioMetric.Core

open Py FirstMatch

inductive EnrolCall where
  | transfer (args : TransferArgs)
  | grant (args : GrantArgs)
deriving DecidableEq, Repr

structure Route where
  srcSn : String
  tgtSn : String
  srcPort : Int
  tgtPort : Int
deriving DecidableEq, Repr

namespace EnrolCall

def employeeId : EnrolCall → String
  | transfer args => args.employeeId
  | grant args => args.employeeId

def mode [UnicodeTables] : EnrolCall → String
  | transfer args => transferMode args.biometricMode
  | grant _ => "copy"

def route (registered : Registry) (emp : Employee) : EnrolCall → Option Route
  | transfer args =>
      if args.transferBiometric = false ∨ emp.branchId = args.toBranchId then none
      else
        (firstReader (branchById registered emp.branchId)).bind fun srcDev =>
          (firstReader (branchById registered args.toBranchId)).map fun tgtDev =>
            ⟨srcDev.sn, tgtDev.sn, srcDev.port, tgtDev.port⟩
  | grant args =>
      (firstReader (branchById registered emp.branchId)).bind fun srcDev =>
        (grantTarget registered args).map fun (tgtSn, tgtPort) =>
          ⟨srcDev.sn, tgtSn, srcDev.port, tgtPort⟩

end EnrolCall

theorem EnrolCall.route_sn_ne_empty {registered : Registry} {call : EnrolCall} {emp : Employee} {route : Route}
    (routed : call.route registered emp = some route) : route.srcSn ≠ "" ∧ route.tgtSn ≠ "" := by
  cases call with
  | transfer args =>
      simp only [EnrolCall.route] at routed
      split at routed
      · cases routed
      · obtain ⟨srcDev, srcFirst, onward⟩ := Option.bind_eq_some_iff.mp routed
        obtain ⟨tgtDev, tgtFirst, same⟩ := Option.map_eq_some_iff.mp onward
        cases same
        exact ⟨firstReader_sn_ne_empty srcFirst, firstReader_sn_ne_empty tgtFirst⟩
  | grant args =>
      obtain ⟨srcDev, srcFirst, onward⟩ := Option.bind_eq_some_iff.mp routed
      obtain ⟨⟨tgtSn, tgtPort⟩, targeted, same⟩ := Option.map_eq_some_iff.mp onward
      cases same
      refine ⟨firstReader_sn_ne_empty srcFirst, ?_⟩
      unfold grantTarget at targeted
      split at targeted
      · rename_i sn given
        cases targeted
        simpa using (Option.filter_eq_some_iff.mp given).2
      · obtain ⟨branchId, -, reached⟩ := Option.bind_eq_some_iff.mp targeted
        obtain ⟨tgtDev, tgtFirst, same⟩ := Option.map_eq_some_iff.mp reached
        cases same
        exact firstReader_sn_ne_empty tgtFirst

/-- Only the access list, the branch and the transfer history may differ. -/
def Employee.SameButAccess (changed emp : Employee) : Prop :=
  changed = { emp with
    access := changed.access
    branchId := changed.branchId
    transferHistory := changed.transferHistory }

theorem Employee.SameButAccess.id_eq {changed emp : Employee} (same : changed.SameButAccess emp) :
    changed.id = emp.id := by
  rw [same]

theorem Employee.SameButAccess.employeeCode_eq {changed emp : Employee}
    (same : changed.SameButAccess emp) : changed.employeeCode = emp.employeeCode := by
  rw [same]

def BiometricResult.report : BiometricResult → Option MigrationReport
  | .skipped _ => none
  | .migrated report => some report

section

variable [UnicodeTables] {World : Type} (readers : Readers World) (registered : Registry)
  (today : String)

/-- The migration the call reports, the directory then on disk and the world. -/
def EnrolCall.run (employees : Directory) (world : World) :
    EnrolCall → Option (Option MigrationReport × Directory × World)
  | transfer args =>
      (transferEmployee readers registered today employees world args).map
        fun (result, saved, migrated) =>
          (result.biometric.bind BiometricResult.report, saved, migrated)
  | grant args =>
      (grantMultiBranchAccess readers registered employees world args).map
        fun (result, saved, migrated) => (result.biometric, saved, migrated)

/-- What an enrolment call does to the directory and the readers. -/
inductive EnrolEffect (employees : Directory) (world : World) (call : EnrolCall) :
    Option MigrationReport → Directory → World → Prop where
  | unknown :
      findEmployee employees call.employeeId = none →
        EnrolEffect employees world call none employees world
  | unreached {emp changed : Employee} :
      findEmployee employees call.employeeId = some emp →
      call.route registered emp = none →
      changed.SameButAccess emp → changed.access = emp.access →
        EnrolEffect employees world call none
          (saveEmployee employees call.employeeId changed) world
  | migrated {emp changed : Employee} {route : Route} {pinCheck : PinCheck}
      {res : MigrationResult} {report : MigrationReport} {after : World} :
      findEmployee employees call.employeeId = some emp →
      call.route registered emp = some route →
      migrateEmployee readers world emp route.srcSn route.tgtSn route.srcPort route.tgtPort
        call.mode = some (pinCheck, res, after) →
      report.migration = res.toDict → report.targetPin = pinCheck.targetPin →
      changed.SameButAccess emp →
      changed.access = (if res.ok = true then
          accessAfterTransfer call.mode emp.access route.srcSn route.tgtSn pinCheck.targetPin
        else emp.access) →
        EnrolEffect employees world call (some report)
          (saveEmployee employees call.employeeId changed) after

end

theorem saveEmployee_self [UnicodeTables] {employees : Directory} {employeeId : String}
    {emp : Employee} (found : findEmployee employees employeeId = some emp) :
    saveEmployee employees employeeId emp = employees :=
  updateFirst_self _ _ found rfl

section

variable [UnicodeTables] {World : Type} {readers : Readers World} {registered : Registry}
  {today : String} {employees saved : Directory} {world after : World}

theorem EnrolEffect.unchanged {call : EnrolCall} {emp : Employee}
    (found : findEmployee employees call.employeeId = some emp)
    (noRoute : call.route registered emp = none) :
    EnrolEffect readers registered employees world call none employees world := by
  have effect : EnrolEffect readers registered employees world call none
      (saveEmployee employees call.employeeId emp) world :=
    .unreached found noRoute rfl rfl
  rwa [saveEmployee_self found] at effect

theorem transfer_effect {args : TransferArgs} {result : TransferResult}
    (returned : transferEmployee readers registered today employees world args =
      some (result, saved, after)) :
    EnrolEffect readers registered employees world (.transfer args)
      (result.biometric.bind BiometricResult.report) saved after := by
  unfold transferEmployee at returned
  split at returned
  · rename_i missing
    cases returned
    exact .unknown missing
  · rename_i emp found
    split at returned
    · rename_i sameBranch
      cases returned
      exact .unchanged found (by simp [EnrolCall.route, sameBranch])
    · rename_i otherBranch
      split at returned
      · rename_i noBranch
        cases returned
        exact .unchanged found (by simp [EnrolCall.route, noBranch, firstReader])
      · rename_i toBranch reached
        obtain ⟨⟨biometric, accessList, migrated⟩, done, same⟩ :=
          Option.map_eq_some_iff.mp returned
        cases same
        by_cases biometrics : args.transferBiometric = true
        · rw [if_pos biometrics] at done
          obtain ⟨⟨outcome, accessNow, world'⟩, moved, same⟩ := Option.map_eq_some_iff.mp done
          cases same
          unfold transferBiometrics at moved
          split at moved
          · rename_i noReader
            cases moved
            exact .unreached found (by simp [EnrolCall.route, noReader]) rfl rfl
          · rename_i srcDev srcFirst
            split at moved
            · rename_i noReader
              cases moved
              exact .unreached found (by simp [EnrolCall.route, reached, noReader]) rfl rfl
            · rename_i tgtDev tgtFirst
              obtain ⟨⟨pinCheck, res, world'⟩, migrated, same⟩ := Option.map_eq_some_iff.mp moved
              cases same
              have routed : (EnrolCall.transfer args).route registered emp =
                  some ⟨srcDev.sn, tgtDev.sn, srcDev.port, tgtDev.port⟩ := by
                simp [EnrolCall.route, biometrics, otherBranch, srcFirst, reached, tgtFirst]
              exact .migrated found routed migrated rfl rfl rfl rfl
        · rw [if_neg biometrics] at done
          cases done
          exact .unreached found (by simp [EnrolCall.route, biometrics]) rfl rfl

theorem grant_effect {args : GrantArgs} {result : GrantResult}
    (returned : grantMultiBranchAccess readers registered employees world args =
      some (result, saved, after)) :
    EnrolEffect readers registered employees world (.grant args) result.biometric saved after := by
  unfold grantMultiBranchAccess at returned
  split at returned
  · rename_i missing
    cases returned
    exact .unknown missing
  · rename_i emp found
    split at returned
    · rename_i noReader
      cases returned
      exact .unchanged found (by simp [EnrolCall.route, noReader])
    · rename_i srcDev srcFirst
      split at returned
      · rename_i noTarget
        cases returned
        exact .unchanged found (by simp [EnrolCall.route, noTarget])
      · rename_i tgtSn tgtPort targeted
        obtain ⟨⟨pinCheck, res, world'⟩, migrated, same⟩ := Option.map_eq_some_iff.mp returned
        cases same
        have routed : (EnrolCall.grant args).route registered emp =
            some ⟨srcDev.sn, tgtSn, srcDev.port, tgtPort⟩ := by
          simp [EnrolCall.route, srcFirst, targeted]
        cases ok : res.ok with
        | true =>
            exact .migrated found routed migrated rfl rfl rfl
              (by simp [ok, accessAfterTransfer, EnrolCall.mode])
        | false =>
            have effect : EnrolEffect readers registered employees world (.grant args)
                (some ⟨res.toDict, none, none, pinCheck.isMapped, pinCheck.targetPin⟩)
                (saveEmployee employees args.employeeId emp) _ :=
              .migrated found routed migrated rfl rfl rfl (by simp [ok])
            rw [saveEmployee_self found] at effect
            simpa [ok] using effect

theorem enrolEffect_of_run {call : EnrolCall} {report : Option MigrationReport}
    (returned : call.run readers registered today employees world = some (report, saved, after)) :
    EnrolEffect readers registered employees world call report saved after := by
  cases call with
  | transfer args =>
      obtain ⟨⟨result, directory, world'⟩, ran, same⟩ := Option.map_eq_some_iff.mp returned
      cases same
      exact transfer_effect ran
  | grant args =>
      obtain ⟨⟨result, directory, world'⟩, ran, same⟩ := Option.map_eq_some_iff.mp returned
      cases same
      exact grant_effect ran

theorem run_of_migrate {call : EnrolCall} {emp : Employee} {route : Route} {pinCheck : PinCheck}
    {res : MigrationResult}
    (found : findEmployee employees call.employeeId = some emp)
    (routed : call.route registered emp = some route)
    (migrated : migrateEmployee readers world emp route.srcSn route.tgtSn route.srcPort
      route.tgtPort call.mode = some (pinCheck, res, after)) :
    ∃ report saved, call.run readers registered today employees world =
        some (some report, saved, after) ∧ report.migration = res.toDict := by
  cases call with
  | transfer args =>
      change findEmployee employees args.employeeId = some emp at found
      change migrateEmployee readers world emp route.srcSn route.tgtSn route.srcPort route.tgtPort
        (transferMode args.biometricMode) = _ at migrated
      simp only [EnrolCall.route] at routed
      split at routed
      · cases routed
      · rename_i taken
        obtain ⟨biometrics, otherBranch⟩ := not_or.mp taken
        obtain ⟨srcDev, srcFirst, onward⟩ := Option.bind_eq_some_iff.mp routed
        obtain ⟨tgtDev, tgtFirst, same⟩ := Option.map_eq_some_iff.mp onward
        obtain ⟨toBranch, reached, head⟩ := Option.bind_eq_some_iff.mp tgtFirst
        cases same
        have tgtHead : firstReader (some toBranch) = some tgtDev := head
        have wanted : args.transferBiometric = true := by simpa using biometrics
        simp only [EnrolCall.run, transferEmployee, found, otherBranch, if_false, reached,
          wanted, if_true, transferBiometrics, srcFirst, tgtHead, migrated, Option.map_some]
        exact ⟨_, _, rfl, rfl⟩
  | grant args =>
      change findEmployee employees args.employeeId = some emp at found
      change migrateEmployee readers world emp route.srcSn route.tgtSn route.srcPort route.tgtPort
        "copy" = _ at migrated
      obtain ⟨srcDev, srcFirst, onward⟩ := Option.bind_eq_some_iff.mp routed
      obtain ⟨⟨tgtSn, tgtPort⟩, targeted, same⟩ := Option.map_eq_some_iff.mp onward
      cases same
      simp only [EnrolCall.run, grantMultiBranchAccess, found, srcFirst, targeted, migrated,
        Option.map_some]
      exact ⟨_, _, rfl, rfl⟩

end

end PumoBioMetric.Core
