import PumoBioMetric.Library.KeyedTable
import PumoBioMetric.Core.DirectoryRun

/-!
# The shape of access lists

One entry for a reader and at most one primary entry.  A move drops the entry of the
source and makes the target's primary, and looks at no other.
-/

set_option autoImplicit false

namespace PumoBioMetric.Core

open Py FirstMatch TransitionRun

structure WellShaped (accessList : List AccessEntry) : Prop where
  serials : (accessList.map AccessEntry.deviceSn).Nodup
  primary : accessList.countP AccessEntry.primary ≤ 1

def OfficeShaped {World : Type} (state : Office World) : Prop :=
  ∀ emp ∈ state.employees, WellShaped emp.access

/-- Whatever a move with biometrics does not drop or make primary was not primary. -/
def KeepsOnePrimary [UnicodeTables] {World : Type} (state : Office World)
    (made : MadeCall World) : Prop :=
  ∀ call emp route pinCheck res after,
    made.call = .enrol call → call.mode = "move" →
    findEmployee state.employees call.employeeId = some emp →
    call.route made.registered emp = some route →
    migrateEmployee made.readers state.world emp route.srcSn route.tgtSn route.srcPort
      route.tgtPort call.mode = some (pinCheck, res, after) →
    res.ok = true →
      ∀ entry ∈ emp.access, entry.primary = true →
        entry.deviceSn = route.srcSn ∨ entry.deviceSn = route.tgtSn

/-! ## Edits of a list -/

theorem nodup_serials_recordAccess {accessList : List AccessEntry}
    (nodup : (accessList.map AccessEntry.deviceSn).Nodup) (sn pin : String) (primary : Bool) :
    ((recordAccess accessList sn pin primary).map AccessEntry.deviceSn).Nodup := by
  rw [serials_recordAccess]
  split
  · exact nodup
  · rename_i missing
    exact List.Nodup.append nodup (List.nodup_singleton sn)
      (List.disjoint_singleton.mpr missing)

theorem countP_primary_updateFirst {accessList : List AccessEntry} {sn : String}
    (nodup : (accessList.map AccessEntry.deviceSn).Nodup)
    (listed : sn ∈ accessList.map AccessEntry.deviceSn) (pin : Option String) :
    (updateFirst (AccessEntry.isFor sn)
        (fun entry => { entry with pin := pin, primary := entry.primary || true })
        accessList).countP AccessEntry.primary =
      accessList.countP (fun entry => entry.primary && !entry.isFor sn) + 1 := by
  induction accessList with
  | nil => simp at listed
  | cons entry rest ih =>
      obtain ⟨notLater, restNodup⟩ := List.nodup_cons.mp nodup
      by_cases owner : entry.deviceSn = sn
      · have noneLater : ∀ other ∈ rest, AccessEntry.isFor sn other = false := by
          intro other member
          rw [Bool.eq_false_iff, ne_eq, AccessEntry.isFor_iff]
          intro same
          exact notLater (List.mem_map.mpr ⟨other, member, same.trans owner.symm⟩)
        have restCount : rest.countP (fun other => other.primary && !other.isFor sn) =
            rest.countP AccessEntry.primary := by
          apply List.countP_congr
          intro other member
          simp [noneLater other member]
        have passes : AccessEntry.isFor sn entry = true := by simpa using owner
        simp only [updateFirst, passes, if_true, List.countP_cons, Bool.or_true, Bool.not_true,
          Bool.and_false, Bool.false_eq_true, if_false, restCount]
      · have fails : AccessEntry.isFor sn entry = false := by simp [AccessEntry.isFor, owner]
        have later : sn ∈ rest.map AccessEntry.deviceSn := by
          rcases List.mem_cons.mp listed with same | member
          · exact absurd same.symm owner
          · exact member
        simp only [updateFirst, fails, Bool.false_eq_true, if_false, List.countP_cons,
          ih restNodup later, Bool.not_false, Bool.and_true]
        omega

theorem countP_primary_recordAccess {accessList : List AccessEntry}
    (nodup : (accessList.map AccessEntry.deviceSn).Nodup) (sn pin : String) :
    (recordAccess accessList sn pin true).countP AccessEntry.primary =
      accessList.countP (fun entry => entry.primary && !entry.isFor sn) + 1 := by
  unfold recordAccess
  cases first : accessList.find? (AccessEntry.isFor sn) with
  | some entry => exact countP_primary_updateFirst nodup (listed_of_find? first) (some pin)
  | none =>
      have others : accessList.countP (fun entry => entry.primary && !entry.isFor sn) =
          accessList.countP AccessEntry.primary := by
        apply List.countP_congr
        intro entry member
        simp [Bool.eq_false_iff.mpr (List.find?_eq_none.mp first entry member)]
      simp [List.countP_append, others]

theorem countP_primary_recordAccess_copy (accessList : List AccessEntry) (sn pin : String) :
    (recordAccess accessList sn pin false).countP AccessEntry.primary =
      accessList.countP AccessEntry.primary := by
  unfold recordAccess
  split
  · have flags : ∀ items : List AccessEntry,
        items.countP AccessEntry.primary = (items.map AccessEntry.primary).countP id := by
      intro items
      rw [List.countP_map]
      rfl
    rw [flags, flags, map_updateFirst]
    intro entry _ _
    exact Bool.or_false _
  · simp [List.countP_append]

theorem wellShaped_filter {accessList : List AccessEntry} (shaped : WellShaped accessList)
    (kept : AccessEntry → Bool) : WellShaped (accessList.filter kept) where
  serials := shaped.serials.sublist (List.filter_sublist.map _)
  primary := (List.filter_sublist.countP_le).trans shaped.primary

/-- After a migration the list keeps its shape, but for a move that leaves another entry
primary. -/
theorem wellShaped_accessAfterTransfer_iff {accessList : List AccessEntry}
    (shaped : WellShaped accessList) (mode srcSn tgtSn pin : String) :
    WellShaped (accessAfterTransfer mode accessList srcSn tgtSn pin) ↔
      (mode = "move" → ∀ entry ∈ accessList, entry.primary = true →
        entry.deviceSn = srcSn ∨ entry.deviceSn = tgtSn) := by
  unfold accessAfterTransfer
  by_cases move : mode = "move"
  · simp only [move, if_true, true_implies]
    have left := wellShaped_filter shaped fun entry => !entry.isFor srcSn
    have count := countP_primary_recordAccess left.serials tgtSn pin
    constructor
    · intro after entry member primary
      have none : (accessList.filter fun entry => !entry.isFor srcSn).countP
          (fun entry => entry.primary && !entry.isFor tgtSn) = 0 := by
        have atMost := after.primary
        omega
      rw [List.countP_eq_zero] at none
      by_cases source : entry.deviceSn = srcSn
      · exact .inl source
      · have stays : entry ∈ accessList.filter fun entry => !entry.isFor srcSn := by
          simp [member, AccessEntry.isFor, source]
        have target := none entry stays
        simp only [primary, Bool.true_and, Bool.not_eq_true', Bool.not_eq_false,
          AccessEntry.isFor_iff] at target
        exact .inr target
    · intro only
      have none : (accessList.filter fun entry => !entry.isFor srcSn).countP
          (fun entry => entry.primary && !entry.isFor tgtSn) = 0 := by
        rw [List.countP_eq_zero]
        intro entry stays
        obtain ⟨member, other⟩ := List.mem_filter.mp stays
        cases primary : entry.primary with
        | false => simp
        | true =>
            rcases only entry member primary with source | target
            · simp [AccessEntry.isFor, source] at other
            · simp [AccessEntry.isFor, target]
      exact ⟨nodup_serials_recordAccess left.serials _ _ _, by omega⟩
  · simp only [move, if_false, false_implies, iff_true]
    refine ⟨nodup_serials_recordAccess shaped.serials _ _ _, ?_⟩
    rw [countP_primary_recordAccess_copy]
    exact shaped.primary

theorem Narrowed.wellShaped {emp changed : Employee} (narrowed : Narrowed emp changed)
    (shaped : WellShaped emp.access) : WellShaped changed.access := by
  have flags : ∀ employee : Employee,
      employee.access.countP AccessEntry.primary = employee.marks.countP Prod.snd := by
    intro employee
    rw [Employee.marks, List.countP_map]
    rfl
  constructor
  · have serials : emp.serials.Nodup := shaped.serials
    rw [Employee.serials_eq_marks] at serials
    have fewer : (changed.marks.map Prod.fst).Nodup := serials.sublist (narrowed.marks.map _)
    rwa [← Employee.serials_eq_marks] at fewer
  · rw [flags]
    exact (narrowed.marks.countP_le).trans ((flags emp).symm.trans_le shaped.primary)

section

variable [UnicodeTables] {World : Type}

/-! ## One call -/

theorem shaped_saveEmployee_iff {employees : Directory} {employeeId : String}
    {emp changed : Employee} (found : findEmployee employees employeeId = some emp)
    (shaped : ∀ emp ∈ employees, WellShaped emp.access) :
    (∀ emp ∈ saveEmployee employees employeeId changed, WellShaped emp.access) ↔
      WellShaped changed.access :=
  forall_mem_updateFirst_iff _ _ found shaped

/-- A call that makes the directory what it was, or a shaped one, breaks nothing. -/
theorem makeCall_shaped_iff {state : Office World} (shaped : OfficeShaped state)
    (made : MadeCall World) :
    OfficeShaped (makeCall state made) ↔ KeepsOnePrimary state made := by
  obtain ⟨readers, registered, today, call⟩ := made
  unfold makeCall
  cases call with
  | remove call =>
      refine iff_of_true ?_ (by simp [KeepsOnePrimary])
      split
      · exact shaped
      · rename_i returned
        rcases removal_saved returned with rfl | ⟨emp, changed, found, narrowed, rfl⟩
        · exact shaped
        · have inList : emp ∈ state.employees := List.mem_of_find?_eq_some found
          exact (shaped_saveEmployee_iff found shaped).mpr (narrowed.wellShaped (shaped emp inList))
  | enrol call =>
      split
      · rename_i raised
        refine iff_of_true shaped ?_
        rintro again emp route pinCheck res after same _ found routed migrated _
        cases same
        obtain ⟨_, _, returned, _⟩ : ∃ report saved,
            call.run readers registered today state.employees state.world =
              some (some report, saved, after) ∧ report.migration = res.toDict :=
          run_of_migrate found routed migrated
        exact absurd (raised.symm.trans returned) (by simp)
      · rename_i returned
        cases enrolEffect_of_run returned with
        | unknown missing =>
            refine iff_of_true shaped ?_
            rintro again emp route pinCheck res after same _ found _ _ _
            cases same
            exact absurd (missing.symm.trans found) (by simp)
        | @unreached emp changed found noRoute _ access =>
            have inList : emp ∈ state.employees := List.mem_of_find?_eq_some found
            refine iff_of_true ?_ ?_
            · apply (shaped_saveEmployee_iff found shaped).mpr
              rw [access]
              exact shaped emp inList
            · rintro again emp' route pinCheck res after same _ found' routed _ _
              cases same
              cases found.symm.trans found'
              exact absurd (noRoute.symm.trans routed) (by simp)
        | @migrated emp changed route pinCheck res _ _ found routed migrated _ _ _ access =>
            have inList : emp ∈ state.employees := List.mem_of_find?_eq_some found
            have only : KeepsOnePrimary state ⟨readers, registered, today, .enrol call⟩ ↔
                (res.ok = true → call.mode = "move" → ∀ entry ∈ emp.access,
                  entry.primary = true →
                    entry.deviceSn = route.srcSn ∨ entry.deviceSn = route.tgtSn) := by
              constructor
              · intro keeps ok move
                exact keeps call emp route pinCheck res _ rfl move found routed migrated ok
              · rintro keeps again emp' route' pinCheck' res' after' same move found' routed'
                  migrated' ok
                cases same
                cases found.symm.trans found'
                cases routed.symm.trans routed'
                cases migrated.symm.trans migrated'
                exact keeps ok move
            refine ((shaped_saveEmployee_iff found shaped).trans ?_).trans only.symm
            rw [access]
            cases res.ok with
            | true =>
                simp only [if_true, true_implies]
                exact wellShaped_accessAfterTransfer_iff (shaped emp inList) _ _ _ _
            | false => simpa using shaped emp inList

/-- From a shaped directory all directories of a run are shaped if and only if no move in
it leaves another entry primary. -/
theorem access_shape_iff {start : Office World} (shaped : OfficeShaped start)
    (calls : List (MadeCall World)) :
    (∀ earlier, earlier <+: calls → OfficeShaped (earlier.foldl makeCall start)) ↔
      ∀ earlier made, earlier ++ [made] <+: calls →
        KeepsOnePrimary (earlier.foldl makeCall start) made := by
  have step : ∀ (state : Office World) (made : MadeCall World), OfficeShaped state →
      (OfficeShaped (makeCall state made) ↔ KeepsOnePrimary state made) :=
    fun _ made shaped => makeCall_shaped_iff shaped made
  exact forall_reached_iff step shaped calls

end

/-! ## A move after a copy -/

def transferMember (today : String) (toBranchId : Int) (mode : String) : MadeCall SimDevices :=
  ⟨@simulatedReaders .ascii defaultRegistry, defaultRegistry, today,
    .enrol (.transfer ⟨"101", toBranchId, none, none, true, mode⟩)⟩

theorem defaultEmployees_shaped :
    OfficeShaped (⟨defaultEmployees, resetSimulationState⟩ : Office SimDevices) := by
  intro emp member
  simp only [defaultEmployees, List.mem_cons, List.not_mem_nil, or_false] at member
  rcases member with rfl | rfl | rfl | rfl <;> exact ⟨by decide, by decide⟩

theorem access_shape_after_move :
    OfficeShaped (⟨defaultEmployees, resetSimulationState⟩ : Office SimDevices) ∧
      OfficeShaped ([transferMember "2026-09-14" 2 "move"].foldl (@makeCall .ascii _)
        ⟨defaultEmployees, resetSimulationState⟩) := by
  let := UnicodeTables.ascii
  refine ⟨defaultEmployees_shaped,
    (access_shape_iff defaultEmployees_shaped _).mpr ?_ _ List.prefix_rfl⟩
  intro earlier made within call emp route pinCheck res after same _ found routed _ _
  obtain ⟨rfl, rfl⟩ : earlier = [] ∧ made = transferMember "2026-09-14" 2 "move" := by
    cases earlier with
    | nil => simpa using within
    | cons first rest =>
        have short := within.length_le
        simp at short
  cases same
  have foundIt : findEmployee defaultEmployees "101" =
      some (enrolledAt "101" "EMP-101" "Member 1o" 1 "NFZ8254900401" "101") := by decide
  cases foundIt.symm.trans found
  have routedIt : (EnrolCall.transfer ⟨"101", 2, none, none, true, "move"⟩).route defaultRegistry
      (enrolledAt "101" "EMP-101" "Member 1o" 1 "NFZ8254900401" "101") =
      some ⟨"NFZ8254900401", "UFZ9876543210", 4370, 4370⟩ := by decide
  cases routedIt.symm.trans routed
  intro entry member _
  rw [List.mem_singleton.mp member]
  exact .inl rfl

/-- The copy to branch 2 leaves the first reader primary, and the move on to branch 3 makes
the third primary beside it. -/
theorem move_after_copy_two_primaries :
    OfficeShaped (⟨defaultEmployees, resetSimulationState⟩ : Office SimDevices) ∧
      ¬ OfficeShaped ([transferMember "2026-09-14" 2 "copy",
        transferMember "2026-09-15" 3 "move"].foldl (@makeCall .ascii _)
          ⟨defaultEmployees, resetSimulationState⟩) := by
  let := UnicodeTables.ascii
  refine ⟨defaultEmployees_shaped, ?_⟩
  intro shaped
  have two : ([transferMember "2026-09-14" 2 "copy", transferMember "2026-09-15" 3 "move"].foldl
      makeCall (⟨defaultEmployees, resetSimulationState⟩ : Office SimDevices)).employees.any
        (fun emp => emp.access.countP AccessEntry.primary == 2) = true := by decide +kernel
  obtain ⟨emp, member, count⟩ := List.any_eq_true.mp two
  have atMost := (shaped emp member).primary
  rw [beq_iff_eq.mp count] at atMost
  omega

end PumoBioMetric.Core
