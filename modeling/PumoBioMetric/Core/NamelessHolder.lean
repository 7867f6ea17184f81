import PumoBioMetric.Core.SlotAllocation

/-!
# Whose record a migration writes over

A holder of the requested PIN keeps its slot from others only where it has a name:
`resolve_target_pin` and the simulator take a nameless holder for somebody else, the
migration between readers writes the source user into its record.
-/

set_option autoImplicit false

namespace PumoBioMetric.Core

open Py FirstMatch FaultyCalls

section

variable [UnicodeTables]

/-- Every record written over bears the name of the source user, which is not blank. -/
def WritesOverNamesakes (sourceUser : Option ZkUser) (tgtUsers : List ZkUser)
    (written : List (Role × ZkUser)) : Prop :=
  ∀ write ∈ written, ∀ other ∈ tgtUsers, other.uid = write.2.uid →
    ∃ user, sourceUser = some user ∧
      lower (strip other.name) = lower (strip user.name) ∧ strip user.name ≠ ""

/-- The holder of the requested PIN has another name, or it is taken for the source user as
in `resolve_target_pin` and nobody of another name shares its uid. -/
def HolderTold (tgtUsers : List ZkUser) (userId : String) (user holder : ZkUser) : Prop :=
  occupiedByOther holder (migratedName user userId) = true ∨
    (strip user.name ≠ "" ∧ isSameUser (some user.name) holder.name = true ∧
      ∀ other ∈ tgtUsers, other.uid = holder.uid →
        lower (strip other.name) = lower (strip holder.name))

theorem writesOverNamesakes_of_newUid {sourceUser : Option ZkUser} {tgtUsers : List ZkUser}
    {tgtConn : Connection} {profile : ZkUser} {fingers : List ZkFinger}
    (new : profile.uid ∉ tgtUsers.map ZkUser.uid) :
    WritesOverNamesakes sourceUser tgtUsers (targetWrites tgtConn profile fingers) := by
  intro write member other listed sameUid
  rw [mem_targetWrites member] at sameUid
  exact absurd (List.mem_map.mpr ⟨other, listed, sameUid⟩) new

theorem writesOverNamesakes_kept_iff {tgtUsers : List ZkUser} {userId : String}
    {user holder profile : ZkUser} {tgtConn : Connection} {fingers : List ZkFinger}
    (listed : holder ∈ tgtUsers) (own : occupiedByOther holder (migratedName user userId) = false)
    (sameUid : profile.uid = holder.uid) :
    WritesOverNamesakes (some user) tgtUsers (targetWrites tgtConn profile fingers) ↔
      HolderTold tgtUsers userId user holder := by
  constructor
  · intro spared
    have each : ∀ other ∈ tgtUsers, other.uid = holder.uid →
        lower (strip other.name) = lower (strip user.name) ∧ strip user.name ≠ "" := by
      intro other member atUid
      have first : (tgtConn.role, profile) ∈ targetWrites tgtConn profile fingers :=
        List.mem_cons_self ..
      obtain ⟨_, same, equal, named⟩ := spared _ first other member (atUid.trans sameUid.symm)
      cases same
      exact ⟨equal, named⟩
    obtain ⟨holderName, named⟩ := each holder listed rfl
    refine Or.inr ⟨named, ?_, ?_⟩
    · refine isSameUser_iff.mpr ⟨user.name, rfl, ?_, holderName⟩
      rintro empty
      exact named (by rw [empty]; rfl)
    · intro other member atUid
      exact (each other member atUid).1.trans holderName.symm
  · rintro (other | ⟨named, same, alike⟩)
    · exact absurd (own.symm.trans other) (by simp)
    · intro write member other listed atUid
      rw [mem_targetWrites member] at atUid
      obtain ⟨_, given, _, holderName⟩ := isSameUser_iff.mp same
      cases given
      exact ⟨user, rfl, (alike other listed (atUid.trans sameUid)).trans holderName, named⟩

theorem CalmOutcome.writesOverNamesakes_iff {ends : Endpoints} {request : MigrationRequest}
    {readers after : Address → Reader} {result : MigrationResult}
    {written : List (Role × ZkUser)}
    (outcome : CalmOutcome ends request readers result after written) :
    WritesOverNamesakes ((sourceReader ends readers).users.find? (ZkUser.hasId request.userId))
        (targetReader ends readers).users written ↔
      ∀ user holder,
        (sourceReader ends readers).users.find? (ZkUser.hasId request.userId) = some user →
        (targetReader ends readers).users.find? (ZkUser.hasId request.destUserId) = some holder →
        HolderTold (targetReader ends readers).users request.userId user holder := by
  cases searched : (sourceReader ends readers).users.find? (ZkUser.hasId request.userId) with
  | none =>
      rw [(outcome.of_absent searched).2.2]
      simp [WritesOverNamesakes]
  | some user =>
      rcases outcome.of_found searched with ⟨raised, _, _, rfl⟩ | ⟨slot, chosen, _, _, _, _, rfl⟩
      · obtain ⟨holder, first, other, _⟩ := unreadable_of_chooseSlot raised
        simp only [first]
        refine iff_of_true (by simp [WritesOverNamesakes]) ?_
        rintro _ _ ⟨⟩ ⟨⟩
        exact Or.inl other
      · cases slotChosen_of_chooseSlot chosen with
        | free missing =>
            rw [missing]
            exact iff_of_true (writesOverNamesakes_of_newUid (nextFreeUid_notMem _)) (by simp)
        | @kept holder first own =>
            rw [first]
            have listed := List.mem_of_find?_eq_some first
            have sameUid : (slotProfile request user ⟨holder.uid, request.destUserId⟩).uid =
                holder.uid := rfl
            refine (writesOverNamesakes_kept_iff listed own sameUid).trans ?_
            constructor
            · rintro told _ _ ⟨⟩ ⟨⟩
              exact told
            · intro told
              exact told user holder rfl rfl
        | @mapped holder pin first other _ =>
            rw [first]
            refine iff_of_true (writesOverNamesakes_of_newUid (nextFreeUid_notMem _)) ?_
            rintro _ _ ⟨⟩ ⟨⟩
            exact Or.inl other

/-- Where no call raises, a migration writes over nobody but a namesake of the source user
if and only if the name tests tell the holder of the requested PIN. -/
theorem writes_over_namesakes_iff (registry : Registry) (request : MigrationRequest)
    (sourcePort targetPort : Int) (readers : Address → Reader) :
    ∃ result session,
      migrateSingleUserReal true registry request sourcePort targetPort noFaults
        (ZkSession.fresh readers) = (.ok result, session) ∧
      (WritesOverNamesakes
          ((sourceReader (endpoints registry request sourcePort targetPort) readers).users.find?
            (ZkUser.hasId request.userId))
          (targetReader (endpoints registry request sourcePort targetPort) readers).users
          (writtenProfiles session.trace) ↔
        ∀ user holder,
          (sourceReader (endpoints registry request sourcePort targetPort) readers).users.find?
            (ZkUser.hasId request.userId) = some user →
          (targetReader (endpoints registry request sourcePort targetPort) readers).users.find?
            (ZkUser.hasId request.destUserId) = some holder →
          HolderTold (targetReader (endpoints registry request sourcePort targetPort)
            readers).users request.userId user holder) := by
  obtain ⟨result, session, returned, outcome⟩ :=
    calmOutcome_of_run registry request sourcePort targetPort readers
  exact ⟨result, session, returned, outcome.writesOverNamesakes_iff⟩

end

/-! ## A nameless holder -/

def namelessReaders (address : Address) : Reader :=
  if address = ⟨"192.168.0.210", 4370⟩ then
    ⟨[⟨7, "Member 1o", 0, "", "1", "101", 0⟩], [⟨7, 0, 1, [1]⟩], 10⟩
  else ⟨[⟨1, "", 0, "", "1", "101", 0⟩], [⟨1, 0, 1, [2]⟩], 10⟩

theorem nameless_holder_written_over :
    ∃ result session,
      @migrateSingleUserReal .ascii true defaultRegistry copyMember 4370 4370 noFaults
        (ZkSession.fresh namelessReaders) = (.ok result, session) ∧
      ¬ @WritesOverNamesakes .ascii (some ⟨7, "Member 1o", 0, "", "1", "101", 0⟩)
        [⟨1, "", 0, "", "1", "101", 0⟩] (writtenProfiles session.trace) := by
  let := UnicodeTables.ascii
  have target : (targetReader (endpoints defaultRegistry copyMember 4370 4370)
      namelessReaders).users = [⟨1, "", 0, "", "1", "101", 0⟩] := by rw [endpoints_copyMember]; decide
  have source : (sourceReader (endpoints defaultRegistry copyMember 4370 4370)
      namelessReaders).users.find? (ZkUser.hasId copyMember.userId) =
        some ⟨7, "Member 1o", 0, "", "1", "101", 0⟩ := by rw [endpoints_copyMember]; decide
  obtain ⟨result, session, returned, outcome⟩ :=
    calmOutcome_of_run defaultRegistry copyMember 4370 4370 namelessReaders
  refine ⟨result, session, returned, ?_⟩
  have told := outcome.writesOverNamesakes_iff
  rw [source, target] at told
  intro spared
  rcases told.mp spared _ _ rfl rfl with other | ⟨_, same, _⟩
  · exact absurd other (by decide)
  · exact absurd same (by decide)

end PumoBioMetric.Core
