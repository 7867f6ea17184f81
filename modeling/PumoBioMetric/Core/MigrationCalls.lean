import PumoBioMetric.Core.HardwareMigration

/-!
# The calls of a migration between readers

What every call of `migrate_single_user_real` keeps, its `finally` included, and so the
whole migration.
-/

set_option autoImplicit false

namespace PumoBioMetric.Core

open Py FaultyCalls

section

variable {Net : Type} [Network Net]

/-- An assertion that the calls keep which disable no reader, and so do programs that begin by
opening one of some connections and disabling its reader. -/
structure KeptByCalls (faults : Faults String) (ends : List Connection)
    (assertion : ReaderSession Net → Prop) : Prop where
  call : ∀ {Result : Type} (job : Site Net → Result × Site Net)
    (event : Option Result → CallEvent), (∀ site, (job site).2.opened = site.opened) →
      (∀ reply, (event reply).call ≠ .disableDevice) →
        Preserves faults assertion (Program.issue job event : ReaderProgram Net Result)
  opening : ∀ connection ∈ ends, ∀ {Result : Type} (next : Connection → ReaderProgram Net Result),
    (∀ conn, Preserves faults assertion (next conn)) →
      Preserves faults assertion (do
        let conn ← connectZkDevice connection
        conn.disableDevice
        next conn)

namespace KeptByCalls

variable {faults : Faults String} {ends : List Connection} {assertion : ReaderSession Net → Prop}
  (kept : KeptByCalls faults ends assertion)

include kept

theorem ask {connection : Connection} {call : Call} {Result : Type} {view : Reader → Result}
    {answer : Result → Answer} (other : call ≠ .disableDevice) :
    Preserves faults assertion (connection.ask call view answer : ReaderProgram Net Result) :=
  kept.call _ _ (fun _ => rfl) fun _ => other

theorem tell {connection : Connection} {call : Call} {change : Reader → Reader}
    (other : call ≠ .disableDevice) :
    Preserves faults assertion (connection.tell call change : ReaderProgram Net Unit) :=
  kept.call _ _ (fun _ => rfl) fun _ => other

theorem closeConnections (connections : List Connection) :
    Meets faults assertion (closeConnections connections : ReaderProgram Net Unit)
      (fun _ => assertion) fun _ => False := by
  induction connections with
  | nil => exact meets_pure _ fun _ holds => holds
  | cons connection rest ih =>
      unfold Core.closeConnections
      apply Meets.bind (Preserves.attempt_pure (kept.ask (by simp)))
      intro _
      apply Meets.bind (Preserves.attempt_pure (kept.ask (by simp)))
      intro _
      exact ih

theorem scanFingers (srcConn : Connection) (uid : Int) (userId : String) (fids : List Nat) :
    Preserves faults assertion
      (scanFingers srcConn uid userId fids : ReaderProgram Net (List ZkFinger)) := by
  induction fids with
  | nil => exact preserves_pure _
  | cons fid rest ih =>
      unfold Core.scanFingers
      apply Preserves.bind (Preserves.attempt (kept.ask (by simp)) fun _ => preserves_pure _)
      intro _
      exact Preserves.bind ih fun _ => preserves_pure _

theorem readFingers (srcConn : Connection) (uid : Int) (userId : String) :
    Preserves faults assertion
      (readFingers srcConn uid userId : ReaderProgram Net (List ZkFinger)) := by
  unfold Core.readFingers bulkFingers
  apply Preserves.bind
  · refine Preserves.attempt ?_ fun _ => preserves_pure _
    exact Preserves.bind (kept.ask (by simp)) fun _ => preserves_pure _
  · intro userFingers
    by_cases nothing : userFingers.isEmpty = true
    · rw [if_pos nothing]
      exact kept.scanFingers srcConn uid userId _
    · rw [if_neg nothing]
      exact preserves_pure _

theorem findSourceUser {source : Connection} (allowed : source ∈ ends) (userId : String) :
    Preserves faults assertion
      (findSourceUser source userId : ReaderProgram Net (Connection × Option ZkUser)) := by
  unfold Core.findSourceUser
  apply kept.opening source allowed
  intro srcConn
  exact Preserves.bind (kept.ask (by simp)) fun _ => preserves_pure _

theorem openTarget (srcConn : Connection) {target : Connection} (allowed : target ∈ ends) :
    Preserves faults assertion
      (openTarget srcConn target : ReaderProgram Net (Connection × List ZkUser)) := by
  unfold Core.openTarget checkFpVersions
  apply kept.opening target allowed
  intro tgtConn
  apply Preserves.bind
  · refine Preserves.attempt ?_ fun _ => preserves_pure _
    apply Preserves.bind (kept.ask (by simp))
    intro _
    exact Preserves.bind (kept.ask (by simp)) fun _ => preserves_pure _
  · intro _
    exact Preserves.bind (kept.ask (by simp)) fun _ => preserves_pure _

theorem writeTarget (tgtConn : Connection) (profile : ZkUser) (fingers : List ZkFinger) :
    Preserves faults assertion (writeTarget tgtConn profile fingers : ReaderProgram Net Bool) := by
  unfold Core.writeTarget writeFingers
  apply Preserves.bind (kept.tell (by simp))
  intro _
  apply Preserves.bind
  · by_cases nothing : fingers.isEmpty = true
    · rw [if_pos nothing]
      exact preserves_pure _
    · rw [if_neg nothing]
      exact kept.tell (by simp)
  · intro _
    apply Preserves.bind (kept.ask (by simp))
    intro _
    exact Preserves.bind (kept.ask (by simp)) fun _ => preserves_pure _

section

variable [UnicodeTables]

theorem finishMigration (places : Endpoints) (request : MigrationRequest)
    (srcConn tgtConn : Connection) (user : ZkUser) (userName : String)
    (userFingers : List ZkFinger) (slot : Slot) :
    Preserves faults assertion (finishMigration places request srcConn tgtConn user userName
      userFingers slot : ReaderProgram Net MigrationResult) := by
  unfold Core.finishMigration
  apply Preserves.bind (kept.writeTarget tgtConn _ _)
  intro verified
  cases verified with
  | false => exact preserves_pure _
  | true =>
      refine Preserves.bind ?_ fun _ => preserves_pure _
      unfold deleteFromSource
      by_cases move : lower request.mode = "move"
      · rw [if_pos move]
        exact Preserves.bind (kept.tell (by simp)) fun _ => kept.ask (by simp)
      · rw [if_neg move]
        exact preserves_pure _

theorem migrateFound {places : Endpoints} (allowed : places.tgtConnection ∈ ends)
    (request : MigrationRequest) (srcConn : Connection) (user : ZkUser) (userName : String) :
    Preserves faults assertion (migrateFound places request srcConn user userName :
      ReaderProgram Net MigrationResult) := by
  unfold Core.migrateFound
  apply Preserves.bind (kept.readFingers srcConn _ _)
  intro userFingers
  apply Preserves.bind (kept.openTarget srcConn allowed)
  rintro ⟨tgtConn, tgtUsers⟩
  cases found : chooseSlot tgtUsers userName request.destUserId with
  | none =>
      simp only [found]
      exact preserves_raise _
  | some slot =>
      simp only [found]
      exact kept.finishMigration places request srcConn tgtConn user userName userFingers slot

theorem migrateSingleUserReal (hasPyzk : Bool) (registry : Registry) (request : MigrationRequest)
    {sourcePort targetPort : Int}
    (source : (endpoints registry request sourcePort targetPort).srcConnection ∈ ends)
    (target : (endpoints registry request sourcePort targetPort).tgtConnection ∈ ends) :
    Preserves faults assertion (Network.migrateSingleUserReal hasPyzk registry request
      sourcePort targetPort : ReaderProgram Net MigrationResult) := by
  unfold Network.migrateSingleUserReal
  cases hasPyzk with
  | false => exact preserves_pure _
  | true =>
      simp only [if_true]
      apply Preserves.bind
      · refine Preserves.attempt ?_ fun _ => preserves_pure _
        apply Preserves.bind (kept.findSourceUser source _)
        rintro ⟨srcConn, found⟩
        cases found with
        | none => exact preserves_pure _
        | some user =>
            exact Preserves.attempt (kept.migrateFound target _ srcConn user _)
              fun _ => preserves_pure _
      · intro result
        apply Preserves.bind (meets_look _ fun _ holds => holds)
        intro opened
        exact Preserves.bind (kept.closeConnections opened).unraised fun _ => preserves_pure _

end

end KeptByCalls

end

end PumoBioMetric.Core
