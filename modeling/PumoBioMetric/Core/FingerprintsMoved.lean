import PumoBioMetric.Core.HardwareMigration

/-!
# A hardware move and the fingerprints of the source

The bulk read of the templates may raise, and the scan that replaces it passes over the
fingers it cannot read.  What was read is what is written on the target; the deletion
from the source asks only whether the PIN reads back.
-/

set_option autoImplicit false

namespace PumoBioMetric.Core

open Py FirstMatch FaultyCalls

/-! ## What the trace says -/

/-- The target's user list, read back after the profile was written, holds its PIN. -/
def PinReadBack (trace : List CallEvent) : Prop :=
  ∃ written readBack profile users, trace = written ++ readBack ∧
    ⟨.target, .setUser profile, some .done⟩ ∈ written ∧
    ⟨.target, .getUsers, some (.users users)⟩ ∈ readBack ∧
    profile.userId ∈ users.map ZkUser.userId

def Carries (fingers : List ZkFinger) (template : ZkFinger) : Prop :=
  ∃ finger ∈ fingers, finger.fid = template.fid ∧ finger.valid = template.valid ∧
    finger.template = template.template

/-- A template write on the target that returned was passed the template. -/
def Passed (trace : List CallEvent) (template : ZkFinger) : Prop :=
  ∃ profile fingers, ⟨.target, .saveUserTemplate profile fingers, some .done⟩ ∈ trace ∧
    Carries fingers template

/-- The target reads back the PIN and was passed every template of the uid. -/
def CarriedOver (reader : Reader) (uid : Int) (trace : List CallEvent) : Prop :=
  PinReadBack trace ∧
    ∀ template ∈ reader.templates, template.uid = uid → Passed trace template

/-- The bulk read, which is the fourth call, does not raise; or each template of the uid
is found by a scan call that does not raise. -/
def TemplatesRead (faults : Faults String) (reader : Reader) (uid : Int) : Prop :=
  faults 3 = none ∨
    ∀ template ∈ reader.templates, template.uid = uid →
      template.fid < 10 ∧ faults (4 + template.fid) = none ∧ template.template ≠ [] ∧
        reader.templates.find? (ZkFinger.isAt uid template.fid) = some template

/-! ## Calls that neither delete nor write templates -/

def CallEvent.quiet (event : CallEvent) : Prop :=
  match event.call with
  | .saveUserTemplate _ _ => False
  | .deleteUser _ _ => False
  | _ => True

def Quiet (trace : List CallEvent) : Prop := ∀ event ∈ trace, event.quiet

theorem steady_quiet : Steady CallEvent.quiet Quiet := by
  intro trace event quiet holds other member
  rcases List.mem_append.mp member with old | new
  · exact holds other old
  · rw [List.mem_singleton.mp new]
    exact quiet

section

variable {faults : Faults String} {readers : Address → Reader}

theorem keeps_ask {property : List CallEvent → Prop} (steady : Steady CallEvent.quiet property)
    {connection : Connection} {call : Call} {Result : Type} {view : Reader → Result}
    {answer : Result → Answer}
    (quiet : ∀ reply, CallEvent.quiet ⟨connection.role, call, reply⟩) :
    Keeps faults property (connection.ask call view answer : ZkProgram Result) :=
  keeps_issue steady fun _ => quiet _

theorem meets_tell {before after raised : List CallEvent → Prop} {connection : Connection}
    {call : Call} {change : Reader → Reader}
    (returns : ∀ trace, before trace → after (trace ++ [⟨connection.role, call, some .done⟩]))
    (raises : ∀ trace, before trace → raised (trace ++ [⟨connection.role, call, none⟩])) :
    Meets faults (fun session => before session.trace)
      (connection.tell call change : ZkProgram Unit)
      (fun _ session => after session.trace) fun session => raised session.trace :=
  meets_issue (fun _ holds _ => returns _ holds) fun _ holds _ => raises _ holds

/-! ## Reading the source -/

def Reading (readers : Address → Reader) (count : Nat) (session : ZkSession) : Prop :=
  session.world.readers = readers ∧ session.trace.length = count ∧ Quiet session.trace

theorem meets_ask {connection : Connection} {call : Call} {Result : Type}
    {view : Reader → Result} {answer : Result → Answer} {count : Nat}
    (quiet : ∀ reply, CallEvent.quiet ⟨connection.role, call, reply⟩) :
    Meets faults (Reading readers count) (connection.ask call view answer)
      (fun result session => Reading readers (count + 1) session ∧ faults count = none ∧
        result = view (readers connection.address))
      fun session => Reading readers (count + 1) session ∧ faults count ≠ none := by
  apply meets_issue
  · rintro session ⟨rfl, rfl, holds⟩ fault
    exact ⟨⟨rfl, by simp, steady_quiet _ _ (quiet _) holds⟩, fault, rfl⟩
  · rintro session ⟨rfl, rfl, holds⟩ fault
    exact ⟨⟨rfl, by simp, steady_quiet _ _ (quiet _) holds⟩, fault⟩

theorem meets_connect {connection : Connection} {count : Nat} :
    Meets faults (Reading readers count) (connectZkDevice connection)
      (fun result session => Reading readers (count + 1) session ∧ result = connection)
      fun session => Quiet session.trace := by
  apply meets_issue
  · rintro session ⟨rfl, rfl, holds⟩ _
    exact ⟨⟨rfl, by simp, steady_quiet _ _ trivial holds⟩, rfl⟩
  · rintro session ⟨_, _, holds⟩ _
    exact steady_quiet _ _ trivial holds

theorem meets_findSourceUser (source : Connection) (userId : String) :
    Meets faults (Reading readers 0) (findSourceUser source userId)
      (fun result session => Reading readers 3 session ∧ result.1 = source)
      fun session => Quiet session.trace := by
  unfold findSourceUser
  apply Meets.bind meets_connect
  intro srcConn
  apply meets_and_fact
  rintro rfl
  have disabled : Meets faults (Reading readers 1) srcConn.disableDevice
      (fun _ session => Reading readers 2 session) fun session => Quiet session.trace :=
    (meets_ask fun _ => by trivial).weaken (fun _ start => start) (fun _ _ holds => holds.1)
      fun _ holds => holds.1.2.2
  have listed : Meets faults (Reading readers 2) srcConn.getUsers
      (fun _ session => Reading readers 3 session) fun session => Quiet session.trace :=
    (meets_ask fun _ => by trivial).weaken (fun _ start => start) (fun _ _ holds => holds.1)
      fun _ holds => holds.1.2.2
  apply Meets.bind disabled
  intro _
  apply Meets.bind listed
  intro srcUsers
  exact meets_pure _ fun _ holds => ⟨holds, rfl⟩

def ScanFinds (faults : Faults String) (reader : Reader) (base : Nat) (uid : Int) (fid : Nat)
    (finger : ZkFinger) : Prop :=
  faults (base + fid) = none ∧ finger.template ≠ [] ∧
    reader.templates.find? (ZkFinger.isAt uid fid) = some finger

theorem exists_range_succ {property : Nat → Prop} (start count : Nat) :
    (∃ fid, start ≤ fid ∧ fid < start + (count + 1) ∧ property fid) ↔
      property start ∨ ∃ fid, start + 1 ≤ fid ∧ fid < start + 1 + count ∧ property fid := by
  constructor
  · rintro ⟨fid, low, high, holds⟩
    by_cases first : fid = start
    · exact Or.inl (first ▸ holds)
    · exact Or.inr ⟨fid, by omega, by omega, holds⟩
  · rintro (holds | ⟨fid, low, high, holds⟩)
    · exact ⟨start, by omega, by omega, holds⟩
    · exact ⟨fid, by omega, by omega, holds⟩

theorem meets_scanFingers (srcConn : Connection) (uid : Int) (userId : String)
    (start count base : Nat) :
    Meets faults (Reading readers (base + start))
      (scanFingers srcConn uid userId (List.range' start count))
      (fun found session => Quiet session.trace ∧
        ∀ finger, finger ∈ found ↔ ∃ fid, start ≤ fid ∧ fid < start + count ∧
          ScanFinds faults (readers srcConn.address) base uid fid finger)
      fun session => Quiet session.trace := by
  induction count generalizing start with
  | zero =>
      refine meets_pure _ fun session holds => ⟨holds.2.2, ?_⟩
      intro finger
      constructor
      · intro member
        simp at member
      · rintro ⟨fid, low, high, _⟩
        omega
  | succ count ih =>
      rw [List.range'_succ, scanFingers]
      have read : Meets faults (Reading readers (base + start))
          (Program.attempt (srcConn.getUserTemplate uid start userId) fun _ => pure none)
          (fun found session => Reading readers (base + start + 1) session ∧
            found = if faults (base + start) = none then
              (readers srcConn.address).templates.find? (ZkFinger.isAt uid start) else none)
          fun session => Quiet session.trace := by
        apply Meets.attempt
        · exact (meets_ask fun _ => by trivial).weaken (fun _ holds => holds)
            (fun _ _ holds => ⟨holds.1, by rw [if_pos holds.2.1]; exact holds.2.2⟩)
            fun _ holds => holds
        · intro _
          exact meets_pure _ fun _ holds => ⟨holds.1, by rw [if_neg holds.2]⟩
      apply Meets.bind read
      intro found
      apply meets_and_fact
      intro foundEq
      apply Meets.bind (ih (start + 1))
      intro others
      refine meets_pure _ fun session holds => ⟨holds.1, ?_⟩
      intro finger
      have here : finger ∈ (found.filter fun finger => !finger.template.isEmpty).toList ↔
          ScanFinds faults (readers srcConn.address) base uid start finger := by
        rw [foundEq, Option.mem_toList, Option.filter_eq_some_iff]
        by_cases fault : faults (base + start) = none
        · simp [ScanFinds, fault, and_comm]
        · simp [ScanFinds, fault]
      rw [List.mem_append, here, holds.2 finger, exists_range_succ]

theorem meets_bulkFingers (srcConn : Connection) (uid : Int) (count : Nat) :
    Meets faults (Reading readers count) (bulkFingers srcConn uid)
      (fun found session => Reading readers (count + 1) session ∧
        found = if faults count = none then
          (readers srcConn.address).templates.filter fun finger => finger.uid == uid else [])
      fun session => Quiet session.trace := by
  unfold bulkFingers
  apply Meets.attempt
  · apply Meets.bind (meets_ask fun _ => by trivial)
    intro allTemplates
    refine meets_pure _ fun _ holds => ⟨holds.1, ?_⟩
    rw [if_pos holds.2.1, holds.2.2]
  · intro _
    exact meets_pure _ fun _ holds => ⟨holds.1, by rw [if_neg holds.2]⟩

def CarriesAll (reader : Reader) (uid : Int) (fingers : List ZkFinger) : Prop :=
  ∀ template ∈ reader.templates, template.uid = uid → Carries fingers template

theorem carriesAll_bulk (reader : Reader) (uid : Int) :
    CarriesAll reader uid (reader.templates.filter fun finger => finger.uid == uid) := by
  intro template member owner
  exact ⟨template, List.mem_filter.mpr ⟨member, by simpa using owner⟩, rfl, rfl, rfl⟩

theorem eq_of_carried {reader : Reader} {uid : Int} {fid : Nat} {finger template : ZkFinger}
    (found : reader.templates.find? (ZkFinger.isAt uid fid) = some finger)
    (owner : template.uid = uid) (sameFid : finger.fid = template.fid)
    (sameValid : finger.valid = template.valid)
    (sameData : finger.template = template.template) : finger = template ∧ fid = template.fid := by
  have place : finger.uid = uid ∧ finger.fid = fid := by
    simpa [ZkFinger.isAt] using List.find?_some found
  refine ⟨?_, place.2.symm.trans sameFid⟩
  cases finger
  cases template
  simp_all

theorem carriesAll_scan_iff {reader : Reader} {uid : Int} {fingers : List ZkFinger}
    (scanned : ∀ finger, finger ∈ fingers ↔ ∃ fid, 0 ≤ fid ∧ fid < 0 + 10 ∧
      ScanFinds faults reader 4 uid fid finger) :
    CarriesAll reader uid fingers ↔ ∀ template ∈ reader.templates, template.uid = uid →
      template.fid < 10 ∧ faults (4 + template.fid) = none ∧ template.template ≠ [] ∧
        reader.templates.find? (ZkFinger.isAt uid template.fid) = some template := by
  constructor
  · intro all template member owner
    obtain ⟨finger, found, sameFid, sameValid, sameData⟩ := all template member owner
    obtain ⟨fid, _, high, fault, nonempty, first⟩ := (scanned finger).mp found
    obtain ⟨rfl, rfl⟩ := eq_of_carried first owner sameFid sameValid sameData
    exact ⟨by omega, fault, nonempty, first⟩
  · intro all template member owner
    obtain ⟨high, fault, nonempty, first⟩ := all template member owner
    have found : template ∈ fingers :=
      (scanned template).mpr ⟨template.fid, by omega, by omega, fault, nonempty, first⟩
    exact ⟨template, found, rfl, rfl, rfl⟩

theorem meets_readFingers (srcConn : Connection) (uid : Int) (userId : String) :
    Meets faults (Reading readers 3) (readFingers srcConn uid userId)
      (fun fingers session => Quiet session.trace ∧
        (CarriesAll (readers srcConn.address) uid fingers ↔
          TemplatesRead faults (readers srcConn.address) uid))
      fun session => Quiet session.trace := by
  unfold readFingers
  apply Meets.bind (meets_bulkFingers srcConn uid 3)
  intro bulk
  apply meets_and_fact
  intro bulkEq
  by_cases nothing : bulk.isEmpty = true
  · rw [if_pos nothing, List.range_eq_range']
    apply (meets_scanFingers srcConn uid userId 0 10 4).weaken (fun _ holds => holds) _
      fun _ holds => holds
    rintro fingers session ⟨quiet, scanned⟩
    refine ⟨quiet, ?_⟩
    by_cases fault : faults 3 = none
    · -- The bulk read did its job and the uid has no templates.
      rw [if_pos fault] at bulkEq
      refine iff_of_true ?_ (Or.inl fault)
      intro template member owner
      have listed : template ∈ bulk := by
        rw [bulkEq]
        exact List.mem_filter.mpr ⟨member, by simpa using owner⟩
      rw [List.isEmpty_iff.mp nothing] at listed
      cases listed
    · rw [carriesAll_scan_iff scanned]
      unfold TemplatesRead
      rw [or_iff_right fault]
  · rw [if_neg nothing]
    refine meets_pure _ fun session holds => ⟨holds.2.2, ?_⟩
    by_cases fault : faults 3 = none
    · rw [if_pos fault] at bulkEq
      refine iff_of_true ?_ (Or.inl fault)
      rw [bulkEq]
      exact carriesAll_bulk _ _
    · rw [if_neg fault] at bulkEq
      rw [bulkEq] at nothing
      exact absurd rfl nothing

/-! ## Writing the target -/

def CallEvent.sourceDeletion (event : CallEvent) : Prop :=
  event.role = .source ∧ ∃ uid userId, event.call = .deleteUser uid userId

theorem CallEvent.quiet.not_sourceDeletion {event : CallEvent} (quiet : event.quiet) :
    ¬ event.sourceDeletion := by
  rintro ⟨_, uid, userId, call⟩
  simp [CallEvent.quiet, call] at quiet

/-- Wherever the source profile is deleted, the PIN has been read back and the target has
it all exactly under the condition. -/
def Judged (faults : Faults String) (reader : Reader) (trace : List CallEvent) : Prop :=
  ∀ before uid userId answer after,
    trace = before ++ ⟨.source, .deleteUser uid userId, answer⟩ :: after →
      PinReadBack before ∧ (CarriedOver reader uid before ↔ TemplatesRead faults reader uid)

theorem judged_of_none {reader : Reader} {trace : List CallEvent}
    (none : ∀ event ∈ trace, ¬ event.sourceDeletion) : Judged faults reader trace := by
  intro before uid userId answer after same
  exact absurd ⟨rfl, uid, userId, rfl⟩ (none _ (same ▸ List.mem_append_right _ List.mem_cons_self))

theorem Quiet.judged {reader : Reader} {trace : List CallEvent} (quiet : Quiet trace) :
    Judged faults reader trace :=
  judged_of_none fun event member => (quiet event member).not_sourceDeletion

theorem steady_judged (reader : Reader) : Steady CallEvent.quiet (Judged faults reader) := by
  intro trace event quiet judged before uid userId answer after same
  rcases List.eq_nil_or_concat after with rfl | ⟨rest, last, rfl⟩
  · obtain ⟨_, last⟩ := List.append_inj' same rfl
    cases last
    exact absurd ⟨rfl, uid, userId, rfl⟩ quiet.not_sourceDeletion
  · rw [List.concat_eq_append, ← List.cons_append, ← List.append_assoc] at same
    obtain ⟨front, _⟩ := List.append_inj' same rfl
    exact judged before uid userId answer rest front

def ProfileWritten (profile : ZkUser) (trace : List CallEvent) : Prop :=
  Quiet trace ∧ ⟨.target, .setUser profile, some .done⟩ ∈ trace

/-- Written, and passed what the fingers carry; nothing has been deleted. -/
structure Staged (profile : ZkUser) (fingers : List ZkFinger) (trace : List CallEvent) :
    Prop where
  noDeletion : ∀ event ∈ trace, ¬ event.sourceDeletion
  written : ⟨.target, .setUser profile, some .done⟩ ∈ trace
  passed : ∀ template, Passed trace template ↔ Carries fingers template

theorem Quiet.not_passed {trace : List CallEvent} (quiet : Quiet trace) (template : ZkFinger) :
    ¬ Passed trace template := by
  rintro ⟨profile, fingers, member, _⟩
  exact quiet _ member

theorem passed_append_quiet {trace : List CallEvent} {event : CallEvent} (quiet : event.quiet)
    (template : ZkFinger) : Passed (trace ++ [event]) template ↔ Passed trace template := by
  constructor
  · rintro ⟨profile, fingers, member, carries⟩
    rcases List.mem_append.mp member with old | new
    · exact ⟨profile, fingers, old, carries⟩
    · rw [← List.mem_singleton.mp new] at quiet
      exact quiet.elim
  · rintro ⟨profile, fingers, member, carries⟩
    exact ⟨profile, fingers, List.mem_append_left _ member, carries⟩

theorem steady_staged (profile : ZkUser) (fingers : List ZkFinger) :
    Steady CallEvent.quiet (Staged profile fingers) := by
  intro trace event quiet staged
  refine ⟨?_, List.mem_append_left _ staged.written, ?_⟩
  · intro other member
    rcases List.mem_append.mp member with old | new
    · exact staged.noDeletion other old
    · rw [List.mem_singleton.mp new]
      exact quiet.not_sourceDeletion
  · intro template
    rw [passed_append_quiet quiet, staged.passed]

theorem Staged.judged {reader : Reader} {profile : ZkUser} {fingers : List ZkFinger}
    {trace : List CallEvent} (staged : Staged profile fingers trace) :
    Judged faults reader trace :=
  judged_of_none staged.noDeletion

theorem ProfileWritten.staged {profile : ZkUser} {trace : List CallEvent}
    (holds : ProfileWritten profile trace) : Staged profile [] trace := by
  obtain ⟨quiet, written⟩ := holds
  refine ⟨fun event member => (quiet event member).not_sourceDeletion, written, ?_⟩
  intro template
  apply iff_of_false (quiet.not_passed template)
  rintro ⟨finger, member, _⟩
  cases member

theorem not_sourceDeletion_save {trace : List CallEvent} (quiet : Quiet trace) {role : Role}
    {profile : ZkUser} {fingers : List ZkFinger} {answer : Option Answer} :
    ∀ event ∈ trace ++ [⟨role, .saveUserTemplate profile fingers, answer⟩],
      ¬ event.sourceDeletion := by
  intro event member
  rcases List.mem_append.mp member with old | new
  · exact (quiet event old).not_sourceDeletion
  · rw [List.mem_singleton.mp new]
    rintro ⟨_, _, _, call⟩
    cases call

theorem ProfileWritten.staged_save {profile : ZkUser} {trace : List CallEvent}
    (holds : ProfileWritten profile trace) (fingers : List ZkFinger) :
    Staged profile fingers
      (trace ++ [⟨.target, .saveUserTemplate profile fingers, some .done⟩]) := by
  obtain ⟨quiet, written⟩ := holds
  refine ⟨not_sourceDeletion_save quiet, List.mem_append_left _ written, ?_⟩
  intro template
  constructor
  · rintro ⟨_, _, member, carries⟩
    rcases List.mem_append.mp member with old | new
    · exact (quiet _ old).elim
    · cases List.mem_singleton.mp new
      exact carries
  · intro carries
    exact ⟨profile, fingers, List.mem_append_right _ (List.mem_singleton.mpr rfl), carries⟩

theorem pinReadBack_of_staged {profile : ZkUser} {fingers : List ZkFinger}
    {trace : List CallEvent} {users : List ZkUser} (staged : Staged profile fingers trace)
    (verified : users.any (ZkUser.hasId profile.userId) = true) :
    PinReadBack (trace ++ [⟨.target, .getUsers, some (.users users)⟩]) := by
  obtain ⟨user, member, held⟩ := List.any_eq_true.mp verified
  refine ⟨trace, _, profile, users, rfl, staged.written, List.mem_singleton.mpr rfl, ?_⟩
  exact List.mem_map.mpr ⟨user, member, by simpa [ZkUser.hasId] using held⟩

theorem meets_writeTarget {tgtConn : Connection} (isTarget : tgtConn.role = .target)
    (reader : Reader) (profile : ZkUser) (fingers : List ZkFinger) :
    Meets faults (fun session : ZkSession => Quiet session.trace)
      (writeTarget tgtConn profile fingers : ZkProgram Bool)
      (fun verified session => Staged profile fingers session.trace ∧
        (verified = true → PinReadBack session.trace))
      fun session => Judged faults reader session.trace := by
  have profileWritten : Meets faults (fun session : ZkSession => Quiet session.trace)
      (tgtConn.setUser profile) (fun _ session => ProfileWritten profile session.trace)
      fun session => Judged faults reader session.trace := by
    unfold Connection.setUser
    apply meets_tell
    · intro trace quiet
      refine ⟨steady_quiet _ _ (by trivial) quiet, List.mem_append_right _ ?_⟩
      rw [isTarget]
      exact List.mem_singleton.mpr rfl
    · intro trace quiet
      exact (steady_quiet _ _ (by trivial) quiet).judged
  have templatesWritten : Meets faults
      (fun session : ZkSession => ProfileWritten profile session.trace)
      (writeFingers tgtConn profile fingers)
      (fun _ session => Staged profile fingers session.trace)
      fun session => Judged faults reader session.trace := by
    unfold writeFingers
    by_cases nothing : fingers.isEmpty = true
    · rw [if_pos nothing, List.isEmpty_iff.mp nothing]
      exact meets_pure _ fun _ holds => holds.staged
    · rw [if_neg nothing]
      unfold Connection.saveUserTemplate
      apply meets_tell
      · intro trace holds
        rw [isTarget]
        exact holds.staged_save fingers
      · intro trace holds
        exact judged_of_none (not_sourceDeletion_save holds.1)
  have refreshed : Meets faults (fun session : ZkSession => Staged profile fingers session.trace)
      tgtConn.refreshData (fun _ session => Staged profile fingers session.trace)
      fun session => Judged faults reader session.trace :=
    (keeps_ask (steady_staged profile fingers) fun _ => by trivial).weaken
      (fun _ holds => holds) (fun _ _ holds => holds) fun _ holds => holds.judged
  have readBack : Meets faults (fun session : ZkSession => Staged profile fingers session.trace)
      tgtConn.getUsers
      (fun users session => Staged profile fingers session.trace ∧
        (users.any (ZkUser.hasId profile.userId) = true → PinReadBack session.trace))
      fun session => Judged faults reader session.trace := by
    unfold Connection.getUsers Connection.ask
    apply meets_issue
    · intro session staged _
      refine ⟨steady_staged _ _ _ _ (by trivial) staged, ?_⟩
      rw [isTarget]
      exact pinReadBack_of_staged staged
    · intro session staged _
      exact (steady_staged _ _ _ _ (by trivial) staged).judged
  apply Meets.bind profileWritten
  intro _
  apply Meets.bind templatesWritten
  intro _
  apply Meets.bind refreshed
  intro _
  apply Meets.bind readBack
  intro users
  exact meets_pure _ fun _ holds => holds

/-! ## The whole migration -/

theorem carries_fingersAt (slot : Slot) (userFingers : List ZkFinger) (template : ZkFinger) :
    Carries (fingersAt slot userFingers) template ↔ Carries userFingers template := by
  simp [Carries, fingersAt]

theorem keeps_openTarget {property : List CallEvent → Prop}
    (steady : Steady CallEvent.quiet property) (srcConn target : Connection) :
    Meets faults (fun session : ZkSession => property session.trace)
      (openTarget srcConn target : ZkProgram (Connection × List ZkUser))
      (fun result session => property session.trace ∧ result.1 = target)
      fun session => property session.trace := by
  have connected : Meets faults (fun session : ZkSession => property session.trace)
      (connectZkDevice target)
      (fun result session => property session.trace ∧ result = target)
      fun session => property session.trace :=
    meets_issue (fun _ holds _ => ⟨steady _ _ (by trivial) holds, rfl⟩)
      fun _ holds _ => steady _ _ (by trivial) holds
  have checked : ∀ tgtConn,
      Keeps faults property (checkFpVersions srcConn tgtConn : ZkProgram Unit) := by
    intro tgtConn
    apply Keeps.attempt
    · apply Keeps.bind (keeps_ask steady fun _ => by trivial)
      intro _
      apply Keeps.bind (keeps_ask steady fun _ => by trivial)
      intro _
      exact keeps_pure _
    · intro _
      exact keeps_pure _
  apply Meets.bind connected
  intro tgtConn
  apply meets_and_fact
  rintro rfl
  apply Meets.bind (keeps_ask steady fun _ => by trivial)
  intro _
  apply Meets.bind (checked tgtConn)
  intro _
  apply Meets.bind (keeps_ask steady fun _ => by trivial)
  intro _
  exact meets_pure _ fun _ holds => ⟨holds, rfl⟩

theorem Staged.judged_deletion {reader : Reader} {user : ZkUser} {profile : ZkUser}
    {fingers : List ZkFinger} {trace : List CallEvent} (staged : Staged profile fingers trace)
    (readBack : PinReadBack trace)
    (read : CarriesAll reader user.uid fingers ↔ TemplatesRead faults reader user.uid)
    (userId : String) (answer : Option Answer) :
    Judged faults reader (trace ++ [⟨.source, .deleteUser user.uid userId, answer⟩]) := by
  intro before uid userId' answer' after same
  rcases List.eq_nil_or_concat after with rfl | ⟨rest, last, rfl⟩
  · obtain ⟨rfl, deletion⟩ := List.append_inj' same rfl
    cases deletion
    refine ⟨readBack, ?_⟩
    rw [← read]
    unfold CarriedOver CarriesAll
    simp only [readBack, true_and, staged.passed]
  · rw [List.concat_eq_append, ← List.cons_append, ← List.append_assoc] at same
    obtain ⟨front, _⟩ := List.append_inj' same rfl
    exact absurd ⟨rfl, uid, userId', rfl⟩
      (staged.noDeletion _ (front ▸ List.mem_append_right _ List.mem_cons_self))

theorem keeps_closeConnections {property : List CallEvent → Prop}
    (steady : Steady CallEvent.quiet property) (connections : List Connection) :
    Keeps faults property (closeConnections connections : ZkProgram Unit) := by
  induction connections with
  | nil => exact keeps_pure ()
  | cons connection rest ih =>
      apply Keeps.bind
      · exact Keeps.attempt (keeps_ask steady fun _ => by trivial) fun _ => keeps_pure ()
      · intro _
        apply Keeps.bind
        · exact Keeps.attempt (keeps_ask steady fun _ => by trivial) fun _ => keeps_pure ()
        · intro _
          exact ih

variable [UnicodeTables] {ends : Endpoints} {request : MigrationRequest}

theorem meets_deleteFromSource {srcConn : Connection} (isSource : srcConn.role = .source)
    {reader : Reader} {user profile : ZkUser} {fingers : List ZkFinger} (mode userId : String)
    (read : CarriesAll reader user.uid fingers ↔ TemplatesRead faults reader user.uid) :
    Meets faults
      (fun session : ZkSession => Staged profile fingers session.trace ∧ PinReadBack session.trace)
      (deleteFromSource srcConn mode userId user : ZkProgram Unit)
      (fun _ session => Judged faults reader session.trace)
      fun session => Judged faults reader session.trace := by
  unfold deleteFromSource
  by_cases move : lower mode = "move"
  · rw [if_pos move]
    have deleted : Meets faults
        (fun session : ZkSession => Staged profile fingers session.trace ∧ PinReadBack session.trace)
        (srcConn.deleteUser user.uid userId)
        (fun _ session => Judged faults reader session.trace)
        fun session => Judged faults reader session.trace := by
      unfold Connection.deleteUser Connection.tell
      apply meets_issue
      · intro session holds _
        rw [isSource]
        exact holds.1.judged_deletion holds.2 read userId _
      · intro session holds _
        rw [isSource]
        exact holds.1.judged_deletion holds.2 read userId _
    apply Meets.bind deleted
    intro _
    exact keeps_ask (steady_judged reader) fun _ => by trivial
  · rw [if_neg move]
    exact meets_pure _ fun _ holds => holds.1.judged

theorem meets_finishMigration {srcConn tgtConn : Connection}
    (isSource : srcConn.role = .source) (isTarget : tgtConn.role = .target) {reader : Reader}
    {user : ZkUser} (userName : String) {userFingers : List ZkFinger} (slot : Slot)
    (read : CarriesAll reader user.uid userFingers ↔ TemplatesRead faults reader user.uid) :
    Meets faults (fun session : ZkSession => Quiet session.trace)
      (finishMigration ends request srcConn tgtConn user userName userFingers slot :
        ZkProgram MigrationResult)
      (fun _ session => Judged faults reader session.trace)
      fun session => Judged faults reader session.trace := by
  have readAt : CarriesAll reader user.uid (fingersAt slot userFingers) ↔
      TemplatesRead faults reader user.uid := by
    rw [← read]
    simp only [CarriesAll, carries_fingersAt]
  unfold finishMigration
  apply Meets.bind (meets_writeTarget isTarget reader (profileAt slot userName user)
    (fingersAt slot userFingers))
  intro verified
  cases verified with
  | false => exact meets_pure _ fun _ holds => holds.1.judged
  | true =>
      have deleted : Meets faults
          (fun session => Staged (profileAt slot userName user) (fingersAt slot userFingers)
            session.trace ∧ (true = true → PinReadBack session.trace))
          (deleteFromSource srcConn request.mode request.userId user)
          (fun _ session => Judged faults reader session.trace)
          fun session => Judged faults reader session.trace :=
        (meets_deleteFromSource isSource request.mode request.userId readAt).weaken
          (fun _ holds => ⟨holds.1, holds.2 rfl⟩) (fun _ _ holds => holds) fun _ holds => holds
      apply Meets.bind deleted
      intro _
      exact meets_pure _ fun _ holds => holds

theorem meets_migrateFound {readers : Address → Reader} {srcConn : Connection}
    (isSource : srcConn.role = .source) (user : ZkUser) (userName : String) :
    Meets faults (Reading readers 3) (migrateFound ends request srcConn user userName)
      (fun _ session => Judged faults (readers srcConn.address) session.trace)
      fun session => Judged faults (readers srcConn.address) session.trace := by
  unfold migrateFound
  have read : Meets faults (Reading readers 3) (readFingers srcConn user.uid request.userId)
      (fun fingers session => Quiet session.trace ∧
        (CarriesAll (readers srcConn.address) user.uid fingers ↔
          TemplatesRead faults (readers srcConn.address) user.uid))
      fun session => Judged faults (readers srcConn.address) session.trace :=
    (meets_readFingers srcConn user.uid request.userId).weaken (fun _ holds => holds)
      (fun _ _ holds => holds) fun _ quiet => quiet.judged
  apply Meets.bind read
  intro userFingers
  apply meets_and_fact
  intro carries
  have opened : Meets faults (fun session : ZkSession => Quiet session.trace)
      (openTarget srcConn ends.tgtConnection)
      (fun result session => Quiet session.trace ∧ result.1 = ends.tgtConnection)
      fun session => Judged faults (readers srcConn.address) session.trace :=
    (keeps_openTarget steady_quiet srcConn ends.tgtConnection).weaken (fun _ holds => holds)
      (fun _ _ holds => holds) fun _ quiet => quiet.judged
  apply Meets.bind opened
  rintro ⟨tgtConn, tgtUsers⟩
  apply meets_and_fact
  intro same
  have tgtRole : tgtConn.role = .target := congrArg Connection.role same
  dsimp only
  cases chooseSlot tgtUsers userName request.destUserId with
  | none => exact meets_raise _ fun _ holds => holds.judged
  | some slot => exact meets_finishMigration isSource tgtRole userName slot carries

theorem meets_tryMigration (readers : Address → Reader) :
    Meets faults (Reading readers 0) (tryMigration ends request)
      (fun _ session => Judged faults (readers ends.srcConnection.address) session.trace)
      fun session => Judged faults (readers ends.srcConnection.address) session.trace := by
  have found : Meets faults (Reading readers 0)
      (findSourceUser ends.srcConnection request.userId)
      (fun result session => Reading readers 3 session ∧ result.1 = ends.srcConnection)
      fun session => Judged faults (readers ends.srcConnection.address) session.trace :=
    (meets_findSourceUser ends.srcConnection request.userId).weaken (fun _ holds => holds)
      (fun _ _ holds => holds) fun _ quiet => quiet.judged
  apply Meets.attempt
  · apply Meets.bind found
    rintro ⟨srcConn, user⟩
    apply meets_and_fact
    rintro rfl
    cases user with
    | none => exact meets_pure _ fun _ holds => holds.2.2.judged
    | some user =>
        apply Meets.attempt
        · exact meets_migrateFound rfl user _
        · intro _
          exact meets_pure _ fun _ holds => holds
  · intro _
    exact meets_pure _ fun _ holds => holds

theorem meets_migrateSingleUserReal (hasPyzk : Bool) (registry : Registry)
    (sourcePort targetPort : Int) (readers : Address → Reader) :
    Meets faults (Reading readers 0)
      (migrateSingleUserReal hasPyzk registry request sourcePort targetPort)
      (fun _ session => Judged faults
        (readers (endpoints registry request sourcePort targetPort).srcConnection.address)
        session.trace)
      fun session => Judged faults
        (readers (endpoints registry request sourcePort targetPort).srcConnection.address)
        session.trace := by
  unfold migrateSingleUserReal Network.migrateSingleUserReal
  cases hasPyzk with
  | false => exact meets_pure _ fun _ holds => holds.2.2.judged
  | true =>
      apply Meets.bind (meets_tryMigration readers)
      intro result
      apply Meets.bind (keeps_look _)
      intro opened
      apply Meets.bind (keeps_closeConnections (steady_judged _) opened)
      intro _
      exact meets_pure _ fun _ holds => holds

theorem judged_run (faults : Faults String) (hasPyzk : Bool) (registry : Registry)
    (request : MigrationRequest) (sourcePort targetPort : Int) (readers : Address → Reader) :
    Judged faults
      (readers (endpoints registry request sourcePort targetPort).srcConnection.address)
      (migrateSingleUserReal hasPyzk registry request sourcePort targetPort faults
        (ZkSession.fresh readers)).2.trace := by
  have start : Reading readers 0 (ZkSession.fresh readers) := by
    refine ⟨rfl, rfl, ?_⟩
    intro event member
    cases member
  exact (meets_migrateSingleUserReal hasPyzk registry sourcePort targetPort readers).final start

/-- A run that deletes the user from the source has read the PIN back, and has passed the
target every template exactly where the templates were all read. -/
theorem deletion_carried_over_iff {hasPyzk : Bool} {registry : Registry}
    {sourcePort targetPort : Int} {readers : Address → Reader} {before after : List CallEvent}
    {uid : Int} {userId : String} {answer : Option Answer}
    (deletion : (migrateSingleUserReal hasPyzk registry request sourcePort targetPort faults
        (ZkSession.fresh readers)).2.trace =
      before ++ ⟨.source, .deleteUser uid userId, answer⟩ :: after) :
    PinReadBack before ∧
      (CarriedOver
          (readers (endpoints registry request sourcePort targetPort).srcConnection.address) uid
          before ↔
        TemplatesRead faults
          (readers (endpoints registry request sourcePort targetPort).srcConnection.address)
          uid) :=
  judged_run faults hasPyzk registry request sourcePort targetPort readers _ _ _ _ _ deletion

end

/-! ## A move from the first reader to the second -/

def movedMember : ZkUser := ⟨1, "Member 1o", 0, "", "1", "101", 0⟩

def memberTemplate : ZkFinger := ⟨1, 0, 1, bytes "TEMPLATE_FINGER_0_USER_101_SAMPLE"⟩

def memberOnSource (address : Address) : Reader :=
  if address = ⟨"192.168.0.210", 4370⟩ then ⟨[movedMember], [memberTemplate], 10⟩
  else ⟨[], [], 10⟩

def moveMember : MigrationRequest :=
  ⟨some "NFZ8254900401", some "UFZ9876543210", "101", "move", none, none, none, none, none⟩

/-- The calls before the deletion, given those that read the templates and those that
write them. -/
def callsBeforeDeletion (reading writing : List CallEvent) : List CallEvent :=
  [⟨.source, .connect, some .done⟩, ⟨.source, .disableDevice, some .done⟩,
      ⟨.source, .getUsers, some (.users [movedMember])⟩] ++ reading ++
    [⟨.target, .connect, some .done⟩, ⟨.target, .disableDevice, some .done⟩,
      ⟨.source, .getFpVersion, some (.version 10)⟩, ⟨.target, .getFpVersion, some (.version 10)⟩,
      ⟨.target, .getUsers, some (.users [])⟩, ⟨.target, .setUser movedMember, some .done⟩] ++
    writing ++
    [⟨.target, .refreshData, some .done⟩, ⟨.target, .getUsers, some (.users [movedMember])⟩]

def callsAfterDeletion : List CallEvent :=
  [⟨.source, .refreshData, some .done⟩, ⟨.source, .enableDevice, some .done⟩,
    ⟨.source, .disconnect, some .done⟩, ⟨.target, .enableDevice, some .done⟩,
    ⟨.target, .disconnect, some .done⟩]

theorem moveMember_source :
    (@endpoints UnicodeTables.ascii defaultRegistry moveMember 4370 4370).srcConnection.address =
      ⟨"192.168.0.210", 4370⟩ := by
  decide +kernel

theorem deletion_carried_over_iff_no_fault :
    CarriedOver (memberOnSource ⟨"192.168.0.210", 4370⟩) 1
      (callsBeforeDeletion [⟨.source, .getTemplates, some (.templates [memberTemplate])⟩]
        [⟨.target, .saveUserTemplate movedMember [memberTemplate], some .done⟩]) := by
  let := UnicodeTables.ascii
  have deletion : (migrateSingleUserReal true defaultRegistry moveMember 4370 4370
      (fun _ => none) (ZkSession.fresh memberOnSource)).2.trace =
      callsBeforeDeletion [⟨.source, .getTemplates, some (.templates [memberTemplate])⟩]
        [⟨.target, .saveUserTemplate movedMember [memberTemplate], some .done⟩] ++
        ⟨.source, .deleteUser 1 "101", some .done⟩ :: callsAfterDeletion := by
    decide +kernel
  have judged := (deletion_carried_over_iff deletion).2
  rw [moveMember_source] at judged
  exact judged.mpr (Or.inl rfl)

def readsFail : Faults String := fun place =>
  if 3 ≤ place ∧ place ≤ 13 then some "timed out" else none

/-- Where every read of templates raises, the move answers ok and has deleted the only
copy of the fingerprint. -/
theorem move_destroys_fingerprints :
    ((@migrateSingleUserReal UnicodeTables.ascii true defaultRegistry moveMember 4370 4370
      readsFail (ZkSession.fresh memberOnSource)).1.toOption.any MigrationResult.ok) = true ∧
    ∃ before after,
      (@migrateSingleUserReal UnicodeTables.ascii true defaultRegistry moveMember 4370 4370
        readsFail (ZkSession.fresh memberOnSource)).2.trace =
        before ++ ⟨.source, .deleteUser 1 "101", some .done⟩ :: after ∧
      ¬ CarriedOver (memberOnSource ⟨"192.168.0.210", 4370⟩) 1 before := by
  have deletion : (@migrateSingleUserReal UnicodeTables.ascii true defaultRegistry moveMember
      4370 4370 readsFail (ZkSession.fresh memberOnSource)).2.trace =
      callsBeforeDeletion (⟨.source, .getTemplates, none⟩ ::
        (List.range 10).map fun fid => ⟨.source, .getUserTemplate 1 fid "101", none⟩) [] ++
        ⟨.source, .deleteUser 1 "101", some .done⟩ :: callsAfterDeletion := by
    decide +kernel
  refine ⟨by decide +kernel, _, _, deletion, ?_⟩
  have judged := (@judged_run UnicodeTables.ascii readsFail true defaultRegistry moveMember
    4370 4370 memberOnSource _ _ _ _ _ deletion).2
  rw [moveMember_source] at judged
  rw [judged]
  rintro (bulk | scanned)
  · exact absurd bulk (by decide)
  · have read := scanned memberTemplate (by decide) rfl
    exact absurd read.2.1 (by decide)

end PumoBioMetric.Core
