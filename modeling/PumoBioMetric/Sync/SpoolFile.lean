import Mathlib.Data.List.GetD
import PumoBioMetric.Sync.Punch

/-!
# The spool at the level of file steps

Files have an identity, so a handle keeps the file it opened when the name moves
on.  `drain` and `add` are the sequences of system calls of `PunchSpool`, one
constructor for each call that comes next; a file's content is the list of the
punches on its lines.
-/

set_option autoImplicit false

namespace PumoBioMetric.Sync

abbrev FileId := Nat

structure Files where
  /-- The spool path. -/
  path : Option FileId
  /-- Its `.draining` sibling. -/
  staging : Option FileId
  content : List (List Punch)
  deriving DecidableEq

def Files.read (files : Files) (file : FileId) : List Punch := files.content.getD file []

def Files.named (files : Files) : Option FileId → List Punch
  | none => []
  | some file => files.read file

def Files.spooled (files : Files) : List Punch := files.named files.path

def Files.staged (files : Files) : List Punch := files.named files.staging

/-- The next system call of a `drain` or `add` in progress. -/
inductive SpoolOp where
  | drainExists
  | drainRename
  | drainOpen
  | drainRead (file : FileId)
  | drainUnlink (punches : List Punch)
  | addOpen (punches : List Punch)
  | addAppend (punches : List Punch) (file : FileId)
  deriving DecidableEq

inductive Progress where
  | next (op : SpoolOp)
  | drained (punches : List Punch)
  | added (punches : List Punch)
  deriving DecidableEq

def SpoolOp.step : SpoolOp → Files → Files × Progress
  | .drainExists, files =>
      (files, if files.path.isSome then .next .drainRename else .drained [])
  | .drainRename, files =>
      match files.path with
      -- `os.replace` raises `OSError` when the path has gone.
      | none => (files, .drained [])
      | some file => ({ files with path := none, staging := some file }, .next .drainOpen)
  | .drainOpen, files =>
      match files.staging with
      -- The `finally` still unlinks before `[]` is returned.
      | none => (files, .next (.drainUnlink []))
      | some file => (files, .next (.drainRead file))
  | .drainRead file, files => (files, .next (.drainUnlink (files.read file)))
  | .drainUnlink punches, files => ({ files with staging := none }, .drained punches)
  | .addOpen punches, files =>
      match files.path with
      | some file => (files, .next (.addAppend punches file))
      | none =>
          ({ files with
              path := some files.content.length, content := files.content ++ [[]] },
            .next (.addAppend punches files.content.length))
  | .addAppend punches file, files =>
      ({ files with content := files.content.set file (files.read file ++ punches) },
        .added punches)

/-- What a `drain` that nobody disturbs returns. -/
def drainAll (files : Files) : List Punch :=
  if files.path.isSome then
    let renamed := (SpoolOp.step .drainRename files).1
    match renamed.staging with
    | none => []
    | some file => renamed.read file
  else []

theorem drainAll_eq_spooled (files : Files) : drainAll files = files.spooled := by
  unfold drainAll Files.spooled Files.named
  cases found : files.path with
  | none => rfl
  | some file =>
      simp only [Option.isSome_some, if_true, SpoolOp.step, found]
      rfl

def punchOf (pin : String) : Punch :=
  { deviceSerial := "ZK1", deviceUserId := pin,
    deviceTime := ⟨2026, 8, 15, 9, 0, 0, 0, by decide⟩ }

def oneSpooled : Files :=
  { path := some 0, staging := none, content := [[punchOf "101"]] }

/-! ## What a single step keeps -/

/-- The punches a call in progress will return, in its memory or in the file it is
about to read. -/
def Files.heldBy (files : Files) : Option SpoolOp → List Punch
  | some .drainOpen => files.staged
  | some (.drainRead file) => files.read file
  | some (.drainUnlink punches) => punches
  | _ => []

def Files.HandleValid (files : Files) : Option SpoolOp → Prop
  | some (.addAppend _ file) => file < files.content.length
  | _ => True

structure Files.Valid (files : Files) (one other : Option SpoolOp) : Prop where
  path : ∀ file ∈ files.path, file < files.content.length
  one : files.HandleValid one
  other : files.HandleValid other

/-- The step spares what the other party still has to read: it neither renames over
nor unlinks a staged file that is waiting to be opened, and it appends only to a
file that somebody will read. -/
def SpoolOp.Spares (files : Files) (other : Option SpoolOp) : SpoolOp → Prop
  | .drainRename => files.path.isSome → other = some .drainOpen → files.staged = []
  | .drainUnlink _ => other = some .drainOpen → files.staged = []
  | .addAppend _ file =>
      files.path = some file ∨ (other = some .drainOpen ∧ files.staging = some file) ∨
        other = some (.drainRead file)
  | _ => True

def Progress.op : Progress → Option SpoolOp
  | .next op => some op
  | _ => none

def Progress.returned : Progress → List Punch
  | .drained punches => punches
  | _ => []

def Progress.stored : Progress → List Punch
  | .added punches => punches
  | _ => []

/-! ## Contents only grow -/

def Files.create (files : Files) : Files :=
  { files with path := some files.content.length, content := files.content ++ [[]] }

def Files.append (files : Files) (file : FileId) (punches : List Punch) : Files :=
  { files with content := files.content.set file (files.read file ++ punches) }

theorem read_create (files : Files) (file : FileId) :
    files.create.read file = files.read file := by
  unfold Files.read Files.create
  by_cases inside : file < files.content.length
  · exact List.getD_append _ _ _ _ inside
  · have outside : files.content.length ≤ file := Nat.le_of_not_lt inside
    rw [List.getD_append_right _ _ _ _ outside, List.getD_eq_default files.content [] outside]
    cases file - files.content.length <;> rfl

theorem read_append_self {files : Files} {file : FileId} (punches : List Punch)
    (inside : file < files.content.length) :
    (files.append file punches).read file = files.read file ++ punches := by
  simp [Files.read, Files.append, List.getD_eq_getElem?_getD, inside]

theorem mem_read_append {files : Files} {file other : FileId} {punch : Punch}
    (punches : List Punch) (member : punch ∈ files.read other) :
    punch ∈ (files.append file punches).read other := by
  by_cases inside : file < files.content.length
  · by_cases same : other = file
    · subst same
      rw [read_append_self punches inside]
      exact List.mem_append_left _ member
    · have apart : file ≠ other := fun h => same h.symm
      simpa [Files.read, Files.append, List.getD_eq_getElem?_getD, apart] using member
  · have unchanged : files.append file punches = files := by
      unfold Files.append
      rw [List.set_eq_of_length_le (Nat.le_of_not_lt inside)]
    rwa [unchanged]

theorem mem_named_append {files : Files} {file : FileId} {name : Option FileId}
    {punch : Punch} (punches : List Punch) (member : punch ∈ files.named name) :
    punch ∈ (files.append file punches).named name := by
  cases name with
  | none => simp [Files.named] at member
  | some other => exact mem_read_append punches member

theorem mem_heldBy_append {files : Files} {file : FileId} {op : Option SpoolOp}
    {punch : Punch} (punches : List Punch) (member : punch ∈ files.heldBy op) :
    punch ∈ (files.append file punches).heldBy op := by
  rcases op with _ | op
  · exact member
  · cases op with
    | drainOpen => exact mem_named_append punches member
    | drainRead file => exact mem_read_append punches member
    | drainExists | drainRename | drainUnlink | addOpen | addAppend => exact member

theorem heldBy_create (files : Files) (op : Option SpoolOp) :
    files.create.heldBy op = files.heldBy op := by
  have staged : files.create.staged = files.staged := by
    cases found : files.staging with
    | none =>
        have same : files.create.staging = none := found
        simp [Files.staged, Files.named, same, found]
    | some file =>
        have same : files.create.staging = some file := found
        simp [Files.staged, Files.named, same, found, read_create]
  rcases op with _ | op
  · rfl
  · cases op with
    | drainOpen => exact staged
    | drainRead file => exact read_create files file
    | drainExists | drainRename | drainUnlink | addOpen | addAppend => rfl

/-- A party's batch survives a change of the two names, unless it still has to open
the staging path. -/
theorem heldBy_rename {files : Files} (path staging : Option FileId) {op : Option SpoolOp}
    {punch : Punch} (notOpening : op = some .drainOpen → files.staged = [])
    (member : punch ∈ files.heldBy op) :
    punch ∈ ({ files with path := path, staging := staging } : Files).heldBy op := by
  rcases op with _ | op
  · exact member
  · cases op with
    | drainOpen =>
        have empty := notOpening rfl
        have held : punch ∈ files.staged := member
        simp [empty] at held
    | drainExists | drainRename | drainRead | drainUnlink | addOpen | addAppend => exact member

/-! ## The outcomes of a step -/

section

variable {files : Files} {file : FileId}

theorem drainExists_some (found : files.path = some file) :
    SpoolOp.step .drainExists files = (files, .next .drainRename) := by
  simp [SpoolOp.step, found]

theorem drainRename_none (missing : files.path = none) :
    SpoolOp.step .drainRename files = (files, .drained []) := by
  simp [SpoolOp.step, missing]

theorem drainRename_some (found : files.path = some file) :
    SpoolOp.step .drainRename files =
      ({ files with path := none, staging := some file }, .next .drainOpen) := by
  simp [SpoolOp.step, found]

theorem drainOpen_none (missing : files.staging = none) :
    SpoolOp.step .drainOpen files = (files, .next (.drainUnlink [])) := by
  simp [SpoolOp.step, missing]

theorem drainOpen_some (found : files.staging = some file) :
    SpoolOp.step .drainOpen files = (files, .next (.drainRead file)) := by
  simp [SpoolOp.step, found]

theorem addOpen_none (punches : List Punch) (missing : files.path = none) :
    SpoolOp.step (.addOpen punches) files =
      (files.create, .next (.addAppend punches files.content.length)) := by
  simp [SpoolOp.step, missing, Files.create]

theorem addOpen_some (punches : List Punch) (found : files.path = some file) :
    SpoolOp.step (.addOpen punches) files = (files, .next (.addAppend punches file)) := by
  simp [SpoolOp.step, found]

end

/-! ## One step with another party present -/

/-- What a step leaves for the caller, in the spool, or with one of the parties. -/
def Reaches (punch : Punch) (after : Files × Progress) (other : Option SpoolOp) : Prop :=
  punch ∈ after.1.spooled ∨ punch ∈ after.2.returned ∨
    punch ∈ after.1.heldBy after.2.op ∨ punch ∈ after.1.heldBy other

theorem reaches_of_unchanged {files : Files} {own : List Punch} {progress : Progress}
    {punch : Punch} {other : Option SpoolOp}
    (member : punch ∈ files.spooled ∨ punch ∈ own ∨ punch ∈ files.heldBy other)
    (kept : punch ∈ own → punch ∈ progress.returned ∨ punch ∈ files.heldBy progress.op) :
    Reaches punch (files, progress) other := by
  rcases member with spooled | mine | theirs
  · exact Or.inl spooled
  · rcases kept mine with returned | held
    · exact Or.inr (Or.inl returned)
    · exact Or.inr (Or.inr (Or.inl held))
  · exact Or.inr (Or.inr (Or.inr theirs))

theorem SpoolOp.step_keeps {op : SpoolOp} {files : Files} {other : Option SpoolOp}
    (spares : op.Spares files other) (punch : Punch)
    (member : punch ∈ files.spooled ∨ punch ∈ files.heldBy (some op) ∨
      punch ∈ files.heldBy other) :
    Reaches punch (op.step files) other := by
  cases op with
  | drainExists => exact reaches_of_unchanged member (by simp [Files.heldBy])
  | drainRename =>
      cases found : files.path with
      | none =>
          rw [drainRename_none found]
          exact reaches_of_unchanged member (by simp [Files.heldBy])
      | some file =>
          rw [drainRename_some found]
          rcases member with spooled | own | theirs
          · have inFile : punch ∈ files.read file := by
              simpa [Files.spooled, Files.named, found] using spooled
            exact Or.inr (Or.inr (Or.inl inFile))
          · simp [Files.heldBy] at own
          · exact Or.inr (Or.inr (Or.inr
              (heldBy_rename _ _ (spares (by simp [found])) theirs)))
  | drainOpen =>
      cases found : files.staging with
      | none =>
          rw [drainOpen_none found]
          exact reaches_of_unchanged member
            (by simp [Files.heldBy, Files.staged, Files.named, found])
      | some file =>
          rw [drainOpen_some found]
          refine reaches_of_unchanged member ?_
          intro own
          have inFile : punch ∈ files.read file := by
            simpa [Files.heldBy, Files.staged, Files.named, found] using own
          exact Or.inr inFile
  | drainRead file => exact reaches_of_unchanged member Or.inr
  | drainUnlink punches =>
      rcases member with spooled | own | theirs
      · exact Or.inl spooled
      · exact Or.inr (Or.inl own)
      · exact Or.inr (Or.inr (Or.inr (heldBy_rename _ _ spares theirs)))
  | addOpen punches =>
      cases found : files.path with
      | none =>
          rw [addOpen_none punches found]
          rcases member with spooled | own | theirs
          · simp [Files.spooled, Files.named, found] at spooled
          · simp [Files.heldBy] at own
          · refine Or.inr (Or.inr (Or.inr ?_))
            rwa [heldBy_create]
      | some file =>
          rw [addOpen_some punches found]
          exact reaches_of_unchanged member (by simp [Files.heldBy])
  | addAppend punches file =>
      rcases member with spooled | own | theirs
      · exact Or.inl (mem_named_append punches spooled)
      · simp [Files.heldBy] at own
      · exact Or.inr (Or.inr (Or.inr (mem_heldBy_append punches theirs)))

theorem SpoolOp.step_stores {op : SpoolOp} {files : Files} {other : Option SpoolOp}
    (valid : files.HandleValid (some op)) (spares : op.Spares files other) (punch : Punch)
    (member : punch ∈ (op.step files).2.stored) :
    punch ∈ (op.step files).1.spooled ∨ punch ∈ (op.step files).1.heldBy other := by
  cases op with
  | drainExists =>
      simp only [SpoolOp.step] at member
      split at member <;> simp [Progress.stored] at member
  | drainRename =>
      simp only [SpoolOp.step] at member
      split at member <;> simp [Progress.stored] at member
  | drainOpen =>
      simp only [SpoolOp.step] at member
      split at member <;> simp [Progress.stored] at member
  | drainRead file => simp [SpoolOp.step, Progress.stored] at member
  | drainUnlink punches => simp [SpoolOp.step, Progress.stored] at member
  | addOpen punches =>
      simp only [SpoolOp.step] at member
      split at member <;> simp [Progress.stored] at member
  | addAppend punches file =>
      have written : punch ∈ (files.append file punches).read file := by
        rw [read_append_self punches valid]
        exact List.mem_append_right _ member
      have stepped : SpoolOp.step (.addAppend punches file) files =
          (files.append file punches, .added punches) := rfl
      rw [stepped]
      rcases spares with atPath | ⟨opening, atStaging⟩ | reading
      · left
        have name : (files.append file punches).path = some file := atPath
        simpa [Files.spooled, Files.named, name] using written
      · right
        have name : (files.append file punches).staging = some file := atStaging
        rw [opening]
        simpa [Files.heldBy, Files.staged, Files.named, name] using written
      · right
        rw [reading]
        exact written

theorem handleValid_of_length_le {files after : Files} {op : Option SpoolOp}
    (longer : files.content.length ≤ after.content.length)
    (valid : files.HandleValid op) : after.HandleValid op := by
  rcases op with _ | op
  · trivial
  · cases op with
    | addAppend punches file => exact Nat.lt_of_lt_of_le valid longer
    | drainExists | drainRename | drainOpen | drainRead | drainUnlink | addOpen => trivial

theorem SpoolOp.step_valid {op : SpoolOp} {files : Files} {other : Option SpoolOp}
    (valid : files.Valid (some op) other) :
    (op.step files).1.Valid (op.step files).2.op other := by
  cases op with
  | drainExists =>
      simp only [SpoolOp.step]
      split <;> exact ⟨valid.path, trivial, valid.other⟩
  | drainRename =>
      cases found : files.path with
      | none =>
          rw [drainRename_none found]
          exact ⟨valid.path, trivial, valid.other⟩
      | some file =>
          rw [drainRename_some found]
          exact ⟨by simp, trivial, handleValid_of_length_le (Nat.le_refl _) valid.other⟩
  | drainOpen =>
      cases found : files.staging with
      | none =>
          rw [drainOpen_none found]
          exact ⟨valid.path, trivial, valid.other⟩
      | some file =>
          rw [drainOpen_some found]
          exact ⟨valid.path, trivial, valid.other⟩
  | drainRead file => exact ⟨valid.path, trivial, valid.other⟩
  | drainUnlink punches =>
      exact ⟨valid.path, trivial, handleValid_of_length_le (Nat.le_refl _) valid.other⟩
  | addOpen punches =>
      cases found : files.path with
      | none =>
          have longer : files.content.length < files.create.content.length := by
            simp [Files.create]
          rw [addOpen_none punches found]
          refine ⟨?_, longer, handleValid_of_length_le (Nat.le_of_lt longer) valid.other⟩
          intro held isPath
          cases isPath
          exact longer
      | some file =>
          rw [addOpen_some punches found]
          exact ⟨valid.path, valid.path file found, valid.other⟩
  | addAppend punches file =>
      have same : (files.append file punches).content.length = files.content.length := by
        simp [Files.append]
      refine ⟨?_, trivial, handleValid_of_length_le (Nat.le_of_eq same.symm) valid.other⟩
      intro held isPath
      have inside := valid.path held isPath
      change held < (files.append file punches).content.length
      rwa [same]

end PumoBioMetric.Sync
