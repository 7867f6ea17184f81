import PumoBioMetric.Py.JsonCut

/-!
# The file of the employee directory

`load_employees` and `save_employees`.  A save truncates `employees.json` and writes
its text over time, so a save cut short leaves a prefix of the text.  A file that does
not parse is treated as a missing one: the defaults are returned and saved over it.
-/

set_option autoImplicit false

namespace PumoBioMetric.Core

open Py

/-- A list that `json.dump` can write. -/
structure EmployeeList where
  items : List Json
  formed : (Json.arr items).WellFormed

def EmployeeList.value (employees : EmployeeList) : Json := .arr employees.items

/-- The decoded text of `employees.json`; `none` where there is no file. -/
abbrev EmployeeFile := Option (List Char)

/-- `json.dump(employees, f, indent=2)`. -/
def dumpEmployees (employees : EmployeeList) : List Char :=
  employees.value.write (.indented 2) 0

def bootstrapEmployee (id : Int) (employeeCode name role : String) (branchId : Int)
    (department deviceSn pin : String) : Json :=
  .obj [("id", .int id), ("employeeCode", .str employeeCode), ("name", .str name),
    ("role", .str role), ("branchId", .int branchId), ("department", .str department),
    ("access", .arr [.obj [("deviceSn", .str deviceSn), ("pin", .str pin),
      ("primary", .bool true)]])]

theorem bootstrapEmployee_formed (id : Int) (employeeCode name role : String) (branchId : Int)
    (department deviceSn pin : String) :
    (bootstrapEmployee id employeeCode name role branchId department deviceSn pin).WellFormed := by
  simp [bootstrapEmployee, Json.WellFormed, Json.MembersWellFormed, Json.AllWellFormed]

def bootstrapEmployees : EmployeeList where
  items :=
    [bootstrapEmployee 101 "EMP-101" "Member 1o" "Normal User" 1 "Engineering"
        "NFZ8254900401" "101",
      bootstrapEmployee 102 "EMP-102" "Gowtham" "Normal User" 1 "Operations"
        "NFZ8254900401" "102",
      bootstrapEmployee 111 "EMP-111" "ARULAJAY" "Super Admin" 1 "Management"
        "NFZ8254900401" "111",
      bootstrapEmployee 9999 "EMP-9999" "Master Super Admin" "Super Admin" 2 "Security"
        "UFZ9876543210" "9999"]
  formed := by simp [Json.WellFormed, Json.AllWellFormed, bootstrapEmployee_formed]

def saveEmployees (employees : EmployeeList) : EmployeeFile := some (dumpEmployees employees)

/-- `load_employees`: what it returns and the file after it.  The records of
`DEFAULT_EMPLOYEES` are handed out and changed in place, so their content is a
parameter. -/
def loadEmployees (defaults : EmployeeList) (file : EmployeeFile) : Json × EmployeeFile :=
  match file.bind loads with
  | some employees => (employees, file)
  | none => (defaults.value, saveEmployees defaults)

/-! ## A save cut short -/

/-- How far a save has come: not at the file yet, or with so many characters written
since the truncation. -/
inductive SaveProgress where
  | unopened
  | written (count : Nat)
deriving DecidableEq, Repr

def cutSave (employees : EmployeeList) (file : EmployeeFile) : SaveProgress → EmployeeFile
  | .unopened => file
  | .written count => some ((dumpEmployees employees).take count)

def SaveProgress.Whole (employees : EmployeeList) : SaveProgress → Prop
  | .unopened => True
  | .written count => (dumpEmployees employees).length ≤ count

/-- After a save of `new` over `old` cut short, the next load returns one of the two and
leaves no third content in the file. -/
def CutSaveSurvives (defaults : EmployeeList) (file : EmployeeFile) (old new : EmployeeList)
    (progress : SaveProgress) : Prop :=
  let left := cutSave new file progress
  let loaded := loadEmployees defaults left
  (loaded.1 = old.value ∨ loaded.1 = new.value) ∧
    (loaded.2 = left ∨ loaded.2.bind loads = some old.value ∨
      loaded.2.bind loads = some new.value)

theorem loads_saveEmployees (employees : EmployeeList) :
    (saveEmployees employees).bind loads = some employees.value :=
  loads_write (.indented 2) 0 employees.formed

theorem loads_take_dumpEmployees {employees : EmployeeList} {count : Nat}
    (short : count < (dumpEmployees employees).length) :
    loads ((dumpEmployees employees).take count) = none := by
  have whole : (dumpEmployees employees).take count ++ (dumpEmployees employees).drop count =
      employees.value.write (.indented 2) 0 := List.take_append_drop count _
  refine loads_cut (.indented 2) employees.formed (Or.inl ⟨_, rfl⟩) whole ?_
  intro none
  have covered := List.drop_eq_nil_iff.mp none
  omega

theorem loadEmployees_damaged (defaults : EmployeeList) {file : EmployeeFile}
    (damaged : file.bind loads = none) :
    loadEmployees defaults file = (defaults.value, saveEmployees defaults) := by
  simp [loadEmployees, damaged]

theorem loadEmployees_readable (defaults : EmployeeList) {file : EmployeeFile} {employees : Json}
    (readable : file.bind loads = some employees) :
    loadEmployees defaults file = (employees, file) := by
  simp [loadEmployees, readable]

theorem cutSaveSurvives_of_whole (defaults : EmployeeList) {file : EmployeeFile}
    {old new : EmployeeList} (onDisk : file.bind loads = some old.value)
    {progress : SaveProgress} (whole : progress.Whole new) :
    CutSaveSurvives defaults file old new progress := by
  cases progress with
  | unopened =>
      have loaded : loadEmployees defaults (cutSave new file .unopened) = (old.value, file) :=
        loadEmployees_readable defaults onDisk
      rw [CutSaveSurvives, loaded]
      exact ⟨Or.inl rfl, Or.inl rfl⟩
  | written count =>
      have all : (dumpEmployees new).take count = dumpEmployees new := List.take_of_length_le whole
      have loaded : loadEmployees defaults (cutSave new file (.written count)) =
          (new.value, saveEmployees new) := by
        rw [cutSave, all]
        exact loadEmployees_readable defaults (loads_saveEmployees new)
      rw [CutSaveSurvives, loaded]
      exact ⟨Or.inr rfl, Or.inr (Or.inr (loads_saveEmployees new))⟩

theorem cutSaveSurvives_damaged_iff (defaults : EmployeeList) (file : EmployeeFile)
    (old new : EmployeeList) {count : Nat} (short : count < (dumpEmployees new).length) :
    CutSaveSurvives defaults file old new (.written count) ↔
      defaults.value = old.value ∨ defaults.value = new.value := by
  have loaded : loadEmployees defaults (cutSave new file (.written count)) =
      (defaults.value, saveEmployees defaults) :=
    loadEmployees_damaged defaults (loads_take_dumpEmployees short)
  simp only [CutSaveSurvives, loaded, loads_saveEmployees, Option.some.injEq]
  constructor
  · exact And.left
  · intro kept
    exact ⟨kept, Or.inr kept⟩

/-- A save cut short costs nothing exactly when the file was not truncated yet, all of the
text was written, or one of the two lists is the default one. -/
theorem cut_save_survives_iff (defaults : EmployeeList) {file : EmployeeFile}
    {old : EmployeeList} (onDisk : file.bind loads = some old.value) (new : EmployeeList)
    (progress : SaveProgress) :
    CutSaveSurvives defaults file old new progress ↔
      progress.Whole new ∨ defaults.value = old.value ∨ defaults.value = new.value := by
  by_cases whole : progress.Whole new
  · exact iff_of_true (cutSaveSurvives_of_whole defaults onDisk whole) (Or.inl whole)
  · rw [or_iff_right whole]
    cases progress with
    | unopened => exact absurd trivial whole
    | written count =>
        exact cutSaveSurvives_damaged_iff defaults file old new (Nat.lt_of_not_le whole)

def onlyEmployee (branchId : Int) : EmployeeList where
  items := [bootstrapEmployee 7 "EMP-7" "Visitor" "Normal User" branchId "Operations"
    "UFZ9876543210" "7"]
  formed := by simp [Json.WellFormed, Json.AllWellFormed, bootstrapEmployee_formed]

theorem cut_save_survives_iff_onlyEmployee :
    CutSaveSurvives bootstrapEmployees (saveEmployees (onlyEmployee 1)) (onlyEmployee 1)
        (onlyEmployee 2) (.written 7) ↔
      (SaveProgress.written 7).Whole (onlyEmployee 2) ∨
        bootstrapEmployees.value = (onlyEmployee 1).value ∨
        bootstrapEmployees.value = (onlyEmployee 2).value :=
  cut_save_survives_iff bootstrapEmployees (loads_saveEmployees (onlyEmployee 1)) (onlyEmployee 2)
    (.written 7)

/-- Killed right after the truncation, a save leaves four bootstrap employees. -/
theorem truncated_save_loses_directory :
    ¬ CutSaveSurvives bootstrapEmployees (saveEmployees (onlyEmployee 1)) (onlyEmployee 1)
      (onlyEmployee 2) (.written 0) := by
  have nonempty : 0 < (dumpEmployees (onlyEmployee 2)).length := by
    rw [List.length_pos_iff]
    exact List.cons_ne_nil _ _
  have others : ∀ branchId, bootstrapEmployees.value ≠ (onlyEmployee branchId).value := by
    intro branchId same
    have lengths := congrArg List.length (Json.arr.inj same)
    simp [bootstrapEmployees, onlyEmployee] at lengths
  rw [cutSaveSurvives_damaged_iff _ _ _ _ nonempty]
  rintro (same | same)
  · exact others 1 same
  · exact others 2 same

end PumoBioMetric.Core
