import PumoBioMetric.Core.ReaderCalls
import PumoBioMetric.Router.Attlog

/-!
# The lines of a user list

What `parse_userinfo` reads out of a pushed body: PIN, name and role of each line, in
key-value fields or in columns.
-/

set_option autoImplicit false

namespace PumoBioMetric.Router

open Py

def stripMark (mark : Char) (text : String) : String :=
  String.ofList
    ((text.toList.dropWhile fun char => char == mark).rdropWhile fun char => char == mark)

example : stripMark '"' "\"Asha\"" = "Asha" := by decide

def privilegeRole (privilege : String) : String :=
  ((int? privilege).map Core.roleLabel).getD "Normal User"

section

variable [UnicodeTables]

/-- `kv`: fields between tabs where there is one, else between blanks. -/
def userinfoValues (line : String) : Dict String :=
  (if contains line "\t" then splitChar '\t' line else words line).foldl
    (fun kv item =>
      match splitOnce '=' item with
      | some (k, v) => kv.set (upper (strip k)) (stripMark '"' (strip v))
      | none => kv)
    []

/-- PIN, name and role of a line; a missing PIN or name is empty. -/
def userinfoLine (line : String) : String × String × String :=
  if contains (upper line) "PIN=" || contains (upper line) "NAME=" then
    let kv := userinfoValues line
    (firstTruthy [kv.get? "PIN", kv.get? "USERID"] "", (kv.get? "NAME").getD "",
      privilegeRole (firstTruthy [kv.get? "PRI", kv.get? "PRIVILEGE"] "0"))
  else
    match (splitChar '\t' line).map strip with
    | pin :: name :: rest =>
        if pin = "" then ("", "", "Normal User")
        else (pin, name, (rest[2]?.map privilegeRole).getD "Normal User")
    | _ => ("", "", "Normal User")

/-- The users that a line teaches: one with a PIN and a name that is no placeholder. -/
def learnedUser (line : String) : Option (String × UserInfo) :=
  let (pin, name, role) := userinfoLine line
  if pin = "" ∨ name = "" ∨ startsWith name "User " then none
  else some (pin, ⟨some name, some role⟩)

def learnedUsers (bodyStr : String) : List (String × UserInfo) :=
  (attlogLines bodyStr).filterMap learnedUser

theorem learnedUsers_named {bodyStr pin : String} {info : UserInfo}
    (learned : (pin, info) ∈ learnedUsers bodyStr) :
    info.isNamed = true ∧ ∃ name role, info = ⟨some name, some role⟩ := by
  obtain ⟨line, _, taught⟩ := List.mem_filterMap.mp learned
  simp only [learnedUser] at taught
  split at taught
  · cases taught
  · rename_i named
    obtain ⟨_, rest⟩ := not_or.mp named
    obtain ⟨present, plain⟩ := not_or.mp rest
    rw [← (Prod.mk.inj (Option.some.inj taught)).2]
    exact ⟨by simp [UserInfo.isNamed, present, plain], _, _, rfl⟩

end

end PumoBioMetric.Router
