import PumoBioMetric.Core.QueuedCommands
import PumoBioMetric.Sync.NamesPushed
import PumoBioMetric.Sync.WireLayouts

/-!
# Users that come back from a reader

A user is created with one line of fields, and a reader reports its users in lines of the same
fields.  `parse_userinfo` learns from them what the creation was asked for, blanks and equals signs
included.
-/

set_option autoImplicit false

namespace PumoBioMetric.Sync

open PumoBioMetric.Py PumoBioMetric.Router PumoBioMetric.Core

/-! ## The lines -/

def reportedFields (user : NewUser) : List String :=
  ["PIN=" ++ user.pin, "Name=" ++ user.cleanName, "Pri=" ++ toString user.role,
    "Passwd=" ++ user.password, "Card=" ++ toString user.card, "Grp=1"]

def reportedLine (user : NewUser) : String := joinChar '\t' (reportedFields user)

def reportedBody (users : List NewUser) : String := joinChar '\n' (users.map reportedLine)

theorem creationCommand_reported (user : NewUser) :
    creationCommand user = "DATA UPDATE USERINFO " ++ reportedLine user := by
  have head : "DATA UPDATE USERINFO PIN=" = "DATA UPDATE USERINFO " ++ "PIN=" := by decide +kernel
  rw [creationCommand_eq, reportedLine, creationFields, reportedFields]
  simp only [joinChar_tab_cons, head, String.append_assoc]

/-- Values that no separator cuts and no quotation mark encloses. -/
structure Reportable (user : NewUser) : Prop where
  pin : Plain user.pin
  name : Plain user.cleanName
  password : Plain user.password
  pinUnquoted : stripMark '"' user.pin = user.pin
  nameUnquoted : stripMark '"' user.cleanName = user.cleanName

theorem Reportable.plain {user : NewUser} (reportable : Reportable user) :
    ∀ field ∈ reportedFields user, Plain field := by
  have heads : ∀ head ∈ ["PIN=", "Name=", "Pri=", "Passwd=", "Card=", "Grp=1"], Plain head := by
    decide
  simp only [List.forall_mem_cons] at heads
  obtain ⟨pin, name, privilege, password, card, group, _⟩ := heads
  simp only [reportedFields, List.forall_mem_cons, plain_append]
  exact ⟨⟨pin, reportable.pin⟩, ⟨name, reportable.name⟩, ⟨privilege, plain_int _⟩,
    ⟨password, reportable.password⟩, ⟨card, plain_int _⟩, group, by simp⟩

theorem Reportable.lineOfOne {user : NewUser} (reportable : Reportable user) {char : Char}
    (member : char ∈ (reportedLine user).toList) : char ≠ '\r' ∧ char ≠ '\n' := by
  rcases mem_joinChar member with rfl | ⟨field, listed, inside⟩
  · decide
  · exact (reportable.plain field listed char inside).2

theorem strip_reportedLine (user : NewUser) : strip (reportedLine user) = reportedLine user := by
  obtain ⟨middle, whole⟩ := joinChar_ends '\t' ("PIN=" ++ user.pin)
    ["Name=" ++ user.cleanName, "Pri=" ++ toString user.role, "Passwd=" ++ user.password,
      "Card=" ++ toString user.card] "Grp=1"
  have front : ("PIN=".toList.all fun char => isSpace char = false) = true := by decide
  have back : ("Grp=1".toList.all fun char => isSpace char = false) = true := by decide
  refine @strip_of_ends _ "PIN=".toList "Grp=1".toList (user.pin.toList ++ middle) ?_ (by decide)
    (by decide) (by simpa using front) (by simpa using back)
  refine whole.trans ?_
  rw [String.toList_append, List.append_assoc, List.append_assoc]

theorem strip_front {text : String} {first : Char} {rest : List Char}
    (begins : text.toList = first :: rest) (visible : isSpace first = false) :
    ∃ tail, (strip text).toList = first :: tail := by
  have kept : stripChars text.toList <+: first :: rest := by
    rw [begins, stripChars, dropWhile_isSpace_of_head visible]
    exact List.rdropWhile_prefix isSpace (first :: rest)
  rw [strip, String.toList_ofList]
  cases stripped : stripChars text.toList with
  | nil =>
      refine absurd ?_ (strip_ne_empty begins visible)
      rw [strip, stripped]
  | cons char tail =>
      rw [stripped] at kept
      exact ⟨tail, by rw [(List.cons_prefix_cons.mp kept).1]⟩

section

variable [UnicodeTables]

/-- How `lower` and `upper` treat the ASCII head of a line. -/
structure MapsHead : Prop where
  lower : ∀ text, lower ("PIN=" ++ text) = "pin=" ++ lower text
  upper : ∀ text, upper ("PIN=" ++ text) = "PIN=" ++ upper text

omit [UnicodeTables] in
theorem reportedLine_head (user : NewUser) : ∃ rest, reportedLine user = "PIN=" ++ rest := by
  rw [reportedLine, reportedFields, joinChar_tab_cons, String.append_assoc]
  exact ⟨_, rfl⟩

theorem header_reportedLine (heads : MapsHead) (user : NewUser) :
    isHeaderOrMetadataLine (reportedLine user) = false := by
  obtain ⟨rest, line⟩ := reportedLine_head user
  have begins : (lower (reportedLine user)).toList =
      'p' :: ("in=".toList ++ (lower rest).toList) := by
    rw [line, heads.lower, String.toList_append]
    rfl
  obtain ⟨tail, lowered⟩ := strip_front begins (by decide)
  have others : ∀ head ∈ headerPrefixes, head.toList.isPrefixOf ('p' :: tail) = false := by
    intro head listed
    simp only [headerPrefixes, List.mem_cons, List.not_mem_nil, or_false] at listed
    rcases listed with rfl | rfl | rfl | rfl | rfl | rfl | rfl | rfl | rfl | rfl | rfl | rfl
    all_goals rfl
  have something : strip (lower (reportedLine user)) ≠ "" := strip_ne_empty begins (by decide)
  rw [isHeaderOrMetadataLine, Bool.or_eq_false_iff, List.any_eq_false]
  refine ⟨by simpa using something, fun head listed => ?_⟩
  rw [startsWith, lowered]
  exact Bool.eq_false_iff.mp (others head listed)

theorem attlogLines_reportedBody (heads : MapsHead) {users : List NewUser}
    (reportable : ∀ user ∈ users, Reportable user) :
    attlogLines (reportedBody users) = users.map reportedLine := by
  cases users with
  | nil =>
      have nothing :
          (splitChar '\n' (replaceChar '\r' '\n' (reportedBody []))).map strip = [""] := by decide
      rw [attlogLines, nothing]
      rfl
  | cons first rest =>
      have apart : ∀ line ∈ (first :: rest).map reportedLine, '\n' ∉ line.toList := by
        intro line listed member
        obtain ⟨user, given, rfl⟩ := List.mem_map.mp listed
        exact ((reportable user given).lineOfOne member).2 rfl
      have noReturn : '\r' ∉ (reportedBody (first :: rest)).toList := by
        intro member
        rcases mem_joinChar member with same | ⟨line, listed, inside⟩
        · exact absurd same (by decide)
        · obtain ⟨user, given, rfl⟩ := List.mem_map.mp listed
          exact ((reportable user given).lineOfOne inside).1 rfl
      have stripped : ((first :: rest).map reportedLine).map strip =
          (first :: rest).map reportedLine := by
        rw [List.map_map]
        exact List.map_congr_left fun user _ => strip_reportedLine user
      rw [attlogLines, replaceChar_of_notMem noReturn, reportedBody,
        splitChar_joinChar apart (by simp), stripped, List.filter_eq_self]
      intro line listed
      obtain ⟨user, _, rfl⟩ := List.mem_map.mp listed
      obtain ⟨tail, line⟩ := reportedLine_head user
      have present : reportedLine user ≠ "" := by
        rw [line]
        intro empty
        exact absurd (congrArg String.toList empty) (by simp [String.toList_append])
      rw [header_reportedLine heads user]
      simpa using present

/-! ## What a line teaches -/

omit [UnicodeTables] in
theorem privilegeRole_role (user : NewUser) :
    stripMark '"' (strip (toString user.role)) = toString user.role ∧
      toString user.role ≠ "" ∧ privilegeRole (toString user.role) = roleLabel user.role := by
  rw [NewUser.role]
  split <;> decide

omit [UnicodeTables] in
theorem splitOnce_head {head key : String} (literal : head = key ++ "=")
    (absent : '=' ∉ key.toList) (value : String) :
    splitOnce '=' (head ++ value) = some (key, value) := by
  rw [literal, String.append_assoc, splitOnce_field absent]

theorem upper_of_ascii {key known : String} (stripped : strip key = key) (ascii : isAscii key)
    (mapped : asciiUpper key = known) : upper (strip key) = known := by
  rw [stripped, UnicodeTables.upper_ascii key ascii, mapped]

theorem userinfoValues_reportedLine {user : NewUser} (reportable : Reportable user) :
    ∃ password card, userinfoValues (reportedLine user) =
      [("PIN", user.pin), ("NAME", user.cleanName), ("PRI", toString user.role),
        ("PASSWD", password), ("CARD", card), ("GRP", "1")] := by
  have tabbed : contains (reportedLine user) "\t" = true := by
    refine @contains_of_mem '\t' _ ?_
    rw [reportedLine, reportedFields, toList_joinChar_cons]
    exact List.mem_append_right _ List.mem_cons_self
  have apart : ∀ field ∈ reportedFields user, '\t' ∉ field.toList :=
    fun field listed member => (reportable.plain field listed '\t' member).1 rfl
  have group : "Grp=1" = "Grp=" ++ "1" := by decide +kernel
  have one : stripMark '"' (strip "1") = "1" := by decide
  refine ⟨stripMark '"' (strip user.password), stripMark '"' (strip (toString user.card)), ?_⟩
  have pin : upper (strip "PIN") = "PIN" :=
    upper_of_ascii (by decide) (by simp [isAscii]) (by decide)
  have name : upper (strip "Name") = "NAME" :=
    upper_of_ascii (by decide) (by simp [isAscii]) (by decide)
  have privilege : upper (strip "Pri") = "PRI" :=
    upper_of_ascii (by decide) (by simp [isAscii]) (by decide)
  have password : upper (strip "Passwd") = "PASSWD" :=
    upper_of_ascii (by decide) (by simp [isAscii]) (by decide)
  have card : upper (strip "Card") = "CARD" :=
    upper_of_ascii (by decide) (by simp [isAscii]) (by decide)
  have grp : upper (strip "Grp") = "GRP" :=
    upper_of_ascii (by decide) (by simp [isAscii]) (by decide)
  have pinValue : stripMark '"' (strip user.pin) = user.pin := by
    rw [NewUser.pin, strip_strip]
    exact reportable.pinUnquoted
  have nameValue : stripMark '"' (strip user.cleanName) = user.cleanName := by
    rw [NewUser.cleanName, strip_strip]
    exact reportable.nameUnquoted
  rw [userinfoValues, if_pos tabbed, reportedLine,
    splitChar_joinChar apart (by simp [reportedFields]), reportedFields, group]
  simp only [List.foldl_cons, List.foldl_nil,
    @splitOnce_head "PIN=" "PIN" (by decide +kernel) (by decide),
    @splitOnce_head "Name=" "Name" (by decide +kernel) (by decide),
    @splitOnce_head "Pri=" "Pri" (by decide +kernel) (by decide),
    @splitOnce_head "Passwd=" "Passwd" (by decide +kernel) (by decide),
    @splitOnce_head "Card=" "Card" (by decide +kernel) (by decide),
    @splitOnce_head "Grp=" "Grp" (by decide +kernel) (by decide), pin, name, privilege, password,
    card, grp, pinValue, nameValue, (privilegeRole_role user).1, one]
  simp [Dict.set]

/-- The users of a body whose names are no placeholders, with the roles that they are shown. -/
def reportedEntry (user : NewUser) : Option (String × UserInfo) :=
  if user.pin = "" ∨ user.cleanName = "" ∨ startsWith user.cleanName "User " then none
  else some (user.pin, ⟨some user.cleanName, some (roleLabel user.role)⟩)

omit [UnicodeTables] in
theorem firstTruthy_present {text : String} (present : text ≠ "") (others : List (Option String))
    (default : String) : firstTruthy (some text :: others) default = text := by
  simp [firstTruthy, present]

theorem learnedUser_reportedLine (heads : MapsHead) {user : NewUser}
    (reportable : Reportable user) : learnedUser (reportedLine user) = reportedEntry user := by
  obtain ⟨password, card, values⟩ := userinfoValues_reportedLine reportable
  obtain ⟨_, privilege, role⟩ := privilegeRole_role user
  have keyed : contains (upper (reportedLine user)) "PIN=" = true := by
    obtain ⟨rest, line⟩ := reportedLine_head user
    rw [line, heads.upper, contains, String.toList_append, decide_eq_true_eq]
    exact (List.prefix_append _ _).isInfix
  have pin : firstTruthy [some user.pin, none] "" = user.pin := by
    by_cases empty : user.pin = ""
    · rw [empty]
      rfl
    · exact firstTruthy_present empty [none] ""
  have line : userinfoLine (reportedLine user) =
      (user.pin, user.cleanName, roleLabel user.role) := by
    have heldPin : (userinfoValues (reportedLine user)).get? "PIN" = some user.pin := by
      rw [values]
      rfl
    have noUserId : (userinfoValues (reportedLine user)).get? "USERID" = none := by
      rw [values]
      rfl
    have heldName : (userinfoValues (reportedLine user)).get? "NAME" = some user.cleanName := by
      rw [values]
      rfl
    have heldRole : firstTruthy [(userinfoValues (reportedLine user)).get? "PRI",
        (userinfoValues (reportedLine user)).get? "PRIVILEGE"] "0" = toString user.role := by
      have given : (userinfoValues (reportedLine user)).get? "PRI" = some (toString user.role) := by
        rw [values]
        rfl
      rw [given, firstTruthy_present privilege]
    rw [userinfoLine, keyed, Bool.true_or, if_pos rfl]
    dsimp only
    rw [heldPin, noUserId, pin, heldName, heldRole, role, Option.getD_some]
  rw [learnedUser, line, reportedEntry]

theorem learnedUsers_reportedBody (heads : MapsHead) {users : List NewUser}
    (reportable : ∀ user ∈ users, Reportable user) :
    learnedUsers (reportedBody users) = users.filterMap reportedEntry := by
  rw [learnedUsers, attlogLines_reportedBody heads reportable, List.filterMap_map]
  exact List.filterMap_congr fun user given =>
    learnedUser_reportedLine heads (reportable user given)

/-! ## What the service knows afterwards -/

omit [UnicodeTables] in
theorem reportedEntry_named {user : NewUser} {entry : String × UserInfo}
    (reported : reportedEntry user = some entry) : entry.2.isNamed = true := by
  rw [reportedEntry] at reported
  split at reported
  · cases reported
  · rename_i named
    obtain ⟨_, present, plain⟩ := not_or.mp named |>.imp_right not_or.mp
    cases reported
    simp [UserInfo.isNamed, present, plain]

omit [UnicodeTables] in
theorem lastInfo_reported_named {users : List NewUser} {pin : String} {info : UserInfo}
    (last : lastInfo (users.filterMap reportedEntry) pin = some info) : info.isNamed = true := by
  induction users using List.reverseRecOn with
  | nil => cases last
  | append_singleton users user ih =>
      rw [List.filterMap_append, List.filterMap_cons] at last
      cases reported : reportedEntry user with
      | none =>
          rw [reported, List.filterMap_nil, List.append_nil] at last
          exact ih last
      | some entry =>
          rw [reported, List.filterMap_nil, lastInfo_snoc] at last
          split at last
          · rw [← Option.some.inj last]
            exact reportedEntry_named reported
          · exact ih last

theorem deviceUserRow_reported {takes : DeviceUserRow → Bool} (taken : ∀ row, takes row = true)
    (sn : String) {user : NewUser} {entry : String × UserInfo}
    (reported : reportedEntry user = some entry) :
    strip entry.1 = entry.1 ∧
      (deviceUserRow takes sn entry.1 (entry.2.name.getD "") (entry.2.role.getD "")).map
        DeviceUserRow.info = some entry.2 := by
  have role : roleLabel user.role ≠ "" ∧ strip (roleLabel user.role) = roleLabel user.role := by
    rw [NewUser.role]
    split <;> decide
  rw [reportedEntry] at reported
  split at reported
  · cases reported
  · rename_i named
    cases reported
    have pin : strip user.pin = user.pin := strip_strip user.userId
    have name : strip user.cleanName = user.cleanName := strip_strip user.name
    refine ⟨pin, ?_⟩
    simp only [deviceUserRow, Option.getD_some, pin, name, if_neg named, if_neg role.1, role.2]
    rw [Option.filter_some, if_pos (taken _), Option.map_some, DeviceUserRow.info, Option.map_some,
      name, firstTruthy_present role.1]

theorem lastSaved_reported {takes : DeviceUserRow → Bool} (taken : ∀ row, takes row = true)
    (sn : String) (users : List NewUser) (pin : String) :
    (lastSaved takes sn (users.filterMap reportedEntry) pin).map DeviceUserRow.info =
      lastInfo (users.filterMap reportedEntry) pin := by
  induction users using List.reverseRecOn with
  | nil => rfl
  | append_singleton users user ih =>
      rw [List.filterMap_append, List.filterMap_cons]
      cases reported : reportedEntry user with
      | none =>
          rw [List.filterMap_nil, List.append_nil]
          exact ih
      | some entry =>
          obtain ⟨stripped, row⟩ := deviceUserRow_reported taken sn reported
          rw [List.filterMap_nil, lastSaved_snoc, lastInfo_snoc, stripped]
          by_cases own : entry.1 = pin
          · rw [if_pos own, if_pos own.symm, Option.map_or, row]
            rfl
          · rw [if_neg own, if_neg (Ne.symm own)]
            exact ih

/-- A list of users in the fields of their creations puts into every punch, every look-up and the
mirror the name and the role of the last of them with the PIN, and leaves other PINs as they
were. -/
theorem reported_users_shown (heads : MapsHead) {users : List NewUser}
    (reportable : ∀ user ∈ users, Reportable user) (takes : DeviceUserRow → Bool) (sn : String)
    (state : NamesState) :
    let after := parseUserinfo takes (reportedBody users) sn state
    let entries := users.filterMap reportedEntry
    (∀ user ∈ users, creationCommand user = "DATA UPDATE USERINFO " ++ reportedLine user) ∧
      after.dashboard.logs = state.dashboard.logs.map (renamedPunch entries) ∧
      (∀ lms userId, (getUserInfo lms after.dashboard.cache userId).1 =
        (lastInfo entries (strip userId)).getD
          (getUserInfo lms state.dashboard.cache userId).1) ∧
      ((∀ row, takes row = true) → ∀ pin, queryDeviceUsers after.users pin =
        (lastInfo entries pin).or (queryDeviceUsers state.users pin)) := by
  have learned : Taught takes sn (users.filterMap reportedEntry) state
      (parseUserinfo takes (reportedBody users) sn state) := by
    rw [parseUserinfo, learnedUsers_reportedBody heads reportable]
    exact taught takes sn _ state
  generalize parseUserinfo takes (reportedBody users) sn state = after at learned
  refine ⟨fun user _ => creationCommand_reported user, learned.logs, fun lms userId => ?_,
    fun taken pin => ?_⟩
  · rw [getUserInfo_fst, getUserInfo_fst, settledEntry, learned.cache]
    cases last : lastInfo (users.filterMap reportedEntry) (strip userId) with
    | none => rw [Option.none_or, settledEntry, Option.getD_none]
    | some info =>
        rw [Option.some_or, Option.any_some, lastInfo_reported_named last, if_pos rfl]
        rfl
  · rw [learned.users, lastSaved_reported taken]

end

def ashaCreated : NewUser := ⟨" 5 ", "Asha K=R", 14, "", 0⟩

theorem reported_users_shown_asha :
    (@getUserInfo (fun _ => none)
      (@parseUserinfo .ascii (fun _ => true) (reportedBody [ashaCreated]) "ZK1"
        ⟨⟨[], none, []⟩, []⟩).dashboard.cache "5").1 =
      ⟨some "Asha K=R", some "Super Admin"⟩ := by
  let := UnicodeTables.ascii
  have heads : @MapsHead .ascii := by
    constructor
    · intro text
      exact String.toList_injective
        (by simp [UnicodeTables.lower, asciiLower, String.toList_append])
    · intro text
      exact String.toList_injective
        (by simp [UnicodeTables.upper, asciiUpper, String.toList_append])
  have reportable : ∀ user ∈ [ashaCreated], Reportable user := by
    intro user given
    rw [List.mem_singleton.mp given]
    constructor <;> decide
  have shown := @reported_users_shown .ascii heads _ reportable (fun _ => true) "ZK1"
    ⟨⟨[], none, []⟩, []⟩
  exact (shown.2.2.1 (fun _ => none) "5").trans (by decide)

end PumoBioMetric.Sync
