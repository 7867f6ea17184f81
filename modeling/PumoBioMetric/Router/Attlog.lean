import PumoBioMetric.Py.Split
import PumoBioMetric.Router.PunchRecord
import PumoBioMetric.Router.UserCache

/-!
# `parse_attlog`

Every line of the body that is neither blank nor a header gives one row, by the first of
five layouts that fits.  A row becomes a record with the name that `get_user_info` has
for its PIN at that moment.
-/

set_option autoImplicit false

namespace PumoBioMetric.Router

open Py

/-- The fields that a line alone decides. -/
structure AttRow where
  userId : String
  timestamp : String
  status : String
  verifyType : String
  workCode : String
  raw : String
deriving DecidableEq, Repr

section

variable [UnicodeTables]

/-! ## Lines -/

def headerPrefixes : List String :=
  ["table=", "stamp=", "opstamp=", "count=", "oplog", "operlog", "attlog", "rtlog", "cdata", "#",
    "[", "table "]

def isHeaderOrMetadataLine (line : String) : Bool :=
  let lLower := strip (lower line)
  lLower == "" || headerPrefixes.any fun head => startsWith lLower head

def attlogLines (bodyStr : String) : List String :=
  ((splitChar '\n' (replaceChar '\r' '\n' bodyStr)).map strip).filter fun line =>
    line != "" && !isHeaderOrMetadataLine line

/-! ## The five layouts -/

/-- `kv_dict`. -/
def keyValues (line : String) : Dict String :=
  (words (replaceChar '\t' ' ' line)).foldl
    (fun kvDict item =>
      match splitOnce '=' item with
      | some (k, v) => kvDict.set (upper (strip k)) (strip v)
      | none => kvDict)
    []

/-- 1. Key-value fields with a PIN and a time. -/
def keyValueRow (line : String) : Option AttRow :=
  if contains (upper line) "PIN=" || contains (upper line) "TIME=" then
    let kvDict := keyValues line
    let pin := firstTruthy [kvDict.get? "PIN", kvDict.get? "USERID", kvDict.get? "ID"] ""
    let tsStr := firstTruthy
      [kvDict.get? "TIME", kvDict.get? "TIMESTAMP", kvDict.get? "DATETIME"] ""
    if pin != "" && tsStr != "" then
      some {
        userId := pin
        timestamp := tsStr
        status := (kvDict.get? "STATUS").getD "0"
        verifyType := (kvDict.get? "VERIFY").getD ((kvDict.get? "VERIFYTYPE").getD "1")
        workCode := (kvDict.get? "WORKCODE").getD "0"
        raw := line }
    else none
  else none

/-- `p.strip() for p in line.split("\t") if p.strip() or p == ""`. -/
def tabParts (line : String) : List String :=
  ((splitChar '\t' line).filter fun p => strip p != "" || p == "").map strip

/-- A column, or its default where it is empty or absent. -/
def columnOr (parts : List String) (index : Nat) (default : String) : String :=
  match parts[index]? with
  | some value => if value = "" then default else value
  | none => default

/-- 2. Tab-separated columns; a date without `-` and `:` is joined with the next column. -/
def tabRow (line : String) : Option AttRow :=
  match tabParts line with
  | pin :: second :: rest =>
      if pin = "" then none
      else
        let tsCandidate :=
          match rest with
          | third :: _ =>
              if !contains second "-" && !contains second ":" && contains third "-" then
                second ++ " " ++ third
              else second
          | [] => second
        some {
          userId := pin
          timestamp := tsCandidate
          status := columnOr (tabParts line) 2 "0"
          verifyType := columnOr (tabParts line) 3 "1"
          workCode := columnOr (tabParts line) 4 "0"
          raw := line }
  | _ => none

/-- 3. Space-separated columns with a date and a time. -/
def spaceRow (line : String) : Option AttRow :=
  match words line with
  | pin :: date :: time :: rest =>
      if (contains date "-" || contains date "/") && contains time ":" then
        some {
          userId := pin
          timestamp := date ++ " " ++ time
          status := rest[0]?.getD "0"
          verifyType := rest[1]?.getD "1"
          workCode := rest[2]?.getD "0"
          raw := line }
      else none
  | _ => none

/-- 4. Comma-separated columns with a date or a time. -/
def commaRow (line : String) : Option AttRow :=
  match ((splitChar ',' line).map strip).filter fun p => p != "" with
  | pin :: when :: rest =>
      if contains when "-" || contains when "/" || contains when ":" then
        some {
          userId := pin
          timestamp := when
          status := rest[0]?.getD "0"
          verifyType := rest[1]?.getD "1"
          workCode := rest[2]?.getD "0"
          raw := line }
      else none
  | _ => none

/-- 5. Anything else, at the time of its arrival. -/
def fallbackRow (nowText line : String) : AttRow where
  userId := (tabParts line).head?.getD "DEVICE_USER"
  timestamp := nowText
  status := "0"
  verifyType := "1"
  workCode := "0"
  raw := line

def parseLine (nowText line : String) : AttRow :=
  ((((keyValueRow line).or (tabRow line)).or (spaceRow line)).or (commaRow line)).getD
    (fallbackRow nowText line)

/-- The rows of a body, given the text of the current time at each of them. -/
def attlogRows (nowText : Nat → String) (bodyStr : String) : List AttRow :=
  (attlogLines bodyStr).zipIdx.map fun (line, index) => parseLine (nowText index) line

end

/-! ## Records -/

/-- What the clock and the random generator give for one row. -/
structure Arrival where
  id : String
  receivedAt : String
  nowText : String
deriving DecidableEq, Repr

def recordOf (sn : String) (info : UserInfo) (arrival : Arrival) (row : AttRow) :
    PunchRecord where
  id := arrival.id
  sn := if sn = "" then "UNKNOWN" else sn
  userId := row.userId
  userName := info.nameFor row.userId
  userRole := info.roleOrNormal
  timestamp := row.timestamp
  status := row.status
  verifyType := row.verifyType
  workCode := row.workCode
  raw := row.raw
  receivedAt := arrival.receivedAt

def recordRows (lms : LmsNames) (sn : String) (arrivals : Nat → Arrival) :
    Nat → UserCache → List AttRow → List PunchRecord × UserCache
  | _, cache, [] => ([], cache)
  | index, cache, row :: rest =>
      let (info, found) := getUserInfo lms cache row.userId
      let (records, final) := recordRows lms sn arrivals (index + 1) found rest
      (recordOf sn info (arrivals index) row :: records, final)

/-- `parse_attlog` and the cache after it. -/
def parseAttlog [UnicodeTables] (lms : LmsNames) (arrivals : Nat → Arrival) (cache : UserCache)
    (bodyStr sn : String) : List PunchRecord × UserCache :=
  recordRows lms sn arrivals 0 cache
    (attlogRows (fun index => (arrivals index).nowText) bodyStr)

theorem recordRows_timestamps (lms : LmsNames) (sn : String) (arrivals : Nat → Arrival)
    (index : Nat) (cache : UserCache) (rows : List AttRow) :
    (recordRows lms sn arrivals index cache rows).1.map PunchRecord.timestamp =
      rows.map AttRow.timestamp := by
  induction rows generalizing index cache with
  | nil => rfl
  | cons row rest ih => simp [recordRows, recordOf, ih]

theorem parseAttlog_timestamps [UnicodeTables] (lms : LmsNames) (arrivals : Nat → Arrival)
    (cache : UserCache) (bodyStr sn : String) :
    (parseAttlog lms arrivals cache bodyStr sn).1.map PunchRecord.timestamp =
      (attlogRows (fun index => (arrivals index).nowText) bodyStr).map AttRow.timestamp :=
  recordRows_timestamps lms sn arrivals 0 cache _

theorem recordRows_getElem? (lms : LmsNames) (sn : String) (arrivals : Nat → Arrival)
    (index : Nat) (cache : UserCache) (rows : List AttRow) (position : Nat) :
    ∃ info, (recordRows lms sn arrivals index cache rows).1[position]? =
      rows[position]?.map (recordOf sn info (arrivals (index + position))) := by
  induction rows generalizing index cache position with
  | nil => exact ⟨⟨none, none⟩, by simp [recordRows]⟩
  | cons row rest ih =>
      cases position with
      | zero => exact ⟨(getUserInfo lms cache row.userId).1, by simp [recordRows]⟩
      | succ position =>
          obtain ⟨info, later⟩ := ih (index + 1) (getUserInfo lms cache row.userId).2 position
          refine ⟨info, ?_⟩
          simp only [recordRows, List.getElem?_cons_succ, later]
          congr 3
          omega

theorem parseAttlog_getElem? [UnicodeTables] (lms : LmsNames) (arrivals : Nat → Arrival)
    (cache : UserCache) (bodyStr sn : String) (position : Nat) :
    ∃ info, (parseAttlog lms arrivals cache bodyStr sn).1[position]? =
      (attlogLines bodyStr)[position]?.map fun line =>
        recordOf sn info (arrivals position) (parseLine (arrivals position).nowText line) := by
  obtain ⟨info, same⟩ := recordRows_getElem? lms sn arrivals 0 cache
    (attlogRows (fun index => (arrivals index).nowText) bodyStr) position
  refine ⟨info, ?_⟩
  rw [parseAttlog, same]
  simp [attlogRows, Function.comp_def]

theorem parseAttlog_sn [UnicodeTables] (lms : LmsNames) (arrivals : Nat → Arrival)
    (cache : UserCache) (bodyStr sn : String) :
    ∀ record ∈ (parseAttlog lms arrivals cache bodyStr sn).1,
      record.sn = if sn = "" then "UNKNOWN" else sn := by
  intro record listed
  obtain ⟨position, found⟩ := List.mem_iff_getElem?.mp listed
  obtain ⟨info, same⟩ := parseAttlog_getElem? lms arrivals cache bodyStr sn position
  obtain ⟨line, _, rfl⟩ := Option.map_eq_some_iff.mp (same.symm.trans found)
  rfl

end PumoBioMetric.Router
