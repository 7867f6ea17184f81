import Mathlib.Data.List.Nodup
import PumoBioMetric.Py.Dict
import PumoBioMetric.Py.Text

/-!
# The `json` module

`dumps` escapes everything that is not printable ASCII, so its text has no line
break of its own; a layout says what stands after brackets and commas.  `loads`
is the scanner of the standard library over a list of code points.  A float is
kept as its literal.
-/

set_option autoImplicit false

namespace PumoBioMetric.Py

inductive Json where
  | null
  | bool (value : Bool)
  | int (value : Int)
  | real (literal : String)
  | str (text : String)
  | arr (items : List Json)
  | obj (members : List (String × Json))

/-! ## Writing -/

def hexDigit (value : Nat) : Char :=
  Char.ofNat (if value < 10 then 48 + value else 87 + value)

/-- `\uXXXX` for one UTF-16 code unit. -/
def unitEscape (unit : Nat) : List Char :=
  ['\\', 'u', hexDigit (unit / 4096 % 16), hexDigit (unit / 256 % 16),
    hexDigit (unit / 16 % 16), hexDigit (unit % 16)]

def shortEscapes : List (Char × Char) :=
  [('"', '"'), ('\\', '\\'), ('\n', 'n'), ('\r', 'r'), ('\t', 't'),
    (Char.ofNat 12, 'f'), (Char.ofNat 8, 'b')]

def escapeChar (char : Char) : List Char :=
  match shortEscapes.lookup char with
  | some letter => ['\\', letter]
  | none =>
      if 0x20 ≤ char.toNat ∧ char.toNat ≤ 0x7e then [char]
      else if char.toNat < 0x10000 then unitEscape char.toNat
      else
        let beyond := char.toNat - 0x10000
        unitEscape (0xd800 + beyond / 1024) ++ unitEscape (0xdc00 + beyond % 1024)

def quote (text : List Char) : List Char := '"' :: text.flatMap escapeChar ++ ['"']

def jsonBlank (char : Char) : Bool :=
  char == ' ' || char == '\t' || char == '\n' || char == '\r'

/-- What stands after an opening and before a closing bracket, and after a comma, at
each depth. -/
structure Layout where
  lineBreak : Nat → List Char
  afterComma : Nat → List Char
  blankBreak : ∀ depth, ∀ char ∈ lineBreak depth, jsonBlank char = true
  blankComma : ∀ depth, ∀ char ∈ afterComma depth, jsonBlank char = true

/-- The default of `dumps`. -/
def Layout.compact : Layout where
  lineBreak _ := []
  afterComma _ := [' ']
  blankBreak := by simp
  blankComma := by simp [jsonBlank]

/-- `indent=width`. -/
def Layout.indented (width : Nat) : Layout where
  lineBreak depth := '\n' :: List.replicate (width * depth) ' '
  afterComma depth := '\n' :: List.replicate (width * depth) ' '
  blankBreak := by simp +contextual [jsonBlank, List.mem_replicate]
  blankComma := by simp +contextual [jsonBlank, List.mem_replicate]

section

variable (layout : Layout)

mutual

def Json.write (depth : Nat) : Json → List Char
  | .null => "null".toList
  | .bool true => "true".toList
  | .bool false => "false".toList
  | .int value => (toString value).toList
  | .real literal => literal.toList
  | .str text => quote text.toList
  | .arr [] => ['[', ']']
  | .arr (item :: items) =>
      '[' :: (layout.lineBreak (depth + 1) ++ (item.write (depth + 1) ++
        (Json.writeItems (depth + 1) items ++ (layout.lineBreak depth ++ [']']))))
  | .obj [] => ['{', '}']
  | .obj ((key, value) :: members) =>
      '{' :: (layout.lineBreak (depth + 1) ++ (quote key.toList ++ (':' :: ' ' ::
        (value.write (depth + 1) ++
          (Json.writeMembers (depth + 1) members ++ (layout.lineBreak depth ++ ['}']))))))

def Json.writeItems (depth : Nat) : List Json → List Char
  | [] => []
  | item :: items =>
      ',' :: (layout.afterComma depth ++ (item.write depth ++ Json.writeItems depth items))

def Json.writeMembers (depth : Nat) : List (String × Json) → List Char
  | [] => []
  | (key, value) :: members =>
      ',' :: (layout.afterComma depth ++ (quote key.toList ++ (':' :: ' ' ::
        (value.write depth ++ Json.writeMembers depth members))))

end

end

def dumps (value : Json) : List Char := value.write .compact 0

/-! ## Reading -/

def skipBlank (text : List Char) : List Char := text.dropWhile jsonBlank

def expect (char : Char) : List Char → Option (List Char)
  | [] => none
  | next :: rest => if next = char then some rest else none

def expectWord : List Char → List Char → Option (List Char)
  | [], text => some text
  | char :: word, text => (expect char text).bind (expectWord word)

def hexValue (char : Char) : Option Nat :=
  if '0' ≤ char ∧ char ≤ '9' then some (char.toNat - 48)
  else if 'a' ≤ char ∧ char ≤ 'f' then some (char.toNat - 87)
  else if 'A' ≤ char ∧ char ≤ 'F' then some (char.toNat - 55)
  else none

def hexUnit : List Char → Option (Nat × List Char)
  | first :: second :: third :: fourth :: rest =>
      (hexValue first).bind fun a => (hexValue second).bind fun b =>
        (hexValue third).bind fun c => (hexValue fourth).map fun d =>
          (((a * 16 + b) * 16 + c) * 16 + d, rest)
  | _ => none

def lowSurrogate (text : List Char) : Option (Nat × List Char) :=
  (expectWord ['\\', 'u'] text).bind fun more => (hexUnit more).bind fun (low, rest) =>
    if 0xdc00 ≤ low ∧ low < 0xe000 then some (low, rest) else none

/-- What follows `\u`.  Python keeps a surrogate without its partner; it is no character,
and U+FFFD stands for it here. -/
def unicodeEscape (text : List Char) : Option (Char × List Char) :=
  (hexUnit text).map fun (unit, rest) =>
    if 0xd800 ≤ unit ∧ unit < 0xdc00 then
      match lowSurrogate rest with
      | some (low, rest) =>
          (Char.ofNat (0x10000 + (unit - 0xd800) * 1024 + (low - 0xdc00)), rest)
      | none => (Char.ofNat 0xfffd, rest)
    else if 0xdc00 ≤ unit ∧ unit < 0xe000 then (Char.ofNat 0xfffd, rest)
    else (Char.ofNat unit, rest)

def unescape : List Char → Option (Char × List Char)
  | [] => none
  | letter :: rest =>
      if letter = 'u' then unicodeEscape rest
      else if letter = '/' then some ('/', rest)
      else (shortEscapes.find? fun pair => pair.2 = letter).map fun pair => (pair.1, rest)

/-- The rest of a string after its opening quote. -/
def scanString : Nat → List Char → Option (List Char × List Char)
  | 0, _ => none
  | _ + 1, [] => none
  | fuel + 1, char :: rest =>
      if char = '"' then some ([], rest)
      else if char = '\\' then
        (unescape rest).bind fun (decoded, rest) =>
          (scanString fuel rest).map fun (more, rest) => (decoded :: more, rest)
      else if char.toNat < 0x20 then none
      else (scanString fuel rest).map fun (more, rest) => (char :: more, rest)

def numberChar (char : Char) : Bool :=
  char.isDigit || char == '.' || char == 'e' || char == 'E' || char == '+' || char == '-'

/-- `0|[1-9]\d*` -/
def isWhole : List Char → Bool
  | [] => false
  | first :: rest => if first = '0' then rest.isEmpty else (first :: rest).all Char.isDigit

def isDigits (chars : List Char) : Bool := !chars.isEmpty && chars.all Char.isDigit

/-- `([eE][-+]?\d+)?` -/
def isExponent : List Char → Bool
  | [] => true
  | [_] => false
  | mark :: sign :: rest =>
      (mark == 'e' || mark == 'E') &&
        (if sign = '+' ∨ sign = '-' then isDigits rest else isDigits (sign :: rest))

/-- `(\.\d+)?([eE][-+]?\d+)?` -/
def isFraction : List Char → Bool
  | [] => false
  | first :: rest =>
      if first = '.' then
        isDigits (rest.takeWhile Char.isDigit) && isExponent (rest.dropWhile Char.isDigit)
      else isExponent (first :: rest)

def unsigned : List Char → List Char
  | [] => []
  | first :: rest => if first = '-' then rest else first :: rest

def isRealLiteral (token : List Char) : Bool :=
  isWhole ((unsigned token).takeWhile Char.isDigit) &&
    isFraction ((unsigned token).dropWhile Char.isDigit)

def number? (token : List Char) : Option Json :=
  if isWhole (unsigned token) then (int? (String.ofList token)).map Json.int
  else if isRealLiteral token then some (.real (String.ofList token))
  else none

/-- A number.  The scanner of Python may stop earlier; then what comes next is no
delimiter and the text is an error all the same. -/
def parseNumber (text : List Char) : Option (Json × List Char) :=
  (number? (text.takeWhile numberChar)).map fun value => (value, text.dropWhile numberChar)

def parseScalar (text : List Char) : Option (Json × List Char) :=
  let word (word : String) (value : Json) :=
    (expectWord word.toList text).map fun rest => (value, rest)
  match text with
  | 'n' :: _ => word "null" .null
  | 't' :: _ => word "true" (.bool true)
  | 'f' :: _ => word "false" (.bool false)
  | 'N' :: _ => word "NaN" (.real "NaN")
  | 'I' :: _ => word "Infinity" (.real "Infinity")
  | '-' :: 'I' :: _ => word "-Infinity" (.real "-Infinity")
  | _ => parseNumber text

def afterItem (close : Char) (text : List Char) : Option (Bool × List Char) :=
  match skipBlank text with
  | [] => none
  | char :: rest =>
      if char = close then some (true, rest)
      else if char = ',' then some (false, skipBlank rest)
      else none

/-- A `dict` of pairs in the order they are read. -/
def toDict (pairs : List (String × Json)) : Dict Json :=
  pairs.foldl (fun dict pair => dict.set pair.1 pair.2) []

mutual

def parseValue : Nat → List Char → Option (Json × List Char)
  | 0, _ => none
  | _ + 1, [] => none
  | fuel + 1, char :: rest =>
      if char = '"' then
        (scanString fuel rest).map fun (text, rest) => (.str (String.ofList text), rest)
      else if char = '[' then
        match expect ']' (skipBlank rest) with
        | some rest => some (.arr [], rest)
        | none => (parseItems fuel (skipBlank rest)).map fun (items, rest) => (.arr items, rest)
      else if char = '{' then
        match expect '}' (skipBlank rest) with
        | some rest => some (.obj [], rest)
        | none =>
            (parseMembers fuel (skipBlank rest)).map fun (members, rest) =>
              (.obj (toDict members), rest)
      else parseScalar (char :: rest)

def parseItems : Nat → List Char → Option (List Json × List Char)
  | 0, _ => none
  | fuel + 1, text =>
      (parseValue fuel text).bind fun (item, rest) =>
        (afterItem ']' rest).bind fun (closed, rest) =>
          if closed then some ([item], rest)
          else (parseItems fuel rest).map fun (items, rest) => (item :: items, rest)

def parseMembers : Nat → List Char → Option (List (String × Json) × List Char)
  | 0, _ => none
  | fuel + 1, text =>
      (expect '"' text).bind fun rest => (scanString fuel rest).bind fun (key, rest) =>
        (expect ':' (skipBlank rest)).bind fun rest =>
          (parseValue fuel (skipBlank rest)).bind fun (value, rest) =>
            (afterItem '}' rest).bind fun (closed, rest) =>
              if closed then some ([(String.ofList key, value)], rest)
              else (parseMembers fuel rest).map fun (members, rest) =>
                ((String.ofList key, value) :: members, rest)

end

/-- `json.loads(text)`; `none` is `JSONDecodeError`. -/
def loads (text : List Char) : Option Json :=
  (parseValue (text.length + 1) (skipBlank text)).bind fun (value, rest) =>
    if skipBlank rest = [] then some value else none

/-- `value.get(key)` of a `dict`. -/
def Json.get? (key : String) : Json → Option Json
  | .obj members => members.lookup key
  | .null | .bool _ | .int _ | .real _ | .str _ | .arr _ => none

end PumoBioMetric.Py
