import PumoBioMetric.Py.DateTime
import PumoBioMetric.Py.Text

/-!
# `datetime.strptime` for numeric formats

`strptime` turns a format into a regular expression and matches it at the start
of the text, so each directive is a list of alternatives tried in order, and the
first match of the whole format counts even when it leaves text over; left-over
text is then an error.
-/

set_option autoImplicit false

namespace PumoBioMetric.Py

inductive Directive where
  | year
  | month
  | day
  | hour
  | minute
  | second
  | space
  | literal (char : Char)
  deriving DecidableEq

structure Fields where
  year : Nat := 1900
  month : Nat := 1
  day : Nat := 1
  hour : Nat := 0
  minute : Nat := 0
  second : Nat := 0
  deriving DecidableEq

def Fields.set (fields : Fields) (value : Nat) : Directive → Fields
  | .year => { fields with year := value }
  | .month => { fields with month := value }
  | .day => { fields with day := value }
  | .hour => { fields with hour := value }
  | .minute => { fields with minute := value }
  | .second => { fields with second := value }
  | .space => fields
  | .literal _ => fields

def anyDigit (char : Char) : Bool := (digitValue char).isSome

def between (low high char : Char) : Bool := low ≤ char && char ≤ high

/-- The alternatives of a numeric directive, as `_strptime` writes them. -/
def Directive.alternatives : Directive → List (List (Char → Bool))
  | .year => [[anyDigit, anyDigit, anyDigit, anyDigit]]
  | .month => [[(· == '1'), between '0' '2'], [(· == '0'), between '1' '9'],
      [between '1' '9']]
  | .day => [[(· == '3'), between '0' '1'], [between '1' '2', anyDigit],
      [(· == '0'), between '1' '9'], [between '1' '9'], [(· == ' '), between '1' '9']]
  | .hour => [[(· == '2'), between '0' '3'], [between '0' '1', anyDigit], [anyDigit]]
  | .minute => [[between '0' '5', anyDigit], [anyDigit]]
  | .second => [[(· == '6'), between '0' '1'], [between '0' '5', anyDigit], [anyDigit]]
  | .space => []
  | .literal char => [[(· == char)]]

def matchClasses : List (Char → Bool) → List Char → Option (List Char × List Char)
  | [], text => some ([], text)
  | _ :: _, [] => none
  | accepts :: classes, char :: text =>
      if accepts char then
        (matchClasses classes text).map fun found => (char :: found.1, found.2)
      else none

def numberOf (chars : List Char) : Nat :=
  chars.foldl (fun total char => 10 * total + (digitValue char).getD 0) 0

/-- `\s+`: the longest run of white space first, then shorter ones. -/
def spaceMatches (text : List Char) : List (List Char) :=
  let run := (text.takeWhile isSpace).length
  (List.range run).reverse.map fun shorter => text.drop (shorter + 1)

def Directive.matches (directive : Directive) (text : List Char) :
    List (Nat × List Char) :=
  match directive with
  | .space => (spaceMatches text).map fun rest => (0, rest)
  | directive =>
      directive.alternatives.filterMap fun classes =>
        (matchClasses classes text).map fun found => (numberOf found.1, found.2)

/-- Every way the expression can match a prefix, in the order `re` tries them. -/
def formatMatches : List Directive → List Char → Fields → List (Fields × List Char)
  | [], text, fields => [(fields, text)]
  | directive :: format, text, fields =>
      (directive.matches text).flatMap fun found =>
        formatMatches format found.2 (fields.set found.1 directive)

/-- `datetime.strptime(text, format)`; `none` is `ValueError`. -/
def strptime (text : String) (format : List Directive) : Option Naive :=
  match (formatMatches format text.toList {}).head? with
  | some (fields, []) =>
      Naive.new? fields.year fields.month fields.day fields.hour fields.minute
        fields.second 0
  | _ => none

end PumoBioMetric.Py
