import PumoBioMetric.Py.DateTime
import PumoBioMetric.Py.Text

/-!
# `datetime.fromisoformat`

What it reads is a parameter: a function from text to a naive or an aware date-time,
`none` where it raises `ValueError`.  For evaluation there is the extended calendar
format with whole seconds and an optional offset in hours and minutes.
-/

set_option autoImplicit false

namespace PumoBioMetric.Py

class IsoFormat where
  fromisoformat : String → Option Stamp

export IsoFormat (fromisoformat)

def asciiNumber (digits : List Char) : Option Nat :=
  digits.foldl
    (fun total char => if char.isDigit then total.map fun value => value * 10 + (char.toNat - 48)
      else none)
    (some 0)

/-- `+HH:MM` or `-HH:MM` in microseconds. -/
def isoOffset : List Char → Option Int
  | [sign, h1, h2, ':', m1, m2] =>
      (asciiNumber [h1, h2]).bind fun hours =>
        (asciiNumber [m1, m2]).bind fun minutes =>
          let size : Int := ((hours * 60 + minutes) * 60 * 1000000 : Nat)
          if sign = '+' then some size else if sign = '-' then some (-size) else none
  | _ => none

/-- `YYYY-MM-DD`, any separator, `HH:MM:SS` and an optional offset. -/
def readExtended (text : String) : Option Stamp :=
  match text.toList with
  | y1 :: y2 :: y3 :: y4 :: '-' :: mo1 :: mo2 :: '-' :: d1 :: d2 :: _ ::
      h1 :: h2 :: ':' :: mi1 :: mi2 :: ':' :: s1 :: s2 :: offset =>
      (asciiNumber [y1, y2, y3, y4]).bind fun year =>
        (asciiNumber [mo1, mo2]).bind fun month =>
          (asciiNumber [d1, d2]).bind fun day =>
            (asciiNumber [h1, h2]).bind fun hour =>
              (asciiNumber [mi1, mi2]).bind fun minute =>
                (asciiNumber [s1, s2]).bind fun second =>
                  (Naive.new? year month day hour minute second 0).bind fun time =>
                    if offset.isEmpty then some (.naive time)
                    else (isoOffset offset).map fun micros => .aware time micros
  | _ => none

@[reducible] def IsoFormat.extended : IsoFormat where
  fromisoformat := readExtended

end PumoBioMetric.Py
