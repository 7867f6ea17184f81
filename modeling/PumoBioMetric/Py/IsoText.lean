import PumoBioMetric.Py.IsoFormat
import PumoBioMetric.Py.Strftime

/-!
# `datetime.fromisoformat` on what `strftime` wrote

A date and a time of day without an offset are read as they were written.
-/

set_option autoImplicit false

namespace PumoBioMetric.Py

/-- `fromisoformat` reads a written whole second as the naive date-time it is. -/
def ReadsWritten [IsoFormat] : Prop :=
  ∀ time : Naive, time.microsecond = 0 →
    fromisoformat (strftime time standardFormat) = some (.naive time)

/-! ## The extended format -/

theorem digitChar_toNat : ∀ digit < 10, digit.digitChar.toNat - 48 = digit := by decide

theorem asciiNumber_twoDigits {value : Nat} (small : value < 100) :
    asciiNumber (twoDigits value) = some value := by
  have digit : ∀ number, number % 10 < 10 := fun number => Nat.mod_lt _ (by decide)
  simp only [asciiNumber, twoDigits, List.foldl_cons, List.foldl_nil,
    digitChar_isDigit _ (digit _), digitChar_toNat _ (digit _), if_true, Option.map_some]
  congr 1
  omega

theorem asciiNumber_fourDigits {value : Nat} (small : value < 10000) :
    asciiNumber (fourDigits value) = some value := by
  have digit : ∀ number, number % 10 < 10 := fun number => Nat.mod_lt _ (by decide)
  simp only [asciiNumber, fourDigits, twoDigits, List.cons_append, List.nil_append,
    List.foldl_cons, List.foldl_nil, digitChar_isDigit _ (digit _), digitChar_toNat _ (digit _),
    if_true, Option.map_some]
  congr 1
  omega

theorem readsWritten_extended : @ReadsWritten IsoFormat.extended := by
  intro time whole
  change readExtended (strftime time standardFormat) = _
  have text : (strftime time standardFormat).toList =
      fourDigits time.year ++ '-' :: twoDigits time.month ++ '-' :: twoDigits time.day ++
        ' ' :: twoDigits time.hour ++ ':' :: twoDigits time.minute ++
        ':' :: twoDigits time.second := by
    simp [strftime, standardFormat, Naive.written]
  obtain ⟨⟨_, year⟩, ⟨_, month⟩, _, hour, minute, second, _⟩ := time.valid
  have day := time.day_le
  have read := time.valid
  rw [whole] at read
  have numbers := And.intro
    (asciiNumber_fourDigits (show time.year < 10000 by omega))
    (And.intro (asciiNumber_twoDigits (show time.month < 100 by omega))
      (And.intro (asciiNumber_twoDigits (show time.day < 100 by omega))
        (And.intro (asciiNumber_twoDigits (show time.hour < 100 by omega))
          (And.intro (asciiNumber_twoDigits (show time.minute < 100 by omega))
            (asciiNumber_twoDigits (show time.second < 100 by omega))))))
  simp only [fourDigits, twoDigits, List.cons_append, List.nil_append] at text numbers
  rw [readExtended, text]
  simp only [numbers, Option.bind_some, Naive.new?, read, dif_pos, List.isEmpty_nil, if_true]
  obtain ⟨year, month, day, hour, minute, second, microsecond, _⟩ := time
  cases whole
  rfl

end PumoBioMetric.Py
