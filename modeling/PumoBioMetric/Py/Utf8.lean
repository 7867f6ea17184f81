import Mathlib.Data.List.Basic

/-!
# UTF-8

Decoding with `errors="strict"`.  Bytes below 128 stand for themselves and occur nowhere
else, so a text may be split at such characters before or after it is decoded.
-/

set_option autoImplicit false

namespace PumoBioMetric.Py

def encodeUtf8 (text : List Char) : List UInt8 := text.flatMap String.utf8EncodeChar

/-- `none` is `UnicodeDecodeError`. -/
def decodeUtf8 (bytes : List UInt8) : Option (List Char) :=
  bytes.toByteArray.utf8Decode?.map Array.toList

@[simp] theorem decodeUtf8_encodeUtf8 (text : List Char) :
    decodeUtf8 (encodeUtf8 text) = some text := by
  have decoded : text.utf8Encode.utf8Decode? = some text.toArray := List.utf8Decode?_utf8Encode
  unfold decodeUtf8 encodeUtf8
  unfold List.utf8Encode at decoded
  rw [decoded]
  rfl

theorem decodeUtf8_eq_some_iff {bytes : List UInt8} {text : List Char} :
    decodeUtf8 bytes = some text ↔ bytes = encodeUtf8 text := by
  constructor
  · intro decoded
    obtain ⟨chars, read, same⟩ := Option.map_eq_some_iff.mp decoded
    have valid : bytes.toByteArray.IsValidUTF8 := by
      rw [← ByteArray.isSome_utf8Decode?_iff, read]
      rfl
    obtain ⟨original, written⟩ := valid
    have encoded : bytes = encodeUtf8 original := List.toByteArray_inj.mp written
    have again := decodeUtf8_encodeUtf8 original
    rw [← encoded, decoded] at again
    cases again
    exact encoded
  · rintro rfl
    exact decodeUtf8_encodeUtf8 text

theorem utf8EncodeChar_ascii {char : Char} (ascii : char.toNat < 128) :
    String.utf8EncodeChar char = [UInt8.ofNat char.toNat] := by
  have small : char.val.toNat ≤ 0x7f := Nat.le_of_lt_succ ascii
  unfold String.utf8EncodeChar
  exact if_pos small

theorem le_of_mem_utf8EncodeChar {char : Char} (beyond : ¬ char.toNat < 128) {byte : UInt8}
    (member : byte ∈ String.utf8EncodeChar char) : 128 ≤ byte.toNat := by
  have large : ¬ char.val.toNat ≤ 0x7f := fun small => beyond (Nat.lt_succ_of_le small)
  unfold String.utf8EncodeChar at member
  simp only [large, if_false] at member
  split at member
  · simp only [List.mem_cons, List.not_mem_nil, or_false] at member
    rcases member with rfl | rfl <;> simp only [UInt8.toNat_ofNat'] <;> omega
  · split at member
    · simp only [List.mem_cons, List.not_mem_nil, or_false] at member
      rcases member with rfl | rfl | rfl <;> simp only [UInt8.toNat_ofNat'] <;> omega
    · simp only [List.mem_cons, List.not_mem_nil, or_false] at member
      rcases member with rfl | rfl | rfl | rfl <;> simp only [UInt8.toNat_ofNat'] <;> omega

section

universe u

variable {Item : Type u} {isEnd : Item → Bool}

theorem splitOnP_append {front : List Item} (inside : ∀ item ∈ front, isEnd item = false)
    (rest : List Item) :
    (front ++ rest).splitOnP isEnd = (rest.splitOnP isEnd).modifyHead fun line => front ++ line := by
  induction front with
  | nil =>
      rw [List.nil_append]
      cases rest.splitOnP isEnd <;> rfl
  | cons item front ih =>
      have here : isEnd item = false := inside item List.mem_cons_self
      have others := ih fun other member => inside other (List.mem_cons_of_mem _ member)
      rw [List.cons_append, List.splitOnP_cons_eq_if_modifyHead, here, others]
      cases rest.splitOnP isEnd <;> rfl

end

theorem splitOnP_encodeUtf8 {isEnd : UInt8 → Bool}
    (ascii : ∀ byte, isEnd byte = true → byte.toNat < 128) (text : List Char) :
    (encodeUtf8 text).splitOnP isEnd =
      (text.splitOnP fun char => decide (char.toNat < 128) && isEnd (UInt8.ofNat char.toNat)).map
        encodeUtf8 := by
  induction text with
  | nil => rfl
  | cons char text ih =>
      have whole : encodeUtf8 (char :: text) = String.utf8EncodeChar char ++ encodeUtf8 text := rfl
      rw [whole, List.splitOnP_cons_eq_if_modifyHead]
      by_cases ends : char.toNat < 128 ∧ isEnd (UInt8.ofNat char.toNat) = true
      · rw [utf8EncodeChar_ascii ends.1, List.singleton_append,
          List.splitOnP_cons_eq_if_modifyHead, if_pos ends.2, ih]
        simp [ends]
        rfl
      · have inside : ∀ byte ∈ String.utf8EncodeChar char, isEnd byte = false := by
          intro byte member
          by_contra isLineEnd
          have low := ascii byte (by simpa using isLineEnd)
          by_cases small : char.toNat < 128
          · rw [utf8EncodeChar_ascii small, List.mem_singleton] at member
            subst member
            exact ends ⟨small, by simpa using isLineEnd⟩
          · have high := le_of_mem_utf8EncodeChar small member
            omega
        have noEnd : (decide (char.toNat < 128) && isEnd (UInt8.ofNat char.toNat)) = false := by
          simpa using ends
        rw [splitOnP_append inside, ih, noEnd]
        cases text.splitOnP fun char =>
          decide (char.toNat < 128) && isEnd (UInt8.ofNat char.toNat) <;> rfl

end PumoBioMetric.Py
