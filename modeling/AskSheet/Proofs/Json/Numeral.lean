/-
  Numerals for integers. A numeral without fraction and exponent whose value fits 64 bits, and is not
  a zero with a minus, is the integer that it says (`number?_of_isInteger`), and that integer is
  written as the numeral was (`text_of_isInteger`).
-/
import AskSheet.Json.Number
import AskSheet.Proofs.Text.Numeral
import Mathlib.Algebra.Group.Nat.Defs

namespace AskSheet.Json

open Text

/-! ## The significand -/

theorem le_ofDigits (acc : Nat) (cs : List Char) : acc ≤ ofDigits 10 acc cs := by
  induction cs generalizing acc with
  | nil => exact Nat.le_refl acc
  | cons c cs ih =>
    have := ih (acc * 10 + (digit? 10 c).getD 0)
    rw [ofDigits]
    omega

/-- While the value is in range no digit is left over. -/
theorem appendDigits_eq {cs : List Char} {acc : Nat} (h : ofDigits 10 acc cs ≤ maxSignificand) :
    appendDigits acc cs = (ofDigits 10 acc cs, []) := by
  induction cs generalizing acc with
  | nil => rfl
  | cons c cs ih =>
    rw [ofDigits] at h
    have hnext := Nat.le_trans (le_ofDigits _ cs) h
    rw [appendDigits, ofDigits, if_pos hnext, ih h]

/-! ## Integers -/

namespace Numeral

/-- The number that the digits before the point denote. -/
def wholeValue (m : Numeral) : Nat := Nat.ofDigitChars 10 m.whole 0

/-- A numeral for an integer: digits without a zero in front of others, no fraction, no exponent, a
    value of 64 bits, and no minus before zero. -/
structure IsInteger (m : Numeral) : Prop where
  no_fraction : m.fraction = none
  no_exponent : m.exponent = none
  ne_nil : m.whole ≠ []
  digits : ∀ c ∈ m.whole, c.isDigit = true
  no_zero : m.whole.head? = some '0' → m.whole = ['0']
  in_range : if m.negative then 1 ≤ m.wholeValue ∧ m.wholeValue ≤ 2 ^ 63 else m.wholeValue < 2 ^ 64

instance (m : Numeral) : Decidable m.IsInteger :=
  decidable_of_iff (m.fraction = none ∧ m.exponent = none ∧ m.whole ≠ [] ∧
      m.whole.all Char.isDigit = true ∧ (m.whole.head? = some '0' → m.whole = ['0']) ∧
      if m.negative then 1 ≤ m.wholeValue ∧ m.wholeValue ≤ 2 ^ 63 else m.wholeValue < 2 ^ 64)
    ⟨fun ⟨hf, he, hn, hd, hz, hr⟩ => ⟨hf, he, hn, List.all_eq_true.mp hd, hz, hr⟩,
      fun ⟨hf, he, hn, hd, hz, hr⟩ => ⟨hf, he, hn, List.all_eq_true.mpr hd, hz, hr⟩⟩

/-- A numeral for an integer as it is written. -/
def integerText (m : Numeral) : String :=
  (if m.negative then "-" else "") ++ String.ofList m.whole

variable {m : Numeral} (h : m.IsInteger)
include h

theorem number?_of_isInteger :
    m.number? = some (.integer (if m.negative then -m.wholeValue else m.wholeValue)) := by
  have hvalue : ofDigits 10 0 m.whole = m.wholeValue := ofDigits_eq_ofDigitChars h.digits 0
  have hmax : m.wholeValue ≤ maxSignificand := by
    have hrange := h.in_range
    show m.wholeValue ≤ 2 ^ 64 - 1
    split at hrange <;> omega
  have hread : appendDigits 0 m.whole = (m.wholeValue, []) := by
    rw [appendDigits_eq (hvalue ▸ hmax), hvalue]
  have hsign : (!m.negative || (m.wholeValue ≠ 0 && m.wholeValue ≤ Nat.pow 2 63)) = true := by
    have hrange := h.in_range
    cases hn : m.negative with
    | false => rfl
    | true =>
      rw [hn, if_pos rfl] at hrange
      simp only [Bool.not_true, Bool.false_or, Bool.and_eq_true, decide_eq_true_eq]
      exact ⟨by omega, hrange.2⟩
  rw [number?, hread]
  dsimp only
  rw [h.no_fraction, h.no_exponent, hsign]
  rfl

theorem text_of_isInteger {n : Number} (hn : m.number? = some n) : n.text = m.integerText := by
  have hdigits : decimal m.wholeValue = String.ofList m.whole := by
    rw [decimal, wholeValue, toDigits_ofDigitChars h.ne_nil h.digits h.no_zero]
  rw [number?_of_isInteger h] at hn
  obtain rfl := Option.some.inj hn
  rw [integerText, ← hdigits]
  cases hsign : m.negative with
  | false =>
    have hnat : ¬(m.wholeValue : Int) < 0 := by omega
    show Number.text (.integer m.wholeValue) = "" ++ decimal m.wholeValue
    rw [Number.text, if_neg hnat, Int.natAbs_natCast, String.empty_append]
  | true =>
    have hrange := h.in_range
    rw [hsign, if_pos rfl] at hrange
    have hneg : -(m.wholeValue : Int) < 0 := by omega
    show Number.text (.integer (-m.wholeValue)) = "-" ++ decimal m.wholeValue
    rw [Number.text, if_pos hneg, Int.natAbs_neg, Int.natAbs_natCast]

end Numeral

end AskSheet.Json
