/-
  String literals that were written. What stands for one character is one unit of the literal
  (`units?_quoteChar`), a character or a code below 32, so the units of a literal are read back as
  its text (`literal?_quote`), whatever the text is and whatever comes after the literal.
-/
import AskSheet.Json.Quoted
import AskSheet.Proofs.Text.Numeral

namespace AskSheet.Json

open Text

theorem decodeUnits_char (c : Char) (us : List Unit) :
    decodeUnits (.char c :: us) = (decodeUnits us).map (c :: ·) := by
  rw [decodeUnits]

/-- The code of a control character needs no partner. -/
theorem decodeUnits_code {n : Nat} (h : n < 0x20) (us : List Unit) :
    decodeUnits (.code n :: us) = (decodeUnits us).map (Char.ofNat n :: ·) := by
  have hhigh : isHighSurrogate n = false := by
    rw [isHighSurrogate, Bool.and_eq_false_iff, decide_eq_false_iff_not]
    omega
  have hlow : isLowSurrogate n = false := by
    rw [isLowSurrogate, Bool.and_eq_false_iff, decide_eq_false_iff_not]
    omega
  cases us with
  | nil => simp [decodeUnits, hhigh, hlow]
  | cons u us => cases u <;> simp [decodeUnits, hhigh, hlow]

/-- A character in a literal is read as one unit, which stands for it. -/
theorem units?_quoteChar (c : Char) {cs rest : List Char} {us : List Unit}
    (h : units? cs = some (us, rest)) :
    ∃ u, units? (quoteChar c ++ cs) = some (u :: us, rest) ∧
      decodeUnits (u :: us) = (decodeUnits us).map (c :: ·) := by
  unfold quoteChar
  split
  · exact ⟨.char '"', by simp [units?, escaped?, h], decodeUnits_char _ us⟩
  · exact ⟨.char '\\', by simp [units?, escaped?, h], decodeUnits_char _ us⟩
  · exact ⟨.char '\n', by simp [units?, escaped?, h], decodeUnits_char _ us⟩
  · exact ⟨.char '\r', by simp [units?, escaped?, h], decodeUnits_char _ us⟩
  · exact ⟨.char '\t', by simp [units?, escaped?, h], decodeUnits_char _ us⟩
  · exact ⟨.char '\x08', by simp [units?, escaped?, h], decodeUnits_char _ us⟩
  · exact ⟨.char '\x0c', by simp [units?, escaped?, h], decodeUnits_char _ us⟩
  · rename_i hquote hback _ _ _ _ _
    split
    · rename_i hcontrol
      have hlt : c.toNat < 0x20 := hcontrol
      have hlen : (padded 16 4 c.toNat).length = 4 :=
        length_padded (by decide) (by decide) (Nat.lt_trans hlt (by decide))
      have hnumeral : Text.numeral? 16 (padded 16 4 c.toNat) = some c.toNat :=
        numeral?_padded (by decide) (by decide) 4 c.toNat
      obtain ⟨d₁, d₂, d₃, d₄, hdigits⟩ : ∃ d₁ d₂ d₃ d₄, padded 16 4 c.toNat = [d₁, d₂, d₃, d₄] := by
        match padded 16 4 c.toNat, hlen with
        | [d₁, d₂, d₃, d₄], _ => exact ⟨d₁, d₂, d₃, d₄, rfl⟩
      rw [hdigits] at hnumeral ⊢
      refine ⟨.code c.toNat, ?_, ?_⟩
      · simp [units?, hnumeral, h]
      · rw [decodeUnits_code hlt, Char.ofNat_toNat]
    · rename_i hplain
      refine ⟨.char c, ?_, decodeUnits_char c us⟩
      have hcond : (c = '\\' || c.val < 0x20) = false := by
        rw [Bool.or_eq_false_iff, decide_eq_false_iff_not, decide_eq_false_iff_not]
        exact ⟨hback, hplain⟩
      rw [List.singleton_append, units?, if_neg (by rw [hcond]; exact Bool.false_ne_true), h,
        Option.map_some]
      · exact hquote
      · intro _ _ _ _ _ hc
        exact absurd hc hback
      · intro _ _ hc
        exact absurd hc hback

/-- A text is read back from its literal, whatever comes after. -/
theorem literal?_quote (s : String) (rest : List Char) :
    literal? (s.toList.flatMap quoteChar ++ '"' :: rest) = some (some s, rest) := by
  have hunits (cs : List Char) : ∃ us, units? (cs.flatMap quoteChar ++ '"' :: rest) =
      some (us, rest) ∧ decodeUnits us = some cs := by
    induction cs with
    | nil => exact ⟨[], rfl, rfl⟩
    | cons c cs ih =>
      obtain ⟨us, hus, hdecode⟩ := ih
      obtain ⟨u, hu, hc⟩ := units?_quoteChar c hus
      refine ⟨u :: us, ?_, ?_⟩
      · rw [List.flatMap_cons, List.append_assoc, hu]
      · rw [hc, hdecode, Option.map_some]
  obtain ⟨us, hus, hdecode⟩ := hunits s.toList
  rw [literal?, hus, Option.map_some]
  dsimp only
  rw [hdecode, Option.map_some, String.ofList_toList]

end AskSheet.Json
