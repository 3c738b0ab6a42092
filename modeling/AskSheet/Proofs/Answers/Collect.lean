/-
  Collecting answers. The sequence that a submission gives is as long as the greatest position that
  a key denotes (`length_collect_le_iff`), and at each position it holds the value that was written
  there last (`answerAt_collect`). So fields that hold the answers of a sequence give that sequence
  when it is padded (`pad_collect_eq`). A prompt's number in decimal digits denotes its position
  (`position?_decimal`).
-/
import AskSheet.Answers
import AskSheet.Proofs.Text.Numeral
import AskSheet.Proofs.Text.Trim
import Mathlib.Data.List.Induction

namespace AskSheet.Answers

open Text

/-- The answer at a position, counted from 1; empty beyond the end. -/
def answerAt (answers : List String) (n : Nat) : String := (answers[n - 1]?).getD ""

/-- The fields that are written to a position. -/
def writes (n : Nat) (fields : List Field) : List Field :=
  fields.filter fun f => position? f.key = some n

theorem position?_bounds {key : String} {n : Nat} (h : position? key = some n) :
    1 ≤ n ∧ n ≤ maxPosition := by
  unfold position? at h
  obtain ⟨_, hn⟩ := Option.filter_eq_some_iff.mp h
  simpa using hn

/-- A number in decimal digits denotes itself, up to the highest position. -/
theorem position?_decimal (n : Nat) :
    position? (decimal n) = if 1 ≤ n ∧ n ≤ maxPosition then some n else none := by
  have hdigits : ∀ c ∈ Nat.toDigits 10 n, c.isDigit = true := fun c hc => isDigit_of_mem_decimal hc
  have htrim : trimChars (Nat.toDigits 10 n) = Nat.toDigits 10 n := by
    refine trimChars_eq_self_iff.mpr ⟨fun c hc => ?_, fun c hc => ?_⟩
    · exact isBlank_of_isDigit (hdigits c (List.mem_of_mem_head? hc))
    · exact isBlank_of_isDigit (hdigits c (List.mem_of_mem_getLast? hc))
  have hplus : ∀ ds, Nat.toDigits 10 n ≠ '+' :: ds := by
    intro ds h
    have := hdigits '+' (by rw [h]; exact List.mem_cons_self)
    exact absurd this (by decide)
  rw [position?, decimal, String.toList_ofList, htrim]
  split
  · rename_i ds h
    exact absurd h (hplus ds)
  · rw [numeral?_toDigits, Option.filter_some]
    simp only [Bool.and_eq_true, decide_eq_true_eq]

theorem answerAt_succ {answers : List String} {i : Nat} (hi : i < answers.length) :
    answerAt answers (i + 1) = answers[i] := by
  rw [answerAt, Nat.add_sub_cancel, List.getElem?_eq_getElem hi, Option.getD_some]

/-! ## One more field -/

theorem collect_append (fields : List Field) (f : Field) :
    collect (fields ++ [f]) = accept (collect fields) f := by
  rw [collect, List.foldl_append]
  rfl

theorem length_accept_le_iff {answers : List String} {f : Field} {k : Nat} :
    (accept answers f).length ≤ k ↔ answers.length ≤ k ∧ ∀ n, position? f.key = some n → n ≤ k := by
  rw [accept]
  cases h : position? f.key with
  | none => simp
  | some n =>
    simp only [length_put, Option.some.injEq, forall_eq']
    exact Nat.max_le

theorem answerAt_pad (answers : List String) (length n : Nat) :
    answerAt (pad answers length) n = answerAt answers n := by
  rw [answerAt, answerAt, pad]
  by_cases h : n - 1 < answers.length
  · rw [List.getElem?_append_left h]
  · have hge := Nat.le_of_not_lt h
    rw [List.getElem?_append_right hge, List.getElem?_eq_none hge, List.getElem?_replicate]
    split <;> rfl

theorem answerAt_put {answers : List String} {n m : Nat} (hn : 1 ≤ n) (hm : 1 ≤ m)
    (answer : String) :
    answerAt (put answers n answer) m = if n = m then answer else answerAt answers m := by
  by_cases h : n = m
  · have hlt : n - 1 < (pad answers n).length := by rw [length_pad]; omega
    rw [if_pos h, ← h, answerAt, put, List.getElem?_set_self hlt, Option.getD_some]
  · have hne : n - 1 ≠ m - 1 := by omega
    rw [if_neg h, ← answerAt_pad answers n m, answerAt, put, List.getElem?_set_ne hne, answerAt]

/-! ## Whole submissions -/

/-- The sequence is as long as the greatest position. -/
theorem length_collect_le_iff {fields : List Field} {k : Nat} :
    (collect fields).length ≤ k ↔ ∀ f ∈ fields, ∀ n, position? f.key = some n → n ≤ k := by
  induction fields using List.reverseRecOn with
  | nil => simp [collect]
  | append_singleton fields f ih =>
    rw [collect_append, length_accept_le_iff, ih]
    simp only [List.mem_append, List.mem_singleton, or_imp, forall_and, forall_eq]

/-- The field that is last written to a position gives the answer there. -/
theorem answerAt_collect {n : Nat} (hn : 1 ≤ n) (fields : List Field) :
    answerAt (collect fields) n = (writes n fields).getLast?.elim "" Field.value := by
  induction fields using List.reverseRecOn with
  | nil => simp [collect, answerAt, writes]
  | append_singleton fields f ih =>
    rw [collect_append, accept, writes, List.filter_append]
    cases h : position? f.key with
    | none =>
      rw [List.filter_cons_of_neg (by simp [h]), List.filter_nil, List.append_nil]
      exact ih
    | some m =>
      have hm := (position?_bounds h).1
      dsimp only
      rw [answerAt_put hm hn]
      by_cases hmn : m = n
      · rw [if_pos hmn, List.filter_cons_of_pos (by simp [h, hmn]), List.filter_nil,
          List.getLast?_concat]
        rfl
      · rw [if_neg hmn, List.filter_cons_of_neg (by simp [h, hmn]), List.filter_nil,
          List.append_nil]
        exact ih

/-- Fields that agree on a position give that answer, in whatever order they arrive. -/
theorem answerAt_collect_of_unique {n : Nat} {fields : List Field} {f : Field} (hf : f ∈ fields)
    (hpos : position? f.key = some n)
    (hall : ∀ g ∈ fields, position? g.key = some n → g.value = f.value) :
    answerAt (collect fields) n = f.value := by
  rw [answerAt_collect (position?_bounds hpos).1]
  have hmem : f ∈ writes n fields := List.mem_filter.mpr ⟨hf, by simp [hpos]⟩
  obtain ⟨g, hg⟩ :=
    Option.isSome_iff_exists.mp (List.getLast?_isSome.mpr (List.ne_nil_of_mem hmem))
  obtain ⟨hgf, hgpos⟩ := List.mem_filter.mp (List.mem_of_mem_getLast? hg)
  rw [hg]
  exact hall g hgf (by simpa using hgpos)

/-- A sequence is given by its length and its answers. -/
theorem ext_answerAt {as bs : List String} (hlen : as.length = bs.length)
    (h : ∀ n, 1 ≤ n → n ≤ as.length → answerAt as n = answerAt bs n) : as = bs := by
  refine List.ext_getElem hlen fun i hi hi' => ?_
  have hat := h (i + 1) (Nat.le_add_left 1 i) hi
  rwa [answerAt_succ hi, answerAt_succ hi'] at hat

/-- Fields that hold answers of a sequence at their positions, and all those that are not empty, are
    padded to that sequence. -/
theorem pad_collect_eq {fields : List Field} {answers : List String}
    (hvalue : ∀ f ∈ fields, ∀ n, position? f.key = some n →
      n ≤ answers.length ∧ f.value = answerAt answers n)
    (hall : ∀ n, 1 ≤ n → n ≤ answers.length → answerAt answers n ≠ "" →
      ∃ f ∈ fields, position? f.key = some n) :
    pad (collect fields) answers.length = answers := by
  have hshort : (collect fields).length ≤ answers.length :=
    length_collect_le_iff.mpr fun f hf n hn => (hvalue f hf n hn).1
  have hlen : (pad (collect fields) answers.length).length = answers.length := by
    rw [length_pad, Nat.max_eq_right hshort]
  refine ext_answerAt hlen fun n h1 hn => ?_
  rw [hlen] at hn
  rw [answerAt_pad]
  by_cases hnamed : ∃ f ∈ fields, position? f.key = some n
  · obtain ⟨f, hf, hpos⟩ := hnamed
    rw [← (hvalue f hf n hpos).2]
    refine answerAt_collect_of_unique hf hpos fun g hg hgpos => ?_
    rw [(hvalue g hg n hgpos).2, (hvalue f hf n hpos).2]
  · have hnone : writes n fields = [] := by
      rw [writes, List.filter_eq_nil_iff]
      exact fun f hf hpos => hnamed ⟨f, hf, of_decide_eq_true hpos⟩
    have hempty : answerAt answers n = "" := by
      by_contra hne
      exact hnamed (hall n h1 hn hne)
    rw [answerAt_collect h1, hnone, hempty]
    rfl

end AskSheet.Answers
