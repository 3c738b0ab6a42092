/-
  Positions and what is written to them. A key denotes a position when it is, between blanks, a plus
  sign or none and the decimal digits of a number from 1 to the highest position (`Denotes`), and it
  is read as that position (`position?_eq_some_iff`). Collecting depends on nothing but the fields
  that are written to each position, in their order (`collect_congr`): the sequence reaches to the
  greatest position, and the last field that is written to a position has its place there
  (`collect_last_wins`).
-/
import AskSheet.Proofs.Answers.Collect

namespace AskSheet.Answers

open Text

/-- A key that denotes a position: trimmed, it is decimal digits, with one plus sign before them or
    none, of a number that is a position. Zeros in front do not count, and the number is exact however
    many digits there are. -/
def Denotes (key : String) (n : Nat) : Prop :=
  ∃ sign digits : List Char, (trim key).toList = sign ++ digits ∧ (sign = [] ∨ sign = ['+']) ∧
    digits ≠ [] ∧ (∀ c ∈ digits, c.isDigit = true) ∧ Nat.ofDigitChars 10 digits 0 = n ∧
    1 ≤ n ∧ n ≤ maxPosition

/-- A key is read as the position that it denotes. -/
theorem position?_eq_some_iff {key : String} {n : Nat} :
    position? key = some n ↔ Denotes key n := by
  rw [position?, Option.filter_eq_some_iff, numeral?_ten_eq_some_iff, Bool.and_eq_true,
    decide_eq_true_eq, decide_eq_true_eq, Denotes, trim_toList]
  constructor
  · split
    · rename_i ds hkey
      rintro ⟨⟨hne, hdigits, hn⟩, hbounds⟩
      exact ⟨['+'], ds, hkey, Or.inr rfl, hne, hdigits, hn, hbounds⟩
    · rintro ⟨⟨hne, hdigits, hn⟩, hbounds⟩
      exact ⟨[], _, rfl, Or.inl rfl, hne, hdigits, hn, hbounds⟩
  · rintro ⟨sign, digits, hkey, hsign, hne, hdigits, hn, hbounds⟩
    rw [hkey]
    rcases hsign with rfl | rfl
    · -- a digit is no plus sign
      split
      · rename_i ds hplus
        have hmem : '+' ∈ digits := by
          rw [List.nil_append] at hplus
          exact hplus ▸ List.mem_cons_self
        exact absurd (hdigits '+' hmem) (by decide)
      · exact ⟨⟨hne, hdigits, hn⟩, hbounds⟩
    · exact ⟨⟨hne, hdigits, hn⟩, hbounds⟩

instance (key : String) (n : Nat) : Decidable (Denotes key n) :=
  decidable_of_iff (position? key = some n) position?_eq_some_iff

/-- A key that denotes a position holds no equals sign. -/
theorem Denotes.equals_not_mem {key : String} {n : Nat} (h : Denotes key n) :
    '=' ∉ key.toList := by
  obtain ⟨sign, digits, hkey, hsign, -, hdigits, -⟩ := h
  obtain ⟨w, v, hsplit, hw, hv⟩ := exists_trimChars key.toList
  have hblank : isBlank '=' = false := by decide
  intro hmem
  rw [hsplit, ← trim_toList, hkey, List.mem_append, List.mem_append, List.mem_append] at hmem
  rcases hmem with hmem | (hmem | hmem) | hmem
  · exact absurd ((hw '=' hmem).symm.trans hblank) (by decide)
  · rcases hsign with rfl | rfl
    · exact List.not_mem_nil hmem
    · exact absurd (List.mem_singleton.mp hmem) (by decide)
  · exact absurd (hdigits '=' hmem) (by decide)
  · exact absurd ((hv '=' hmem).symm.trans hblank) (by decide)

/-- A key that denotes some position. -/
def IsPositional (key : String) : Prop := ∃ n, Denotes key n

instance : DecidablePred IsPositional := fun key =>
  decidable_of_iff ((position? key).isSome = true) <| by
    simp only [Option.isSome_iff_exists, position?_eq_some_iff, IsPositional]

theorem writes_eq_filter (n : Nat) (fields : List Field) :
    writes n fields = fields.filter fun f => Denotes f.key n :=
  List.filter_congr fun _ _ => decide_eq_decide.mpr position?_eq_some_iff

theorem mem_writes {n : Nat} {fields : List Field} {f : Field} :
    f ∈ writes n fields ↔ f ∈ fields ∧ Denotes f.key n := by
  rw [writes_eq_filter, List.mem_filter, decide_eq_true_eq]

/-- Nothing is written to a position that no key denotes. -/
theorem writes_eq_nil {n : Nat} {fields : List Field} (h : ∀ f ∈ fields, ¬ Denotes f.key n) :
    writes n fields = [] := by
  rw [List.eq_nil_iff_forall_not_mem]
  intro f hf
  obtain ⟨hmem, hn⟩ := mem_writes.mp hf
  exact h f hmem hn

theorem writes_append_cons {n : Nat} {before after : List Field} {f : Field}
    (h : Denotes f.key n) : writes n (before ++ f :: after) =
      writes n before ++ f :: writes n after := by
  simp only [writes_eq_filter]
  rw [List.filter_append, List.filter_cons_of_pos (by simpa using h)]

theorem writes_append_cons_of_not {n : Nat} {before after : List Field} {f : Field}
    (h : ¬ Denotes f.key n) : writes n (before ++ f :: after) = writes n (before ++ after) := by
  simp only [writes_eq_filter]
  rw [List.filter_append, List.filter_append, List.filter_cons_of_neg (by simpa using h)]

/-! ## Whole submissions -/

theorem length_collect_le_iff_writes {fields : List Field} {k : Nat} :
    (collect fields).length ≤ k ↔ ∀ n, writes n fields ≠ [] → n ≤ k := by
  rw [length_collect_le_iff]
  constructor
  · intro h n hne
    obtain ⟨f, hf⟩ := List.exists_mem_of_ne_nil _ hne
    obtain ⟨hmem, hn⟩ := mem_writes.mp hf
    exact h f hmem n (position?_eq_some_iff.mpr hn)
  · intro h f hf n hn
    exact h n (List.ne_nil_of_mem (mem_writes.mpr ⟨hf, position?_eq_some_iff.mp hn⟩))

/-- Submissions with the same fields for each position, in the same order, are collected to the same
    sequence. -/
theorem collect_congr {fields fields' : List Field}
    (h : ∀ n, writes n fields' = writes n fields) : collect fields' = collect fields := by
  have hlen : (collect fields').length = (collect fields).length := by
    apply Nat.le_antisymm
    · rw [length_collect_le_iff_writes]
      intro n hne
      rw [h n] at hne
      exact length_collect_le_iff_writes.mp (Nat.le_refl _) n hne
    · rw [length_collect_le_iff_writes]
      intro n hne
      rw [← h n] at hne
      exact length_collect_le_iff_writes.mp (Nat.le_refl _) n hne
  refine ext_answerAt hlen fun n h1 _ => ?_
  rw [answerAt_collect h1, answerAt_collect h1, h n]

/-- Fields for no position do not count. -/
theorem collect_filter_isPositional (fields : List Field) :
    collect (fields.filter fun f => IsPositional f.key) = collect fields := by
  refine collect_congr fun n => ?_
  rw [writes_eq_filter, writes_eq_filter, List.filter_filter]
  refine List.filter_congr fun f _ => ?_
  rw [← Bool.decide_and, decide_eq_decide]
  exact and_iff_left_of_imp fun hn => ⟨n, hn⟩

/-- The order of fields for different positions does not count. -/
theorem collect_perm {fields fields' : List Field} (hperm : fields'.Perm fields)
    (h : fields.Pairwise fun f g => ∀ n, Denotes f.key n → ¬ Denotes g.key n) :
    collect fields' = collect fields := by
  refine collect_congr fun n => ?_
  have hwrites : (writes n fields').Perm (writes n fields) := hperm.filter _
  have hpair : (writes n fields).Pairwise fun f g => ∀ n, Denotes f.key n → ¬ Denotes g.key n :=
    h.sublist List.filter_sublist
  -- at most one field is left for the position
  match hfields : writes n fields with
  | [] =>
    rw [hfields] at hwrites
    exact hwrites.eq_nil
  | [f] =>
    rw [hfields] at hwrites
    exact List.perm_singleton.mp hwrites
  | f :: g :: fs =>
    have hf : f ∈ writes n fields := by simp [hfields]
    have hg : g ∈ writes n fields := by simp [hfields]
    rw [hfields] at hpair
    have hnot := (List.pairwise_cons.mp hpair).1 g List.mem_cons_self n (mem_writes.mp hf).2
    exact absurd (mem_writes.mp hg).2 hnot

/-- The greatest position has a field. -/
theorem exists_denotes_length {fields : List Field} (h : (collect fields).length ≠ 0) :
    ∃ f ∈ fields, Denotes f.key (collect fields).length := by
  by_contra hnone
  -- otherwise all fields are written before the last place, and the sequence is shorter
  have hshort : (collect fields).length ≤ (collect fields).length - 1 := by
    rw [length_collect_le_iff]
    intro f hf n hn
    have hle := length_collect_le_iff.mp (Nat.le_refl _) f hf n hn
    have hne : n ≠ (collect fields).length := by
      rintro rfl
      exact hnone ⟨f, hf, position?_eq_some_iff.mp hn⟩
    omega
  omega

/-- At a position there is what was last written to it, or nothing. -/
theorem getElem?_collect {fields : List Field} {n : Nat} (h1 : 1 ≤ n)
    (hn : n ≤ (collect fields).length) :
    (collect fields)[n - 1]? = some ((writes n fields).getLast?.elim "" Field.value) := by
  have hlt : n - 1 < (collect fields).length := by omega
  rw [← answerAt_collect h1, answerAt, List.getElem?_eq_getElem hlt, Option.getD_some]

/-- The sequence reaches to the greatest position that a key denotes, which is no more than the
    highest there is, and is empty if no key denotes one. At a position it has the value of the last
    field whose key denotes it, or nothing if there is no such field. A field whose key denotes no
    position counts for nothing, and neither does the order of fields for different positions: what
    counts is, for each position, the fields for it in their order. -/
theorem collect_last_wins (fields : List Field) :
    (∀ f ∈ fields, ∀ n, Denotes f.key n → n ≤ (collect fields).length) ∧
    ((collect fields).length = 0 ∨ ∃ f ∈ fields, Denotes f.key (collect fields).length) ∧
    (collect fields).length ≤ maxPosition ∧
    (∀ before f after n, fields = before ++ f :: after → Denotes f.key n →
      (∀ g ∈ after, ¬ Denotes g.key n) → (collect fields)[n - 1]? = some f.value) ∧
    (∀ n, 1 ≤ n → n ≤ (collect fields).length → (∀ f ∈ fields, ¬ Denotes f.key n) →
      (collect fields)[n - 1]? = some "") ∧
    (∀ before f after, fields = before ++ f :: after → (∀ n, ¬ Denotes f.key n) →
      collect fields = collect (before ++ after)) ∧
    ∀ fields' : List Field,
      (∀ n, fields'.filter (fun f => Denotes f.key n) = fields.filter fun f => Denotes f.key n) →
      collect fields' = collect fields := by
  have hreach : ∀ f ∈ fields, ∀ n, Denotes f.key n → n ≤ (collect fields).length :=
    fun f hf n hn => length_collect_le_iff.mp (Nat.le_refl _) f hf n (position?_eq_some_iff.mpr hn)
  refine ⟨hreach, ?_, ?_, ?_, ?_, ?_, ?_⟩
  · exact or_iff_not_imp_left.mpr exists_denotes_length
  · exact length_collect_le_iff.mpr fun f _ n hn => (position?_bounds hn).2
  · rintro before f after n rfl hn hafter
    have h1 : 1 ≤ n := (position?_bounds (position?_eq_some_iff.mpr hn)).1
    have hmem : f ∈ before ++ f :: after := List.mem_append_right before List.mem_cons_self
    rw [getElem?_collect h1 (hreach f hmem n hn), writes_append_cons hn, writes_eq_nil hafter,
      List.getLast?_concat]
    rfl
  · intro n h1 hn hnone
    rw [getElem?_collect h1 hn, writes_eq_nil hnone]
    rfl
  · rintro before f after rfl hnone
    exact collect_congr fun n => writes_append_cons_of_not (hnone n)
  · intro fields' hsame
    refine collect_congr fun n => ?_
    rw [writes_eq_filter, writes_eq_filter, hsame n]

example : collect [⟨"3", "c"⟩, ⟨" +01 ", "a"⟩, ⟨"x", "-"⟩, ⟨"1", "b"⟩,
    ⟨"18446744073709551617", "-"⟩] = ["b", "", "c"] := by decide +kernel

end AskSheet.Answers
