/-
  How a call of `input` is spelled, said without the reader: `Spells call lit`. The reader finds the
  call that a text starts with whenever there is one (`at?_append`), and only then
  (`spells_of_at?`), so a text starts with at most one call (`Spells.unique`).
-/
import AskSheet.Script.Call
import Mathlib.Data.List.TakeWhile

namespace AskSheet.Script.Call

open Text

/-- The name of the function and the opening parenthesis. -/
def opening : List Char := ['i', 'n', 'p', 'u', 't', '(']

theorem toList_opening : "input(".toList = opening := by
  simp [opening]

/-- The text of a call with this literal: the literal stands between two equal quotes, holds neither
    that quote nor a line feed, and may have blanks on both sides of it. -/
def Spells (call lit : List Char) : Prop :=
  ∃ w₁ q w₂, (∀ c ∈ w₁, isBlank c = true) ∧ (∀ c ∈ w₂, isBlank c = true) ∧ (q = '"' ∨ q = '\'') ∧
    q ∉ lit ∧ '\n' ∉ lit ∧ call = opening ++ w₁ ++ q :: lit ++ q :: w₂ ++ [')']

/-! ## The parts of a call -/

theorem afterStart?_append (s cs : List Char) : afterStart? s (s ++ cs) = some cs := by
  induction s with
  | nil => rfl
  | cons a s ih => rw [List.cons_append, afterStart?, if_pos rfl, ih]

theorem quoted?_append {q : Char} {lit : List Char} (hq : q ∉ lit) (hn : '\n' ∉ lit)
    (rest : List Char) : quoted? q (lit ++ q :: rest) = some (lit, rest) := by
  induction lit with
  | nil => rw [List.nil_append, quoted?, if_pos rfl]
  | cons c lit ih =>
    obtain ⟨hqc, hq⟩ := not_or.mp (mt List.mem_cons.mpr hq)
    obtain ⟨hnc, hn⟩ := not_or.mp (mt List.mem_cons.mpr hn)
    rw [List.cons_append, quoted?, if_neg (Ne.symm hqc), if_neg (Ne.symm hnc), ih hq hn,
      Option.map_some]

theorem not_mem_of_quoted? {q : Char} {cs lit rest : List Char}
    (h : quoted? q cs = some (lit, rest)) : q ∉ lit ∧ '\n' ∉ lit := by
  induction cs generalizing lit with
  | nil => simp [quoted?] at h
  | cons c cs ih =>
    rw [quoted?] at h
    split at h
    · simp only [Option.some.injEq, Prod.mk.injEq] at h
      rw [← h.1]
      exact ⟨List.not_mem_nil, List.not_mem_nil⟩
    · rename_i hq
      split at h
      · simp at h
      · rename_i hn
        simp only [Option.map_eq_some_iff, Prod.mk.injEq, Prod.exists] at h
        obtain ⟨l, r, hl, rfl, rfl⟩ := h
        have := ih hl
        exact ⟨List.not_mem_cons_of_ne_of_not_mem (Ne.symm hq) this.1,
          List.not_mem_cons_of_ne_of_not_mem (Ne.symm hn) this.2⟩

theorem literal?_append {q : Char} {lit : List Char} (h : q = '"' ∨ q = '\'') (hq : q ∉ lit)
    (hn : '\n' ∉ lit) (rest : List Char) : literal? (q :: lit ++ q :: rest) = some (lit, rest) := by
  rcases h with rfl | rfl
  · exact quoted?_append hq hn rest
  · exact quoted?_append hq hn rest

theorem spelling_of_literal? {cs lit rest : List Char} (h : literal? cs = some (lit, rest)) :
    ∃ q, (q = '"' ∨ q = '\'') ∧ q ∉ lit ∧ '\n' ∉ lit ∧ cs = q :: lit ++ q :: rest := by
  unfold literal? at h
  split at h
  · have hmem := not_mem_of_quoted? h
    exact ⟨'"', Or.inl rfl, hmem.1, hmem.2, by rw [eq_of_quoted? h, List.cons_append]⟩
  · have hmem := not_mem_of_quoted? h
    exact ⟨'\'', Or.inr rfl, hmem.1, hmem.2, by rw [eq_of_quoted? h, List.cons_append]⟩
  · simp at h

theorem isBlank_quote {q : Char} (h : q = '"' ∨ q = '\'') : isBlank q = false := by
  rcases h with rfl | rfl <;> decide

/-- A run of blanks ends at the first character that is none. -/
theorem dropWhile_blanks {w : List Char} (hw : ∀ c ∈ w, isBlank c = true) {c : Char}
    (hc : isBlank c = false) (cs : List Char) : (w ++ c :: cs).dropWhile isBlank = c :: cs := by
  rw [List.dropWhile_append_of_pos hw,
    List.dropWhile_cons_of_neg (by rw [hc]; exact Bool.false_ne_true)]

theorem blanks_append_dropWhile (cs : List Char) :
    ∃ w, (∀ c ∈ w, isBlank c = true) ∧ cs = w ++ cs.dropWhile isBlank :=
  ⟨cs.takeWhile isBlank, fun _ hc => List.mem_takeWhile_imp hc,
    List.takeWhile_append_dropWhile.symm⟩

/-! ## The reader and the spelling -/

theorem at?_append {call lit : List Char} (h : Spells call lit) (rest : List Char) :
    at? (call ++ rest) = some (lit, rest) := by
  obtain ⟨w₁, q, w₂, hw₁, hw₂, hquote, hq, hn, rfl⟩ := h
  have hstart : afterStart? opening (opening ++ w₁ ++ q :: lit ++ q :: w₂ ++ [')'] ++ rest) =
      some (w₁ ++ q :: (lit ++ q :: (w₂ ++ ')' :: rest))) := by
    have := afterStart?_append opening (w₁ ++ q :: (lit ++ q :: (w₂ ++ ')' :: rest)))
    simpa using this
  have hend : afterStart? [')'] (')' :: rest) = some rest := afterStart?_append [')'] rest
  unfold at?
  rw [toList_opening, hstart, Option.bind_eq_bind, Option.bind_some,
    dropWhile_blanks hw₁ (isBlank_quote hquote), ← List.cons_append, literal?_append hquote hq hn,
    Option.bind_eq_bind, Option.bind_some]
  dsimp only
  rw [dropWhile_blanks hw₂ (by decide), hend]
  rfl

theorem spells_of_at? {cs lit rest : List Char} (h : at? cs = some (lit, rest)) :
    ∃ call, Spells call lit ∧ cs = call ++ rest := by
  unfold at? at h
  simp only [Option.bind_eq_bind, Option.bind_eq_some_iff, Prod.exists, Option.pure_def,
    Option.some.injEq, Prod.mk.injEq] at h
  obtain ⟨args, hargs, l, r, hl, r', hend, rfl, rfl⟩ := h
  obtain ⟨q, hquote, hq, hn, hlit⟩ := spelling_of_literal? hl
  obtain ⟨w₁, hw₁, hargs'⟩ := blanks_append_dropWhile args
  obtain ⟨w₂, hw₂, hr⟩ := blanks_append_dropWhile r
  refine ⟨opening ++ w₁ ++ q :: l ++ q :: w₂ ++ [')'],
    ⟨w₁, q, w₂, hw₁, hw₂, hquote, hq, hn, rfl⟩, ?_⟩
  calc cs = opening ++ args := by rw [eq_of_afterStart? hargs, toList_opening]
    _ = opening ++ (w₁ ++ (q :: l ++ q :: r)) := by rw [hargs', hlit]
    _ = opening ++ (w₁ ++ (q :: l ++ q :: (w₂ ++ ([')'] ++ r')))) := by
      rw [hr, eq_of_afterStart? hend]
    _ = opening ++ w₁ ++ q :: l ++ q :: w₂ ++ [')'] ++ r' := by simp

/-- A text starts with at most one call. -/
theorem Spells.unique {c₁ c₂ l₁ l₂ r₁ r₂ : List Char} (h₁ : Spells c₁ l₁) (h₂ : Spells c₂ l₂)
    (h : c₁ ++ r₁ = c₂ ++ r₂) : c₁ = c₂ ∧ l₁ = l₂ := by
  have hread := at?_append h₁ r₁
  rw [h, at?_append h₂ r₂, Option.some.injEq, Prod.mk.injEq] at hread
  obtain ⟨hl, hr⟩ := hread
  rw [hr] at h
  exact ⟨List.append_cancel_right h, hl.symm⟩

/-- A call has a first character, and its last one is a closing parenthesis. -/
theorem Spells.last {call lit : List Char} (h : Spells call lit) : call.getLast? = some ')' := by
  obtain ⟨w₁, q, w₂, _, _, _, _, _, rfl⟩ := h
  exact List.getLast?_concat

theorem Spells.ne_nil {call lit : List Char} (h : Spells call lit) : call ≠ [] := by
  intro hnil
  have := h.last
  rw [hnil] at this
  simp at this

end AskSheet.Script.Call
