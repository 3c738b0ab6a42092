/-
  Trimmed texts: those that start and end with a character that is not blank, and the empty text.
  Trimming gives a trimmed text (`trimmed_trimChars`) and leaves alone just these
  (`trim_eq_self_iff`).
-/
import AskSheet.Text.Basic
import Mathlib.Data.List.TakeWhile

namespace AskSheet.Text

/-- Neither the first nor the last character is blank. -/
def Trimmed (cs : List Char) : Prop :=
  (∀ c ∈ cs.head?, isBlank c = false) ∧ ∀ c ∈ cs.getLast?, isBlank c = false

theorem trimmed_nil : Trimmed [] := by
  constructor <;> intro c hc <;> simp at hc

theorem head?_dropWhile_blank (cs : List Char) :
    ∀ c ∈ (cs.dropWhile isBlank).head?, isBlank c = false := by
  intro c hc
  have h := List.head?_dropWhile_not isBlank cs
  rw [hc] at h
  exact h

theorem dropWhile_of_head {cs : List Char} (h : ∀ c ∈ cs.head?, isBlank c = false) :
    cs.dropWhile isBlank = cs := by
  cases cs with
  | nil => rfl
  | cons c cs =>
    have hc : isBlank c = false := h c rfl
    rw [List.dropWhile_cons_of_neg (by rw [hc]; exact Bool.false_ne_true)]

theorem trimEnd_of_getLast {cs : List Char} (h : ∀ c ∈ cs.getLast?, isBlank c = false) :
    trimEnd cs = cs := by
  rw [List.getLast?_eq_head?_reverse] at h
  rw [trimEnd, dropWhile_of_head h, List.reverse_reverse]

/-- Trimming at the end keeps what the text starts with. -/
theorem trimEnd_prefix (cs : List Char) : trimEnd cs <+: cs := by
  have h := (List.dropWhile_suffix isBlank (l := cs.reverse))
  rw [← List.reverse_prefix, List.reverse_reverse] at h
  exact h

theorem mem_of_mem_trimChars {c : Char} {cs : List Char} (h : c ∈ trimChars cs) : c ∈ cs := by
  have hpre : trimChars cs <+: cs.dropWhile isBlank := trimEnd_prefix _
  exact (List.dropWhile_suffix isBlank).subset (hpre.subset h)

theorem trimmed_trimChars (cs : List Char) : Trimmed (trimChars cs) := by
  constructor
  · intro c hc
    obtain ⟨t, ht⟩ := trimEnd_prefix (cs.dropWhile isBlank)
    refine head?_dropWhile_blank cs c ?_
    rw [← ht, List.head?_append]
    exact Option.mem_def.mpr (by rw [show (trimEnd _).head? = some c from hc, Option.some_or])
  · intro c hc
    rw [trimChars, trimEnd, List.getLast?_reverse] at hc
    exact head?_dropWhile_blank _ c hc

theorem trimmed_trim (s : String) : Trimmed (trim s).toList := by
  rw [trim_toList]
  exact trimmed_trimChars s.toList

theorem ofList_trimChars (cs : List Char) : String.ofList (trimChars cs) = trim (String.ofList cs) := by
  rw [trim, String.toList_ofList]

theorem trimChars_eq_self_iff {cs : List Char} : trimChars cs = cs ↔ Trimmed cs := by
  constructor
  · intro h
    rw [← h]
    exact trimmed_trimChars cs
  · intro h
    rw [trimChars, dropWhile_of_head h.1, trimEnd_of_getLast h.2]

theorem trim_eq_self_iff {s : String} : trim s = s ↔ Trimmed s.toList := by
  rw [← trimChars_eq_self_iff, ← String.toList_inj, trim_toList]

/-- A trimmed text is blank only when it is empty. -/
theorem all_blank_of_trimmed {cs : List Char} (h : Trimmed cs) (hne : cs ≠ []) :
    cs.all isBlank = false := by
  obtain ⟨c, cs, rfl⟩ := List.exists_cons_of_ne_nil hne
  rw [List.all_cons, h.1 c rfl, Bool.false_and]

/-- Blanks after a text do not matter. -/
theorem trimChars_append_blanks (cs : List Char) {w : List Char} (hw : ∀ c ∈ w, isBlank c = true) :
    trimChars (cs ++ w) = trimChars cs := by
  rw [trimChars, trimChars, List.dropWhile_append]
  split
  · rename_i h
    rw [List.isEmpty_iff.mp h, ← List.append_nil w, List.dropWhile_append_of_pos hw]
    rfl
  · exact trimEnd_append_blank _ w hw

/-- Blanks before a text do not matter. -/
theorem trimChars_blanks_append {w : List Char} (hw : ∀ c ∈ w, isBlank c = true) (cs : List Char) :
    trimChars (w ++ cs) = trimChars cs := by
  rw [trimChars, trimChars, List.dropWhile_append_of_pos hw]

/-- Trimming takes off blanks. -/
theorem exists_trimChars (cs : List Char) :
    ∃ w v, cs = w ++ (trimChars cs ++ v) ∧ (∀ c ∈ w, isBlank c = true) ∧
      ∀ c ∈ v, isBlank c = true := by
  have hend : cs.dropWhile isBlank =
      trimChars cs ++ ((cs.dropWhile isBlank).reverse.takeWhile isBlank).reverse := by
    rw [trimChars, trimEnd, ← List.reverse_append, List.takeWhile_append_dropWhile,
      List.reverse_reverse]
  refine ⟨cs.takeWhile isBlank, ((cs.dropWhile isBlank).reverse.takeWhile isBlank).reverse,
    ?_, ?_, ?_⟩
  · rw [← hend, List.takeWhile_append_dropWhile]
  · intro c hc
    exact List.mem_takeWhile_imp hc
  · intro c hc
    exact List.mem_takeWhile_imp (List.mem_reverse.mp hc)

/-- Just the blank texts are trimmed to nothing. -/
theorem trim_ofList_eq_empty_iff {cs : List Char} :
    trim (String.ofList cs) = "" ↔ cs.all isBlank = true := by
  rw [← String.toList_eq_nil_iff, trim_toList, String.toList_ofList, List.all_eq_true]
  constructor
  · intro hnil
    obtain ⟨w, v, hcs, hw, hv⟩ := exists_trimChars cs
    rw [hnil, List.nil_append] at hcs
    rw [hcs, List.forall_mem_append]
    exact ⟨hw, hv⟩
  · intro hblank
    rw [← List.append_nil cs, trimChars_blanks_append hblank]
    rfl

/-- Characters of a kind that holds no blank are all left. -/
theorem filter_trimChars {p : Char → Bool} (hp : ∀ c, isBlank c = true → p c = false)
    (cs : List Char) : (trimChars cs).filter p = cs.filter p := by
  obtain ⟨w, v, hcs, hw, hv⟩ := exists_trimChars cs
  have hnone : ∀ bs : List Char, (∀ c ∈ bs, isBlank c = true) → bs.filter p = [] := by
    intro bs hbs
    rw [List.filter_eq_nil_iff]
    intro c hc
    rw [hp c (hbs c hc)]
    exact Bool.false_ne_true
  rw [congrArg (List.filter p) hcs, List.filter_append, List.filter_append, hnone w hw, hnone v hv,
    List.nil_append, List.append_nil]

end AskSheet.Text
