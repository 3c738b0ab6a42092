/-
  Writing prompts. The brackets of the label get a backslash, and the placeholder, when there is
  one, stands in brackets behind the label (`Prompt.written`). Reading undoes it (`parse_written`)
  whenever label and placeholder are trimmed and the placeholder does not end before its own end:
  each `]` in it stands right after a backslash, and it does not end in one.
-/
import AskSheet.Proofs.Text.Trim
import AskSheet.Prompt

namespace AskSheet.Prompt

open Text

/-- Each `d` stands right after a backslash. -/
def Guarded (d : Char) (cs : List Char) : Prop :=
  ∀ before after, cs = before ++ d :: after → before.getLast? = some '\\'

theorem guarded_iff {d : Char} {cs : List Char} :
    Guarded d cs ↔ ∀ i, i < cs.length → cs[i]? = some d → (cs.take i).getLast? = some '\\' := by
  constructor
  · intro h i hi hd
    obtain ⟨hlt, hget⟩ := List.getElem?_eq_some_iff.mp hd
    refine h (cs.take i) (cs.drop (i + 1)) ?_
    rw [← hget, ← List.drop_eq_getElem_cons hlt, List.take_append_drop]
  · rintro h before after rfl
    have hat := h before.length (by simp) (by simp)
    rwa [List.take_left] at hat

instance (d : Char) (cs : List Char) : Decidable (Guarded d cs) :=
  decidable_of_iff _ guarded_iff.symm

/-- The text with a backslash before each bracket. -/
def escapeBrackets : List Char → List Char
  | [] => []
  | c :: cs => if c = '[' ∨ c = ']' then '\\' :: c :: escapeBrackets cs else c :: escapeBrackets cs

/-- The written form of a prompt. -/
def written (p : Prompt) : List Char :=
  escapeBrackets p.label.toList ++
    if p.placeholder = "" then [] else ' ' :: '[' :: p.placeholder.toList ++ [']']

/-! ## Brackets after backslashes -/

theorem escapeBrackets_cons_bracket {c : Char} (h : c = '[' ∨ c = ']') (cs : List Char) :
    escapeBrackets (c :: cs) = '\\' :: c :: escapeBrackets cs := by
  rw [escapeBrackets, if_pos h]

theorem escapeBrackets_cons_plain {c : Char} (h : ¬(c = '[' ∨ c = ']')) (cs : List Char) :
    escapeBrackets (c :: cs) = c :: escapeBrackets cs := by
  rw [escapeBrackets, if_neg h]

/-- What is escaped starts with no bracket. -/
theorem head?_escapeBrackets_ne {b : Char} (hb : b = '[' ∨ b = ']') (cs : List Char) :
    (escapeBrackets cs).head? ≠ some b := by
  cases cs with
  | nil => simp [escapeBrackets]
  | cons c cs =>
    by_cases h : c = '[' ∨ c = ']'
    · rw [escapeBrackets_cons_bracket h]
      rcases hb with rfl | rfl <;> simp
    · rw [escapeBrackets_cons_plain h]
      rintro ⟨rfl⟩
      exact h hb

theorem getLast?_escapeBrackets (cs : List Char) : (escapeBrackets cs).getLast? = cs.getLast? := by
  induction cs with
  | nil => rfl
  | cons c cs ih =>
    by_cases h : c = '[' ∨ c = ']'
    · rw [escapeBrackets_cons_bracket h, List.getLast?_cons, List.getLast?_cons,
        List.getLast?_cons, ih]
      rfl
    · rw [escapeBrackets_cons_plain h, List.getLast?_cons, List.getLast?_cons, ih]

theorem mem_escapeBrackets {c : Char} {cs : List Char} (h : c ∈ escapeBrackets cs) :
    c = '\\' ∨ c ∈ cs := by
  induction cs with
  | nil => exact Or.inr h
  | cons d cs ih =>
    by_cases hd : d = '[' ∨ d = ']'
    · rw [escapeBrackets_cons_bracket hd, List.mem_cons, List.mem_cons] at h
      rcases h with rfl | rfl | h
      · exact Or.inl rfl
      · exact Or.inr List.mem_cons_self
      · exact (ih h).imp_right (List.mem_cons_of_mem d)
    · rw [escapeBrackets_cons_plain hd, List.mem_cons] at h
      rcases h with rfl | h
      · exact Or.inr List.mem_cons_self
      · exact (ih h).imp_right (List.mem_cons_of_mem d)

/-- Writing adds no characters but brackets, backslashes and a space. -/
theorem not_mem_written {p : Prompt} {c : Char} (hc : c ∉ ['\\', ' ', '[', ']'])
    (hl : c ∉ p.label.toList) (hp : c ∉ p.placeholder.toList) : c ∉ p.written := by
  simp only [List.mem_cons, List.not_mem_nil, or_false, not_or] at hc
  obtain ⟨hback, hspace, hopen, hclose⟩ := hc
  rw [written, List.mem_append]
  rintro (h | h)
  · exact (mem_escapeBrackets h).elim hback hl
  · split at h
    · exact List.not_mem_nil h
    · simp only [List.cons_append, List.mem_cons, List.mem_append, List.not_mem_nil, or_false] at h
      rcases h with h | h | h | h
      · exact hspace h
      · exact hopen h
      · exact hp h
      · exact hclose h

theorem trimmed_escapeBrackets {cs : List Char} (h : Trimmed cs) : Trimmed (escapeBrackets cs) := by
  constructor
  · cases cs with
    | nil => exact trimmed_nil.1
    | cons c cs =>
      by_cases hc : c = '[' ∨ c = ']'
      · rw [escapeBrackets_cons_bracket hc]
        rintro b ⟨rfl⟩
        decide
      · rw [escapeBrackets_cons_plain hc]
        exact h.1
  · rw [getLast?_escapeBrackets]
    exact h.2

/-- A character stays when it is no backslash before a bracket. -/
theorem unescape_cons {c : Char} {cs : List Char}
    (h : c = '\\' → cs.head? ≠ some '[' ∧ cs.head? ≠ some ']') :
    unescape (c :: cs) = c :: unescape cs := by
  refine unescape.eq_4 c cs ?_ ?_
  · rintro t hc rfl
    exact (h hc).1 rfl
  · rintro t hc rfl
    exact (h hc).2 rfl

theorem unescape_escapeBrackets (cs : List Char) : unescape (escapeBrackets cs) = cs := by
  induction cs with
  | nil => rfl
  | cons c cs ih =>
    by_cases h : c = '[' ∨ c = ']'
    · rw [escapeBrackets_cons_bracket h]
      rcases h with rfl | rfl <;> rw [unescape, ih]
    · rw [escapeBrackets_cons_plain h, unescape_cons, ih]
      exact fun _ => ⟨head?_escapeBrackets_ne (Or.inl rfl) cs,
        head?_escapeBrackets_ne (Or.inr rfl) cs⟩

/-! ## The cuts -/

/-- No cut is made in an escaped text; whether a backslash stands before what follows is left
    open. -/
theorem cutAt_escapeBrackets {tail : List Char} {r : Option (List Char × List Char)}
    (htail : ∀ escaped, cutAt '[' escaped tail = r) (escaped : Bool) (cs : List Char) :
    cutAt '[' escaped (escapeBrackets cs ++ tail) =
      r.map fun (before, after) => (escapeBrackets cs ++ before, after) := by
  induction cs generalizing escaped with
  | nil => rw [escapeBrackets, List.nil_append, htail]; cases r <;> rfl
  | cons c cs ih =>
    by_cases h : c = '[' ∨ c = ']'
    · rw [escapeBrackets_cons_bracket h, List.cons_append, List.cons_append, cutAt,
        if_neg (by simp), cutAt, if_neg (by simp), ih]
      cases r <;> rfl
    · have hc : c ≠ '[' := fun hc => h (Or.inl hc)
      rw [escapeBrackets_cons_plain h, List.cons_append, cutAt, if_neg (by simp [hc]), ih]
      cases r <;> rfl

/-- The first cut of a text whose delimiters are all guarded is made right behind it. -/
theorem cutAt_guarded {d : Char} {cs : List Char} (hg : Guarded d cs)
    (hend : cs.getLast? ≠ some '\\') (rest : List Char) :
    cutAt d false (cs ++ d :: rest) = some (cs, rest) := by
  -- the state is whether the part already passed ends in a backslash
  suffices h : ∀ before after, cs = before ++ after →
      cutAt d (before.getLast? = some '\\') (after ++ d :: rest) = some (after, rest) from
    h [] cs rfl
  intro before after hcs
  induction after generalizing before with
  | nil =>
    rw [List.append_nil] at hcs
    rw [hcs] at hend
    rw [List.nil_append, cutAt, if_pos (by simp [hend])]
  | cons c after ih =>
    have hkeep : ¬(c = d && !decide (before.getLast? = some '\\')) = true := by
      intro h
      simp only [Bool.and_eq_true, decide_eq_true_eq, Bool.not_eq_true',
        decide_eq_false_iff_not] at h
      rw [h.1] at hcs
      exact h.2 (hg before after hcs)
    have hnext := ih (before ++ [c]) (by rw [List.append_assoc, List.singleton_append, hcs])
    rw [List.getLast?_concat] at hnext
    simp only [Option.some.injEq] at hnext
    rw [List.cons_append, cutAt, if_neg hkeep, hnext]
    rfl

/-! ## Reading what was written -/

theorem splitBrackets_escaped (cs : List Char) : splitBrackets (escapeBrackets cs) = none := by
  have hnone : ∀ escaped, cutAt '[' escaped [] = none := fun _ => rfl
  have hcut := cutAt_escapeBrackets hnone false cs
  rw [List.append_nil] at hcut
  rw [splitBrackets, hcut]
  rfl

theorem splitBrackets_written {inside : List Char} (hg : Guarded ']' inside)
    (hend : inside.getLast? ≠ some '\\') (cs : List Char) :
    splitBrackets (escapeBrackets cs ++ (' ' :: '[' :: inside ++ [']'])) =
      some (escapeBrackets cs ++ [' '], inside, []) := by
  have hopen : ∀ escaped, cutAt '[' escaped (' ' :: '[' :: inside ++ [']']) =
      some ([' '], inside ++ [']']) := fun escaped => rfl
  rw [splitBrackets, cutAt_escapeBrackets hopen]
  show (do
    let (inside', after) ← cutAt ']' false (inside ++ [']'])
    some (escapeBrackets cs ++ [' '], inside', after)) = _
  rw [cutAt_guarded hg hend []]
  rfl

theorem parse_written {p : Prompt} (hl : trim p.label = p.label)
    (hp : trim p.placeholder = p.placeholder) (hg : Guarded ']' p.placeholder.toList)
    (hend : p.placeholder.toList.getLast? ≠ some '\\') :
    Prompt.parse (String.ofList p.written) = p := by
  have hblank : ∀ c ∈ [' '], isBlank c = true := List.forall_mem_singleton.mpr rfl
  have htrim := trimChars_eq_self_iff.mpr (trimmed_escapeBrackets (trim_eq_self_iff.mp hl))
  have hlabel : String.ofList (unescape (escapeBrackets p.label.toList)) = p.label := by
    rw [unescape_escapeBrackets, String.ofList_toList]
  rw [Prompt.parse, String.toList_ofList, written]
  by_cases h : p.placeholder = ""
  · rw [if_pos h, List.append_nil, splitBrackets_escaped]
    dsimp only
    rw [htrim, hlabel, ← h]
  · rw [if_neg h, splitBrackets_written hg hend]
    dsimp only
    rw [List.append_nil, trimChars_append_blanks _ hblank, htrim, hlabel]
    show Prompt.mk p.label (trim p.placeholder) = p
    rw [hp]

end AskSheet.Prompt
