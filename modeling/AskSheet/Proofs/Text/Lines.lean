/-
  Cutting a text into lines and joining the lines again. `HasLines` says what the lines of a text
  are, and a text is cut into just these (`hasLines_lines`, `HasLines.lines_eq`). Without carriage
  returns the lines of a text that ends with a line feed are the pieces between its line feeds
  (`lines_append_newline`, `join_lines`), and lines that are written one after the other stand
  between the line feeds of their text (`splitOn_unlines`). A text is cut in one way at the first
  character of a kind (`append_cons_inj`), and what holds no line feed lies within a line
  (`infix_of_infix_append_cons`).
-/
import AskSheet.Text.Basic

namespace AskSheet.Text

/-- A character that neither is a line feed nor belongs to one starts the first line. -/
theorem lines_cons {c : Char} {cs : List Char} (hn : c ≠ '\n')
    (hr : c = '\r' → cs.head? ≠ some '\n') :
    lines (c :: cs) = match lines cs with
      | [] => [[c]]
      | l :: ls => (c :: l) :: ls := by
  refine lines.eq_4 c cs (fun h => absurd h hn) ?_
  rintro ds hc rfl
  exact absurd rfl (hr hc)

/-- Characters without a line feed that none follows stand before the first line. -/
theorem lines_append {l cs : List Char} (hn : '\n' ∉ l)
    (hr : l.getLast? = some '\r' → cs.head? ≠ some '\n') {first : List Char}
    {ls : List (List Char)} (h : lines cs = first :: ls) : lines (l ++ cs) = (l ++ first) :: ls := by
  induction l with
  | nil => exact h
  | cons c l ih =>
    obtain ⟨hnc, hnl⟩ := not_or.mp (mt List.mem_cons.mpr hn)
    have hnext : c = '\r' → (l ++ cs).head? ≠ some '\n' := by
      intro hc
      cases l with
      | nil => exact hr (by rw [hc]; rfl)
      | cons e l =>
        rintro ⟨rfl⟩
        exact hnl List.mem_cons_self
    have hlast : l.getLast? = some '\r' → cs.head? ≠ some '\n' := by
      intro hl
      exact hr (by rw [List.getLast?_cons, hl]; rfl)
    rw [List.cons_append, lines_cons (Ne.symm hnc) hnext, ih hnl hlast]
    rfl

/-- The first line of a text ends at its first line feed. -/
theorem lines_append_newline {l : List Char} (hn : '\n' ∉ l) (hr : l.getLast? ≠ some '\r')
    (cs : List Char) : lines (l ++ '\n' :: cs) = l :: lines cs := by
  rw [lines_append hn (fun h => absurd h hr) (by rw [lines]), List.append_nil]

/-- A carriage return right before the line feed is no part of the line. -/
theorem lines_append_return {l : List Char} (hn : '\n' ∉ l) (cs : List Char) :
    lines (l ++ '\r' :: '\n' :: cs) = l :: lines cs := by
  rw [lines_append hn (fun _ => by simp) (by rw [lines]), List.append_nil]

/-- Text without a line feed is one line, whatever it ends with. -/
theorem lines_of_not_mem {l : List Char} (hne : l ≠ []) (hn : '\n' ∉ l) : lines l = [l] := by
  rw [← List.dropLast_concat_getLast hne] at hn ⊢
  obtain ⟨hinit, hlast⟩ := not_or.mp (mt List.mem_append.mpr hn)
  have hc : l.getLast hne ≠ '\n' := fun h => hlast (List.mem_singleton.mpr h.symm)
  have hone : lines [l.getLast hne] = [[l.getLast hne]] := by
    rw [lines_cons hc (fun _ => by simp), lines]
  have hhead : [l.getLast hne].head? ≠ some '\n' := fun h => hc (Option.some.inj h)
  exact lines_append hinit (fun _ => hhead) hone

/-! ## Lines and their endings -/

/-- The text is these lines. Each is ended by a line feed, or by a carriage return and a line feed;
    the last one may have no ending and is not empty then. -/
inductive HasLines : List Char → List (List Char) → Prop
  | done : HasLines [] []
  | last {l : List Char} : l ≠ [] → '\n' ∉ l → HasLines l [l]
  | feed {l cs : List Char} {ls : List (List Char)} : '\n' ∉ l → l.getLast? ≠ some '\r' →
      HasLines cs ls → HasLines (l ++ '\n' :: cs) (l :: ls)
  | returned {l cs : List Char} {ls : List (List Char)} : '\n' ∉ l → HasLines cs ls →
      HasLines (l ++ '\r' :: '\n' :: cs) (l :: ls)

theorem HasLines.lines_eq {cs : List Char} {ls : List (List Char)} (h : HasLines cs ls) :
    lines cs = ls := by
  induction h with
  | done => rw [lines]
  | last hne hn => exact lines_of_not_mem hne hn
  | feed hn hr _ ih => rw [lines_append_newline hn hr, ih]
  | returned hn _ ih => rw [lines_append_return hn, ih]

theorem hasLines_lines (cs : List Char) : HasLines cs (lines cs) := by
  suffices h : ∃ ls, HasLines cs ls by
    obtain ⟨ls, hls⟩ := h
    exact hls.lines_eq.symm ▸ hls
  induction hlen : cs.length using Nat.strongRecOn generalizing cs with
  | ind n ih =>
    by_cases hfeed : '\n' ∈ cs
    · obtain ⟨l, rest, rfl, hl⟩ := List.eq_append_cons_of_mem hfeed
      rw [List.length_append, List.length_cons] at hlen
      obtain ⟨ls, hls⟩ := ih rest.length (by omega) rest rfl
      by_cases hr : l.getLast? = some '\r'
      · obtain ⟨k, rfl⟩ := List.getLast?_eq_some_iff.mp hr
        refine ⟨k :: ls, ?_⟩
        rw [List.append_assoc]
        exact .returned (fun h => hl (List.mem_append_left _ h)) hls
      · exact ⟨l :: ls, .feed hl hr hls⟩
    · by_cases hne : cs = []
      · exact ⟨[], hne ▸ .done⟩
      · exact ⟨[cs], .last hne hfeed⟩

theorem newline_not_mem_of_mem_lines {cs l : List Char} (h : l ∈ lines cs) : '\n' ∉ l := by
  have hlines := hasLines_lines cs
  generalize lines cs = ls at h hlines
  induction hlines with
  | done => exact absurd h List.not_mem_nil
  | last _ hn => exact (List.mem_singleton.mp h) ▸ hn
  | feed hn _ _ ih | returned hn _ ih => exact (List.mem_cons.mp h).elim (fun heq => heq ▸ hn) ih

theorem lines_ne_nil {cs : List Char} (h : cs ≠ []) : lines cs ≠ [] := by
  unfold lines
  split
  · exact absurd rfl h
  · simp
  · simp
  · split <;> simp

/-- The lines joined by line feeds are the text, less the line feed at its end. -/
theorem join_lines {cs : List Char} (hr : '\r' ∉ cs) :
    List.intercalate ['\n'] (lines (cs ++ ['\n'])) = cs := by
  induction cs with
  | nil => rfl
  | cons c cs ih =>
    obtain ⟨hrc, hr⟩ := not_or.mp (mt List.mem_cons.mpr hr)
    have hjoin := ih hr
    obtain ⟨l, ls, hls⟩ :=
      List.exists_cons_of_ne_nil (lines_ne_nil (show cs ++ ['\n'] ≠ [] by simp))
    rw [hls] at hjoin
    rw [List.cons_append]
    by_cases hn : c = '\n'
    · rw [hn, lines, hls, List.intercalate_cons_cons, hjoin]
      rfl
    · rw [lines_cons hn (fun h => absurd h.symm hrc), hls]
      cases ls with
      | nil => rw [List.intercalate_singleton] at hjoin ⊢; rw [hjoin]
      | cons k ks =>
        rw [List.intercalate_cons_cons] at hjoin ⊢
        rw [← hjoin]
        rfl

/-- Lines without line feeds in them are what stands between the line feeds of their text. -/
theorem splitOn_unlines {ls : List String} (h : ∀ l ∈ ls, '\n' ∉ l.toList) :
    (unlines ls).toList.splitOn '\n' = ls.map String.toList ++ [[]] := by
  have hjoin : (unlines ls).toList = ['\n'].intercalate (ls.map String.toList ++ [[]]) := by
    clear h
    induction ls with
    | nil => rfl
    | cons l ls ih =>
      rw [unlines_cons, String.toList_append, String.toList_append, ih, List.map_cons,
        List.cons_append, List.intercalate_cons_of_ne_nil (by simp)]
      rfl
  rw [hjoin]
  refine List.splitOn_intercalate '\n' (fun l hl => ?_) (by simp)
  rcases List.mem_append.mp hl with hl | hl
  · obtain ⟨s, hs, rfl⟩ := List.mem_map.mp hl
    exact h s hs
  · rw [List.mem_singleton.mp hl]
    exact List.not_mem_nil

/-- A start that does not hold `c` ends before the first `c`. -/
theorem prefix_of_prefix_append_cons {s a b : List Char} {c : Char} (h : s <+: a ++ c :: b)
    (hc : c ∉ s) : s <+: a := by
  rcases List.prefix_or_prefix_of_prefix h (List.prefix_append a (c :: b)) with hs | ⟨t, rfl⟩
  · exact hs
  · cases t with
    | nil => exact ⟨[], by rw [List.append_nil, List.append_nil]⟩
    | cons d t =>
      have hd : d = c := (List.cons_prefix_cons.mp ((List.prefix_append_right_inj a).mp h)).1
      rw [hd] at hc
      exact absurd (List.mem_append_right a List.mem_cons_self) hc

/-- What starts with a `c` and ends a text ends it behind any part that holds no `c`. -/
theorem suffix_of_suffix_append {a b s : List Char} {c : Char} (h : c :: s <:+ a ++ b)
    (hc : c ∉ a) : c :: s <:+ b := by
  induction a with
  | nil => exact h
  | cons d a ih =>
    obtain ⟨hne, ha⟩ := not_or.mp (mt List.mem_cons.mpr hc)
    rcases List.suffix_cons_iff.mp (List.cons_append ▸ h) with heq | hsuffix
    · exact absurd (List.cons.inj heq).1 hne
    · exact ih hsuffix ha

/-- A text is cut in one way at its first `c`. -/
theorem append_cons_inj {a b x y : List Char} {c : Char} (ha : c ∉ a) (hb : c ∉ b)
    (h : a ++ c :: x = b ++ c :: y) : a = b ∧ x = y := by
  have hab : a <+: b := prefix_of_prefix_append_cons (h ▸ List.prefix_append a (c :: x)) ha
  have hba : b <+: a := prefix_of_prefix_append_cons (h ▸ List.prefix_append b (c :: y)) hb
  have hsame : a = b := hab.eq_of_length_le hba.length_le
  rw [hsame] at h
  exact ⟨hsame, (List.cons.inj (List.append_cancel_left h)).2⟩

/-- What does not hold `c` lies before or behind a `c`. -/
theorem infix_of_infix_append_cons {s a b : List Char} {c : Char} (h : s <:+: a ++ c :: b)
    (hc : c ∉ s) : s <:+: a ∨ s <:+: b := by
  induction a with
  | nil =>
    rcases List.infix_cons_iff.mp h with hpre | hin
    · exact Or.inl (prefix_of_prefix_append_cons (List.nil_append (c :: b) ▸ hpre) hc).isInfix
    · exact Or.inr hin
  | cons d a ih =>
    rcases List.infix_cons_iff.mp h with hpre | hin
    · exact Or.inl (prefix_of_prefix_append_cons (List.cons_append ▸ hpre) hc).isInfix
    · exact (ih hin).imp_left fun ha => ha.trans (List.suffix_cons d a).isInfix

end AskSheet.Text
