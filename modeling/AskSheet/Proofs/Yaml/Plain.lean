/-
  Plain scalars that were written. A text in which nothing ends a plain scalar (`IsPlainRun`), with
  the end of its line after it, is read as one (`takePlain_run`): its words one by one, and the
  spaces between them as they stand. Every text that may be written plain is such a text.
-/
import AskSheet.Proofs.Yaml.Spacing
import AskSheet.Yaml.Plain

namespace AskSheet.Yaml

/-- A text that does not end before its last character when it is read as a plain scalar. -/
structure IsPlainRun (cs : List Char) : Prop where
  nonempty : cs ≠ []
  spaces : ∀ c ∈ cs, isSpacing c = true → c = ' '
  inner : hasInnerIndicator cs = false
  first : StartsOutside startsGap cs
  last : cs.getLast? ≠ some ' '

theorem hasInnerIndicator_of_append {cs ds : List Char}
    (h : hasInnerIndicator (cs ++ ds) = false) : hasInnerIndicator ds = false := by
  induction cs with
  | nil => exact h
  | cons c cs ih =>
    rw [List.cons_append, hasInnerIndicator, Bool.or_eq_false_iff] at h
    exact ih h.2

/-- No number sign stands after a gap. -/
theorem head_ne_of_gap {g t : List Char} (hne : g ≠ []) (hg : ∀ c ∈ g, isSpacing c = true)
    (h : hasInnerIndicator (g ++ t) = false) : StartsOutside (· == '#') t := by
  induction g with
  | nil => exact absurd rfl hne
  | cons c g ih =>
    rw [List.cons_append, hasInnerIndicator, Bool.or_eq_false_iff, Bool.or_eq_false_iff] at h
    cases g with
    | nil =>
      have hnext := h.1.2
      rw [hg c List.mem_cons_self, Bool.true_and, List.nil_append] at hnext
      intro d hd
      rw [Option.mem_def.mp hd, Option.any_some] at hnext
      exact hnext
    | cons d g =>
      exact ih (List.cons_ne_nil d g) (fun e he => hg e (List.mem_cons_of_mem c he)) h.2

/-- A word is read up to the gap after it, or to its end. -/
theorem plainPiece_word {w cs ds : List Char} (hw : ∀ c ∈ w, isSpacing c = false)
    (h : hasInnerIndicator (w ++ cs) = false) (hcs : atSpacing cs = true)
    (hds : atSpacing ds = true) : plainPiece false (w ++ ds) = some w := by
  induction w with
  | nil =>
    cases ds with
    | nil => rfl
    | cons d ds =>
      rw [atSpacing] at hds
      rw [List.nil_append, plainPiece, if_pos hds]
  | cons c w ih =>
    rw [List.cons_append, hasInnerIndicator, Bool.or_eq_false_iff, Bool.or_eq_false_iff] at h
    have hcolon : (c == ':' && atSpacing (w ++ ds)) = false := by
      cases w with
      | nil =>
        rw [List.nil_append, hds, ← hcs]
        exact h.1.1
      | cons d w => exact h.1.1
    rw [List.cons_append, plainPiece, if_neg (by simp [hw c List.mem_cons_self]), if_neg (by simp),
      if_neg (by simp [hcolon]), ih (fun d hd => hw d (List.mem_cons_of_mem c hd)) h.2,
      Option.map_some]

namespace IsPlainRun

variable {w g t : List Char}

/-- No number sign stands first, whatever comes after the text. -/
theorem starts {cs : List Char} (h : IsPlainRun cs) (ds : List Char) :
    StartsOutside startsGap (cs ++ ds) := by
  cases cs with
  | nil => exact absurd rfl h.nonempty
  | cons c cs => exact startsOutside_cons (h.first c rfl) _

/-- Before a gap stands a word, and after it the text goes on. -/
theorem of_append (h : IsPlainRun (w ++ (g ++ t))) (hne : g ≠ [])
    (hg : ∀ c ∈ g, isSpacing c = true) (ht : StartsOutside isSpacing t) :
    w ≠ [] ∧ g = Yaml.spaces g.length ∧ IsPlainRun t := by
  have hspaces : ∀ c ∈ g, c = ' ' := fun c hc => h.spaces c (by simp [hc]) (hg c hc)
  have hinner : hasInnerIndicator (g ++ t) = false := hasInnerIndicator_of_append h.inner
  have hword : w ≠ [] := by
    rintro rfl
    cases g with
    | nil => exact absurd rfl hne
    | cons c g =>
      have hfirst := h.first c rfl
      rw [startsGap, hg c List.mem_cons_self, Bool.true_or] at hfirst
      exact absurd hfirst (by simp)
  have htext : t ≠ [] := by
    rintro rfl
    apply h.last
    rw [List.append_nil, List.getLast?_append, List.getLast?_eq_some_getLast hne, Option.some_or,
      hspaces _ (List.getLast_mem hne)]
  refine ⟨hword, List.eq_replicate_iff.mpr ⟨rfl, hspaces⟩, htext, ?_, ?_, ?_, ?_⟩
  · exact fun c hc => h.spaces c (by simp [hc])
  · exact hasInnerIndicator_of_append hinner
  · intro c hc
    rw [startsGap, Bool.or_eq_false_iff]
    exact ⟨ht c hc, head_ne_of_gap hne hg hinner c hc⟩
  · have hlast := h.last
    rw [← List.append_assoc, List.getLast?_append, List.getLast?_eq_some_getLast htext,
      Option.some_or] at hlast
    rw [List.getLast?_eq_some_getLast htext]
    exact hlast

end IsPlainRun

/-- A word of a plain scalar with spacing after it. -/
theorem takePlain_word {indent : Int} {c next : Cursor} {w blanks breaks ds : List Char}
    (hcolumn : 0 < c.column) (hfirst : StartsOutside (· == '#') c.rest) (hne : w ≠ [])
    (hc : c.rest = w ++ ds) (hpiece : plainPiece false c.rest = some w)
    (hds : ds.head?.any isSpacing = true)
    (hspacing : takeSpacing indent (c.drop w.length) = some (blanks, breaks, next)) :
    takePlain false indent c =
      if next.column < indent then some ⟨w, next, breaks != []⟩
      else if next.rest.length < c.rest.length then
        (takePlain false indent next).map fun more =>
          if more.text = [] then ⟨w, next, breaks != []⟩
          else { more with text := w ++ joint blanks breaks ++ more.text }
      else none := by
  have hstart : (c.seesMarker || c.sees (· == '#')) = false := by
    rw [Cursor.seesMarker_of_column hcolumn, Cursor.sees_eq_false hfirst, Bool.or_false]
  have hafter : (!(c.drop w.length).sees isSpacing) = false := by
    rw [Cursor.sees, Cursor.rest_drop hc, hds]
    rfl
  rw [takePlain, if_neg (by rw [hstart]; exact Bool.false_ne_true), hpiece]
  cases w with
  | nil => exact absurd rfl hne
  | cons d w =>
    dsimp only
    rw [if_neg (by rw [hafter]; exact Bool.false_ne_true), hspacing]
    simp

/-- A text that nothing ends is read to the end of its line, when the next line starts a new
    entry. -/
theorem takePlain_run {rest : List Char} (hrest : StartsOutside isSpacing rest) (cs : List Char)
    (h : IsPlainRun cs) {c : Cursor} (hcolumn : 0 < c.column) (hc : c.rest = cs ++ '\n' :: rest) :
    ∃ c', takePlain false 1 c = some ⟨cs, c', true⟩ ∧ c'.rest = rest ∧ c'.column = 0 := by
  have hsharp : StartsOutside (· == '#') c.rest := by
    rw [hc]
    intro d hd
    exact (Bool.or_eq_false_iff.mp (h.starts _ d hd)).2
  induction cs using runs_induction isSpacing generalizing c with
  | word w hw =>
    have hpiece : plainPiece false c.rest = some w := by
      rw [hc]
      exact plainPiece_word hw (by rw [List.append_nil]; exact h.inner) rfl rfl
    have hafter : (c.drop w.length).rest = ['\n'] ++ (spaces 0 ++ rest) := Cursor.rest_drop hc
    obtain ⟨next, hspacing, hnext, hzero⟩ := takeSpacing_breaks 1
      (by simp; decide) (List.cons_ne_nil '\n' []) hrest hafter
    refine ⟨next, ?_, hnext, hzero⟩
    rw [takePlain_word hcolumn hsharp h.nonempty hc hpiece rfl hspacing, if_pos (by omega)]
    rfl
  | gap w g t hw hne hg ht ih =>
    obtain ⟨hword, hspaces, hrun⟩ := h.of_append hne hg ht
    have hgap : atSpacing (g ++ t) = true ∧ atSpacing (g ++ (t ++ '\n' :: rest)) = true ∧
        (g ++ (t ++ '\n' :: rest)).head?.any isSpacing = true := by
      cases g with
      | nil => exact absurd rfl hne
      | cons d g => exact ⟨hg d (by simp), hg d (by simp), hg d (by simp)⟩
    have hrest' : c.rest = w ++ (g ++ (t ++ '\n' :: rest)) := by
      rw [hc, List.append_assoc, List.append_assoc]
    have hpiece : plainPiece false c.rest = some w := by
      rw [hrest']
      exact plainPiece_word hw h.inner hgap.1 hgap.2.1
    have hafter : (c.drop w.length).rest = g ++ (t ++ '\n' :: rest) := Cursor.rest_drop hrest'
    have houtside : StartsOutside isSpacing (t ++ '\n' :: rest) := fun d hd =>
      (Bool.or_eq_false_iff.mp (hrun.starts _ d hd)).1
    have hblank : ∀ b ∈ g, isBlank b = true := by
      rw [hspaces]
      exact fun b hb => isBlank_of_mem_spaces hb
    obtain ⟨next, hspacing, hnext, hmoved⟩ := takeSpacing_blanks 1 hblank houtside hafter
    have hcolumn' : 0 < next.column := by
      rw [hmoved, Cursor.drop]
      dsimp only
      omega
    obtain ⟨c', htail, hend⟩ := ih hrun hcolumn' hnext (by
      rw [hnext]
      exact fun d hd => (Bool.or_eq_false_iff.mp (hrun.starts _ d hd)).2)
    refine ⟨c', ?_, hend⟩
    have hlt : next.rest.length < c.rest.length := by
      have hpos := List.length_pos_iff.mpr hne
      rw [hnext, hrest']
      simp only [List.length_append]
      omega
    rw [takePlain_word hcolumn hsharp hword hrest' hpiece hgap.2.2 hspacing, if_neg (by omega),
      if_pos hlt, htail, Option.map_some, if_neg hrun.nonempty]
    simp [joint]

/-! ## Texts that may be written plain -/

section

variable {cs : List Char} (h : allowsPlain cs = true)

include h

theorem of_allowsPlain : allowsSingle cs = true ∧ cs.any isBreak = false ∧ cs.head? ≠ some ' ' ∧
    cs.getLast? ≠ some ' ' ∧ hasIndicator cs = false := by
  simpa only [allowsPlain, Bool.and_eq_true, Bool.not_eq_true', bne_iff_ne, and_assoc] using h

theorem all_isPrintable_of_allowsPlain : ∀ c ∈ cs, isPrintable c = true := by
  have hsingle := (of_allowsPlain h).1
  simp only [allowsSingle, Bool.and_eq_true, List.all_eq_true] at hsingle
  exact hsingle.1.1

theorem eq_space_of_allowsPlain {c : Char} (hc : c ∈ cs) (hspacing : isSpacing c = true) :
    c = ' ' := by
  have hbreak : isBreak c = false :=
    eq_false_of_ne_true (List.any_eq_false.mp (of_allowsPlain h).2.1 c hc)
  rw [isSpacing, hbreak, Bool.or_false] at hspacing
  exact eq_space_of_isPrintable hspacing (all_isPrintable_of_allowsPlain h c hc)

/-- The first character shows that a plain scalar starts. -/
theorem first_of_allowsPlain {c : Char} (hc : c ∈ cs.head?) :
    isSpacing c = false ∧ isIndicator c = false := by
  obtain ⟨-, -, hspace, -, hindicator⟩ := of_allowsPlain h
  cases cs with
  | nil => exact absurd hc (by simp)
  | cons d cs =>
    obtain rfl : d = c := by simpa using hc
    simp only [hasIndicator, Bool.or_eq_false_iff] at hindicator
    refine ⟨eq_false_of_ne_true fun hspacing => hspace ?_, hindicator.2.1⟩
    rw [List.head?_cons, eq_space_of_allowsPlain h List.mem_cons_self hspacing]

theorem isPlainRun_of_allowsPlain (hne : cs ≠ []) : IsPlainRun cs where
  nonempty := hne
  spaces := fun c hc hspacing => eq_space_of_allowsPlain h hc hspacing
  inner := by
    obtain ⟨-, -, -, -, hindicator⟩ := of_allowsPlain h
    simp only [hasIndicator, Bool.or_eq_false_iff] at hindicator
    exact hindicator.1.2
  first := by
    intro c hc
    obtain ⟨hspacing, hindicator⟩ := first_of_allowsPlain h hc
    refine Bool.or_eq_false_iff.mpr ⟨hspacing, beq_eq_false_iff_ne.mpr ?_⟩
    rintro rfl
    exact absurd hindicator (by decide)
  last := (of_allowsPlain h).2.2.2.1

end

/-- A sign that starts something else before spacing does not stand first. -/
theorem sign_of_allowsPlain {c : Char} {cs : List Char} (h : allowsPlain (c :: cs) = true)
    (rest : List Char) :
    ((c == '-' || c == '?' || c == ':') && atSpacing (cs ++ '\n' :: rest)) = false := by
  have hend : atSpacing (cs ++ '\n' :: rest) = atSpacing cs := by cases cs <;> rfl
  obtain ⟨-, -, -, -, hindicator⟩ := of_allowsPlain h
  simp only [hasIndicator, hasInnerIndicator, Bool.or_eq_false_iff,
    Bool.and_eq_false_iff] at hindicator
  obtain ⟨⟨-, ⟨hcolon, -⟩, -⟩, -, hsign⟩ := hindicator
  rw [hend, Bool.and_eq_false_iff]
  rcases hsign with ⟨hquestion, hhyphen⟩ | hspacing
  · rcases hcolon with hcolon | hspacing
    · exact Or.inl (by rw [hhyphen, hquestion, hcolon]; rfl)
    · exact Or.inr hspacing
  · exact Or.inr hspacing

end AskSheet.Yaml
