/-
  Spacing inside written scalars. A text falls into words and the gaps between them
  (`runs_induction`). A gap of blanks is read as it stands (`takeSpacing_blanks`), and so is a gap
  of those breaks that a scalar shows, whatever the indentation of the line after them is
  (`takeSpacing_breaks`).
-/
import AskSheet.Yaml.Quoted
import AskSheet.Yaml.Writer

namespace AskSheet.Yaml

/-! ## Words and gaps -/

section

variable {p : Char → Bool}

/-- The first character, where there is one, is not in the class. -/
def StartsOutside (p : Char → Bool) (cs : List Char) : Prop := ∀ c ∈ cs.head?, p c = false

theorem startsOutside_nil : StartsOutside p [] := by
  intro c hc
  exact absurd hc (by simp)

theorem startsOutside_cons {c : Char} (hc : p c = false) (cs : List Char) :
    StartsOutside p (c :: cs) := by
  intro d hd
  rw [List.head?_cons, Option.mem_some_iff] at hd
  rw [← hd]
  exact hc

theorem startsOutside_dropWhile (p : Char → Bool) (cs : List Char) :
    StartsOutside p (cs.dropWhile p) := by
  intro c hc
  have hhead := List.head?_dropWhile_not p cs
  rw [Option.mem_def.mp hc] at hhead
  exact hhead

theorem any_head?_eq_false {cs : List Char} (h : StartsOutside p cs) : cs.head?.any p = false := by
  cases cs with
  | nil => rfl
  | cons c cs => exact h c rfl

theorem takeWhile_run {g t : List Char} (hg : ∀ c ∈ g, p c = true) (ht : StartsOutside p t) :
    (g ++ t).takeWhile p = g ∧ (g ++ t).dropWhile p = t := by
  rw [List.takeWhile_append_of_pos hg, List.dropWhile_append_of_pos hg]
  cases t with
  | nil => simp
  | cons c t =>
    have hc : p c = false := ht c rfl
    simp [hc]

/-- What holds of a word, and of a word and a gap before whatever it holds of, holds of every
    text. -/
theorem runs_induction (p : Char → Bool) {motive : List Char → Prop}
    (word : ∀ w, (∀ c ∈ w, p c = false) → motive w)
    (gap : ∀ w g t, (∀ c ∈ w, p c = false) → g ≠ [] → (∀ c ∈ g, p c = true) → StartsOutside p t →
      motive t → motive (w ++ (g ++ t)))
    (cs : List Char) : motive cs := by
  induction hn : cs.length using Nat.strongRecOn generalizing cs with
  | ind n ih =>
    have hword : ∀ c ∈ cs.takeWhile (!p ·), p c = false := by
      intro c hc
      simpa using List.all_eq_true.mp List.all_takeWhile c hc
    have hsplit := @List.takeWhile_append_dropWhile _ (!p ·) cs
    cases hrest : cs.dropWhile (!p ·) with
    | nil =>
      rw [hrest, List.append_nil] at hsplit
      rw [← hsplit]
      exact word _ hword
    | cons d ds =>
      have hd : p d = true := by
        have hhead := startsOutside_dropWhile (!p ·) cs d (by rw [hrest]; rfl)
        simpa using hhead
      have hgap : ∀ c ∈ d :: ds.takeWhile p, p c = true := by
        intro c hc
        rcases List.mem_cons.mp hc with rfl | hc
        · exact hd
        · exact List.all_eq_true.mp List.all_takeWhile c hc
      have hlen : (ds.dropWhile p).length < n := by
        have hle := (List.dropWhile_sublist p (l := ds)).length_le
        have hall := congrArg List.length hsplit
        rw [hrest, List.length_append, List.length_cons] at hall
        omega
      have htext : cs = cs.takeWhile (!p ·) ++ ((d :: ds.takeWhile p) ++ ds.dropWhile p) := by
        rw [List.cons_append, List.takeWhile_append_dropWhile, ← hrest, hsplit]
      rw [htext]
      exact gap _ _ _ hword (List.cons_ne_nil d _) hgap (startsOutside_dropWhile p ds)
        (ih _ hlen _ rfl)

end

/-! ## Places -/

namespace Cursor

theorem sees_eq_false {c : Cursor} {p : Char → Bool} (h : StartsOutside p c.rest) :
    c.sees p = false :=
  any_head?_eq_false h

theorem rest_drop {c : Cursor} {w ds : List Char} (h : c.rest = w ++ ds) :
    (c.drop w.length).rest = ds := by
  rw [drop, h]
  exact List.drop_left

theorem rest_drop_one {c : Cursor} {d : Char} {ds : List Char} (h : c.rest = d :: ds) :
    (c.drop 1).rest = ds :=
  @rest_drop c [d] ds h

/-- Markers stand at the start of a line. -/
theorem seesMarker_of_column {c : Cursor} (h : 0 < c.column) : c.seesMarker = false := by
  have hne : (c.column == 0) = false := by
    rw [beq_eq_false_iff_ne]
    omega
  rw [seesMarker, hne, Bool.false_and, Bool.false_and]

/-- A break that a scalar shows stands for itself. -/
theorem takeBreak_of_isPrintable {c : Cursor} {b : Char} {cs : List Char} (h : c.rest = b :: cs)
    (hbreak : isBreak b = true) (hprint : isPrintable b = true) :
    c.takeBreak =
      ([b], { rest := cs, index := c.index + b.utf8Size, line := c.line + 1 }) := by
  simp only [isBreak, Bool.or_eq_true, beq_iff_eq] at hbreak
  rcases hbreak with (((rfl | rfl) | rfl) | rfl) | rfl
  · simp [takeBreak, h, isBreak]
  · exact absurd hprint (by decide)
  · exact absurd hprint (by decide)
  · simp [takeBreak, h, isBreak]
  · simp [takeBreak, h, isBreak]

end Cursor

/-! ## Gaps -/

/-- Spacing, or the sign that a comment starts with. -/
def startsGap (c : Char) : Bool := isSpacing c || c == '#'

theorem isSpacing_of_isBlank {c : Char} (h : isBlank c = true) : isSpacing c = true := by
  rw [isSpacing, h, Bool.true_or]

theorem isBlank_eq_false {c : Char} (h : isSpacing c = false) : isBlank c = false := by
  rw [isSpacing, Bool.or_eq_false_iff] at h
  exact h.1

theorem isBreak_eq_false {c : Char} (h : isSpacing c = false) : isBreak c = false := by
  rw [isSpacing, Bool.or_eq_false_iff] at h
  exact h.2

theorem isBlank_eq_false_of_isBreak {b : Char} (h : isBreak b = true) : isBlank b = false := by
  simp only [isBreak, Bool.or_eq_true, beq_iff_eq] at h
  rcases h with (((rfl | rfl) | rfl) | rfl) | rfl <;> decide

theorem isBreak_eq_false_of_isBlank {b : Char} (h : isBlank b = true) : isBreak b = false := by
  rw [isBlank, Bool.or_eq_true, beq_iff_eq, beq_iff_eq] at h
  rcases h with rfl | rfl <;> decide

/-- The only blank that a scalar shows is the space. -/
theorem eq_space_of_isPrintable {c : Char} (hblank : isBlank c = true)
    (hprint : isPrintable c = true) : c = ' ' := by
  rw [isBlank, Bool.or_eq_true, beq_iff_eq, beq_iff_eq] at hblank
  rcases hblank with rfl | rfl
  · rfl
  · exact absurd hprint (by decide)

theorem takeBreaks_of_startsOutside (indent : Int) {c : Cursor}
    (h : StartsOutside isBreak c.rest) : takeBreaks indent c = some ([], c) := by
  rw [takeBreaks, dif_neg (by rw [Cursor.sees_eq_false h]; exact Bool.false_ne_true)]

theorem isBlank_of_mem_spaces {n : Nat} {c : Char} (h : c ∈ spaces n) : isBlank c = true := by
  rw [List.eq_of_mem_replicate h]
  rfl

/-- A break with the indentation after it. -/
theorem takeBreaks_cons (indent : Int) {b : Char} {n : Nat} {cs : List Char} {c : Cursor}
    (hbreak : isBreak b = true) (hprint : isPrintable b = true) (hcs : StartsOutside isBlank cs)
    (hc : c.rest = b :: (spaces n ++ cs)) :
    ∃ c', takeBreaks indent c = (takeBreaks indent c').map (fun (bs, after) => (b :: bs, after)) ∧
      c'.rest = cs ∧ c'.column = n := by
  have hsees : c.sees isBreak = true := by
    rw [Cursor.sees, hc]
    exact hbreak
  obtain ⟨htaken, hrest⟩ := takeWhile_run (fun d hd => isBlank_of_mem_spaces hd) hcs
  have htab (k : Nat) : ((spaces n).take k).contains '\t' = false := by
    rw [List.contains_eq_mem, decide_eq_false_iff_not]
    intro h
    exact absurd (List.eq_of_mem_replicate (List.mem_of_mem_take h)) (by decide)
  refine ⟨(c.takeBreak.2.takeWhile isBlank).2, ?_, ?_, ?_⟩
  · rw [takeBreaks, dif_pos hsees]
    dsimp only
    rw [Cursor.takeWhile, Cursor.takeBreak_of_isPrintable hc hbreak hprint]
    dsimp only
    rw [htaken, htab, if_neg Bool.false_ne_true]
    rfl
  · rw [Cursor.takeWhile, Cursor.takeBreak_of_isPrintable hc hbreak hprint]
    exact hrest
  · rw [Cursor.takeWhile, Cursor.takeBreak_of_isPrintable hc hbreak hprint]
    dsimp only
    rw [htaken, spaces, List.length_replicate, Nat.zero_add]

/-- Breaks and the indentation of the line after them. -/
theorem takeBreaks_run (indent : Int) {g t : List Char} {n : Nat}
    (hg : ∀ b ∈ g, isBreak b = true ∧ isPrintable b = true) (hne : g ≠ [])
    (ht : StartsOutside isSpacing t) {c : Cursor} (hc : c.rest = g ++ (spaces n ++ t)) :
    ∃ c', takeBreaks indent c = some (g, c') ∧ c'.rest = t ∧ c'.column = n := by
  induction g generalizing c with
  | nil => exact absurd rfl hne
  | cons b g ih =>
    obtain ⟨hbreak, hprint⟩ := hg b List.mem_cons_self
    cases g with
    | nil =>
      have hblank : StartsOutside isBlank t := fun d hd => isBlank_eq_false (ht d hd)
      obtain ⟨c', htake, hrest, hcolumn⟩ := takeBreaks_cons indent hbreak hprint hblank hc
      refine ⟨c', ?_, hrest, hcolumn⟩
      have hend : StartsOutside isBreak c'.rest := by
        rw [hrest]
        exact fun d hd => isBreak_eq_false (ht d hd)
      rw [htake, takeBreaks_of_startsOutside indent hend, Option.map_some]
    | cons d g =>
      have hblank : StartsOutside isBlank (d :: g ++ (spaces n ++ t)) :=
        startsOutside_cons (isBlank_eq_false_of_isBreak (hg d (by simp)).1) _
      obtain ⟨c', htake, hrest, -⟩ := @takeBreaks_cons indent b 0 _ c hbreak hprint hblank hc
      obtain ⟨c'', hrun, hend⟩ :=
        ih (fun e he => hg e (List.mem_cons_of_mem b he)) (List.cons_ne_nil d g) hrest
      exact ⟨c'', by rw [htake, hrun, Option.map_some], hend⟩

/-- A gap of blanks. -/
theorem takeSpacing_blanks (indent : Int) {g t : List Char} (hg : ∀ b ∈ g, isBlank b = true)
    (ht : StartsOutside isSpacing t) {c : Cursor} (hc : c.rest = g ++ t) :
    ∃ c', takeSpacing indent c = some (g, [], c') ∧ c'.rest = t ∧
      c'.column = c.column + g.length := by
  obtain ⟨htaken, hrest⟩ := takeWhile_run hg fun d hd => isBlank_eq_false (ht d hd)
  have hnobreak : StartsOutside isBreak (c.takeWhile isBlank).2.rest := by
    rw [Cursor.takeWhile, hc]
    dsimp only
    rw [hrest]
    exact fun d hd => isBreak_eq_false (ht d hd)
  refine ⟨(c.takeWhile isBlank).2, ?_, ?_, ?_⟩
  · rw [takeSpacing]
    dsimp only
    rw [takeBreaks_of_startsOutside indent hnobreak, Cursor.takeWhile, hc, Option.map_some]
    dsimp only
    rw [htaken]
  · rw [Cursor.takeWhile, hc]
    exact hrest
  · rw [Cursor.takeWhile, hc]
    dsimp only
    rw [htaken]

/-- A gap of breaks, with the indentation of the line after them. -/
theorem takeSpacing_breaks (indent : Int) {g t : List Char} {n : Nat}
    (hg : ∀ b ∈ g, isBreak b = true ∧ isPrintable b = true) (hne : g ≠ [])
    (ht : StartsOutside isSpacing t) {c : Cursor} (hc : c.rest = g ++ (spaces n ++ t)) :
    ∃ c', takeSpacing indent c = some ([], g, c') ∧ c'.rest = t ∧ c'.column = n := by
  have hblank : StartsOutside isBlank (g ++ (spaces n ++ t)) := by
    cases g with
    | nil => exact absurd rfl hne
    | cons b g => exact startsOutside_cons (isBlank_eq_false_of_isBreak (hg b (by simp)).1) _
  obtain ⟨htaken, hrest⟩ := @takeWhile_run isBlank [] _ (by simp) hblank
  have hstart : (c.takeWhile isBlank).2.rest = g ++ (spaces n ++ t) := by
    rw [Cursor.takeWhile, hc]
    exact hrest
  obtain ⟨c', hrun, hend⟩ := takeBreaks_run indent hg hne ht hstart
  refine ⟨c', ?_, hend⟩
  rw [takeSpacing]
  dsimp only
  rw [hrun, Cursor.takeWhile, hc, Option.map_some]
  exact congrArg (fun w => some (w, g, c')) htaken

end AskSheet.Yaml
