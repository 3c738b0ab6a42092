/-
  Literal blocks that were written. After the empty lines at its start (`takeEmptyLines_run`) a
  block is read line by line (`takeBlockLines_run`), and the sign after its bar says what becomes of
  the breaks at its end, so that a text is read back from its block (`takeBlock_literal`).
-/
import AskSheet.Proofs.Yaml.Spacing
import AskSheet.Yaml.Block

namespace AskSheet.Yaml

/-! ## The lines of a text, indented -/

section

variable (n : Nat)

theorem literalBody_word {w : List Char} (hw : ∀ c ∈ w, isBreak c = false) (t : List Char) :
    literalBody n false (w ++ t) = w ++ literalBody n false t := by
  induction w with
  | nil => rfl
  | cons c w ih =>
    have hc : isBreak c = false := hw c List.mem_cons_self
    rw [List.cons_append, literalBody, if_neg (by simp [hc]), if_neg Bool.false_ne_true,
      ih fun d hd => hw d (List.mem_cons_of_mem c hd)]
    rfl

theorem literalBody_breaks {g : List Char} (hg : ∀ b ∈ g, isBreak b = true) (t : List Char) :
    literalBody n true (g ++ t) = g ++ literalBody n true t := by
  induction g with
  | nil => rfl
  | cons b g ih =>
    rw [List.cons_append, literalBody, if_pos (hg b List.mem_cons_self),
      ih fun d hd => hg d (List.mem_cons_of_mem b hd), List.cons_append]

theorem literalBody_break {b : Char} (hb : isBreak b = true) (fresh : Bool) (t : List Char) :
    literalBody n fresh (b :: t) = b :: literalBody n true t := by
  rw [literalBody, if_pos hb]

theorem literalBody_fresh {t : List Char} (hne : t ≠ []) (ht : StartsOutside isBreak t) :
    literalBody n true t = spaces n ++ literalBody n false t := by
  cases t with
  | nil => exact absurd rfl hne
  | cons c t =>
    have hc : isBreak c = false := ht c rfl
    simp [literalBody, hc]

theorem literalBody_newline (fresh : Bool) (t : List Char) :
    literalBody n fresh (t ++ ['\n']) = literalBody n fresh t ++ ['\n'] := by
  induction t generalizing fresh with
  | nil => exact literalBody_break n (by decide) fresh []
  | cons c t ih =>
    rw [List.cons_append, literalBody, literalBody]
    split
    · rw [ih, List.cons_append]
    · rw [ih, List.append_assoc, List.cons_append]

theorem startsOutside_literalBody {t : List Char} (hne : t ≠ []) (ht : StartsOutside isBreak t)
    (rest : List Char) : StartsOutside isBreak (literalBody n false t ++ rest) := by
  cases t with
  | nil => exact absurd rfl hne
  | cons c t =>
    have hc : isBreak c = false := ht c rfl
    rw [literalBody, if_neg (by simp [hc]), if_neg Bool.false_ne_true]
    exact startsOutside_cons hc _

end

/-! ## Empty lines -/

theorem Cursor.drop_zero (c : Cursor) : c.drop 0 = c := rfl

theorem Cursor.rest_drop_spaces {k : Nat} {c : Cursor} {t : List Char}
    (hc : c.rest = spaces k ++ t) : (c.drop k).rest = t := by
  rw [drop, hc]
  exact List.drop_left' List.length_replicate

/-- A break at the start of a line. -/
theorem takeEmptyLines_cons (indent : Option Nat) (deepest : Nat) {b : Char} {cs : List Char}
    {c : Cursor} (hbreak : isBreak b = true) (hprint : isPrintable b = true)
    (hc : c.rest = b :: cs) :
    takeEmptyLines indent deepest c =
      (takeEmptyLines indent (max deepest c.column) c.takeBreak.2).map
        fun (breaks, column, after) => (b :: breaks, column, after) := by
  have hblank := isBlank_eq_false_of_isBreak hbreak
  rw [isBlank, Bool.or_eq_false_iff] at hblank
  have hrun : (c.rest.takeWhile (· == ' ')).length = 0 := by
    rw [hc, List.takeWhile_cons, if_neg (by simp [hblank.1])]
    rfl
  have hsees : c.sees isBreak = true := by
    rw [Cursor.sees, hc]
    exact hbreak
  have htab : c.sees (· == '\t') = false := by
    rw [Cursor.sees, hc]
    exact hblank.2
  rw [takeEmptyLines.eq_def]
  simp only [hrun, Nat.min_zero, Cursor.drop_zero, htab, hsees, Bool.and_false, dite_true,
    Bool.false_eq_true, if_false, Cursor.takeBreak_of_isPrintable hc hbreak hprint]
  rfl

/-- The room for spaces of indentation. -/
def indentRoom (indent : Option Nat) (c : Cursor) : Nat :=
  indent.elim c.rest.length (· - c.column)

/-- A line that is not empty, or what stands in place of one. -/
theorem takeEmptyLines_stop {indent : Option Nat} (deepest : Nat) {k : Nat} {t : List Char}
    {c : Cursor} (hc : c.rest = spaces k ++ t) (ht : StartsOutside isBreak t)
    (hk : min (indentRoom indent c) (c.rest.takeWhile (· == ' ')).length = k)
    (htab : (indent.all (c.column + k < ·) && t.head?.any (· == '\t')) = false) :
    takeEmptyLines indent deepest c = some ([], max deepest (c.column + k), c.drop k) := by
  have hrest : (c.drop k).rest = t := Cursor.rest_drop_spaces hc
  have hsees : (c.drop k).sees isBreak = false := Cursor.sees_eq_false (by rw [hrest]; exact ht)
  have htab' : (indent.all (c.column + k < ·) && (c.drop k).sees (· == '\t')) = false := by
    rw [Cursor.sees, hrest]
    exact htab
  have hcolumn : (c.drop k).column = c.column + k := rfl
  rw [takeEmptyLines.eq_def]
  cases indent
  all_goals
    dsimp only [indentRoom, Option.elim] at hk ⊢
    simp only [hk, hcolumn]
    rw [if_neg (by rw [htab']; exact Bool.false_ne_true),
      dif_neg (by rw [hsees]; exact Bool.false_ne_true)]

theorem takeWhile_space_of_startsOutside {t : List Char} (ht : StartsOutside isSpacing t) :
    t.takeWhile (· == ' ') = [] ∧ t.head?.any (· == '\t') = false := by
  cases t with
  | nil => exact ⟨rfl, rfl⟩
  | cons c t =>
    have hc := isBlank_eq_false (ht c rfl)
    rw [isBlank, Bool.or_eq_false_iff] at hc
    exact ⟨by rw [List.takeWhile_cons, if_neg (by rw [hc.1]; exact Bool.false_ne_true)], hc.2⟩

/-- Where the indentation is known, empty lines end before an indented line, whatever it starts
    with, and before a line that starts without spacing. -/
theorem takeEmptyLines_run {n k : Nat} {g t : List Char}
    (hg : ∀ b ∈ g, isBreak b = true ∧ isPrintable b = true) (ht : StartsOutside isBreak t)
    (hk : k = n ∨ k = 0 ∧ StartsOutside isSpacing t) (deepest : Nat) {c : Cursor}
    (hcolumn : c.column = 0) (hc : c.rest = g ++ (spaces k ++ t)) :
    ∃ d c', takeEmptyLines (some n) deepest c = some (g, d, c') ∧ c'.rest = t ∧ c'.column = k := by
  induction g generalizing c deepest with
  | nil =>
    rw [List.nil_append] at hc
    have hroom : min (indentRoom (some n) c) (c.rest.takeWhile (· == ' ')).length = k := by
      rw [hc, indentRoom, Option.elim, hcolumn, Nat.sub_zero]
      rcases hk with rfl | ⟨rfl, hout⟩
      · rw [spaces, List.takeWhile_append_of_pos (by simp), List.length_append,
          List.length_replicate]
        omega
      · rw [spaces, List.replicate_zero, List.nil_append,
          (takeWhile_space_of_startsOutside hout).1, List.length_nil, Nat.min_zero]
    have htab : ((some n).all (c.column + k < ·) && t.head?.any (· == '\t')) = false := by
      rcases hk with rfl | ⟨rfl, hout⟩
      · simp [hcolumn]
      · rw [(takeWhile_space_of_startsOutside hout).2, Bool.and_false]
    refine ⟨_, _, takeEmptyLines_stop deepest hc ht hroom htab, Cursor.rest_drop_spaces hc, ?_⟩
    rw [Cursor.drop, hcolumn, Nat.zero_add]
  | cons b g ih =>
    obtain ⟨hbreak, hprint⟩ := hg b List.mem_cons_self
    have hnext := Cursor.takeBreak_of_isPrintable hc hbreak hprint
    obtain ⟨d, c', htake, hend⟩ := @ih (fun e he => hg e (List.mem_cons_of_mem b he))
      (max deepest c.column) c.takeBreak.2 (by rw [hnext]) (by rw [hnext]; rfl)
    refine ⟨d, c', ?_, hend⟩
    rw [takeEmptyLines_cons _ _ hbreak hprint hc, htake, Option.map_some]

/-! ## Lines -/

/-- A line of a literal block and the empty lines after it. -/
theorem takeBlockLines_line {n k : Nat} {w g t : List Char} {b : Char}
    (lastBreak emptyLines : List Char) (blankStart : Bool) {c : Cursor}
    (hw : ∀ d ∈ w, isBreak d = false)
    (hg : ∀ d ∈ b :: g, isBreak d = true ∧ isPrintable d = true) (ht : StartsOutside isBreak t)
    (hk : k = n ∨ k = 0 ∧ StartsOutside isSpacing t) (hcolumn : c.column = n)
    (hc : c.rest = w ++ b :: (g ++ (spaces k ++ t))) :
    ∃ next, next.rest = t ∧ next.column = k ∧
      takeBlockLines false n lastBreak emptyLines blankStart c =
        (takeBlockLines false n [b] g (c.sees isBlank) next).map fun more =>
          { more with text := lastBreak ++ emptyLines ++ w ++ more.text } := by
  have hstop : StartsOutside (!isBreak ·) (b :: (g ++ (spaces k ++ t))) :=
    startsOutside_cons (by rw [(hg b List.mem_cons_self).1]; rfl) _
  obtain ⟨hline, hafter⟩ := @takeWhile_run (!isBreak ·) w _ (fun d hd => by rw [hw d hd]; rfl) hstop
  have hat : (c.takeWhile (!isBreak ·)).2.rest = b :: (g ++ (spaces k ++ t)) := by
    rw [Cursor.takeWhile, hc]
    exact hafter
  have hbreak := Cursor.takeBreak_of_isPrintable hat (hg b List.mem_cons_self).1
    (hg b List.mem_cons_self).2
  obtain ⟨d, next, htake, hrest, hnext⟩ :=
    takeEmptyLines_run (fun e he => hg e (List.mem_cons_of_mem b he)) ht hk 0
      (c := (c.takeWhile (!isBreak ·)).2.takeBreak.2) (by rw [hbreak]) (by rw [hbreak])
  have hmore : (c.column = n && c.rest != []) = true := by
    rw [hc]
    simp [hcolumn]
  have hlt : next.rest.length < c.rest.length := by
    rw [hrest, hc]
    simp only [List.length_append, List.length_cons]
    omega
  refine ⟨next, hrest, hnext, ?_⟩
  rw [takeBlockLines, if_pos hmore]
  dsimp only
  rw [htake]
  dsimp only
  rw [if_pos hlt, hbreak]
  simp [blockJoint, Cursor.takeWhile, hc, hline]

/-- A text between breaks, and the lines of a block that hold it. -/
theorem takeBlockLines_run {n : Nat} (hn : 0 < n) {b : Char} {bs rest : List Char}
    (hbs : ∀ d ∈ b :: bs, isBreak d = true ∧ isPrintable d = true)
    (hrest : StartsOutside isSpacing rest) (cs : List Char)
    (hprint : ∀ d ∈ cs, isPrintable d = true)
    (hlast : ∃ d ∈ cs.getLast?, isBreak d = false) (lastBreak emptyLines : List Char)
    (blankStart : Bool) {c : Cursor} (hcolumn : c.column = n)
    (hc : c.rest = literalBody n false (cs ++ b :: bs) ++ rest) :
    ∃ c', takeBlockLines false n lastBreak emptyLines blankStart c =
        some ⟨lastBreak ++ emptyLines ++ cs, [b], bs, c'⟩ ∧ c'.rest = rest ∧ c'.column = 0 := by
  induction cs using runs_induction isBreak generalizing lastBreak emptyLines blankStart c with
  | word w hw =>
    have hbody : literalBody n false (w ++ b :: bs) = w ++ b :: (bs ++ []) := by
      have htail := literalBody_breaks n (fun d hd => (hbs d (List.mem_cons_of_mem b hd)).1) []
      rw [List.append_nil] at htail
      rw [literalBody_word n hw, literalBody_break n (hbs b List.mem_cons_self).1, htail]
      rfl
    have hstop : StartsOutside isBreak rest := fun d hd => isBreak_eq_false (hrest d hd)
    obtain ⟨next, hnext, hzero, hline⟩ :=
      takeBlockLines_line lastBreak emptyLines blankStart hw hbs hstop (Or.inr ⟨rfl, hrest⟩) hcolumn
        (by rw [hc, hbody]; simp [spaces])
    refine ⟨next, ?_, hnext, hzero⟩
    rw [hline, takeBlockLines, if_neg (by simp; omega), Option.map_some, List.append_nil]
  | gap w g t hw hne hg ht ih =>
    obtain ⟨e, g, rfl⟩ := List.exists_cons_of_ne_nil hne
    have hmore : t ≠ [] ∧ ∃ d ∈ t.getLast?, isBreak d = false := by
      obtain ⟨d, hd, hbreak⟩ := hlast
      rw [← List.append_assoc, List.getLast?_append] at hd
      cases hlastOf : t.getLast? with
      | none =>
        rw [hlastOf, Option.none_or, List.getLast?_append, List.getLast?_eq_some_getLast hne,
          Option.some_or] at hd
        obtain rfl := Option.some.inj hd
        exact absurd (hg _ (List.getLast_mem hne)) (by rw [hbreak]; exact Bool.false_ne_true)
      | some f =>
        rw [hlastOf, Option.some_or] at hd
        obtain rfl := Option.some.inj hd
        exact ⟨List.ne_nil_of_mem (List.mem_of_getLast? hlastOf), f, rfl, hbreak⟩
    have hprintOf : ∀ d ∈ e :: g, isBreak d = true ∧ isPrintable d = true := fun d hd =>
      ⟨hg d hd, hprint d (by simp only [List.mem_append]; exact Or.inr (Or.inl hd))⟩
    have hstart : t ++ b :: bs ≠ [] ∧ StartsOutside isBreak (t ++ b :: bs) := by
      obtain ⟨d, t, rfl⟩ := List.exists_cons_of_ne_nil hmore.1
      exact ⟨List.cons_ne_nil _ _, startsOutside_cons (ht d rfl) _⟩
    have hbody : literalBody n false (w ++ (e :: g ++ t) ++ b :: bs) =
        w ++ e :: (g ++ (spaces n ++ literalBody n false (t ++ b :: bs))) := by
      rw [List.append_assoc, literalBody_word n hw, List.cons_append, List.cons_append,
        literalBody_break n (hg e List.mem_cons_self), List.append_assoc,
        literalBody_breaks n fun d hd => hg d (List.mem_cons_of_mem e hd),
        literalBody_fresh n hstart.1 hstart.2]
    have hstop := startsOutside_literalBody n hstart.1 hstart.2 rest
    obtain ⟨next, hnext, hcolumn', hline⟩ :=
      takeBlockLines_line lastBreak emptyLines blankStart hw hprintOf hstop (Or.inl rfl) hcolumn
        (by rw [hc, hbody]; simp)
    obtain ⟨c', hlines, hend⟩ := @ih (fun d hd => hprint d (by simp [hd])) hmore.2 [e] g
      (c.sees isBlank) next hcolumn' hnext
    refine ⟨c', ?_, hend⟩
    rw [hline, hlines, Option.map_some]
    simp

/-! ## The line of the bar -/

/-- The sign for a way to treat the breaks at the end. -/
def Chomp.sign : Chomp → List Char
  | .strip => ['-']
  | .clip => []
  | .keep => ['+']

/-- How a text that ends with these breaks treats them: it takes a break to end a text without one,
    and one break is what a block ends with anyway. -/
def Chomp.ofBreaks : List Char → Chomp
  | [] => .strip
  | [_] => .clip
  | _ => .keep

/-- The sign in the hints of a text. -/
def endSign (cs : List Char) : List Char :=
  match cs.reverse with
  | [] => ['-']
  | [c] => if isBreak c then ['+'] else ['-']
  | c :: d :: _ => if !isBreak c then ['-'] else if isBreak d then ['+'] else []

theorem exists_cons_cons_reverse (b e : Char) (bs : List Char) :
    ∃ x y ys, (b :: e :: bs).reverse = x :: y :: ys ∧ x ∈ b :: e :: bs ∧ y ∈ b :: e :: bs := by
  have hlen : (b :: e :: bs).reverse.length = bs.length + 2 := List.length_reverse
  have hmem : ∀ x ∈ (b :: e :: bs).reverse, x ∈ b :: e :: bs := fun x hx => List.mem_reverse.mp hx
  match (b :: e :: bs).reverse, hlen, hmem with
  | x :: y :: ys, _, hmem => exact ⟨x, y, ys, rfl, hmem x (by simp), hmem y (by simp)⟩

theorem endSign_append {cs bs : List Char} (hcs : ∃ d ∈ cs.getLast?, isBreak d = false)
    (hbs : ∀ b ∈ bs, isBreak b = true) : endSign (cs ++ bs) = (Chomp.ofBreaks bs).sign := by
  obtain ⟨d, hd, hbreak⟩ := hcs
  obtain ⟨ds, hds⟩ : ∃ ds, cs.reverse = d :: ds := by
    rw [List.getLast?_eq_head?_reverse] at hd
    exact List.head?_eq_some_iff.mp hd
  rw [endSign, List.reverse_append, hds]
  match bs, hbs with
  | [], _ => cases ds <;> simp [hbreak, Chomp.ofBreaks, Chomp.sign]
  | [b], hbs => simp [hbs b, hbreak, Chomp.ofBreaks, Chomp.sign]
  | b :: e :: bs, hbs =>
    obtain ⟨x, y, ys, hys, hx, hy⟩ := exists_cons_cons_reverse b e bs
    rw [hys]
    simp [hbs x hx, hbs y hy, Chomp.ofBreaks, Chomp.sign]

theorem endSign_breaks {b : Char} {bs : List Char} (hbs : ∀ d ∈ b :: bs, isBreak d = true) :
    endSign (b :: bs) = Chomp.keep.sign := by
  match bs, hbs with
  | [], hbs => simp [endSign, hbs b, Chomp.sign]
  | e :: bs, hbs =>
    obtain ⟨x, y, ys, hys, hx, hy⟩ := exists_cons_cons_reverse b e bs
    rw [endSign, hys]
    simp [hbs x hx, hbs y hy, Chomp.sign]

theorem blockSigns_sign (chomp : Chomp) (cs : List Char) :
    blockSigns (chomp.sign ++ '\n' :: cs) = some (chomp, 0, '\n' :: cs) ∧
      blockSigns ('2' :: chomp.sign ++ '\n' :: cs) = some (chomp, 2, '\n' :: cs) := by
  cases chomp <;> exact ⟨rfl, rfl⟩

theorem takeLineEnd_newline {c : Cursor} {w cs : List Char} (hc : c.rest = w ++ '\n' :: cs) :
    ∃ c', takeLineEnd (c.moveTo ('\n' :: cs)) = some c' ∧ c'.rest = cs ∧ c'.column = 0 := by
  have hmoved : (c.moveTo ('\n' :: cs)).rest = '\n' :: cs := by
    rw [Cursor.moveTo, Cursor.drop, hc, List.length_append, Nat.add_sub_cancel]
    exact List.drop_left' rfl
  have hskip : ((c.moveTo ('\n' :: cs)).skipWhile isBlank).rest = '\n' :: cs := by
    rw [Cursor.skipWhile, Cursor.takeWhile, hmoved, List.dropWhile_cons, if_neg (by decide)]
  have hcomment : ((c.moveTo ('\n' :: cs)).skipWhile isBlank).skipComment =
      (c.moveTo ('\n' :: cs)).skipWhile isBlank := by
    rw [Cursor.skipComment, Cursor.sees, hskip]
    rfl
  have hbreak := Cursor.takeBreak_of_isPrintable hskip (by decide) (by decide)
  refine ⟨((c.moveTo ('\n' :: cs)).skipWhile isBlank).takeBreak.2, ?_, by rw [hbreak],
    by rw [hbreak]⟩
  rw [takeLineEnd, hcomment, hskip, if_neg (List.cons_ne_nil _ _), Cursor.sees, hskip,
    List.head?_cons, Option.any_some, if_pos (by decide)]

/-! ## Reading a block -/

/-- A text is nothing but breaks, or has breaks around a part that neither starts nor ends with
    one. -/
theorem exists_breaks_around (cs : List Char) : (∀ c ∈ cs, isBreak c = true) ∨
    ∃ g body bs, cs = g ++ (body ++ bs) ∧ (∀ b ∈ g, isBreak b = true) ∧
      (∀ b ∈ bs, isBreak b = true) ∧ body ≠ [] ∧ StartsOutside isBreak body ∧
      ∃ d ∈ body.getLast?, isBreak d = false := by
  have hsplit := @List.takeWhile_append_dropWhile _ isBreak cs
  have hlead : ∀ b ∈ cs.takeWhile isBreak, isBreak b = true := fun b hb =>
    List.all_eq_true.mp List.all_takeWhile b hb
  cases hrest : cs.dropWhile isBreak with
  | nil =>
    rw [hrest, List.append_nil] at hsplit
    rw [hsplit] at hlead
    exact Or.inl hlead
  | cons c r =>
    have hc : isBreak c = false := startsOutside_dropWhile isBreak cs c (by rw [hrest]; rfl)
    have hback := @List.takeWhile_append_dropWhile _ isBreak (c :: r).reverse
    cases hbody : (c :: r).reverse.dropWhile isBreak with
    | nil =>
      rw [hbody, List.append_nil] at hback
      have hmem : c ∈ (c :: r).reverse.takeWhile isBreak := by
        rw [hback]
        simp
      exact absurd (List.all_eq_true.mp List.all_takeWhile c hmem) (by simp [hc])
    | cons d ds =>
      have hd : isBreak d = false :=
        startsOutside_dropWhile isBreak (c :: r).reverse d (by rw [hbody]; rfl)
      have hparts : c :: r = (d :: ds).reverse ++ ((c :: r).reverse.takeWhile isBreak).reverse := by
        rw [← List.reverse_append, ← hbody, hback, List.reverse_reverse]
      have hne : (d :: ds).reverse ≠ [] := by simp
      refine Or.inr ⟨cs.takeWhile isBreak, (d :: ds).reverse,
        ((c :: r).reverse.takeWhile isBreak).reverse, ?_, hlead, ?_, hne, ?_, ?_⟩
      · rw [← hparts, ← hrest, hsplit]
      · intro b hb
        exact List.all_eq_true.mp List.all_takeWhile b (List.mem_reverse.mp hb)
      · intro e he
        have hhead := congrArg List.head? hparts
        rw [List.head?_cons, List.head?_append, Option.mem_def.mp he, Option.some_or] at hhead
        rw [← Option.some.inj hhead]
        exact hc
      · exact ⟨d, by simp, hd⟩

/-- What is left of the breaks at the end. -/
def Chomp.ending (lastBreak emptyLines : List Char) : Chomp → List Char
  | .strip => []
  | .clip => lastBreak
  | .keep => lastBreak ++ emptyLines

/-- The text of a block in a mapping at the start of the line, from what its lines hold. -/
theorem takeBlock_of_lines {c c₀ c₁ : Cursor} {chomp : Chomp} {digit deepest : Nat}
    {signed breaks : List Char} {lines : BlockLines}
    (hsigns : blockSigns c.rest = some (chomp, digit, signed))
    (hend : takeLineEnd (c.moveTo signed) = some c₀)
    (hempty : takeEmptyLines (if digit = 0 then none else some digit) 0 c₀ =
      some (breaks, deepest, c₁))
    (hindent : (if digit = 0 then none else some digit).getD (max deepest 1) = 2)
    (hlines : takeBlockLines false 2 [] breaks false c₁ = some lines) :
    takeBlock false 0 c =
      some (lines.text ++ chomp.ending lines.lastBreak lines.emptyLines, lines.after) := by
  have hdigit : (if digit = 0 then none else some ((0 : Int).toNat + digit)) =
      if digit = 0 then none else some digit := by
    rw [Int.toNat_zero, Nat.zero_add]
  have hmax : max ((0 : Int) + 1).toNat 1 = 1 := rfl
  rw [takeBlock, hsigns]
  simp only [Option.bind_eq_bind, Option.bind_some, hend, hdigit, hempty, hmax, hindent, hlines]
  cases chomp <;> rfl

/-- The digit that gives the indentation, where the first line does not show it. -/
def indentHint (cs : List Char) : Nat :=
  if cs.head?.any (fun c => c == ' ' || isBreak c) then 2 else 0

theorem literalHints_eq (cs : List Char) :
    literalHints cs = (if indentHint cs = 0 then [] else ['2']) ++ endSign cs := by
  unfold literalHints indentHint
  split <;> rfl

/-- The empty lines at the start of a block, before an indented line. -/
theorem takeEmptyLines_start {g t : List Char}
    (hg : ∀ b ∈ g, isBreak b = true ∧ isPrintable b = true) (hne : t ≠ [])
    (hprint : ∀ d ∈ t.head?, isPrintable d = true) (ht : StartsOutside isBreak t)
    {c : Cursor} (hcolumn : c.column = 0) (hc : c.rest = g ++ (spaces 2 ++ t)) :
    ∃ deepest c', takeEmptyLines
        (if indentHint (g ++ t) = 0 then none else some (indentHint (g ++ t))) 0 c =
          some (g, deepest, c') ∧
      (if indentHint (g ++ t) = 0 then none else some (indentHint (g ++ t))).getD (max deepest 1) =
        2 ∧
      c'.rest = t ∧ c'.column = 2 := by
  obtain ⟨d, t, rfl⟩ := List.exists_cons_of_ne_nil hne
  rcases Bool.eq_false_or_eq_true ((g ++ d :: t).head?.any fun c => c == ' ' || isBreak c) with
    hhint | hhint
  · have hdigit : indentHint (g ++ d :: t) = 2 := by rw [indentHint, hhint, if_pos rfl]
    obtain ⟨deepest, c', htake, hrest, hcolumn'⟩ :=
      takeEmptyLines_run hg ht (Or.inl rfl) 0 hcolumn hc
    rw [hdigit]
    exact ⟨deepest, c', htake, rfl, hrest, hcolumn'⟩
  · have hdigit : indentHint (g ++ d :: t) = 0 := by
      rw [indentHint, hhint, if_neg Bool.false_ne_true]
    -- no break and no space stands first, so the first line shows its indentation
    cases g with
    | cons b g =>
      rw [List.cons_append, List.head?_cons, Option.any_some, (hg b List.mem_cons_self).1,
        Bool.or_true] at hhint
      exact absurd hhint.symm Bool.false_ne_true
    | nil =>
      rw [List.nil_append, List.head?_cons, Option.any_some, Bool.or_eq_false_iff] at hhint
      have hblank : isBlank d = false := by
        refine eq_false_of_ne_true fun h => ?_
        rw [eq_space_of_isPrintable h (hprint d rfl)] at hhint
        exact absurd hhint.1 (by decide)
      have hspaces : c.rest.takeWhile (· == ' ') = spaces 2 := by
        have hall : ∀ e ∈ spaces 2, (e == ' ') = true := by simp [spaces]
        have hstop := startsOutside_cons (p := (· == ' ')) hhint.1 t
        rw [hc]
        exact (takeWhile_run hall hstop).1
      have hroom : min (indentRoom none c) (c.rest.takeWhile (· == ' ')).length = 2 := by
        rw [hspaces, indentRoom, Option.elim, hc]
        simp [spaces]
      have htab : ((none : Option Nat).all (c.column + 2 < ·) &&
          (d :: t).head?.any (· == '\t')) = false := by
        rw [isBlank, Bool.or_eq_false_iff] at hblank
        simpa using hblank.2
      have htake := takeEmptyLines_stop 0 hc ht hroom htab
      rw [hdigit, if_pos rfl, htake, hcolumn]
      exact ⟨_, _, rfl, rfl, Cursor.rest_drop_spaces hc, by rw [Cursor.drop, hcolumn]⟩

theorem blockSigns_hints {cs ds rest : List Char} {chomp : Chomp} (h : endSign cs = chomp.sign)
    (hds : ds = literalHints cs ++ '\n' :: rest) :
    blockSigns ds = some (chomp, indentHint cs, '\n' :: rest) := by
  rw [hds, literalHints_eq, h]
  unfold indentHint
  split
  · exact (blockSigns_sign chomp rest).2
  · exact (blockSigns_sign chomp rest).1

/-- A text of nothing but breaks is read back from its block. -/
theorem takeBlock_breaks {cs rest : List Char} (hne : cs ≠ [])
    (hcs : ∀ d ∈ cs, isBreak d = true ∧ isPrintable d = true) (hrest : StartsOutside isSpacing rest)
    {c : Cursor} (hc : c.rest = literalHints cs ++ '\n' :: (cs ++ rest)) :
    ∃ c', takeBlock false 0 c = some (cs, c') ∧ c'.rest = rest ∧ c'.column = 0 := by
  obtain ⟨b, bs, rfl⟩ := List.exists_cons_of_ne_nil hne
  obtain ⟨c₀, hend, hstart, hcolumn⟩ := takeLineEnd_newline hc
  have hsigns : blockSigns c.rest = some (.keep, 2, '\n' :: (b :: bs ++ rest)) := by
    have hdigit : indentHint (b :: bs) = 2 := by
      simp [indentHint, (hcs b List.mem_cons_self).1]
    rw [blockSigns_hints (endSign_breaks fun d hd => (hcs d hd).1) hc, hdigit]
  obtain ⟨deepest, c₁, hempty, hafter, hzero⟩ := takeEmptyLines_run (n := 2) (k := 0) hcs
    (fun d hd => isBreak_eq_false (hrest d hd)) (Or.inr ⟨rfl, hrest⟩) 0 hcolumn hstart
  have hlines : takeBlockLines false 2 [] (b :: bs) false c₁ = some ⟨[], [], b :: bs, c₁⟩ := by
    rw [takeBlockLines, if_neg (by simp [hzero])]
  exact ⟨c₁, takeBlock_of_lines hsigns hend hempty rfl hlines, hafter, hzero⟩

/-- The breaks that a block shows for those at the end of its text, and what is left of them. -/
theorem exists_shown_breaks {bs : List Char}
    (hbs : ∀ b ∈ bs, isBreak b = true ∧ isPrintable b = true) :
    ∃ b es, bs ++ (if bs = [] then ['\n'] else []) = b :: es ∧
      (Chomp.ofBreaks bs).ending [b] es = bs ∧
      ∀ d ∈ b :: es, isBreak d = true ∧ isPrintable d = true := by
  match bs, hbs with
  | [], _ => exact ⟨'\n', [], rfl, rfl, by simp; decide⟩
  | [b], hbs => exact ⟨b, [], rfl, rfl, hbs⟩
  | b :: e :: bs, hbs => exact ⟨b, e :: bs, by simp, rfl, hbs⟩

section

variable {g body bs : List Char} (hbody : body ≠ []) (hhead : StartsOutside isBreak body)

include hbody hhead

/-- What a block shows of a text that has breaks around its lines. -/
theorem literalBody_around (hg : ∀ b ∈ g, isBreak b = true) {b : Char} {es : List Char}
    (hshown : bs ++ (if bs = [] then ['\n'] else []) = b :: es) (rest : List Char) :
    literalBody 2 true (g ++ (body ++ bs)) ++ ((if bs = [] then ['\n'] else []) ++ rest) =
      g ++ (spaces 2 ++ (literalBody 2 false (body ++ b :: es) ++ rest)) := by
  have hstart : body ++ bs ≠ [] ∧ StartsOutside isBreak (body ++ bs) := by
    obtain ⟨d, body, rfl⟩ := List.exists_cons_of_ne_nil hbody
    exact ⟨List.cons_ne_nil _ _, startsOutside_cons (hhead d rfl) _⟩
  have hclosed : literalBody 2 false (body ++ bs) ++ (if bs = [] then ['\n'] else []) =
      literalBody 2 false (body ++ b :: es) := by
    rw [← hshown]
    split
    · rename_i hnil
      rw [hnil, List.append_nil, List.nil_append, literalBody_newline]
    · rw [List.append_nil, List.append_nil]
  rw [literalBody_breaks 2 hg, literalBody_fresh 2 hstart.1 hstart.2, ← hclosed]
  simp only [List.append_assoc]

/-- The indentation shows, or is given, by what the text starts with. -/
theorem head?_around (u v : List Char) :
    (literalBody 2 false (body ++ u) ++ v).head? = body.head? ∧
      indentHint (g ++ (literalBody 2 false (body ++ u) ++ v)) =
        indentHint (g ++ (body ++ bs)) := by
  obtain ⟨d, body, rfl⟩ := List.exists_cons_of_ne_nil hbody
  have hd : isBreak d = false := hhead d rfl
  have hlines : literalBody 2 false (d :: body ++ u) = d :: literalBody 2 false (body ++ u) := by
    rw [List.cons_append, literalBody, if_neg (by simp [hd]), if_neg Bool.false_ne_true]
    rfl
  rw [hlines]
  refine ⟨rfl, ?_⟩
  cases g <;> rfl

omit hbody hhead in
/-- A line break ends a text that has none at its end. -/
theorem closing_around (hlast : ∃ d ∈ body.getLast?, isBreak d = false)
    (hbs : ∀ b ∈ bs, isBreak b = true) :
    (if (g ++ (body ++ bs)).getLast?.any isBreak then [] else ['\n']) =
      if bs = [] then ['\n'] else [] := by
  obtain ⟨d, hd, hbreak⟩ := hlast
  rw [← List.append_assoc, List.getLast?_append]
  cases hend : bs.getLast? with
  | none =>
    rw [List.getLast?_eq_none_iff] at hend
    rw [if_pos hend, Option.none_or, List.getLast?_append, Option.mem_def.mp hd, Option.some_or,
      Option.any_some, hbreak, if_neg Bool.false_ne_true]
  | some e =>
    have hmem := List.mem_of_getLast? hend
    rw [if_neg (List.ne_nil_of_mem hmem), Option.some_or, Option.any_some, hbs e hmem, if_pos rfl]

end

/-- A text is read back from its literal block. -/
theorem takeBlock_literal {cs rest : List Char} (hne : cs ≠ [])
    (hprint : ∀ d ∈ cs, isPrintable d = true) (hrest : StartsOutside isSpacing rest) {c : Cursor}
    (hc : c.rest = literalHints cs ++ '\n' :: (literalBody 2 true cs ++
      ((if cs.getLast?.any isBreak then [] else ['\n']) ++ rest))) :
    ∃ c', takeBlock false 0 c = some (cs, c') ∧ c'.rest = rest ∧ c'.column = 0 := by
  rcases exists_breaks_around cs with hall | ⟨g, body, bs, rfl, hg, hbs, hbody, hhead, hlast⟩
  · have hlines : literalBody 2 true cs = cs := by
      have hbody := literalBody_breaks 2 hall []
      rwa [List.append_nil, literalBody, List.append_nil] at hbody
    have hend : cs.getLast?.any isBreak = true := by
      rw [List.getLast?_eq_some_getLast hne]
      exact hall _ (List.getLast_mem hne)
    rw [hlines, hend, if_pos rfl, List.nil_append] at hc
    exact takeBlock_breaks hne (fun d hd => ⟨hall d hd, hprint d hd⟩) hrest hc
  · obtain ⟨b, es, hshown, hending, hes⟩ := exists_shown_breaks fun b hb =>
      ⟨hbs b hb, hprint b (by simp [hb])⟩
    rw [closing_around hlast hbs, literalBody_around hbody hhead hg hshown] at hc
    obtain ⟨c₀, hend, hstart, hcolumn⟩ := takeLineEnd_newline hc
    obtain ⟨hfirst, hhint⟩ := @head?_around g body bs hbody hhead (b :: es) rest
    have hfirst' : ∀ d ∈ (literalBody 2 false (body ++ b :: es) ++ rest).head?,
        isPrintable d = true ∧ isBreak d = false := by
      rw [hfirst]
      exact fun d hd => ⟨hprint d (by simp [List.mem_of_mem_head? hd]), hhead d hd⟩
    have hne' : literalBody 2 false (body ++ b :: es) ++ rest ≠ [] := by
      intro hnil
      rw [hnil, List.head?_nil] at hfirst
      exact hbody (List.head?_eq_none_iff.mp hfirst.symm)
    obtain ⟨deepest, c₁, hempty, hindent, hafter, htwo⟩ := takeEmptyLines_start
      (fun d hd => ⟨hg d hd, hprint d (by simp [hd])⟩) hne' (fun d hd => (hfirst' d hd).1)
      (fun d hd => (hfirst' d hd).2) hcolumn hstart
    rw [hhint] at hempty hindent
    obtain ⟨c', hlines, hrest', hzero⟩ := takeBlockLines_run (by decide) hes hrest body
      (fun d hd => hprint d (by simp [hd])) hlast [] g false htwo hafter
    have hsign : endSign (g ++ (body ++ bs)) = (Chomp.ofBreaks bs).sign := by
      obtain ⟨d, hd, hbreak⟩ := hlast
      rw [← List.append_assoc]
      refine endSign_append ⟨d, ?_, hbreak⟩ hbs
      rw [List.getLast?_append, Option.mem_def.mp hd, Option.some_or]
      rfl
    have hsigns := blockSigns_hints hsign hc
    refine ⟨c', ?_, hrest', hzero⟩
    rw [takeBlock_of_lines hsigns hend hempty hindent hlines]
    dsimp only
    rw [hending, List.nil_append, List.append_assoc]

end AskSheet.Yaml
