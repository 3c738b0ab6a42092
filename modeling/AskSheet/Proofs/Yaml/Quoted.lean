/-
  Scalars between quotes that were written. `Quotes` relates a text to what stands for it between
  the quotes: words that are read as one piece, and the gaps between them. What is so related is
  read back (`takeQuoted_of_quotes`). Between single quotes stands every text that may be written
  so (`quotes_singleBody`), between double quotes every text (`quotes_double`).
-/
import AskSheet.Proofs.Text.Numeral
import AskSheet.Proofs.Yaml.Spacing

namespace AskSheet.Yaml

open Text

/-- Spacing, or the closing quote at the end of its line. -/
inductive EndsPiece (quote : Char) : List Char → Prop
  | spacing {d : Char} {ds : List Char} : isSpacing d = true → EndsPiece quote (d :: ds)
  | closing {ds : List Char} : EndsPiece quote (quote :: '\n' :: ds)

/-- The characters `v` are read as the word `w` before anything that ends a piece. -/
def ReadsWord (quote : Char) (piece : List Char → Option Piece) (w v : List Char) : Prop :=
  ∀ ds, EndsPiece quote ds → piece (v ++ ds) = some ⟨w, v.length, false⟩

/-- Blanks, or breaks before a line that is indented by `n`. -/
def IsGap (g : List Char) (n : Nat) : Prop :=
  ((∀ b ∈ g, isBlank b = true) ∧ n = 0) ∨
    ((∀ b ∈ g, isBreak b = true ∧ isPrintable b = true ∧ b ≠ '\n') ∧ 0 < n)

/-- A text and what stands for it between quotes. -/
inductive Quotes (reads : List Char → List Char → Prop) : List Char → List Char → Prop
  | word {w v : List Char} : reads w v → Quotes reads w v
  | gap {w v g t body : List Char} {n : Nat} : reads w v → g ≠ [] → IsGap g n →
      StartsOutside isSpacing body → Quotes reads t body →
      Quotes reads (w ++ (g ++ t)) (v ++ (g ++ (spaces n ++ body)))

/-! ## Reading between quotes -/

section

variable {quote : Char} {piece : List Char → Option Piece} {c : Cursor} {w v ds : List Char}

/-- A piece right before the closing quote. -/
theorem takeQuoted_closing (hcolumn : 0 < c.column) (hc : c.rest = v ++ quote :: ds)
    (hpiece : piece c.rest = some ⟨w, v.length, false⟩) :
    ∃ c', takeQuoted quote piece c = some (w, c') ∧ c'.rest = ds := by
  refine ⟨(c.drop v.length).drop 1, ?_, ?_⟩
  · have hsees : (c.drop v.length).sees (· == quote) = true := by
      rw [Cursor.sees, Cursor.rest_drop hc]
      simp
    rw [takeQuoted, if_neg (by rw [Cursor.seesMarker_of_column hcolumn]; exact Bool.false_ne_true),
      hpiece]
    dsimp only
    rw [hsees, if_pos (by rfl)]
  · exact Cursor.rest_drop_one (Cursor.rest_drop hc)

/-- A piece before a gap. -/
theorem takeQuoted_gap {blanks breaks text : List Char} {next c' : Cursor} (hcolumn : 0 < c.column)
    (hc : c.rest = v ++ ds) (hpiece : piece c.rest = some ⟨w, v.length, false⟩)
    (hds : StartsOutside (· == quote) ds)
    (hspacing : takeSpacing 0 (c.drop v.length) = some (blanks, breaks, next))
    (hlt : next.rest.length < c.rest.length) (hne : next.rest ≠ [])
    (hnext : takeQuoted quote piece next = some (text, c')) :
    takeQuoted quote piece c = some (w ++ joint blanks breaks ++ text, c') := by
  have hsees : (c.drop v.length).sees (· == quote) = false := by
    apply Cursor.sees_eq_false
    rw [Cursor.rest_drop hc]
    exact hds
  have hmore : (next.rest.length < c.rest.length && next.rest != []) = true := by
    simp [hlt, hne]
  rw [takeQuoted, if_neg (by rw [Cursor.seesMarker_of_column hcolumn]; exact Bool.false_ne_true),
    hpiece]
  dsimp only
  rw [hsees, if_neg (by simp), hspacing]
  dsimp only
  rw [if_pos hmore, hnext, Option.map_some, if_neg Bool.false_ne_true]

end

theorem foldBreaks_of_ne {g : List Char} (h : ∀ b ∈ g, b ≠ '\n') : foldBreaks g = g := by
  cases g with
  | nil => rfl
  | cons b g =>
    have hb := h b List.mem_cons_self
    unfold foldBreaks
    split <;> simp_all

theorem IsGap.isSpacing {g : List Char} {n : Nat} (h : IsGap g n) :
    ∀ b ∈ g, isSpacing b = true := by
  intro b hb
  rcases h with ⟨hg, -⟩ | ⟨hg, -⟩
  · exact isSpacing_of_isBlank (hg b hb)
  · rw [Yaml.isSpacing, (hg b hb).1, Bool.or_true]

/-- A gap is read as it stands, without the indentation after it. -/
theorem takeSpacing_gap {g t : List Char} {n : Nat} (h : IsGap g n) (hne : g ≠ [])
    (ht : StartsOutside isSpacing t) {c : Cursor} (hcolumn : 0 < c.column)
    (hc : c.rest = g ++ (spaces n ++ t)) :
    ∃ blanks breaks c', takeSpacing 0 c = some (blanks, breaks, c') ∧ joint blanks breaks = g ∧
      c'.rest = t ∧ 0 < c'.column := by
  rcases h with ⟨hg, rfl⟩ | ⟨hg, hn⟩
  · obtain ⟨c', hspacing, hrest, hmoved⟩ := takeSpacing_blanks 0 hg ht hc
    exact ⟨g, [], c', hspacing, by rw [joint, if_pos rfl], hrest, by omega⟩
  · obtain ⟨c', hspacing, hrest, hmoved⟩ :=
      takeSpacing_breaks 0 (fun b hb => ⟨(hg b hb).1, (hg b hb).2.1⟩) hne ht hc
    refine ⟨[], g, c', hspacing, ?_, hrest, by omega⟩
    rw [joint, if_neg hne, foldBreaks_of_ne fun b hb => (hg b hb).2.2]

/-- What stands between quotes for a text is read as the text. -/
theorem takeQuoted_of_quotes {quote : Char} {piece : List Char → Option Piece}
    (hquote : isSpacing quote = false) {cs body rest : List Char}
    (h : Quotes (ReadsWord quote piece) cs body) {c : Cursor} (hcolumn : 0 < c.column)
    (hc : c.rest = body ++ quote :: '\n' :: rest) :
    ∃ c', takeQuoted quote piece c = some (cs, c') ∧ c'.rest = '\n' :: rest := by
  induction h generalizing c with
  | word hword => exact takeQuoted_closing hcolumn hc (by rw [hc]; exact hword _ .closing)
  | @gap w v g t body n hword hne hg hbody _ ih =>
    have hrest : c.rest = v ++ (g ++ (spaces n ++ (body ++ quote :: '\n' :: rest))) := by
      rw [hc, List.append_assoc, List.append_assoc, List.append_assoc]
    have hafter := Cursor.rest_drop hrest
    have houtside : StartsOutside isSpacing (body ++ quote :: '\n' :: rest) := by
      cases body with
      | nil => exact startsOutside_cons hquote _
      | cons b body => exact startsOutside_cons (hbody b rfl) _
    have hcolumn' : 0 < (c.drop v.length).column :=
      Nat.lt_of_lt_of_le hcolumn (Nat.le_add_right _ _)
    obtain ⟨blanks, breaks, next, hspacing, hjoint, hnext, hmoved⟩ :=
      takeSpacing_gap hg hne houtside hcolumn' hafter
    obtain ⟨c', htail, hend⟩ := ih hmoved hnext
    -- the gap ends the piece before it and takes at least one character
    obtain ⟨b, g, rfl⟩ := List.exists_cons_of_ne_nil hne
    have hb : isSpacing b = true := hg.isSpacing b List.mem_cons_self
    have hbquote : (b == quote) = false := by
      rw [beq_eq_false_iff_ne]
      rintro rfl
      exact Bool.false_ne_true (hquote.symm.trans hb)
    have hpiece : piece c.rest = some ⟨w, v.length, false⟩ := by
      rw [hrest]
      exact hword _ (.spacing hb)
    have hlt : next.rest.length < c.rest.length := by
      rw [hnext, hrest]
      simp only [List.length_append, List.length_cons]
      omega
    refine ⟨c', ?_, hend⟩
    rw [takeQuoted_gap hcolumn hrest hpiece (@startsOutside_cons (· == quote) b hbquote _) hspacing
      hlt (by rw [hnext]; simp) htail, hjoint, List.append_assoc]

/-! ## Single quotes -/

/-- A text with its quotes written twice. -/
def doubled (w : List Char) : List Char :=
  w.flatMap fun c => if c = '\'' then ['\'', '\''] else [c]

theorem singlePiece_of_ends {ds : List Char} (h : EndsPiece '\'' ds) :
    singlePiece ds = ⟨[], 0, false⟩ := by
  cases h with
  | @spacing d ds hd =>
    have hquote : d ≠ '\'' := by
      rintro rfl
      exact absurd hd (by decide)
    rw [singlePiece, if_pos (by simp [hd])]
    intro _ hd' _
    exact hquote hd'
  | closing => simp [singlePiece]

theorem readsWord_doubled {w : List Char} (hw : ∀ c ∈ w, isSpacing c = false) :
    ReadsWord '\'' (fun cs => some (singlePiece cs)) w (doubled w) := by
  intro ds hds
  refine congrArg some ?_
  induction w with
  | nil => exact singlePiece_of_ends hds
  | cons c w ih =>
    have htail := ih fun d hd => hw d (List.mem_cons_of_mem c hd)
    by_cases hc : c = '\''
    · subst hc
      show singlePiece ('\'' :: '\'' :: (doubled w ++ ds)) = _
      rw [singlePiece, htail]
      rfl
    · have hdoubled : doubled (c :: w) = c :: doubled w := by simp [doubled, hc]
      rw [hdoubled, List.cons_append, singlePiece,
        if_neg (by simp [hc, hw c List.mem_cons_self]), htail]
      · rfl
      · intro _ hc' _
        exact hc hc'

theorem singleBody_append (n : Nat) {w : List Char} (hw : ∀ c ∈ w, isBreak c = false)
    (cs : List Char) : singleBody n false (w ++ cs) = doubled w ++ singleBody n false cs := by
  induction w with
  | nil => rfl
  | cons c w ih =>
    have hc : isBreak c = false := hw c List.mem_cons_self
    rw [List.cons_append, singleBody, if_neg (by simp [hc]),
      ih fun d hd => hw d (List.mem_cons_of_mem c hd)]
    simp [doubled]

theorem singleBody_breaks (n : Nat) {g : List Char} (hg : ∀ b ∈ g, isBreak b = true) (hne : g ≠ [])
    (fresh : Bool) (cs : List Char) : singleBody n fresh (g ++ cs) = g ++ singleBody n true cs := by
  induction g generalizing fresh with
  | nil => exact absurd rfl hne
  | cons b g ih =>
    have hb : isBreak b = true := hg b List.mem_cons_self
    rw [List.cons_append, singleBody, if_pos hb]
    cases g with
    | nil => rfl
    | cons d g => rw [ih (fun e he => hg e (List.mem_cons_of_mem b he)) (List.cons_ne_nil d g)]; rfl

theorem singleBody_fresh (n : Nat) {cs : List Char} (h : StartsOutside isBreak cs) :
    singleBody n true cs = spaces n ++ singleBody n false cs := by
  cases cs with
  | nil => simp [singleBody]
  | cons c cs =>
    have hc : isBreak c = false := h c rfl
    simp [singleBody, hc]

theorem startsOutside_singleBody (n : Nat) {cs : List Char} (h : StartsOutside isSpacing cs) :
    StartsOutside isSpacing (singleBody n false cs) := by
  cases cs with
  | nil => exact startsOutside_nil
  | cons c cs =>
    have hc : isSpacing c = false := h c rfl
    rw [singleBody, if_neg (by simp [isBreak_eq_false hc]), if_neg Bool.false_ne_true]
    split
    · exact startsOutside_cons (by decide) _
    · exact startsOutside_cons hc _

theorem doubled_of_isBlank {g : List Char} (hg : ∀ c ∈ g, isBlank c = true) : doubled g = g := by
  induction g with
  | nil => rfl
  | cons c g ih =>
    have hc : c ≠ '\'' := by
      rintro rfl
      exact absurd (hg _ List.mem_cons_self) (by decide)
    have htail := ih fun d hd => hg d (List.mem_cons_of_mem c hd)
    unfold doubled at htail ⊢
    rw [List.flatMap_cons, if_neg hc, htail, List.singleton_append]

theorem anyPair_of_append {p q : Char → Bool} {cs ds : List Char}
    (h : anyPair p q (cs ++ ds) = false) : anyPair p q cs = false ∧ anyPair p q ds = false := by
  induction cs with
  | nil => exact ⟨rfl, h⟩
  | cons c cs ih =>
    rw [List.cons_append, anyPair, Bool.or_eq_false_iff] at h
    obtain ⟨hcs, hds⟩ := ih h.2
    refine ⟨?_, hds⟩
    rw [anyPair, hcs, Bool.or_false]
    cases cs with
    | nil => simp
    | cons d cs => exact h.1

/-- Spacing in which no space stands next to a break is all of one kind. -/
theorem blanks_or_breaks {g : List Char} (hg : ∀ c ∈ g, isSpacing c = true)
    (hprint : ∀ c ∈ g, isPrintable c = true) (hleft : anyPair isBreak (· == ' ') g = false)
    (hright : anyPair (· == ' ') isBreak g = false) :
    (∀ c ∈ g, isBlank c = true) ∨ ∀ c ∈ g, isBreak c = true := by
  induction g with
  | nil => exact Or.inl fun c hc => absurd hc List.not_mem_nil
  | cons c g ih =>
    rw [anyPair, Bool.or_eq_false_iff] at hleft hright
    have htail := ih (fun d hd => hg d (List.mem_cons_of_mem c hd))
      (fun d hd => hprint d (List.mem_cons_of_mem c hd)) hleft.2 hright.2
    rw [List.forall_mem_cons, List.forall_mem_cons]
    cases g with
    | nil =>
      have hc := hg c List.mem_cons_self
      rw [isSpacing, Bool.or_eq_true] at hc
      exact hc.imp (fun h => ⟨h, by simp⟩) fun h => ⟨h, by simp⟩
    | cons d g =>
      have hspace {e : Char} (he : e ∈ c :: d :: g) (hblank : isBlank e = true) : e = ' ' :=
        eq_space_of_isPrintable hblank (hprint e he)
      have hc := hg c List.mem_cons_self
      rw [isSpacing, Bool.or_eq_true] at hc
      rcases hc with hc | hc <;> rcases htail with htail | htail
      · exact Or.inl ⟨hc, htail⟩
      · have hd := htail d List.mem_cons_self
        have hpair := hright.1
        rw [hspace List.mem_cons_self hc] at hpair
        simp [hd] at hpair
      · have hd := hspace (by simp) (htail d List.mem_cons_self)
        have hpair := hleft.1
        simp [hc, hd] at hpair
      · exact Or.inr ⟨hc, htail⟩

/-- Between single quotes stands every text that may be written so in one line. -/
theorem quotes_singleBody {n : Nat} (hn : 0 < n) {cs : List Char} (h : allowsSingle cs = true)
    (hline : '\n' ∉ cs) :
    Quotes (ReadsWord '\'' fun cs => some (singlePiece cs)) cs (singleBody n false cs) := by
  induction cs using runs_induction isSpacing with
  | word w hw =>
    have hbody := singleBody_append n (fun c hc => isBreak_eq_false (hw c hc)) []
    rw [List.append_nil, singleBody, if_neg Bool.false_ne_true, List.append_nil] at hbody
    rw [hbody]
    exact .word (readsWord_doubled hw)
  | gap w g t hw hne hg ht ih =>
    unfold allowsSingle at h ih
    simp only [Bool.and_eq_true, Bool.not_eq_true', List.all_append] at h ih
    obtain ⟨⟨⟨-, hgprint, htprint⟩, hleft⟩, hright⟩ := h
    have hleft' := anyPair_of_append (anyPair_of_append hleft).2
    have hright' := anyPair_of_append (anyPair_of_append hright).2
    have htail := ih ⟨⟨htprint, hleft'.2⟩, hright'.2⟩ fun hmem => hline (by simp [hmem])
    rw [List.all_eq_true] at hgprint
    have houtside := startsOutside_singleBody n ht
    rw [singleBody_append n fun c hc => isBreak_eq_false (hw c hc)]
    rcases blanks_or_breaks hg hgprint hleft'.1 hright'.1 with hgap | hgap
    · have hbody : singleBody n false (g ++ t) = g ++ (spaces 0 ++ singleBody n false t) := by
        rw [singleBody_append n fun c hc => isBreak_eq_false_of_isBlank (hgap c hc),
          doubled_of_isBlank hgap]
        rfl
      rw [hbody]
      exact .gap (readsWord_doubled hw) hne (Or.inl ⟨hgap, rfl⟩) houtside htail
    · have hbody : singleBody n false (g ++ t) = g ++ (spaces n ++ singleBody n false t) := by
        rw [singleBody_breaks n hgap hne, singleBody_fresh n fun c hc => isBreak_eq_false (ht c hc)]
      rw [hbody]
      refine .gap (readsWord_doubled hw) hne
        (Or.inr ⟨fun b hb => ⟨hgap b hb, hgprint b hb, ?_⟩, hn⟩) houtside htail
      rintro rfl
      exact hline (by simp [hb])

/-! ## Double quotes -/

theorem escapeLetter?_eq_some {c e : Char} (h : escapeLetter? c = some e) :
    isPrintable e = true ∧ isBreak e = false ∧ hexWidth? e = none ∧ escaped? e = some c := by
  have hchar {n : Nat} (hn : c.toNat = n) : c = Char.ofNat n := by rw [← hn, Char.ofNat_toNat]
  unfold escapeLetter? at h
  split at h <;> cases h
  all_goals
    rename_i hn
    rw [hchar hn]
    exact ⟨by decide, by decide, rfl, by decide⟩

theorem doublePiece_letter {c e : Char} (h : escapeLetter? c = some e) (ds : List Char) :
    doublePiece ('\\' :: e :: ds) = (doublePiece ds).map (·.after [c] 2) := by
  obtain ⟨-, hbreak, hwidth, hescaped⟩ := escapeLetter?_eq_some h
  rw [doublePiece, if_neg (by simp [hbreak]), hwidth, hescaped]

theorem charOf?_toNat (c : Char) : charOf? c.toNat = some c := by
  have hvalid : c.toNat.isValidChar := c.valid
  rw [charOf?, if_pos hvalid, Char.ofNat_toNat]

theorem length_hexDigits {width n : Nat} (hwidth : 0 < width) (hn : n < Nat.pow 16 width) :
    (hexDigits width n).length = width := by
  rw [hexDigits, List.length_map, length_padded (by decide) hwidth hn]

theorem doublePiece_hex {c x : Char} {n : Nat} (hbreak : isBreak x = false)
    (hwidth : hexWidth? x = some n) (hn : 0 < n) (hc : c.toNat < Nat.pow 16 n) (ds : List Char) :
    doublePiece ('\\' :: x :: (hexDigits n c.toNat ++ ds)) =
      (doublePiece ds).map (·.after [c] (n + 2)) := by
  have hlen := length_hexDigits hn hc
  have hnumeral : numeral? 16 (hexDigits n c.toNat) = some c.toNat := by
    rw [hexDigits, numeral?_map_toUpper, numeral?_padded (by decide) (by decide)]
  rw [doublePiece, if_neg (by simp [hbreak]), hwidth]
  dsimp only
  rw [List.take_left' hlen, List.drop_left' hlen, hnumeral, Option.bind_some, charOf?_toNat]
  dsimp only
  rw [if_pos (by rw [List.length_append]; omega)]

/-- What needs no letter after a backslash neither ends a piece nor starts an escape. -/
theorem plain_of_escapeLetter? {c : Char} (h : escapeLetter? c = none) (hc : c ≠ ' ') :
    isSpacing c = false ∧ c ≠ '"' ∧ c ≠ '\\' := by
  refine ⟨?_, ?_, ?_⟩
  · refine eq_false_of_ne_true fun hspacing => ?_
    simp only [isSpacing, isBlank, isBreak, Bool.or_eq_true, beq_iff_eq] at hspacing
    rcases hspacing with (rfl | rfl) | (((rfl | rfl) | rfl) | rfl) | rfl
    · exact hc rfl
    all_goals exact absurd h (by decide)
  · rintro rfl
    exact absurd h (by decide)
  · rintro rfl
    exact absurd h (by decide)

theorem doublePiece_doubleChar {c : Char} (hc : c ≠ ' ') (ds : List Char) :
    doublePiece (doubleChar c ++ ds) =
      (doublePiece ds).map (·.after [c] (doubleChar c).length) := by
  have hhex {x : Char} {n : Nat} (hbreak : isBreak x = false) (hwidth : hexWidth? x = some n)
      (hn : 0 < n) (hlt : c.toNat < Nat.pow 16 n) :
      doublePiece ('\\' :: x :: hexDigits n c.toNat ++ ds) =
        (doublePiece ds).map (·.after [c] ('\\' :: x :: hexDigits n c.toNat).length) := by
    rw [List.length_cons, List.length_cons, length_hexDigits hn hlt]
    exact doublePiece_hex hbreak hwidth hn hlt ds
  have hmax : c.toNat < Nat.pow 16 8 := Nat.lt_of_lt_of_eq c.val.toNat_lt (by decide)
  unfold doubleChar
  split
  · rename_i e he
    exact doublePiece_letter he ds
  · rename_i hletter
    obtain ⟨hspacing, hquote, hback⟩ := plain_of_escapeLetter? hletter hc
    split
    · rw [List.singleton_append, doublePiece, if_neg (by simp [hquote, hspacing])]
      · rfl
      · exact fun _ _ hc' _ => hback hc'
      · exact fun hc' _ => hback hc'
    · split
      · rename_i hc
        exact hhex (by decide) rfl (by decide) (Nat.lt_of_le_of_lt hc (by decide))
      · split
        · rename_i hc
          exact hhex (by decide) rfl (by decide) (Nat.lt_of_le_of_lt hc (by decide))
        · exact hhex (by decide) rfl (by decide) hmax

theorem doublePiece_of_ends {ds : List Char} (h : EndsPiece '"' ds) :
    doublePiece ds = some ⟨[], 0, false⟩ := by
  cases h with
  | @spacing d ds hd =>
    have hback : d ≠ '\\' := by
      rintro rfl
      exact absurd hd (by decide)
    rw [doublePiece, if_pos (by simp [hd])]
    · exact fun _ _ hd' _ => hback hd'
    · exact fun hd' _ => hback hd'
  | closing => simp [doublePiece]

theorem readsWord_doubleChar {w : List Char} (hw : ∀ c ∈ w, c ≠ ' ') :
    ReadsWord '"' doublePiece w (w.flatMap doubleChar) := by
  intro ds hds
  induction w with
  | nil => exact doublePiece_of_ends hds
  | cons c w ih =>
    have htail := ih fun d hd => hw d (List.mem_cons_of_mem c hd)
    rw [List.flatMap_cons, List.append_assoc, doublePiece_doubleChar (hw c List.mem_cons_self),
      htail, Option.map_some, Piece.after, List.length_append, Nat.add_comm]
    rfl

theorem startsOutside_doubleChar {c : Char} (hc : c ≠ ' ') (ds : List Char) :
    StartsOutside isSpacing (doubleChar c ++ ds) := by
  have hback (cs : List Char) : StartsOutside isSpacing ('\\' :: cs) :=
    startsOutside_cons (by decide) cs
  unfold doubleChar
  split
  · exact hback _
  · rename_i hletter
    split
    · exact startsOutside_cons (plain_of_escapeLetter? hletter hc).1 _
    · split
      · exact hback _
      · split <;> exact hback _

/-- Between double quotes stands every text. -/
theorem quotes_double (cs : List Char) :
    Quotes (ReadsWord '"' doublePiece) cs (cs.flatMap doubleChar) := by
  induction cs using runs_induction (· == ' ') with
  | word w hw => exact .word (readsWord_doubleChar fun c hc => beq_eq_false_iff_ne.mp (hw c hc))
  | gap w g t hw hne hg ht ih =>
    have hspace : ∀ c ∈ g, c = ' ' := fun c hc => beq_iff_eq.mp (hg c hc)
    have hgap : g.flatMap doubleChar = g := by
      have hself : ∀ c ∈ g, doubleChar c = [c] := by
        intro c hc
        rw [hspace c hc]
        decide
      rw [List.flatMap_def, List.map_congr_left hself, ← List.flatMap_def, List.flatMap_singleton']
    have houtside : StartsOutside isSpacing (t.flatMap doubleChar) := by
      cases t with
      | nil => exact startsOutside_nil
      | cons c t => exact startsOutside_doubleChar (beq_eq_false_iff_ne.mp (ht c rfl)) _
    have hblank : ∀ b ∈ g, isBlank b = true := by
      intro b hb
      rw [hspace b hb]
      rfl
    rw [List.flatMap_append, List.flatMap_append, hgap]
    have hword := readsWord_doubleChar fun c hc => beq_eq_false_iff_ne.mp (hw c hc)
    exact .gap hword hne (Or.inl ⟨hblank, rfl⟩) houtside ih

end AskSheet.Yaml
