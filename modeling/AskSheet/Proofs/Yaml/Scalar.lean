/-
  Written scalars as values. Whatever style a text is written in, it is read as the scalar of that
  style with that text (`readsScalar_scalar`).
-/
import AskSheet.Proofs.Yaml.Block
import AskSheet.Proofs.Yaml.Entry
import AskSheet.Proofs.Yaml.Quoted

namespace AskSheet.Yaml

open Text

/-! ## The style of a text -/

/-- What a text is like in the style in which it is written. -/
theorem styleOf_cases (s : String) :
    (styleOf s = .literal ∧ allowsBlock s.toList = true) ∨
    (styleOf s = .single ∧ allowsSingle s.toList = true ∧ '\n' ∉ s.toList) ∨
    styleOf s = .double ∨
    (styleOf s = .plain ∧ allowsPlain s.toList = true ∧ isAmbiguous s = false) := by
  by_cases hline : s.toList.contains '\n' = true
  · by_cases hblock : allowsBlock s.toList = true
    · exact Or.inl ⟨by rw [styleOf, if_pos hline, if_pos hblock], hblock⟩
    · exact Or.inr (Or.inr (Or.inl (by rw [styleOf, if_pos hline, if_neg hblock])))
  · by_cases hquoted : (isAmbiguous s || !allowsPlain s.toList) = true
    · by_cases hsingle : allowsSingle s.toList = true
      · refine Or.inr (Or.inl ⟨?_, hsingle, fun hmem => hline (List.contains_iff_mem.mpr hmem)⟩)
        rw [styleOf, if_neg hline, if_pos hquoted, if_pos hsingle]
      · refine Or.inr (Or.inr (Or.inl ?_))
        rw [styleOf, if_neg hline, if_pos hquoted, if_neg hsingle]
    · have hstyle : styleOf s = .plain := by rw [styleOf, if_neg hline, if_neg hquoted]
      rw [Bool.or_eq_true, not_or] at hquoted
      exact Or.inr (Or.inr (Or.inr ⟨hstyle, by simpa using hquoted.2, by simpa using hquoted.1⟩))

theorem isPrintable_of_allowsBlock {cs : List Char} (h : allowsBlock cs = true) :
    ∀ c ∈ cs, isPrintable c = true := by
  simp only [allowsBlock, Bool.and_eq_true, List.all_eq_true] at h
  exact h.1.1

/-! ## What a scalar shows -/

theorem mem_singleBody {n : Nat} {fresh : Bool} {cs : List Char} {d : Char}
    (h : d ∈ singleBody n fresh cs) : d = ' ' ∨ d ∈ cs := by
  have hfresh (b : Bool) (hd : d ∈ if b then spaces n else []) : d = ' ' := by
    cases b with
    | true => exact List.eq_of_mem_replicate hd
    | false => exact absurd hd List.not_mem_nil
  induction cs generalizing fresh with
  | nil => exact Or.inl (hfresh fresh h)
  | cons c cs ih =>
    have hmore {b : Bool} (hd : d ∈ singleBody n b cs) : d = ' ' ∨ d ∈ c :: cs :=
      (ih hd).imp id (List.mem_cons_of_mem c)
    rw [singleBody] at h
    split at h
    · rcases List.mem_cons.mp h with rfl | h
      · exact Or.inr List.mem_cons_self
      · exact hmore h
    · rw [List.mem_append, List.mem_append] at h
      rcases h with (h | h) | h
      · exact Or.inl (hfresh fresh h)
      · right
        split at h
        · rename_i hc
          simp only [List.mem_cons, List.not_mem_nil, or_false, or_self] at h
          rw [h, hc]
          exact List.mem_cons_self
        · rw [List.mem_singleton.mp h]
          exact List.mem_cons_self
      · exact hmore h

theorem mem_literalBody {n : Nat} {fresh : Bool} {cs : List Char} {d : Char}
    (h : d ∈ literalBody n fresh cs) : d = ' ' ∨ d ∈ cs := by
  induction cs generalizing fresh with
  | nil => exact Or.inr h
  | cons c cs ih =>
    rw [literalBody] at h
    split at h
    · rcases List.mem_cons.mp h with rfl | h
      · exact Or.inr List.mem_cons_self
      · exact (ih h).imp id (List.mem_cons_of_mem c)
    · rw [List.mem_append, List.mem_cons] at h
      rcases h with h | rfl | h
      · cases fresh with
        | true => exact Or.inl (List.eq_of_mem_replicate h)
        | false => exact absurd h List.not_mem_nil
      · exact Or.inr List.mem_cons_self
      · exact (ih h).imp id (List.mem_cons_of_mem c)

theorem isAdmissible_of_mem_hexDigits {width n : Nat} {d : Char} (h : d ∈ hexDigits width n) :
    isAdmissible d = true := by
  obtain ⟨c, hc, rfl⟩ := List.mem_map.mp h
  have hdigit : isDigit 16 c = true := isDigit_of_mem_padded (by decide) (by decide) hc
  exact forall_small (p := fun c => isDigit 16 c = true → isAdmissible c.toUpper = true) (by decide)
    (toNat_lt_of_isDigit hdigit) hdigit

theorem isAdmissible_of_mem_doubleChar {c d : Char} (h : d ∈ doubleChar c) :
    isAdmissible d = true := by
  have hhex {x : Char} {width : Nat} (hx : isAdmissible x = true)
      (hd : d ∈ '\\' :: x :: hexDigits width c.toNat) : isAdmissible d = true := by
    rcases List.mem_cons.mp hd with rfl | hd
    · decide
    rcases List.mem_cons.mp hd with rfl | hd
    · exact hx
    · exact isAdmissible_of_mem_hexDigits hd
  unfold doubleChar at h
  split at h
  · rename_i e he
    rcases List.mem_cons.mp h with rfl | h
    · decide
    · rw [List.mem_singleton.mp h]
      exact isAdmissible_of_isPrintable (escapeLetter?_eq_some he).1
  · split at h
    · rename_i hprint
      rw [List.mem_singleton.mp h]
      exact isAdmissible_of_isPrintable hprint
    · split at h
      · exact hhex (by decide) h
      · split at h
        · exact hhex (by decide) h
        · exact hhex (by decide) h

theorem isAdmissible_of_mem_literalHints {cs : List Char} {d : Char} (h : d ∈ literalHints cs) :
    isAdmissible d = true := by
  have hsign {cs : List Char} (hd : d ∈ endSign cs) : d = '-' ∨ d = '+' := by
    unfold endSign at hd
    grind
  rw [literalHints_eq, List.mem_append] at h
  rcases h with h | h
  · split at h
    · exact absurd h List.not_mem_nil
    · rw [List.mem_singleton.mp h]
      decide
  · rcases hsign h with rfl | rfl <;> decide

/-- A written scalar shows nothing that a document may not hold. -/
theorem isAdmissible_scalar (n : Nat) (s : String) : ∀ c ∈ scalar n s, isAdmissible c = true := by
  intro c hc
  have hend {p : Prop} [Decidable p] (h : c ∈ if p then [] else ['\n']) :
      isAdmissible c = true := by
    split at h
    · exact absurd h List.not_mem_nil
    · rw [List.mem_singleton.mp h]
      decide
  have hspace {cs : List Char} (hcs : ∀ d ∈ cs, isPrintable d = true) (h : c = ' ' ∨ c ∈ cs) :
      isAdmissible c = true := by
    rcases h with rfl | h
    · decide
    · exact isAdmissible_of_isPrintable (hcs c h)
  rw [scalar] at hc
  rcases styleOf_cases s with
    ⟨hstyle, hblock⟩ | ⟨hstyle, hsingle, -⟩ | hstyle | ⟨hstyle, hplain, -⟩
  · simp only [hstyle, List.mem_append, List.mem_cons] at hc
    rcases hc with ((rfl | hc) | rfl | hc) | hc
    · decide
    · exact isAdmissible_of_mem_literalHints hc
    · decide
    · exact hspace (isPrintable_of_allowsBlock hblock) (mem_literalBody hc)
    · exact hend hc
  · simp only [hstyle, List.mem_append, List.mem_cons, List.not_mem_nil, or_false] at hc
    simp only [allowsSingle, Bool.and_eq_true, List.all_eq_true] at hsingle
    rcases hc with (rfl | hc) | rfl | rfl
    · decide
    · exact hspace hsingle.1.1 (mem_singleBody hc)
    · decide
    · decide
  · simp only [hstyle, List.mem_append, List.mem_cons, List.not_mem_nil, or_false] at hc
    rcases hc with (rfl | hc) | rfl | rfl
    · decide
    · obtain ⟨d, -, hd⟩ := List.mem_flatMap.mp hc
      exact isAdmissible_of_mem_doubleChar hd
    · decide
    · decide
  · simp only [hstyle, List.mem_append, List.mem_singleton] at hc
    rcases hc with hc | rfl
    · exact isAdmissible_of_isPrintable (all_isPrintable_of_allowsPlain hplain c hc)
    · decide

namespace Lexer

variable {c : Cursor} {T : List Token} {rest : List Char}

/-! ## The start of the next line -/

theorem atLine_of_skipGap {s : Lexer} {I : List Nat} (hI : I = [] ∨ I = [0])
    (hskip : s.skipGap = ⟨c, T, I, [none], true⟩) (hcolumn : c.column = 0)
    (hlen : c.rest.length ≤ s.cursor.rest.length) : AtLine s T I c.rest :=
  ⟨c, approach_of_skipGap hskip (mapM_renew_none c) (indents_le hI _), rfl, hcolumn, hlen⟩

theorem skipGap_line {I : List Nat} (hrest : StartsEntry c.rest) :
    (⟨c, T, I, [none], true⟩ : Lexer).skipGap = ⟨c, T, I, [none], true⟩ :=
  skipGap_self (fun d hd => (of_isAlpha (hrest d hd)).1)
    (Or.inr fun d hd => (of_isAlpha (hrest d hd)).2.2.1)

theorem atLine_self {I : List Nat} (hI : I = [] ∨ I = [0]) (hrest : StartsEntry rest)
    (hc : c.rest = rest) (hcolumn : c.column = 0) : AtLine ⟨c, T, I, [none], true⟩ T I rest := by
  subst hc
  exact atLine_of_skipGap hI (skipGap_line hrest) hcolumn (Nat.le_refl _)

/-- A break that is still to be passed over makes no difference. -/
theorem atLine_of_break (hrest : StartsEntry rest) (hc : c.rest = '\n' :: rest) :
    AtLine ⟨c, T, [0], [none], false⟩ T [0] rest := by
  have hbreak := Cursor.takeBreak_of_isPrintable hc (by decide) (by decide)
  have hnext : c.takeBreak.2.rest = rest ∧ c.takeBreak.2.column = 0 := by
    rw [hbreak]
    exact ⟨rfl, rfl⟩
  have hout {p : Char → Bool} (hp : p '\n' = false) : StartsOutside p c.rest := by
    rw [hc]
    exact startsOutside_cons hp _
  have hskip : c.skipInLine true = c :=
    Cursor.skipInLine_of_startsOutside true (hout (by decide)) (hout (by decide))
      (Or.inr (hout (by decide)))
  have hsees : (c.skipInLine true).sees isBreak = true := by
    rw [hskip, Cursor.sees, hc]
    rfl
  have hgap : (⟨c, T, [0], [none], false⟩ : Lexer).skipGap =
      ⟨c.takeBreak.2, T, [0], [none], true⟩ := by
    have hskipped := skipGap_of_break (s := ⟨c, T, [0], [none], false⟩) hsees
    have hat : (⟨(c.skipInLine true).takeBreak.2, T, [0], [none], true⟩ : Lexer) =
        ⟨c.takeBreak.2, T, [0], [none], true⟩ := by rw [hskip]
    exact hskipped.trans ((congrArg skipGap hat).trans (skipGap_line (by rwa [hnext.1])))
  have hlen : c.takeBreak.2.rest.length ≤ c.rest.length := by
    rw [hnext.1, hc]
    exact Nat.le_succ _
  have hline := atLine_of_skipGap (Or.inr rfl) hgap hnext.2 hlen
  rwa [hnext.1] at hline

/-! ## The styles of a scalar -/

theorem mark_of_not_allowed :
    (⟨c, T, [0], [none], false⟩ : Lexer).mark = some ⟨c, T, [0], [none], false⟩ :=
  rfl

/-- A text that may be written plain. -/
theorem readsScalar_plain {cs : List Char} (hne : cs ≠ []) (h : allowsPlain cs = true) :
    ReadsScalar .plain cs (cs ++ ['\n']) where
  starts := by
    obtain ⟨d, ds, rfl⟩ := List.exists_cons_of_ne_nil hne
    exact ⟨d, ds ++ ['\n'], rfl, (isPlainRun_of_allowsPlain h hne).first d rfl⟩
  reads := by
    intro c T rest hc hcolumn hrest
    have hrun := isPlainRun_of_allowsPlain h hne
    have hrest' : c.rest = cs ++ '\n' :: rest := by rw [hc, List.append_assoc]; rfl
    obtain ⟨c', htake, hend, hzero⟩ := takePlain_run hrest.startsOutside cs hrun hcolumn hrest'
    refine ⟨⟨c', .scalar .plain cs :: T, [0], [none], true⟩, ?_, ?_,
      atLine_self (Or.inr rfl) hrest hend hzero⟩
    · obtain ⟨d, ds, rfl⟩ := List.exists_cons_of_ne_nil hne
      obtain ⟨hspacing, hindicator⟩ := first_of_allowsPlain h rfl
      have hread := read_plain (s := ⟨c, T, [0], [none], false⟩) hrest' rfl
        (Cursor.seesMarker_of_column hcolumn) hindicator hspacing (sign_of_allowsPlain h rest)
      rw [hread, readPlain_of_mark mark_of_not_allowed rfl htake]
      rfl
    · dsimp only
      rw [hend, hrest']
      simp only [List.length_append, List.length_cons]
      omega

/-- What is read after a quote, when a line break follows its closing one. -/
theorem exists_readQuoted {style : Style} {take : Cursor → Option (List Char × Cursor)}
    {cs : List Char} {c' : Cursor} (htake : take (c.drop 1) = some (cs, c'))
    (hend : c'.rest = '\n' :: rest) (hrest : StartsEntry rest) :
    (⟨c, T, [0], [none], false⟩ : Lexer).readQuoted style take =
        some ⟨c', .scalar style cs :: T, [0], [none], false⟩ ∧
      AtLine ⟨c', .scalar style cs :: T, [0], [none], false⟩ (.scalar style cs :: T) [0] rest := by
  refine ⟨?_, atLine_of_break hrest hend⟩
  rw [readQuoted, mark_of_not_allowed]
  dsimp only [Option.bind_eq_bind, Option.bind_some]
  rw [htake]
  rfl

/-- A text between quotes, of either kind. -/
theorem readsScalar_quotes {quote : Char} {style : Style} {piece : List Char → Option Piece}
    {cs body : List Char} (hgap : startsGap quote = false)
    (hread : ∀ s : Lexer, s.cursor.rest.head? = some quote → 0 < s.cursor.column →
      s.read = s.readQuoted style (takeQuoted quote piece))
    (hbody : Quotes (ReadsWord quote piece) cs body) :
    ReadsScalar style cs (quote :: body ++ [quote, '\n']) where
  starts := ⟨quote, _, rfl, hgap⟩
  reads := by
    intro c T rest hc hcolumn hrest
    have hquote : isSpacing quote = false := (Bool.or_eq_false_iff.mp hgap).1
    have hinner : (c.drop 1).rest = body ++ quote :: '\n' :: rest :=
      @Cursor.rest_drop_one c quote _ (by rw [hc]; simp)
    obtain ⟨c', htake, hend⟩ := takeQuoted_of_quotes hquote hbody (Nat.succ_pos c.column) hinner
    obtain ⟨hquoted, hline⟩ := @exists_readQuoted c T rest style _ _ _ htake hend hrest
    refine ⟨_, (hread _ ?_ hcolumn).trans hquoted, ?_, hline⟩
    · dsimp only
      rw [hc]
      rfl
    · dsimp only
      rw [hend, hc]
      simp only [List.length_append, List.length_cons]
      omega

theorem read_quote {s : Lexer} (hcolumn : 0 < s.cursor.column) :
    (s.cursor.rest.head? = some '\'' → s.read = s.readQuoted .single takeSingle) ∧
      (s.cursor.rest.head? = some '"' → s.read = s.readQuoted .double takeDouble) := by
  have hmarker := Cursor.seesMarker_of_column hcolumn
  constructor
  · intro hhead
    obtain ⟨ds, hrest⟩ := List.head?_eq_some_iff.mp hhead
    rw [read, hrest]
    simp [hmarker]
  · intro hhead
    obtain ⟨ds, hrest⟩ := List.head?_eq_some_iff.mp hhead
    rw [read, hrest]
    simp [hmarker]

theorem readsScalar_single {cs : List Char} (h : allowsSingle cs = true) (hline : '\n' ∉ cs) :
    ReadsScalar .single cs ('\'' :: singleBody 2 false cs ++ ['\'', '\n']) :=
  readsScalar_quotes (by decide) (fun _ hhead hcolumn => (read_quote hcolumn).1 hhead)
    (quotes_singleBody (by decide) h hline)

theorem readsScalar_double (cs : List Char) :
    ReadsScalar .double cs ('"' :: cs.flatMap doubleChar ++ ['"', '\n']) :=
  readsScalar_quotes (by decide) (fun _ hhead hcolumn => (read_quote hcolumn).2 hhead)
    (quotes_double cs)

theorem readsScalar_literal {cs : List Char} (hne : cs ≠ [])
    (hprint : ∀ d ∈ cs, isPrintable d = true) :
    ReadsScalar .literal cs ('|' :: literalHints cs ++ '\n' :: literalBody 2 true cs ++
      if cs.getLast?.any isBreak then [] else ['\n']) where
  starts := ⟨'|', _, rfl, by decide⟩
  reads := by
    intro c T rest hc hcolumn hrest
    have hinner : (c.drop 1).rest = literalHints cs ++ '\n' :: (literalBody 2 true cs ++
        ((if cs.getLast?.any isBreak then [] else ['\n']) ++ rest)) :=
      @Cursor.rest_drop_one c '|' _ (by rw [hc]; simp)
    obtain ⟨c', htake, hend, hzero⟩ := takeBlock_literal hne hprint hrest.startsOutside hinner
    refine ⟨⟨c', .scalar .literal cs :: T, [0], [none], true⟩, ?_, ?_,
      atLine_self (Or.inr rfl) hrest hend hzero⟩
    · have hread : (⟨c, T, [0], [none], false⟩ : Lexer).read =
          (⟨c, T, [0], [none], false⟩ : Lexer).readBlock false := by
        have hmarker := Cursor.seesMarker_of_column hcolumn
        rw [read]
        dsimp only
        rw [hc]
        simp [hmarker, inFlow]
      have hdrop : (⟨c, T, [0], [none], false⟩ : Lexer).dropMark =
          some ⟨c, T, [0], [none], false⟩ := rfl
      rw [hread, readBlock, hdrop]
      dsimp only [Option.bind_eq_bind, Option.bind_some, indent]
      rw [Int.natCast_zero, htake]
      rfl
    · dsimp only
      rw [hend, hc]
      simp only [List.length_append, List.length_cons]
      omega

/-- A text is read back from the scalar that is written for it. -/
theorem readsScalar_scalar {s : String} (hne : s ≠ "") :
    ReadsScalar (styleOf s) s.toList (scalar 2 s) := by
  have hne' : s.toList ≠ [] := fun h => hne (String.toList_eq_nil_iff.mp h)
  rw [scalar]
  rcases styleOf_cases s with
    ⟨hstyle, hblock⟩ | ⟨hstyle, hsingle, hline⟩ | hstyle | ⟨hstyle, hplain, -⟩
  · rw [hstyle]
    exact readsScalar_literal hne' (isPrintable_of_allowsBlock hblock)
  · rw [hstyle]
    exact readsScalar_single hsingle hline
  · rw [hstyle]
    exact readsScalar_double s.toList
  · rw [hstyle]
    exact readsScalar_plain hne' hplain

end Lexer

end AskSheet.Yaml
