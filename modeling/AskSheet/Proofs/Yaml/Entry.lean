/-
  Entries of a block mapping at the start of the line. A lexer that stands at the start of a line
  (`AtLine`) reads an entry as a key token, the scalar of the key, a value token and the scalar of
  the value (`run_entry`), whatever characters the value was written with, as long as they are read
  as that scalar (`ReadsScalar`).
-/
import AskSheet.Proofs.Text.Numeral
import AskSheet.Proofs.Yaml.Plain
import AskSheet.Yaml.Lexer

namespace AskSheet.Yaml

open Text (byteLength forall_small)

/-- The end of the document, or a letter, which starts the key of an entry. -/
def StartsEntry (cs : List Char) : Prop := ∀ c ∈ cs.head?, c.isAlpha = true

/-- A key that is written plain: a word that starts with a letter and is not too long for a key. -/
def IsKey (key : List Char) : Prop :=
  (∃ c ∈ key.head?, c.isAlpha = true) ∧ (∀ c ∈ key, isNameChar c = true) ∧ byteLength key ≤ 1024

instance (key : List Char) : Decidable (IsKey key) :=
  decidable_of_iff
    (key.head?.any Char.isAlpha = true ∧ key.all isNameChar = true ∧ byteLength key ≤ 1024) <|
    and_congr (by simp [Option.any_eq_true]) (and_congr List.all_eq_true Iff.rfl)

theorem toNat_lt_of_isNameChar {c : Char} (h : isNameChar c = true) : c.toNat < 123 := by
  unfold isNameChar Char.isAlphanum Char.isAlpha Char.isUpper Char.isLower Char.isDigit at h
  simp only [Bool.or_eq_true, Bool.and_eq_true, decide_eq_true_eq, beq_iff_eq,
    UInt32.le_iff_toNat_le] at h
  rcases h with (((⟨-, h⟩ | ⟨-, h⟩) | ⟨-, h⟩) | rfl) | rfl
  · exact Nat.lt_of_le_of_lt h (by decide)
  · exact Nat.lt_of_le_of_lt h (by decide)
  · exact Nat.lt_of_le_of_lt h (by decide)
  · decide
  · decide

/-- A letter starts nothing but a plain scalar. -/
theorem of_isAlpha {c : Char} (h : c.isAlpha = true) :
    startsGap c = false ∧ isIndicator c = false ∧ (c == '\ufeff') = false ∧
      (c == '-' || c == '?' || c == ':') = false ∧ c ≠ '.' := by
  have hname : isNameChar c = true := by simp [isNameChar, Char.isAlphanum, h]
  refine forall_small (p := fun c => c.isAlpha = true → startsGap c = false ∧
    isIndicator c = false ∧ (c == '\ufeff') = false ∧
    (c == '-' || c == '?' || c == ':') = false ∧ c ≠ '.') ?_ (toNat_lt_of_isNameChar hname) h
  decide

theorem isSpacing_of_isAlpha {c : Char} (h : c.isAlpha = true) : isSpacing c = false :=
  (Bool.or_eq_false_iff.mp (of_isAlpha h).1).1

theorem StartsEntry.startsOutside {cs : List Char} (h : StartsEntry cs) :
    StartsOutside isSpacing cs :=
  fun c hc => isSpacing_of_isAlpha (h c hc)

theorem of_isNameChar {c : Char} (h : isNameChar c = true) : isSpacing c = false ∧ c ≠ ':' := by
  refine forall_small (p := fun c => isNameChar c = true → isSpacing c = false ∧ c ≠ ':') ?_
    (toNat_lt_of_isNameChar h) h
  decide

namespace Cursor

theorem skipWhile_of_startsOutside {c : Cursor} {p : Char → Bool} (h : StartsOutside p c.rest) :
    c.skipWhile p = c := by
  obtain ⟨htaken, hrest⟩ := @takeWhile_run p [] c.rest (by simp) h
  rw [List.nil_append] at htaken hrest
  rw [skipWhile, takeWhile, htaken, hrest]
  rfl

/-- Where neither a blank nor a comment stands, nothing of the line is passed over. -/
theorem skipInLine_of_startsOutside {c : Cursor} (tabs : Bool)
    (hblank : StartsOutside isBlank c.rest) (hsharp : StartsOutside (· == '#') c.rest)
    (hmark : 0 < c.column ∨ StartsOutside (· == '\ufeff') c.rest) : c.skipInLine tabs = c := by
  have hmark' : c.skipMark = c := by
    rw [skipMark, if_neg]
    rcases hmark with hcolumn | hout
    · have hne : c.column ≠ 0 := by omega
      simp [hne]
    · simp [sees_eq_false hout]
  have hskip : (c.skipWhile fun d => d == ' ' || (tabs && d == '\t')) = c := by
    apply skipWhile_of_startsOutside
    intro d hd
    have hd' := hblank d hd
    rw [isBlank, Bool.or_eq_false_iff] at hd'
    simp [hd'.1, hd'.2]
  rw [skipInLine, hmark', hskip, skipComment,
    if_neg (by rw [sees_eq_false hsharp]; exact Bool.false_ne_true)]

theorem endsAfter_one {c : Cursor} {d : Char} {ds : List Char} (h : c.rest = d :: ds) :
    c.endsAfter 1 = atSpacing ds := by
  rw [endsAfter, h]
  cases ds <;> simp [atSpacing]

end Cursor

namespace Lexer

variable {s : Lexer}

theorem skipGap_of_token
    (h : (s.cursor.skipInLine (s.inFlow || !s.keyAllowed)).sees isBreak = false) :
    s.skipGap = { s with cursor := s.cursor.skipInLine (s.inFlow || !s.keyAllowed) } := by
  rw [skipGap, dif_neg (by rw [h]; exact Bool.false_ne_true)]

theorem skipGap_of_break
    (h : (s.cursor.skipInLine (s.inFlow || !s.keyAllowed)).sees isBreak = true) :
    s.skipGap =
      skipGap { s with cursor := (s.cursor.skipInLine (s.inFlow || !s.keyAllowed)).takeBreak.2
                       keyAllowed := s.keyAllowed || !s.inFlow } := by
  rw [skipGap.eq_def s, dif_pos h]

/-- Nothing is passed over where a token stands. -/
theorem skipGap_self (hstart : StartsOutside startsGap s.cursor.rest)
    (hmark : 0 < s.cursor.column ∨ StartsOutside (· == '\ufeff') s.cursor.rest) :
    s.skipGap = s := by
  have hout {d : Char} (hd : d ∈ s.cursor.rest.head?) : isSpacing d = false ∧ (d == '#') = false :=
    Bool.or_eq_false_iff.mp (hstart d hd)
  have hskip := Cursor.skipInLine_of_startsOutside (s.inFlow || !s.keyAllowed)
    (fun d hd => isBlank_eq_false (hout hd).1) (fun d hd => (hout hd).2) hmark
  have hbreak : s.cursor.sees isBreak = false :=
    Cursor.sees_eq_false fun d hd => isBreak_eq_false (hout hd).1
  rw [skipGap_of_token (by rw [hskip]; exact hbreak), hskip]

/-- Block collections that are not indented more than the column stay open. -/
theorem unroll_self {column : Int} (h : ∀ n ∈ s.indents, (n : Int) ≤ column) :
    s.unroll column = s := by
  have hnone : s.indents.takeWhile (fun (n : Nat) => column < n) = [] := by
    cases hI : s.indents with
    | nil => rfl
    | cons n ns =>
      rw [hI] at h
      have hn := h n List.mem_cons_self
      rw [List.takeWhile_cons, if_neg (by simpa using hn)]
  rw [unroll]
  split
  · rfl
  · rw [hnone]
    rfl

theorem approach_of_skipGap {t : Lexer} (hskip : s.skipGap = t)
    (hmarks : t.marks.mapM (KeyMark.renew t.cursor) = some t.marks)
    (hindents : ∀ n ∈ t.indents, n ≤ t.cursor.column) : s.approach = some t := by
  have hunroll : t.unroll t.cursor.column = t :=
    unroll_self fun n hn => Int.ofNat_le.mpr (hindents n hn)
  rw [approach, hskip, renewMarks, hmarks]
  exact congrArg some hunroll

/-- What is read next is a plain scalar. -/
theorem read_plain {c : Char} {cs : List Char} (hrest : s.cursor.rest = c :: cs)
    (hflow : s.inFlow = false) (hmarker : s.cursor.seesMarker = false)
    (hindicator : isIndicator c = false) (hspacing : isSpacing c = false)
    (hsign : ((c == '-' || c == '?' || c == ':') && atSpacing cs) = false) :
    s.read = s.readPlain := by
  have hends := Cursor.endsAfter_one hrest
  have hne {d : Char} (hd : isIndicator d = true) : (c == d) = false := by
    rw [beq_eq_false_iff_ne]
    rintro rfl
    rw [hd] at hindicator
    exact Bool.noConfusion hindicator
  have hnone {d : Char} (hd : d = '-' ∨ d = '?' ∨ d = ':') : (c == d && atSpacing cs) = false := by
    rw [Bool.and_eq_false_iff] at hsign ⊢
    refine hsign.imp (fun h => ?_) id
    simp only [Bool.or_eq_false_iff] at h
    rcases hd with rfl | rfl | rfl
    · exact h.1.1
    · exact h.1.2
    · exact h.2
  have hstarts : startsPlain false (c :: cs) = true := by
    rw [startsPlain]
    split
    · rename_i hhyphen
      have hcs := hnone (Or.inl rfl)
      rw [hhyphen, Bool.true_and] at hcs
      cases cs with
      | nil => exact Bool.noConfusion hcs
      | cons d cs =>
        rw [List.head?_cons, Option.any_some, isBlank_eq_false hcs]
        rfl
    · split
      · rename_i hmark
        rw [Bool.or_eq_true] at hmark
        have hcs : atSpacing cs = false := by
          rcases hmark with hmark | hmark
          · have hcs := hnone (Or.inr (Or.inl rfl))
            rwa [hmark, Bool.true_and] at hcs
          · have hcs := hnone (Or.inr (Or.inr rfl))
            rwa [hmark, Bool.true_and] at hcs
        rw [hcs]
        rfl
      · rw [hspacing, hindicator]
        rfl
  rw [read, hrest]
  dsimp only
  simp only [hmarker, hflow, hends, hstarts, hne (d := '%') rfl, hne (d := '[') rfl,
    hne (d := ']') rfl, hne (d := '{') rfl, hne (d := '}') rfl, hne (d := ',') rfl,
    hne (d := '*') rfl, hne (d := '&') rfl, hne (d := '!') rfl, hne (d := '|') rfl,
    hne (d := '>') rfl, hne (d := '\'') rfl, hne (d := '"') rfl, hnone (d := '-') (by decide),
    hnone (d := '?') (by decide), hnone (d := ':') (by decide), Bool.and_false, Bool.false_and,
    Bool.false_or, Bool.false_eq_true, if_false, if_true]

theorem readPlain_of_mark {t : Lexer} {p : PlainScalar} (hmark : s.mark = some t)
    (hflow : t.inFlow = false) (hplain : takePlain false (t.indent + 1) t.cursor = some p) :
    s.readPlain = some { t.emit (.scalar .plain p.text) with
      cursor := p.after
      keyAllowed := p.brokeLine } := by
  rw [readPlain, hmark]
  dsimp only [Option.bind_eq_bind, Option.bind_some]
  rw [hflow, hplain]
  rfl

/-! ## Steps -/

/-- Marks of nothing are kept, and so is the mark of a key that ends in its line. -/
theorem mapM_renew_none (c : Cursor) : [none].mapM (KeyMark.renew c) = some [none] := rfl

theorem mapM_renew_some {c : Cursor} {m : KeyMark} (hline : c.line ≤ m.line)
    (hindex : c.index ≤ m.index + 1024) : [some m].mapM (KeyMark.renew c) = some [some m] := by
  have hrenew : KeyMark.renew c (some m) = some (some m) := by
    rw [KeyMark.renew, if_neg (by simp; omega)]
  rw [List.mapM_cons, hrenew]
  rfl

/-- A mapping at the start of the line, open or not yet, stays so at any column. -/
theorem indents_le {I : List Nat} (hI : I = [] ∨ I = [0]) (column : Nat) :
    ∀ n ∈ I, n ≤ column := by
  intro n hn
  rcases hI with rfl | rfl
  · exact absurd hn List.not_mem_nil
  · rw [List.mem_singleton.mp hn]
    exact Nat.zero_le _

/-- One token further on. -/
theorem run_of_read {t u : Lexer} (happroach : s.approach = some t) (hne : t.cursor.rest ≠ [])
    (hread : t.read = some u) (hlt : u.cursor.rest.length < s.cursor.rest.length) :
    s.run = u.run := by
  rw [run.eq_def s, happroach]
  dsimp only
  rw [if_neg hne, hread]
  dsimp only
  rw [if_pos hlt]

/-- The lexer goes on at the start of a line of a block, where a key is allowed. -/
def AtLine (s : Lexer) (tokens : List Token) (indents : List Nat) (rest : List Char) : Prop :=
  ∃ c : Cursor, s.approach = some ⟨c, tokens, indents, [none], true⟩ ∧ c.rest = rest ∧
    c.column = 0 ∧ rest.length ≤ s.cursor.rest.length

/-- What is read in the place of a value up to the end of its last line. -/
structure ReadsScalar (style : Style) (text written : List Char) : Prop where
  starts : ∃ c cs, written = c :: cs ∧ startsGap c = false
  reads : ∀ (c : Cursor) (T : List Token) (rest : List Char), c.rest = written ++ rest →
    0 < c.column → StartsEntry rest → ∃ t, (⟨c, T, [0], [none], false⟩ : Lexer).read = some t ∧
      t.cursor.rest.length < c.rest.length ∧ AtLine t (.scalar style text :: T) [0] rest

/-- The tokens with the start of the mapping after them, where the mapping is not open yet. -/
def opened (I : List Nat) (T : List Token) : List Token :=
  if I = [] then .blockMappingStart :: T else T

/-! ## The key of an entry -/

theorem plainPiece_key {key : List Char} (h : ∀ c ∈ key, isNameChar c = true) (more : List Char) :
    plainPiece false (key ++ ':' :: ' ' :: more) = some key := by
  induction key with
  | nil => rfl
  | cons c key ih =>
    obtain ⟨hspacing, hcolon⟩ := of_isNameChar (h c List.mem_cons_self)
    rw [List.cons_append, plainPiece, if_neg (by simp [hspacing]), if_neg (by simp),
      if_neg (by simp [hcolon]), ih fun d hd => h d (List.mem_cons_of_mem c hd), Option.map_some]

theorem seesMarker_of_isAlpha {c : Cursor} {d : Char} {ds : List Char} (hc : c.rest = d :: ds)
    (hd : d.isAlpha = true) : c.seesMarker = false := by
  obtain ⟨-, -, -, hsign, hdot⟩ := of_isAlpha hd
  simp only [Bool.or_eq_false_iff, beq_eq_false_iff_ne] at hsign
  simp [Cursor.seesMarker, Cursor.seesText, hc, Ne.symm hsign.1.1, Ne.symm hdot]

section

variable {c : Cursor} {T : List Token} {I : List Nat} {key more : List Char} (hkey : IsKey key)
  (hc : c.rest = key ++ ':' :: ' ' :: more)

include hkey hc

theorem takePlain_key (indent : Int) :
    takePlain false indent c = some ⟨key, c.drop key.length, false⟩ := by
  obtain ⟨⟨d, hd, halpha⟩, hname, -⟩ := hkey
  obtain ⟨key, rfl⟩ := List.head?_eq_some_iff.mp hd
  have hmarker := seesMarker_of_isAlpha hc halpha
  have hsharp : c.sees (· == '#') = false := by
    rw [Cursor.sees, hc]
    exact (Bool.or_eq_false_iff.mp (of_isAlpha halpha).1).2
  have hafter : (c.drop (d :: key).length).sees isSpacing = false := by
    rw [Cursor.sees, Cursor.rest_drop hc]
    rfl
  rw [takePlain, if_neg (by rw [hmarker, hsharp]; exact Bool.false_ne_true), hc,
    plainPiece_key hname]
  dsimp only
  rw [hafter]
  rfl

/-- The key is read as a plain scalar and marked. -/
theorem read_key (hcolumn : c.column = 0) : ∃ required,
    (⟨c, T, I, [none], true⟩ : Lexer).read =
      some ⟨c.drop key.length, .scalar .plain key :: T, I,
        [some ⟨T.length, required, c.index, c.line, 0⟩], false⟩ := by
  obtain ⟨⟨d, hd, halpha⟩, -, -⟩ := id hkey
  obtain ⟨ds, hds⟩ := List.head?_eq_some_iff.mp hd
  have hrest : c.rest = d :: (ds ++ ':' :: ' ' :: more) := by rw [hc, hds, List.cons_append]
  obtain ⟨-, hindicator, -, hsign, -⟩ := of_isAlpha halpha
  have hread := read_plain (s := ⟨c, T, I, [none], true⟩) hrest rfl
    (seesMarker_of_isAlpha hrest halpha) hindicator (isSpacing_of_isAlpha halpha)
    (by rw [hsign, Bool.false_and])
  refine ⟨(⟨c, T, I, [none], true⟩ : Lexer).indent == (0 : Int), ?_⟩
  have hmark : (⟨c, T, I, [none], true⟩ : Lexer).mark = some ⟨c, T, I,
      [some ⟨T.length, (⟨c, T, I, [none], true⟩ : Lexer).indent == (0 : Int), c.index, c.line, 0⟩],
      true⟩ := by
    rw [mark, hcolumn]
    rfl
  rw [hread, readPlain_of_mark hmark rfl (takePlain_key hkey hc _)]
  rfl

omit hkey hc in
/-- The colon turns what is marked into a key. -/
theorem readValue_key (hI : I = [] ∨ I = [0]) {c' : Cursor} {t : Token} {required : Bool} :
    (⟨c', t :: T, I, [some ⟨T.length, required, c.index, c.line, 0⟩], false⟩ : Lexer).readValue =
      some ⟨c'.drop 1, .value :: t :: .key :: opened I T, [0], [none], false⟩ := by
  rcases hI with rfl | rfl
  · have hplace : T.length + 1 + 1 - T.length = 2 := by omega
    simp only [readValue, emitAt, roll, indent, inFlow, emitMark, emit, opened, List.length_cons,
      Nat.add_sub_cancel_left, List.insertIdx_succ_cons, List.insertIdx_zero, hplace]
    rfl
  · simp [readValue, emitAt, roll, indent, inFlow, emitMark, emit, opened]

/-- Right after a key stands the colon. -/
theorem approach_key (hI : I = [] ∨ I = [0]) {u : List Token} {required : Bool} :
    (⟨c.drop key.length, u, I, [some ⟨T.length, required, c.index, c.line, 0⟩], false⟩ :
      Lexer).approach =
        some ⟨c.drop key.length, u, I, [some ⟨T.length, required, c.index, c.line, 0⟩], false⟩ := by
  have hrest := Cursor.rest_drop hc
  obtain ⟨⟨d, hd, -⟩, -, hlen⟩ := hkey
  have hpos : 0 < (c.drop key.length).column := by
    have hkeypos := List.length_pos_of_mem (List.mem_of_mem_head? hd)
    rw [Cursor.drop]
    dsimp only
    omega
  have hindex : (c.drop key.length).index = c.index + byteLength key := by
    rw [Cursor.drop, hc, List.take_left]
  refine approach_of_skipGap (skipGap_self ?_ (Or.inl hpos)) (mapM_renew_some ?_ ?_) ?_
  · rw [hrest]
    exact startsOutside_cons (by decide) _
  · exact Nat.le_refl _
  · dsimp only
    rw [hindex]
    omega
  · exact indents_le hI _

end

theorem read_colon {more : List Char} (hrest : s.cursor.rest = ':' :: ' ' :: more)
    (hcolumn : 0 < s.cursor.column) : s.read = s.readValue := by
  have hends := Cursor.endsAfter_one hrest
  have hmarker := Cursor.seesMarker_of_column hcolumn
  have hspacing : atSpacing (' ' :: more) = true := rfl
  rw [read, hrest]
  simp [hends, hmarker, hspacing]

/-- Before the value stands one space. -/
theorem approach_value {c : Cursor} {T : List Token} {d : Char} {ds : List Char}
    (hrest : c.rest = ' ' :: d :: ds) (hcolumn : 0 < c.column) (hd : startsGap d = false) :
    (⟨c, T, [0], [none], false⟩ : Lexer).approach = some ⟨c.drop 1, T, [0], [none], false⟩ := by
  have hd' : isSpacing d = false ∧ (d == '#') = false := Bool.or_eq_false_iff.mp hd
  have hmark : c.skipMark = c := by
    rw [Cursor.skipMark, if_neg]
    have hne : c.column ≠ 0 := by omega
    simp [hne]
  have hblank : c.skipWhile (fun e => e == ' ' || (true && e == '\t')) = c.drop 1 := by
    have hstop : (d == ' ' || (true && d == '\t')) = false := isBlank_eq_false hd'.1
    rw [Cursor.skipWhile, Cursor.takeWhile, hrest, List.takeWhile_cons, List.dropWhile_cons,
      if_pos (by rfl), if_pos (by rfl), List.takeWhile_cons, List.dropWhile_cons,
      if_neg (by rw [hstop]; exact Bool.false_ne_true),
      if_neg (by rw [hstop]; exact Bool.false_ne_true), Cursor.drop, hrest]
    rfl
  have hafter := Cursor.rest_drop_one hrest
  have hskip : c.skipInLine true = c.drop 1 := by
    rw [Cursor.skipInLine, hmark, hblank, Cursor.skipComment, Cursor.sees, hafter, List.head?_cons,
      Option.any_some, if_neg (by rw [hd'.2]; exact Bool.false_ne_true)]
  have htoken : (c.skipInLine true).sees isBreak = false := by
    rw [hskip, Cursor.sees, hafter]
    exact isBreak_eq_false hd'.1
  have hgap : (⟨c, T, [0], [none], false⟩ : Lexer).skipGap = ⟨c.drop 1, T, [0], [none], false⟩ := by
    have hskipped := skipGap_of_token (s := ⟨c, T, [0], [none], false⟩) htoken
    rw [hskipped]
    exact congrArg (fun e => (⟨e, T, [0], [none], false⟩ : Lexer)) hskip
  exact approach_of_skipGap hgap (mapM_renew_none _) (indents_le (Or.inr rfl) _)

/-! ## A whole entry -/

/-- An entry is read as its key and its value. -/
theorem run_entry {key written text rest : List Char} {style : Style} {T : List Token}
    {I : List Nat} (hkey : IsKey key) (hvalue : ReadsScalar style text written)
    (hrest : StartsEntry rest) (hI : I = [] ∨ I = [0])
    (h : s.AtLine T I (key ++ ':' :: ' ' :: (written ++ rest))) :
    ∃ t, s.run = t.run ∧ AtLine t
      (.scalar style text :: .value :: .scalar .plain key :: .key :: opened I T) [0] rest := by
  obtain ⟨c, happroach, hc, hcolumn, hlen⟩ := h
  obtain ⟨required, hread⟩ := read_key (T := T) (I := I) hkey hc hcolumn
  have hafter := Cursor.rest_drop hc
  have hkeypos : 0 < key.length := by
    obtain ⟨⟨d, hd, -⟩, -⟩ := hkey
    exact List.length_pos_of_mem (List.mem_of_mem_head? hd)
  have hpos : 0 < (c.drop key.length).column := Nat.lt_of_lt_of_le hkeypos (Nat.le_add_left _ _)
  have hcolon := read_colon (s := ⟨c.drop key.length, .scalar .plain key :: T, I,
    [some ⟨T.length, required, c.index, c.line, 0⟩], false⟩) hafter hpos
  obtain ⟨d, ds, hwritten, hd⟩ := hvalue.starts
  have hspace := Cursor.rest_drop_one hafter
  have hstart := Cursor.rest_drop_one hspace
  obtain ⟨t, hscalar, hlt, hline⟩ := hvalue.reads
    (((c.drop key.length).drop 1).drop 1) (.value :: .scalar .plain key :: .key :: opened I T)
    rest hstart (Nat.succ_pos _) hrest
  refine ⟨t, ?_, hline⟩
  calc s.run
    _ = (⟨c.drop key.length, .scalar .plain key :: T, I,
          [some ⟨T.length, required, c.index, c.line, 0⟩], false⟩ : Lexer).run := by
        refine run_of_read happroach ?_ hread ?_
        · rw [hc]
          simp
        · dsimp only
          rw [hafter]
          simp only [List.length_append, List.length_cons] at hlen ⊢
          omega
    _ = (⟨(c.drop key.length).drop 1, .value :: .scalar .plain key :: .key :: opened I T, [0],
          [none], false⟩ : Lexer).run := by
        refine run_of_read (approach_key hkey hc hI) ?_ (hcolon.trans (readValue_key hI)) ?_
        · rw [hafter]
          exact List.cons_ne_nil _ _
        · dsimp only
          rw [hspace, hafter]
          exact Nat.lt_succ_self _
    _ = t.run := by
        refine run_of_read (@approach_value _ _ d (ds ++ rest) ?_ ?_ hd) ?_ hscalar ?_
        · rw [hspace, hwritten, List.cons_append]
        · exact Nat.succ_pos _
        · rw [hstart, hwritten]
          exact List.cons_ne_nil _ _
        · rw [hstart] at hlt
          dsimp only
          rw [hspace, List.length_cons]
          omega

end Lexer

end AskSheet.Yaml
