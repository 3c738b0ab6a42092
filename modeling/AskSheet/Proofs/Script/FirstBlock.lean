/-
  Which block documents a script. `IsBlock source d i j` says that the delimiter `d` stands at the
  byte `i` of the source and again at the byte `j` behind that; the block that counts opens first
  among all of these and is closed where it can be first (`IsFirst`). What opens and is never closed
  by its own kind is no block.

  `content?_cases` finds this block by its characters, `isBlock_iff` ties characters to bytes, and
  `content?_first` puts both together. `Describes` says which title and description a content gives,
  by its lines, and `find?_first_block` is the whole of finding a block.
-/
import AskSheet.Proofs.Text.Lines
import AskSheet.Proofs.Text.Octets
import AskSheet.Proofs.Text.Trim
import AskSheet.Script.DocBlock
import Mathlib.Data.List.TakeWhile

namespace AskSheet.Script.DocBlock

open Text

/-- Three quotes of one kind. -/
def IsDelimiter (d : List Char) : Prop := d = ['"', '"', '"'] ∨ d = ['\'', '\'', '\'']

/-- A delimiter stands at the byte `i` and again at the byte `j`, without overlap. -/
structure IsBlock (source d : List Char) (i j : Nat) : Prop where
  delimiter : IsDelimiter d
  opens : Slice source i (i + 3) d
  closes : Slice source j (j + 3) d
  apart : i + 3 ≤ j

/-- No block opens before this one, and it is not closed before `j`. -/
structure IsFirst (source d : List Char) (i j : Nat) : Prop extends IsBlock source d i j where
  opens_first : ∀ d' i' j', IsBlock source d' i' j' → i ≤ i'
  closes_first : ∀ j', IsBlock source d i j' → j ≤ j'

/-! ## Blocks by their characters -/

/-- The content stands at the start of the text, right before the delimiter. -/
def UpTo (d cs content : List Char) : Prop := ∃ rest, cs = content ++ (d ++ rest)

/-- The text starts with a block that has this content. -/
def Starts (d cs content : List Char) : Prop :=
  IsDelimiter d ∧ ∃ tail, cs = d ++ tail ∧ UpTo d tail content

/-- Reading stops before the first three quotes, if there are three. -/
theorem untilTriple_cases (q : Char) (cs : List Char) :
    (∃ content, untilTriple q cs = some content ∧ UpTo [q, q, q] cs content ∧
      ∀ c, UpTo [q, q, q] cs c → content <+: c) ∨
    (untilTriple q cs = none ∧ ∀ c, ¬UpTo [q, q, q] cs c) := by
  induction cs with
  | nil =>
    refine Or.inr ⟨rfl, ?_⟩
    rintro c ⟨rest, hcs⟩
    exact absurd hcs.symm (by simp)
  | cons a cs ih =>
    by_cases hpre : [q, q, q] <+: a :: cs
    · have hstop : untilTriple q (a :: cs) = some [] := by
        rw [untilTriple, if_pos (List.isPrefixOf_iff_prefix.mpr hpre)]
      obtain ⟨rest, hrest⟩ := hpre
      exact Or.inl ⟨[], hstop, ⟨rest, hrest.symm⟩, fun c _ => List.nil_prefix⟩
    · have hstep : untilTriple q (a :: cs) = (untilTriple q cs).map (a :: ·) := by
        rw [untilTriple, if_neg (mt List.isPrefixOf_iff_prefix.mp hpre)]
      -- what stands before three quotes is not empty, so it starts with this character
      have hcons : ∀ c, UpTo [q, q, q] (a :: cs) c → ∃ c', c = a :: c' ∧ UpTo [q, q, q] cs c' := by
        rintro c ⟨rest, hcs⟩
        cases c with
        | nil => exact absurd ⟨rest, hcs.symm⟩ hpre
        | cons e c =>
          obtain ⟨rfl, htail⟩ := List.cons.inj hcs
          exact ⟨c, rfl, rest, htail⟩
      rcases ih with ⟨content, hread, ⟨rest, hrest⟩, hleast⟩ | ⟨hread, hnone⟩
      · refine Or.inl ⟨a :: content, by rw [hstep, hread]; rfl, ⟨rest, by rw [hrest]; rfl⟩, ?_⟩
        intro c hc
        obtain ⟨c', rfl, hc'⟩ := hcons c hc
        exact List.cons_prefix_cons.mpr ⟨rfl, hleast c' hc'⟩
      · refine Or.inr ⟨by rw [hstep, hread]; rfl, fun c hc => ?_⟩
        obtain ⟨c', rfl, hc'⟩ := hcons c hc
        exact hnone c' hc'

theorem contentAt?_of_delimiter {q : Char} (hq : q = '"' ∨ q = '\'') (cs : List Char) :
    contentAt? ([q, q, q] ++ cs) = untilTriple q cs := by
  rcases hq with rfl | rfl <;> rfl

theorem contentAt?_eq_none {cs : List Char} (h : ∀ d, IsDelimiter d → ¬d <+: cs) :
    contentAt? cs = none := by
  unfold contentAt?
  split
  · exact absurd (List.prefix_append _ _) (h _ (Or.inl rfl))
  · exact absurd (List.prefix_append _ _) (h _ (Or.inr rfl))
  · rfl

theorem isDelimiter_iff {d : List Char} :
    IsDelimiter d ↔ ∃ q, (q = '"' ∨ q = '\'') ∧ d = [q, q, q] := by
  constructor
  · rintro (rfl | rfl)
    · exact ⟨'"', Or.inl rfl, rfl⟩
    · exact ⟨'\'', Or.inr rfl, rfl⟩
  · rintro ⟨q, rfl | rfl, rfl⟩
    · exact Or.inl rfl
    · exact Or.inr rfl

/-- A text starts with one delimiter only. -/
theorem delimiter_unique {d d' cs : List Char} (hd : IsDelimiter d) (hd' : IsDelimiter d')
    (h : d <+: cs) (h' : d' <+: cs) : d = d' := by
  obtain ⟨q, -, rfl⟩ := isDelimiter_iff.mp hd
  obtain ⟨q', -, rfl⟩ := isDelimiter_iff.mp hd'
  exact (List.prefix_of_prefix_length_le h h' (Nat.le_refl 3)).eq_of_length rfl

/-- The block at the start of a text ends where its delimiter comes again first. -/
theorem contentAt?_cases (cs : List Char) :
    (∃ d content, contentAt? cs = some content ∧ Starts d cs content ∧
      ∀ c, Starts d cs c → content <+: c) ∨
    (contentAt? cs = none ∧ ∀ d c, ¬Starts d cs c) := by
  by_cases hopen : ∃ d, IsDelimiter d ∧ d <+: cs
  · obtain ⟨d, hd, tail, rfl⟩ := hopen
    obtain ⟨q, hq, rfl⟩ := isDelimiter_iff.mp hd
    have htail : ∀ d' c, Starts d' ([q, q, q] ++ tail) c →
        d' = [q, q, q] ∧ UpTo [q, q, q] tail c := by
      rintro d' c ⟨hd', tail', hcs, hc⟩
      obtain rfl := delimiter_unique hd' hd ⟨tail', hcs.symm⟩ (List.prefix_append _ tail)
      exact ⟨rfl, List.append_cancel_left hcs ▸ hc⟩
    rw [contentAt?_of_delimiter hq]
    rcases untilTriple_cases q tail with ⟨content, hread, hupTo, hleast⟩ | ⟨hread, hnone⟩
    · exact Or.inl ⟨_, content, hread, ⟨hd, tail, rfl, hupTo⟩,
        fun c hc => hleast c (htail _ c hc).2⟩
    · exact Or.inr ⟨hread, fun d' c hc => hnone c (htail d' c hc).2⟩
  · refine Or.inr ⟨contentAt?_eq_none fun d hd hpre => hopen ⟨d, hd, hpre⟩, ?_⟩
    rintro d c ⟨hd, tail, rfl, -⟩
    exact hopen ⟨d, hd, List.prefix_append d tail⟩

/-- A source has the content of the block that starts first, if there is a block. -/
theorem content?_cases (cs : List Char) :
    (∃ before rest d content, content? cs = some content ∧ cs = before ++ rest ∧
      Starts d rest content ∧ (∀ c, Starts d rest c → content <+: c) ∧
      ∀ b r d' c, cs = b ++ r → Starts d' r c → before <+: b) ∨
    (content? cs = none ∧ ∀ b r d c, cs = b ++ r → ¬Starts d r c) := by
  induction cs with
  | nil =>
    refine Or.inr ⟨rfl, ?_⟩
    rintro b r d c hnil ⟨hd, tail, rfl, -⟩
    obtain ⟨q, -, rfl⟩ := isDelimiter_iff.mp hd
    exact absurd hnil.symm (by simp)
  | cons a cs ih =>
    rcases contentAt?_cases (a :: cs) with ⟨d, content, hread, hstarts, hleast⟩ | ⟨hread, hnot⟩
    · exact Or.inl ⟨[], a :: cs, d, content, by rw [content?, hread]; rfl, rfl, hstarts, hleast,
        fun b _ _ _ _ _ => List.nil_prefix⟩
    · -- a block starts behind the first character
      have hcons : ∀ b r d c, a :: cs = b ++ r → Starts d r c → ∃ b', b = a :: b' ∧ cs = b' ++ r := by
        intro b r d c hcs hstarts
        cases b with
        | nil => exact absurd (hcs ▸ hstarts) (hnot d c)
        | cons e b =>
          obtain ⟨rfl, htail⟩ := List.cons.inj hcs
          exact ⟨b, rfl, htail⟩
      rcases ih with ⟨before, rest, d, content, hnext, hcs, hstarts, hleast, hfirst⟩ | ⟨hnext, hnone⟩
      · refine Or.inl ⟨a :: before, rest, d, content, by rw [content?, hread, hnext]; rfl,
          by rw [hcs]; rfl, hstarts, hleast, ?_⟩
        intro b r d' c hb hr
        obtain ⟨b', rfl, hb'⟩ := hcons b r d' c hb hr
        exact List.cons_prefix_cons.mpr ⟨rfl, hfirst b' r d' c hb' hr⟩
      · refine Or.inr ⟨by rw [content?, hread, hnext]; rfl, fun b r d c hb hr => ?_⟩
        obtain ⟨b', rfl, hb'⟩ := hcons b r d c hb hr
        exact hnone b' r d c hb' hr

/-! ## Blocks by their bytes -/

theorem IsDelimiter.byteLength {d : List Char} (h : IsDelimiter d) : byteLength d = 3 := by
  rcases h with rfl | rfl <;> rfl

theorem isBlock_iff {source d : List Char} {i j : Nat} :
    IsBlock source d i j ↔ ∃ before rest content, source = before ++ rest ∧
      Starts d rest content ∧ i = byteLength before ∧ j = byteLength (before ++ (d ++ content)) := by
  constructor
  · rintro ⟨hd, ⟨before, after, hsource, hi, hopen⟩, ⟨upto, rest, hsource', hj, -⟩, hapart⟩
    have hstart : before ++ d <+: source := ⟨after, by rw [hsource, List.append_assoc]⟩
    have hupto : upto <+: source := ⟨d ++ rest, hsource'.symm⟩
    obtain ⟨content, rfl⟩ := prefix_of_byteLength_le hstart hupto (by omega)
    refine ⟨before, d ++ (content ++ (d ++ rest)), content, ?_, ⟨hd, _, rfl, rest, rfl⟩, hi.symm, ?_⟩
    · rw [hsource']
      simp only [List.append_assoc]
    · rw [← hj, List.append_assoc]
  · rintro ⟨before, rest, content, rfl, ⟨hd, tail, rfl, after, rfl⟩, rfl, rfl⟩
    have hlen := hd.byteLength
    refine ⟨hd, ⟨before, content ++ (d ++ after), rfl, rfl, ?_⟩,
      ⟨before ++ (d ++ content), after, by simp only [List.append_assoc], rfl, ?_⟩, ?_⟩
    · rw [byteLength_append, hlen]
    · rw [byteLength_append _ d, hlen]
    · rw [byteLength_append, byteLength_append, hlen]
      omega

/-- The first block is determined. -/
theorem IsFirst.unique {source d d' : List Char} {i i' j j' : Nat} (h : IsFirst source d i j)
    (h' : IsFirst source d' i' j') : d = d' ∧ i = i' ∧ j = j' := by
  have hi : i = i' := Nat.le_antisymm (h.opens_first d' i' j' h'.toIsBlock)
    (h'.opens_first d i j h.toIsBlock)
  subst hi
  obtain rfl : d = d' := h.opens.unique h'.opens
  exact ⟨rfl, rfl, Nat.le_antisymm (h.closes_first j' h'.toIsBlock)
    (h'.closes_first j h.toIsBlock)⟩

/-- The content that is found is that of the first block, and none is found when there is none. -/
theorem content?_first (source : List Char) :
    (∃ d i j content, content? source = some content ∧ IsFirst source d i j ∧
      Slice source (i + 3) j content) ∨
    (content? source = none ∧ ∀ d i j, ¬IsBlock source d i j) := by
  rcases content?_cases source with
    ⟨before, rest, d, content, hread, hsource, hstarts, hleast, hfirst⟩ | ⟨hread, hnone⟩
  · have hblock : IsBlock source d (byteLength before) (byteLength (before ++ (d ++ content))) :=
      isBlock_iff.mpr ⟨before, rest, content, hsource, hstarts, rfl, rfl⟩
    refine Or.inl ⟨d, _, _, content, hread, ⟨hblock, ?_, ?_⟩, ?_⟩
    · intro d' i' j' h
      obtain ⟨b, r, c, hb, hr, rfl, rfl⟩ := isBlock_iff.mp h
      exact byteLength_le_of_prefix (hfirst b r d' c hb hr)
    · intro j' h
      obtain ⟨b, r, c, hb, hr, hi, rfl⟩ := isBlock_iff.mp h
      obtain ⟨rfl, rfl⟩ := append_inj_of_byteLength (hsource.symm.trans hb) hi
      exact byteLength_le_of_prefix ((List.prefix_append_right_inj _).mpr
        ((List.prefix_append_right_inj d).mpr (hleast c hr)))
    · obtain ⟨hd, tail, rfl, after, rfl⟩ := hstarts
      refine ⟨before ++ d, d ++ after, by rw [hsource, List.append_assoc], ?_, ?_⟩
      · rw [byteLength_append, hd.byteLength]
      · rw [List.append_assoc]
  · refine Or.inr ⟨hread, fun d i j h => ?_⟩
    obtain ⟨b, r, c, hb, hr, -, -⟩ := isBlock_iff.mp h
    exact hnone b r d c hb hr

/-! ## Title and description -/

/-- The content gives this title and this description: the first line that is not blank, and the
    lines behind it with line feeds between them, both trimmed. -/
inductive Describes (content : List Char) : DocBlock → Prop
  | blank {ls : List (List Char)} : HasLines content ls → (∀ l ∈ ls, l.all isBlank = true) →
      Describes content { title := "", description := "" }
  | told {blanks ls : List (List Char)} {l : List Char} : HasLines content (blanks ++ l :: ls) →
      (∀ b ∈ blanks, b.all isBlank = true) → l.all isBlank = false →
      Describes content
        { title := trim (String.ofList l)
          description := trim (String.ofList (['\n'].intercalate ls)) }

theorem Describes.ofContent_eq {content : List Char} {b : DocBlock} (h : Describes content b) :
    ofContent content = b := by
  cases h with
  | blank hlines hblank =>
    rw [ofContent, hlines.lines_eq, List.dropWhile_eq_nil_iff.mpr hblank]
  | told hlines hblanks hl =>
    rw [ofContent, hlines.lines_eq, List.dropWhile_append_of_pos hblanks,
      List.dropWhile_cons_of_neg (by rw [hl]; exact Bool.false_ne_true)]
    dsimp only
    rw [ofList_trimChars, ofList_trimChars]

theorem describes_ofContent (content : List Char) : Describes content (ofContent content) := by
  have hlines := hasLines_lines content
  rw [ofContent]
  split
  · rename_i hnil
    exact .blank hlines (List.dropWhile_eq_nil_iff.mp hnil)
  · rename_i l ls hcons
    have hblanks : ∀ b ∈ (lines content).takeWhile (·.all isBlank), b.all isBlank = true :=
      fun b hb => List.mem_takeWhile_imp (p := fun l : List Char => l.all isBlank) hb
    have hl := List.head?_dropWhile_not (·.all isBlank) (lines content)
    rw [hcons] at hl
    rw [← List.takeWhile_append_dropWhile (p := (·.all isBlank)) (l := lines content), hcons] at hlines
    rw [ofList_trimChars, ofList_trimChars]
    exact .told hlines hblanks hl

/-- A block is found just when a delimiter comes again behind itself. It is the first one, its
    content is what stands between its delimiters, and title and description are the first line of
    the content that is not blank and the lines behind it. A delimiter that never comes again is
    not where the first block opens, and hides no block. -/
theorem find?_first_block (source : String) :
    ((∃ b, find? source = some b) ↔ ∃ d i j, IsBlock source.toList d i j) ∧
    (∀ b, find? source = some b ↔ ∃ d i j content, IsFirst source.toList d i j ∧
      Slice source.toList (i + 3) j content ∧ Describes content b) ∧
    ∀ d i, IsDelimiter d → Slice source.toList i (i + 3) d →
      (∀ j, i + 3 ≤ j → ¬Slice source.toList j (j + 3) d) →
      (∀ d' i' j', IsFirst source.toList d' i' j' → i' ≠ i) ∧
      ∀ d' i' j', i < i' → IsBlock source.toList d' i' j' → ∃ b, find? source = some b := by
  have hsome : (∃ b, find? source = some b) ↔ ∃ d i j, IsBlock source.toList d i j := by
    rcases content?_first source.toList with ⟨d, i, j, content, hread, hfirst, -⟩ | ⟨hread, hnone⟩
    · have hfound : find? source = some (ofContent content) := by rw [find?, hread]; rfl
      exact ⟨fun _ => ⟨d, i, j, hfirst.toIsBlock⟩, fun _ => ⟨_, hfound⟩⟩
    · refine ⟨?_, fun ⟨d, i, j, h⟩ => absurd h (hnone d i j)⟩
      rintro ⟨b, hb⟩
      rw [find?, hread] at hb
      exact absurd hb nofun
  refine ⟨hsome, fun b => ⟨fun hb => ?_, ?_⟩, ?_⟩
  · rcases content?_first source.toList with ⟨d, i, j, content, hread, hfirst, hslice⟩ | ⟨hread, -⟩
    · rw [find?, hread] at hb
      obtain rfl := Option.some.inj hb
      exact ⟨d, i, j, content, hfirst, hslice, describes_ofContent content⟩
    · rw [find?, hread] at hb
      exact absurd hb nofun
  · rintro ⟨d, i, j, content, hfirst, hslice, hb⟩
    rcases content?_first source.toList with
      ⟨d', i', j', content', hread, hfirst', hslice'⟩ | ⟨-, hnone⟩
    · obtain ⟨rfl, rfl, rfl⟩ := hfirst.unique hfirst'
      rw [find?, hread, ← hslice.unique hslice', Option.map_some, hb.ofContent_eq]
    · exact absurd hfirst.toIsBlock (hnone d i j)
  · intro d i _ hopens hunclosed
    constructor
    · rintro d' i' j' hfirst rfl
      obtain rfl := hfirst.opens.unique hopens
      exact hunclosed j' hfirst.apart hfirst.closes
    · exact fun d' i' j' _ hblock => hsome.mpr ⟨d', i', j', hblock⟩

/-- Two quotes of the delimiter's kind in the title, and an opening before the block that is never
    closed by its own kind. -/
example : find? "\"\"\" a\n'''\r\n Say ''hi\r\n\n  twice \n'''" =
    some { title := "Say ''hi", description := "twice" } := by
  decide +kernel

end AskSheet.Script.DocBlock
