/-
  What reading a prompt does to each character of it. A bracket is free when no backslash stands
  right before it; the first free `[` and the first free `]` after it enclose the placeholder
  (`IsSpan`). A backslash right before a bracket is an escape. `places` lists the characters of a
  text with their byte offsets, so that what the label keeps is said about the whole text, while
  reading joins the two sides of the brackets, trims them and only then drops the escapes of what
  is left.

  `splitBrackets_eq_some_iff` says where a text is cut, `unescape_eq_kept` which characters
  unescaping keeps, `unescape_trimChars` that trimming may as well come last, and
  `parse_by_places` is the whole of reading.
-/
import AskSheet.Proofs.Prompt.Reading
import AskSheet.Proofs.Prompt.Writing
import AskSheet.Proofs.Text.Octets

namespace AskSheet.Prompt

open Text

/-! ## Free brackets -/

/-- A `d` with no backslash right before it stands at this byte offset. -/
def IsFree (d : Char) (cs : List Char) (n : Nat) : Prop :=
  ∃ before after, cs = before ++ d :: after ∧ byteLength before = n ∧ before.getLast? ≠ some '\\'

/-- The brackets at these byte offsets enclose the placeholder. -/
structure IsSpan (cs : List Char) (first last : Nat) : Prop where
  opens : IsFree '[' cs first
  opens_first : ∀ n < first, ¬IsFree '[' cs n
  lt : first < last
  closes : IsFree ']' cs last
  closes_first : ∀ n, first < n → n < last → ¬IsFree ']' cs n

/-- A text can be cut at this byte offset. -/
def IsBoundary (cs : List Char) (n : Nat) : Prop := ∃ before, before <+: cs ∧ byteLength before = n

/-- All delimiters before a cut are guarded, and the cut itself is not; `passed` is what stands
    before the text. -/
theorem guarded_of_cutAt {d : Char} {passed cs before after : List Char}
    (h : cutAt d (passed.getLast? = some '\\') cs = some (before, after)) :
    (∀ b a, before = b ++ d :: a → (passed ++ b).getLast? = some '\\') ∧
      (passed ++ before).getLast? ≠ some '\\' := by
  induction cs generalizing passed before with
  | nil => exact absurd h (by simp [cutAt])
  | cons c cs ih =>
    rw [cutAt] at h
    split at h
    · rename_i hc
      simp only [Bool.and_eq_true, decide_eq_true_eq, Bool.not_eq_true',
        decide_eq_false_iff_not] at hc
      obtain ⟨rfl, -⟩ := Prod.mk.inj (Option.some.inj h)
      constructor
      · intro b a hb
        exact absurd hb (by simp)
      · rw [List.append_nil]
        exact hc.2
    · rename_i hc
      obtain ⟨⟨tail, rest⟩, hcut, heq⟩ := Option.map_eq_some_iff.mp h
      obtain ⟨rfl, rfl⟩ := Prod.mk.inj heq
      have hstate : decide (c = '\\') = decide ((passed ++ [c]).getLast? = some '\\') := by
        rw [List.getLast?_concat]
        simp only [Option.some.injEq]
      rw [hstate] at hcut
      obtain ⟨hguard, hend⟩ := ih hcut
      constructor
      · intro b a hb
        cases b with
        | nil =>
          obtain ⟨rfl, -⟩ := List.cons.inj hb
          simpa using hc
        | cons e b =>
          obtain ⟨rfl, htail⟩ := List.cons.inj hb
          have hlast := hguard b a htail
          rwa [List.append_assoc] at hlast
      · rwa [List.append_assoc] at hend

/-- A text is cut at its first free delimiter. -/
theorem cutAt_eq_some_iff {d : Char} {cs before after : List Char} :
    cutAt d false cs = some (before, after) ↔
      cs = before ++ d :: after ∧ Guarded d before ∧ before.getLast? ≠ some '\\' := by
  constructor
  · intro h
    have hguard := @guarded_of_cutAt d [] cs before after h
    exact ⟨eq_of_cutAt h, hguard⟩
  · rintro ⟨rfl, hguard, hend⟩
    exact cutAt_guarded hguard hend after

theorem splitBrackets_eq_some_iff {cs before inside after : List Char} :
    splitBrackets cs = some (before, inside, after) ↔
      cs = before ++ '[' :: (inside ++ ']' :: after) ∧
      (Guarded '[' before ∧ before.getLast? ≠ some '\\') ∧
      Guarded ']' inside ∧ inside.getLast? ≠ some '\\' := by
  simp only [splitBrackets, Option.bind_eq_bind, Option.bind_eq_some_iff, Prod.exists,
    Option.pure_def, Option.some.injEq, Prod.mk.injEq]
  constructor
  · rintro ⟨b, rest, hopen, i, a, hclose, rfl, rfl, rfl⟩
    obtain ⟨rfl, hopens⟩ := cutAt_eq_some_iff.mp hopen
    obtain ⟨rfl, hcloses⟩ := cutAt_eq_some_iff.mp hclose
    exact ⟨rfl, hopens, hcloses⟩
  · rintro ⟨rfl, hopens, hcloses⟩
    exact ⟨before, inside ++ ']' :: after, cutAt_eq_some_iff.mpr ⟨rfl, hopens⟩, inside, after,
      cutAt_eq_some_iff.mpr ⟨rfl, hcloses⟩, rfl, rfl, rfl⟩

theorem IsFree.lt_byteLength {d : Char} {cs : List Char} {n : Nat} (h : IsFree d cs n) :
    n < byteLength cs := by
  obtain ⟨before, after, rfl, rfl, -⟩ := h
  have := byteLength_cons_pos d after
  rw [byteLength_append]
  omega

theorem isFree_append_left {d : Char} {cs rest : List Char} {n : Nat} (hn : n < byteLength cs) :
    IsFree d (cs ++ rest) n ↔ IsFree d cs n := by
  constructor
  · rintro ⟨before, after, hcs, rfl, hfree⟩
    have hpre : before <+: cs :=
      prefix_of_byteLength_le (hcs ▸ List.prefix_append before (d :: after))
        (List.prefix_append cs rest) (Nat.le_of_lt hn)
    obtain ⟨t, rfl⟩ := hpre
    cases t with
    | nil => exact absurd hn (by rw [List.append_nil]; exact Nat.lt_irrefl _)
    | cons e t =>
      rw [List.append_assoc] at hcs
      obtain ⟨rfl, -⟩ := List.cons.inj (List.append_cancel_left hcs)
      exact ⟨before, t, rfl, rfl, hfree⟩
  · rintro ⟨before, after, rfl, hlen, hfree⟩
    exact ⟨before, after ++ rest, by rw [List.append_assoc]; rfl, hlen, hfree⟩

theorem isFree_append_right {d : Char} {passed cs : List Char} (h : passed.getLast? ≠ some '\\')
    {n : Nat} : IsFree d (passed ++ cs) (byteLength passed + n) ↔ IsFree d cs n := by
  constructor
  · rintro ⟨before, after, hcs, hlen, hfree⟩
    have hpre : passed <+: before :=
      prefix_of_byteLength_le (List.prefix_append passed cs)
        (hcs ▸ List.prefix_append before (d :: after)) (by omega)
    obtain ⟨t, rfl⟩ := hpre
    rw [List.append_assoc] at hcs
    rw [byteLength_append] at hlen
    refine ⟨t, after, List.append_cancel_left hcs, by omega, fun ht => hfree ?_⟩
    rw [List.getLast?_append, ht, Option.some_or]
  · rintro ⟨before, after, rfl, rfl, hfree⟩
    refine ⟨passed ++ before, after, by rw [List.append_assoc], byteLength_append .., ?_⟩
    rw [List.getLast?_append]
    cases hlast : before.getLast? with
    | none => exact h
    | some c => rwa [hlast] at hfree

theorem guarded_iff_not_isFree {d : Char} {cs : List Char} :
    Guarded d cs ↔ ∀ n, ¬IsFree d cs n := by
  constructor
  · rintro h n ⟨before, after, hcs, -, hfree⟩
    exact hfree (h before after hcs)
  · intro h before after hcs
    refine Decidable.byContradiction fun hfree => ?_
    exact h (byteLength before) ⟨before, after, hcs, rfl, hfree⟩

section

variable {cs before inside after : List Char}

theorem isSpan_of_splitBrackets (h : splitBrackets cs = some (before, inside, after)) :
    IsSpan cs (byteLength before) (byteLength (before ++ ['[']) + byteLength inside) := by
  obtain ⟨rfl, ⟨hopen, hend⟩, hclose, hlast⟩ := splitBrackets_eq_some_iff.mp h
  have hlen : byteLength (before ++ ['[']) = byteLength before + 1 := byteLength_append ..
  have hcs : before ++ '[' :: (inside ++ ']' :: after) =
      (before ++ ['[']) ++ (inside ++ ']' :: after) := by simp
  have hpassed : (before ++ ['[']).getLast? ≠ some '\\' := by simp
  constructor
  · exact ⟨before, _, rfl, rfl, hend⟩
  · intro n hn hfree
    exact guarded_iff_not_isFree.mp hopen n ((isFree_append_left hn).mp hfree)
  · omega
  · rw [hcs, isFree_append_right hpassed]
    exact ⟨inside, after, rfl, rfl, hlast⟩
  · intro n hlow hhigh hfree
    obtain ⟨m, rfl⟩ : ∃ m, n = byteLength (before ++ ['[']) + m :=
      Nat.exists_eq_add_of_le (by omega)
    rw [hcs, isFree_append_right hpassed, isFree_append_left (by omega)] at hfree
    exact guarded_iff_not_isFree.mp hclose m hfree

theorem exists_splitBrackets_of_isSpan {first last : Nat} (h : IsSpan cs first last) :
    ∃ before inside after, splitBrackets cs = some (before, inside, after) ∧
      first = byteLength before ∧ last = byteLength (before ++ ['[']) + byteLength inside := by
  obtain ⟨before, rest, rfl, hfirst, hend⟩ := h.opens
  obtain ⟨upto, after, hcs, hlast, hfree⟩ := h.closes
  have hlen : byteLength (before ++ ['[']) = first + 1 := by
    rw [← hfirst]
    exact byteLength_append ..
  -- the closing bracket comes after the opening one
  have hpre : before ++ ['['] <+: upto := by
    have hopen : before ++ ['['] <+: before ++ '[' :: rest := ⟨rest, by simp⟩
    have hclose : upto <+: before ++ '[' :: rest := hcs ▸ List.prefix_append upto (']' :: after)
    have hlt := h.lt
    exact prefix_of_byteLength_le hopen hclose (by omega)
  obtain ⟨inside, rfl⟩ := hpre
  have hrest : rest = inside ++ ']' :: after := by simpa using hcs
  rw [byteLength_append (before ++ ['['])] at hlast
  refine ⟨before, inside, after, splitBrackets_eq_some_iff.mpr ⟨by rw [hrest], ⟨?_, hend⟩, ?_, ?_⟩,
    hfirst.symm, hlast.symm⟩
  · rw [guarded_iff_not_isFree]
    intro n hn
    have hlt := hn.lt_byteLength
    exact h.opens_first n (by omega) ((isFree_append_left hlt).mpr hn)
  · rw [guarded_iff_not_isFree]
    intro n hn
    have hlt := hn.lt_byteLength
    refine h.closes_first (byteLength (before ++ ['[']) + n) (by omega) (by omega) ?_
    rw [hcs, List.append_assoc, isFree_append_right (by simp), isFree_append_left hlt]
    exact hn
  · intro hback
    rw [List.getLast?_append, hback] at hfree
    exact hfree rfl

end

/-! ## Characters in their places -/

/-- A character of a text, with its byte offset and the character after it. -/
structure Place where
  offset : Nat
  char : Char
  next? : Option Char

namespace Place

/-- A backslash right before a bracket. -/
def isEscape (p : Place) : Bool := p.char == '\\' && (p.next? == some '[' || p.next? == some ']')

theorem isEscape_iff {p : Place} :
    p.isEscape = true ↔ p.char = '\\' ∧ (p.next? = some '[' ∨ p.next? = some ']') := by
  simp only [isEscape, Bool.and_eq_true, Bool.or_eq_true, beq_iff_eq]

/-- The character and whether it is an escape. -/
def mark (p : Place) : Char × Bool := (p.char, p.isEscape)

end Place

/-- The characters of a text that starts at a byte offset; `beyond?` is the character after it. -/
def places (offset : Nat) (beyond? : Option Char) : List Char → List Place
  | [] => []
  | c :: cs => ⟨offset, c, cs.head?.or beyond?⟩ :: places (offset + c.utf8Size) beyond? cs

/-- The characters before the one or behind the other byte offset, in their places in the text. -/
def outside (first last : Nat) (cs : List Char) : List Place :=
  (places 0 none cs).filter fun p => p.offset < first || last < p.offset

/-- The characters between two byte offsets. -/
def between (first last : Nat) (cs : List Char) : List Place :=
  (places 0 none cs).filter fun p => first < p.offset && p.offset < last

def charsOf (ps : List Place) : List Char := ps.map Place.char

def textOf (ps : List Place) : String := String.ofList (charsOf ps)

/-- The characters of these places without the escapes. -/
def kept (ps : List Place) : List Place := ps.filter fun p => !p.isEscape

/-- A bracket or a backslash. -/
def isMark (c : Char) : Bool := c == '[' || c == ']' || c == '\\'

theorem places_append (offset : Nat) (beyond? : Option Char) (cs ds : List Char) :
    places offset beyond? (cs ++ ds) =
      places offset (ds.head?.or beyond?) cs ++ places (offset + byteLength cs) beyond? ds := by
  induction cs generalizing offset with
  | nil => rfl
  | cons c cs ih =>
    rw [List.cons_append, places, places, ih, List.cons_append, byteLength, Nat.add_assoc,
      List.head?_append, Option.or_assoc]

theorem charsOf_places (offset : Nat) (beyond? : Option Char) (cs : List Char) :
    charsOf (places offset beyond? cs) = cs := by
  induction cs generalizing offset with
  | nil => rfl
  | cons c cs ih => exact congrArg (c :: ·) (ih (offset + c.utf8Size))

theorem offset_bounds {offset : Nat} {beyond? : Option Char} {cs : List Char} {p : Place}
    (h : p ∈ places offset beyond? cs) : offset ≤ p.offset ∧ p.offset < offset + byteLength cs := by
  induction cs generalizing offset with
  | nil => exact absurd h List.not_mem_nil
  | cons c cs ih =>
    have hpos := c.utf8Size_pos
    rw [byteLength]
    rcases List.mem_cons.mp h with rfl | h
    · exact ⟨Nat.le_refl _, by show offset < _; omega⟩
    · have := ih h
      omega

/-- Which characters are escapes does not depend on where the text starts, nor, unless a backslash
    at its end is followed by a bracket, on what comes after it. -/
theorem marks_places (offset : Nat) (beyond? : Option Char) {cs : List Char}
    (h : cs.getLast? = some '\\' → beyond? ≠ some '[' ∧ beyond? ≠ some ']') :
    (places offset beyond? cs).map Place.mark = (places 0 none cs).map Place.mark := by
  suffices hany : ∀ n, (places offset beyond? cs).map Place.mark =
      (places n none cs).map Place.mark from hany 0
  intro n
  induction cs generalizing offset n with
  | nil => rfl
  | cons c cs ih =>
    rw [places, places, List.map_cons, List.map_cons]
    cases cs with
    | nil =>
      have hplain : (Place.mk offset c beyond?).isEscape = false := by
        rw [← Bool.not_eq_true, Place.isEscape_iff]
        rintro ⟨rfl, hnext⟩
        exact hnext.elim (h rfl).1 (h rfl).2
      have hlast : (Place.mk n c none).isEscape = false := by simp [Place.isEscape]
      exact congrArg (fun escape => [(c, escape)]) (hplain.trans hlast.symm)
    | cons d ds =>
      rw [List.getLast?_cons_cons] at h
      rw [ih (offset + c.utf8Size) h (n + c.utf8Size)]
      rfl

theorem charsOf_kept (ps : List Place) :
    charsOf (kept ps) = ((ps.map Place.mark).filter (!·.2)).map Prod.fst := by
  rw [charsOf, kept, List.filter_map, List.map_map]
  rfl

theorem charsOf_kept_cons {p : Place} (h : p.isEscape = false) (ps : List Place) :
    charsOf (kept (p :: ps)) = p.char :: charsOf (kept ps) := by
  rw [kept, List.filter_cons_of_pos (by rw [h]; rfl)]
  rfl

theorem charsOf_kept_cons_escape {p : Place} (h : p.isEscape = true) (ps : List Place) :
    charsOf (kept (p :: ps)) = charsOf (kept ps) := by
  rw [kept, List.filter_cons_of_neg (by rw [h]; simp)]
  rfl

/-- Unescaping drops the escapes and nothing else. -/
theorem unescape_eq_kept (offset : Nat) (cs : List Char) :
    unescape cs = charsOf (kept (places offset none cs)) := by
  fun_induction unescape cs generalizing offset with
  | case1 => rfl
  | case2 cs ih =>
    rw [places, places, charsOf_kept_cons_escape rfl, charsOf_kept_cons rfl, ← ih]
  | case3 cs ih =>
    rw [places, places, charsOf_kept_cons_escape rfl, charsOf_kept_cons rfl, ← ih]
  | case4 c cs hopen hclose ih =>
    have hplain : (Place.mk offset c (cs.head?.or none)).isEscape = false := by
      rw [Option.or_none, ← Bool.not_eq_true, Place.isEscape_iff]
      rintro ⟨rfl, hnext | hnext⟩
      · obtain ⟨t, rfl⟩ := List.head?_eq_some_iff.mp hnext
        exact hopen t rfl rfl
      · obtain ⟨t, rfl⟩ := List.head?_eq_some_iff.mp hnext
        exact hclose t rfl rfl
    rw [places, charsOf_kept_cons hplain, ← ih]

/-! ## Trimming last -/

theorem unescape_append {cs ds : List Char}
    (h : cs.getLast? = some '\\' → ds.head? ≠ some '[' ∧ ds.head? ≠ some ']') :
    unescape (cs ++ ds) = unescape cs ++ unescape ds := by
  rw [unescape_eq_kept 0, unescape_eq_kept 0 cs, unescape_eq_kept (0 + byteLength cs) ds,
    places_append, Option.or_none, charsOf_kept, charsOf_kept, charsOf_kept, List.map_append,
    marks_places 0 ds.head? h, List.filter_append, List.map_append]

theorem unescape_of_no_backslash {cs : List Char} (h : '\\' ∉ cs) : unescape cs = cs := by
  induction cs with
  | nil => rfl
  | cons c cs ih =>
    obtain ⟨hc, hcs⟩ := not_or.mp (mt List.mem_cons.mpr h)
    rw [unescape_cons fun heq => absurd heq.symm hc, ih hcs]

theorem getLast?_unescape (cs : List Char) : (unescape cs).getLast? = cs.getLast? := by
  fun_induction unescape cs with
  | case1 => rfl
  | case2 cs ih => rw [List.getLast?_cons, List.getLast?_cons_cons, List.getLast?_cons, ih]
  | case3 cs ih => rw [List.getLast?_cons, List.getLast?_cons_cons, List.getLast?_cons, ih]
  | case4 c cs _ _ ih => rw [List.getLast?_cons, List.getLast?_cons, ih]

theorem trimmed_unescape {cs : List Char} (h : Trimmed cs) : Trimmed (unescape cs) := by
  constructor
  · fun_cases unescape cs with
    | case1 => exact trimmed_nil.1
    | case2 cs => rintro b ⟨rfl⟩; decide
    | case3 cs => rintro b ⟨rfl⟩; decide
    | case4 c cs _ _ => exact h.1
  · rw [getLast?_unescape]
    exact h.2

/-- Trimming takes off no escape and uncovers none. -/
theorem unescape_trimChars (cs : List Char) :
    unescape (trimChars cs) = trimChars (unescape cs) := by
  obtain ⟨w, v, hcs, hw, hv⟩ := exists_trimChars cs
  have hblank : ∀ bs : List Char, (∀ c ∈ bs, isBlank c = true) → '\\' ∉ bs := fun bs h hc =>
    absurd (h _ hc) (by decide)
  have hstart : w.getLast? ≠ some '\\' := fun h => hblank w hw (List.mem_of_getLast? h)
  have hend : ∀ b, isBlank b = false → v.head? ≠ some b := fun b hb h =>
    absurd (hv b (List.mem_of_head? h)) (by rw [hb]; exact Bool.false_ne_true)
  have hunescape : unescape cs = w ++ (unescape (trimChars cs) ++ v) := by
    rw [congrArg unescape hcs, unescape_append fun h => absurd h hstart,
      unescape_append fun _ => ⟨hend '[' rfl, hend ']' rfl⟩, unescape_of_no_backslash (hblank w hw),
      unescape_of_no_backslash (hblank v hv)]
  rw [hunescape, trimChars_blanks_append hw, trimChars_append_blanks _ hv,
    trimChars_eq_self_iff.mpr (trimmed_unescape (trimmed_trimChars cs))]

/-! ## Reading -/

section

variable {offset : Nat} {beyond? : Option Char} {cs : List Char} {p : Place → Bool}

theorem filter_places_all
    (h : ∀ q : Place, offset ≤ q.offset ∧ q.offset < offset + byteLength cs → p q = true) :
    (places offset beyond? cs).filter p = places offset beyond? cs :=
  List.filter_eq_self.mpr fun q hq => h q (offset_bounds hq)

theorem filter_places_none
    (h : ∀ q : Place, offset ≤ q.offset ∧ q.offset < offset + byteLength cs → p q = false) :
    (places offset beyond? cs).filter p = [] := by
  rw [List.filter_eq_nil_iff]
  intro q hq
  rw [h q (offset_bounds hq)]
  exact Bool.false_ne_true

end

section

variable {raw before inside after : List Char} {first last : Nat}
  (hraw : raw = before ++ '[' :: (inside ++ ']' :: after)) (hfirst : first = byteLength before)
  (hlast : last = byteLength (before ++ ['[']) + byteLength inside)
include hraw hfirst hlast

/-- Outside the brackets are the two sides of them. -/
theorem outside_eq :
    outside first last raw = places 0 (some '[') before ++ places (last + 1) none after := by
  have hsides : raw = before ++ ('[' :: (inside ++ [']']) ++ after) := by rw [hraw]; simp
  have hopen : byteLength (before ++ ['[']) = byteLength before + 1 := byteLength_append ..
  have hspan : byteLength ('[' :: (inside ++ [']'])) = 1 + (byteLength inside + 1) := by
    rw [byteLength, byteLength_append]
    rfl
  rw [outside, hsides, places_append, places_append, List.filter_append, List.filter_append,
    filter_places_all, filter_places_none, filter_places_all, List.nil_append]
  · rw [show 0 + byteLength before + byteLength ('[' :: (inside ++ [']'])) = last + 1 by omega]
    rfl
  · intro q hq
    rw [Bool.or_eq_true, decide_eq_true_eq, decide_eq_true_eq]
    omega
  · intro q hq
    rw [Bool.or_eq_false_iff, decide_eq_false_iff_not, decide_eq_false_iff_not]
    omega
  · intro q hq
    rw [Bool.or_eq_true, decide_eq_true_eq, decide_eq_true_eq]
    omega

theorem between_eq : between first last raw = places (first + 1) (some ']') inside := by
  have hsides : raw = before ++ ['['] ++ (inside ++ ']' :: after) := by rw [hraw]; simp
  have hopen : byteLength (before ++ ['[']) = byteLength before + 1 := byteLength_append ..
  rw [between, hsides, places_append 0 none (before ++ ['[']), places_append _ none inside,
    List.filter_append, List.filter_append, filter_places_none, filter_places_all,
    filter_places_none, List.nil_append, List.append_nil]
  · rw [show 0 + byteLength (before ++ ['[']) = first + 1 by omega]
    rfl
  · intro q hq
    rw [Bool.and_eq_false_iff, decide_eq_false_iff_not, decide_eq_false_iff_not]
    omega
  · intro q hq
    rw [Bool.and_eq_true, decide_eq_true_eq, decide_eq_true_eq]
    omega
  · intro q hq
    rw [Bool.and_eq_false_iff, decide_eq_false_iff_not, decide_eq_false_iff_not]
    omega

theorem isBoundary_of_span : ∀ n ∈ [first, first + 1, last, last + 1], IsBoundary raw n := by
  have hopen : byteLength (before ++ ['[']) = byteLength before + 1 := byteLength_append ..
  have hinside : byteLength (before ++ ['['] ++ inside) = last := by
    rw [byteLength_append, hlast]
  have hclose : byteLength (before ++ ['['] ++ inside ++ [']']) = last + 1 := by
    rw [byteLength_append, hinside]
    rfl
  simp only [List.forall_mem_cons, List.not_mem_nil, false_implies, implies_true, and_true]
  refine ⟨⟨before, ?_, hfirst.symm⟩, ⟨before ++ ['['], ?_, by omega⟩,
    ⟨before ++ ['['] ++ inside, ?_, hinside⟩, ⟨before ++ ['['] ++ inside ++ [']'], ?_, hclose⟩⟩
  · exact ⟨_, hraw.symm⟩
  · exact ⟨inside ++ ']' :: after, by rw [hraw]; simp⟩
  · exact ⟨']' :: after, by rw [hraw]; simp⟩
  · exact ⟨after, by rw [hraw]; simp⟩

end

theorem label_of_marks {cs : List Char} {ps : List Place}
    (h : (places 0 none cs).map Place.mark = ps.map Place.mark) :
    String.ofList (unescape (trimChars cs)) = trim (textOf (kept ps)) := by
  rw [unescape_trimChars, unescape_eq_kept 0, charsOf_kept, h, ← charsOf_kept, trim, textOf,
    String.toList_ofList]

theorem filter_isMark_trim (ps : List Place) :
    (trim (textOf ps)).toList.filter isMark = (charsOf ps).filter isMark := by
  rw [trim_toList, textOf, String.toList_ofList]
  refine filter_trimChars (fun c hc => ?_) _
  rw [← Bool.not_eq_true, isMark, Bool.or_eq_true, Bool.or_eq_true, beq_iff_eq, beq_iff_eq,
    beq_iff_eq]
  rintro ((rfl | rfl) | rfl) <;> exact absurd hc (by decide)

/-- The first free `[` and the first free `]` behind it enclose the placeholder, which is the
    trimmed text between them. The label is the text outside of them without the backslashes that
    stand right before a bracket of the whole text, trimmed; without such a pair it is all of the
    text, less these backslashes. So the label has each bracket from outside, escaped or not, and
    every other backslash, in order; what is outside has the same escapes joined as in its place;
    and all cuts are made between characters. -/
theorem parse_by_places (raw : String) :
    (∀ first last, IsSpan raw.toList first last →
      Prompt.parse raw =
        { label := trim (textOf (kept (outside first last raw.toList)))
          placeholder := trim (textOf (between first last raw.toList)) } ∧
      (Prompt.parse raw).label.toList.filter isMark =
        (charsOf (kept (outside first last raw.toList))).filter isMark ∧
      (places 0 none (charsOf (outside first last raw.toList))).map Place.mark =
        (outside first last raw.toList).map Place.mark ∧
      ∀ n ∈ [first, first + 1, last, last + 1], IsBoundary raw.toList n) ∧
    ((∀ first last, ¬IsSpan raw.toList first last) →
      Prompt.parse raw =
        { label := trim (textOf (kept (places 0 none raw.toList))), placeholder := "" } ∧
      (Prompt.parse raw).label.toList.filter isMark =
        (charsOf (kept (places 0 none raw.toList))).filter isMark) := by
  constructor
  · intro first last hspan
    obtain ⟨before, inside, after, hsplit, hfirst, hlast⟩ := exists_splitBrackets_of_isSpan hspan
    obtain ⟨hraw, ⟨-, hend⟩, -⟩ := splitBrackets_eq_some_iff.mp hsplit
    have houtside := outside_eq hraw hfirst hlast
    have hjoined : charsOf (outside first last raw.toList) = before ++ after := by
      rw [houtside, charsOf, List.map_append]
      exact congrArg₂ (· ++ ·) (charsOf_places ..) (charsOf_places ..)
    -- the bracket before which the first side ends makes no escape of its last character
    have hmarks : (places 0 none (charsOf (outside first last raw.toList))).map Place.mark =
        (outside first last raw.toList).map Place.mark := by
      have hbefore (e : Option Char) : (places 0 e before).map Place.mark =
          (places 0 none before).map Place.mark := marks_places 0 e fun h => absurd h hend
      have hafter (n : Nat) : (places n none after).map Place.mark =
          (places 0 none after).map Place.mark := marks_places n none fun _ => ⟨nofun, nofun⟩
      rw [hjoined, houtside, places_append, List.map_append, List.map_append,
        hbefore (after.head?.or none), hbefore (some '['), hafter (0 + byteLength before),
        hafter (last + 1)]
    have hparse : Prompt.parse raw =
        { label := trim (textOf (kept (outside first last raw.toList)))
          placeholder := trim (textOf (between first last raw.toList)) } := by
      rw [Prompt.parse, hsplit]
      dsimp only
      have hinside : trim (textOf (between first last raw.toList)) =
          String.ofList (trimChars inside) := by
        rw [between_eq hraw hfirst hlast, textOf, charsOf_places, trim, String.toList_ofList]
      rw [← hjoined, label_of_marks hmarks, hinside]
    refine ⟨hparse, ?_, hmarks, isBoundary_of_span hraw hfirst hlast⟩
    rw [hparse]
    exact filter_isMark_trim _
  · intro hnone
    have hsplit : splitBrackets raw.toList = none := by
      cases h : splitBrackets raw.toList with
      | none => rfl
      | some parts => exact absurd (isSpan_of_splitBrackets h) (hnone _ _)
    have hparse : Prompt.parse raw =
        { label := trim (textOf (kept (places 0 none raw.toList))), placeholder := "" } := by
      rw [Prompt.parse, hsplit]
      dsimp only
      rw [label_of_marks rfl]
    refine ⟨hparse, ?_⟩
    rw [hparse]
    exact filter_isMark_trim _

/-- A prompt with an escaped bracket before the span, one in it and a stray one behind it. -/
def strayBrackets : String := "é\\[ [\\]x]]"

theorem parse_by_places_stray :
    IsSpan strayBrackets.toList 5 9 ∧
      Prompt.parse strayBrackets = { label := "é[ ]", placeholder := "\\]x" } ∧
      IsBoundary strayBrackets.toList 9 := by
  have hsplit : splitBrackets strayBrackets.toList =
      some (['é', '\\', '[', ' '], ['\\', ']', 'x'], [']']) := by decide
  have hspan : IsSpan strayBrackets.toList 5 9 := isSpan_of_splitBrackets hsplit
  obtain ⟨hparse, -, -, hcut⟩ := (parse_by_places strayBrackets).1 5 9 hspan
  exact ⟨hspan, hparse.trans (by decide), hcut 9 (by simp)⟩

end AskSheet.Prompt
