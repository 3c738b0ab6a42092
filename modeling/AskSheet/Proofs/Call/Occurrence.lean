/-
  Where calls of `input` stand in a source. `IsCall source s` says that the bytes from `s.start` to
  `s.stop` spell a call on a word boundary. Calls may overlap: text that looks like a call can stand
  in the literal of another one. `Taken source i ss` picks from the byte `i` on the call that starts
  first, and goes on where it ends.

  `Taken` has exactly one outcome (`Taken.unique`, `taken_literals`), in increasing order without
  overlap (`Taken.pairwise`), and each call that it passes over starts inside one that it took
  (`Taken.covers`). The literals of a source are those of the calls taken from its first byte on
  (`literals_are_taken_calls`).
-/
import AskSheet.Proofs.Call.Spelling
import AskSheet.Proofs.Text.Octets
import AskSheet.Sheet

namespace AskSheet.Script.Call

open Text

/-- A range of bytes, and the literal of the call that stands there. -/
structure Span where
  start : Nat
  stop : Nat
  literal : String
  deriving DecidableEq, Repr

/-- Whether the last character is a word character; no call starts right after such a text. -/
def endsInWord (cs : List Char) : Bool := cs.getLast?.any isWordChar

/-- A call on a word boundary stands in this range of the source. -/
def IsCall (source : List Char) (s : Span) : Prop :=
  ∃ before call after, source = before ++ call ++ after ∧ Spells call s.literal.toList ∧
    endsInWord before = false ∧ s.start = byteLength before ∧ s.stop = byteLength (before ++ call)

/-- The calls taken one after the other from the byte `i` on: each time the one that starts first
    among those that start no earlier than the place reached. -/
inductive Taken (source : List Char) : Nat → List Span → Prop
  | done {i : Nat} (none : ∀ s, IsCall source s → s.start < i) : Taken source i []
  | take {i : Nat} {s : Span} {ss : List Span} (call : IsCall source s) (reached : i ≤ s.start)
      (first : ∀ t, IsCall source t → i ≤ t.start → s.start ≤ t.start)
      (rest : Taken source s.stop ss) : Taken source i (s :: ss)

variable {source : List Char}

/-! ## Calls -/

theorem IsCall.start_lt_stop {s : Span} (h : IsCall source s) : s.start < s.stop := by
  obtain ⟨before, call, after, _, hcall, _, hstart, hstop⟩ := h
  cases call with
  | nil => exact absurd rfl hcall.ne_nil
  | cons c call =>
    have := byteLength_cons_pos c call
    rw [hstart, hstop, byteLength_append]
    omega

theorem IsCall.stop_le {s : Span} (h : IsCall source s) : s.stop ≤ byteLength source := by
  obtain ⟨before, call, after, rfl, _, _, _, hstop⟩ := h
  rw [hstop, byteLength_append (before ++ call)]
  omega

/-- At most one call starts at a place. -/
theorem IsCall.unique {s t : Span} (hs : IsCall source s) (ht : IsCall source t)
    (h : s.start = t.start) : s = t := by
  obtain ⟨before, call, after, hsource, hcall, _, hstart, hstop⟩ := hs
  obtain ⟨before', call', after', hsource', hcall', _, hstart', hstop'⟩ := ht
  rw [hsource, List.append_assoc, List.append_assoc] at hsource'
  obtain ⟨hb, hrest⟩ := append_inj_of_byteLength hsource' (by rw [← hstart, ← hstart', h])
  obtain ⟨hc, hl⟩ := hcall.unique hcall' hrest
  have hstops : s.stop = t.stop := by rw [hstop, hstop', hb, hc]
  have hlits : s.literal = t.literal := String.toList_inj.mp hl
  cases s
  cases t
  simp_all

/-- A call that starts where the text `cs` does is the one that `cs` starts with. -/
theorem IsCall.at {before cs : List Char} {s : Span} (h : IsCall (before ++ cs) s)
    (hs : s.start = byteLength before) :
    endsInWord before = false ∧
      ∃ call after, cs = call ++ after ∧ Spells call s.literal.toList := by
  obtain ⟨before', call, after, hsource, hcall, hword, hstart, _⟩ := h
  rw [List.append_assoc] at hsource
  obtain ⟨rfl, hcs⟩ := append_inj_of_byteLength hsource (by rw [← hs, hstart])
  exact ⟨hword, call, after, hcs, hcall⟩

/-- No call starts inside a character. -/
theorem IsCall.next_le {before cs : List Char} {c : Char} {s : Span}
    (h : IsCall (before ++ c :: cs) s) (hle : byteLength before ≤ s.start)
    (hne : s.start ≠ byteLength before) : byteLength (before ++ [c]) ≤ s.start := by
  obtain ⟨before', call, after, hsource, _, _, hstart, _⟩ := h
  rw [List.append_assoc] at hsource
  have hbefore : before' <+: before ++ c :: cs :=
    hsource ▸ List.prefix_append before' (call ++ after)
  obtain ⟨t, rfl⟩ := prefix_of_byteLength_le (List.prefix_append before (c :: cs)) hbefore
    (hstart ▸ hle)
  cases t with
  | nil => exact absurd (by rw [hstart, List.append_nil]) hne
  | cons d t =>
    rw [List.append_assoc] at hsource
    obtain ⟨rfl, _⟩ := List.cons.inj (List.append_cancel_left hsource)
    rw [hstart, byteLength_append, byteLength_append, byteLength, byteLength, byteLength]
    omega

/-! ## Calls taken one after the other -/

theorem Taken.isCall {i : Nat} {ss : List Span} (h : Taken source i ss) :
    ∀ s ∈ ss, IsCall source s ∧ i ≤ s.start := by
  induction h with
  | done _ => exact fun s hs => absurd hs List.not_mem_nil
  | @take i s ss call reached _ _ ih =>
    intro t ht
    rcases List.mem_cons.mp ht with rfl | ht
    · exact ⟨call, reached⟩
    · have := call.start_lt_stop
      exact ⟨(ih t ht).1, by have := (ih t ht).2; omega⟩

theorem Taken.unique {i : Nat} {ss ts : List Span} (hs : Taken source i ss)
    (ht : Taken source i ts) : ss = ts := by
  induction hs generalizing ts with
  | done none =>
    cases ht with
    | done _ => rfl
    | take call reached _ _ => exact absurd (none _ call) (by omega)
  | @take i s ss call reached first _ ih =>
    cases ht with
    | done none => exact absurd (none _ call) (by omega)
    | take call' reached' first' rest' =>
      have := first _ call' reached'
      have := first' _ call reached
      obtain rfl := call.unique call' (by omega)
      rw [ih rest']

/-- The calls taken do not overlap and stand in the order of the source. -/
theorem Taken.pairwise {i : Nat} {ss : List Span} (h : Taken source i ss) :
    ss.Pairwise fun s t => s.stop ≤ t.start := by
  induction h with
  | done _ => exact List.Pairwise.nil
  | take _ _ _ rest ih => exact List.Pairwise.cons (fun t ht => (rest.isCall t ht).2) ih

/-- A call that is not taken starts inside one that is. -/
theorem Taken.covers {i : Nat} {ss : List Span} (h : Taken source i ss) {t : Span}
    (ht : IsCall source t) (hi : i ≤ t.start) :
    t ∈ ss ∨ ∃ s ∈ ss, s.start < t.start ∧ t.start < s.stop := by
  induction h with
  | done none => exact absurd (none t ht) (by omega)
  | @take i s ss call reached first _ ih =>
    have hle := first t ht hi
    rcases Nat.lt_or_ge t.start s.stop with hlt | hge
    · rcases Nat.eq_or_lt_of_le hle with heq | hlt'
      · rw [call.unique ht heq]
        exact Or.inl List.mem_cons_self
      · exact Or.inr ⟨s, List.mem_cons_self, hlt', hlt⟩
    · rcases ih hge with hmem | ⟨r, hr, hin⟩
      · exact Or.inl (List.mem_cons_of_mem s hmem)
      · exact Or.inr ⟨r, List.mem_cons_of_mem s hr, hin⟩

/-- Where no call starts, taking goes on with the next character. -/
theorem Taken.skip {before cs : List Char} {c : Char} {ss : List Span}
    (h : Taken (before ++ c :: cs) (byteLength (before ++ [c])) ss)
    (none : ∀ s, IsCall (before ++ c :: cs) s → s.start ≠ byteLength before) :
    Taken (before ++ c :: cs) (byteLength before) ss := by
  have hle : byteLength before ≤ byteLength (before ++ [c]) := by rw [byteLength_append]; omega
  cases h with
  | done none' =>
    refine Taken.done fun s hs => Nat.lt_of_not_le fun hge => ?_
    exact absurd (none' s hs) (Nat.not_lt_of_le (hs.next_le hge (none s hs)))
  | take call reached first rest =>
    exact Taken.take call (Nat.le_trans hle reached)
      (fun t ht hi => first t ht (ht.next_le hi (none t ht))) rest

theorem endsInWord_append_singleton (cs : List Char) (c : Char) :
    endsInWord (cs ++ [c]) = isWordChar c := by
  rw [endsInWord, List.getLast?_concat, Option.any_some]

/-- No word ends where a call does. -/
theorem Spells.endsInWord {before call lit : List Char} (h : Spells call lit) :
    endsInWord (before ++ call) = false := by
  rw [Call.endsInWord, List.getLast?_append, h.last, Option.some_or, Option.any_some,
    isWordChar_closing]

/-- The literals found from a place on are those of the calls taken from there. -/
theorem taken_literals (inWord : Bool) (cs before : List Char)
    (hword : inWord = endsInWord before) :
    ∃ ss, Taken (before ++ cs) (byteLength before) ss ∧
      (literals inWord cs).map String.ofList = ss.map Span.literal := by
  -- one step of the reader moves the place by one character or over one call
  fun_induction literals inWord cs generalizing before with
  | case1 inWord =>
    refine ⟨[], Taken.done fun s hs => ?_, rfl⟩
    have := hs.start_lt_stop
    have := hs.stop_le
    rw [List.append_nil] at this
    omega
  | case2 c cs ih =>
    obtain ⟨ss, hss, hlits⟩ := ih (before ++ [c]) (endsInWord_append_singleton before c).symm
    rw [List.append_assoc, List.singleton_append] at hss
    refine ⟨ss, hss.skip fun s hs hat => ?_, hlits⟩
    rw [(hs.at hat).1] at hword
    exact absurd hword (by decide)
  | case3 inWord c cs hin lit rest hat _ ih =>
    obtain ⟨call, hcall, hcs⟩ := spells_of_at? hat
    obtain ⟨ss, hss, hlits⟩ := ih (before ++ call) hcall.endsInWord.symm
    rw [List.append_assoc, ← hcs] at hss
    let s : Span := ⟨byteLength before, byteLength (before ++ call), String.ofList lit⟩
    have hs : IsCall (before ++ c :: cs) s := by
      refine ⟨before, call, rest, by rw [hcs, List.append_assoc], ?_, ?_, rfl, rfl⟩
      · rw [String.toList_ofList]
        exact hcall
      · rw [← hword]
        exact eq_false_of_ne_true hin
    exact ⟨s :: ss, Taken.take hs (Nat.le_refl _) (fun t _ hi => hi) hss, by
      rw [List.map_cons, List.map_cons, hlits]⟩
  | case4 inWord c cs hin hat ih =>
    obtain ⟨ss, hss, hlits⟩ := ih (before ++ [c]) (endsInWord_append_singleton before c).symm
    rw [List.append_assoc, List.singleton_append] at hss
    refine ⟨ss, hss.skip fun s hs hstart => ?_, hlits⟩
    obtain ⟨_, call, after, hcs, hcall⟩ := hs.at hstart
    rw [hcs, at?_append hcall] at hat
    exact absurd hat (by simp)

/-- A literal stands on one line. -/
theorem newline_not_mem_of_literals {source lit : String} (h : lit ∈ Sheet.literals source) :
    '\n' ∉ lit.toList := by
  obtain ⟨ss, hss, hlits⟩ := taken_literals false source.toList [] rfl
  rw [Sheet.literals, hlits] at h
  obtain ⟨s, hs, rfl⟩ := List.mem_map.mp h
  obtain ⟨_, _, _, _, hcall, _⟩ := (hss.isCall s hs).1
  obtain ⟨_, _, _, _, _, _, _, hline, _⟩ := hcall
  exact hline

/-- The prompts of a script are those of the calls taken from its first byte on: at each place at
    most one call starts, the calls taken are determined, stand in the order of the source without
    overlap, and each other call starts inside one of them. -/
theorem literals_are_taken_calls (source : String) :
    (∀ s t, IsCall source.toList s → IsCall source.toList t → s.start = t.start → s = t) ∧
    ∃ ss, Taken source.toList 0 ss ∧ (∀ ts, Taken source.toList 0 ts → ts = ss) ∧
      Sheet.literals source = ss.map Span.literal ∧
      (Sheet.literals source = [] ↔ ∀ s, ¬ IsCall source.toList s) ∧
      (∀ s ∈ ss, IsCall source.toList s ∧ s.start < s.stop) ∧
      ss.Pairwise (fun s t => s.stop ≤ t.start) ∧
      (∀ t, IsCall source.toList t → t ∉ ss → ∃ s ∈ ss, s.start < t.start ∧ t.start < s.stop) ∧
      (Sheet.ofScript source).prompts = ss.map fun s => Prompt.parse s.literal := by
  refine ⟨fun s t hs ht h => hs.unique ht h, ?_⟩
  obtain ⟨ss, hss, hlits⟩ := taken_literals false source.toList [] rfl
  have hcovers := fun t (ht : IsCall source.toList t) => hss.covers ht (Nat.zero_le _)
  have hempty : ss = [] ↔ ∀ s, ¬ IsCall source.toList s := by
    constructor
    · rintro rfl s hs
      rcases hcovers s hs with hmem | ⟨r, hr, _⟩
      · exact List.not_mem_nil hmem
      · exact List.not_mem_nil hr
    · intro none
      exact List.eq_nil_iff_forall_not_mem.mpr fun s hs => none s (hss.isCall s hs).1
  refine ⟨ss, hss, fun ts hts => hts.unique hss, hlits, ?_, ?_, hss.pairwise, ?_, ?_⟩
  · rw [← hempty, Sheet.literals, hlits, List.map_eq_nil_iff]
  · exact fun s hs => ⟨(hss.isCall s hs).1, (hss.isCall s hs).1.start_lt_stop⟩
  · intro t ht hnot
    exact (hcovers t ht).resolve_left hnot
  · show (Sheet.literals source).map Prompt.parse = _
    rw [Sheet.literals, hlits, List.map_map]
    rfl

end AskSheet.Script.Call
