/-
  Writing templates. A list of segments is written with the braces of its texts doubled and its
  variables in braces, and reading that gives the segments back (`parse_written`). A template of
  segments renders to the texts and values one after the other (`render_ofSegments`). So what was
  written renders to the segments, or blames the first of them without a value at the length of what
  was written before it (`render_written`).
-/
import AskSheet.Proofs.Template.Token

namespace AskSheet.Template

open Text

/-- A segment of a template: text to be copied, or a variable. -/
inductive Segment where
  | copy (text : String)
  | hole (name : String)
  deriving DecidableEq, Repr

/-- How a character of text is written. -/
def doubled (c : Char) : List Char := if c = '{' ∨ c = '}' then [c, c] else [c]

namespace Segment

/-- The source of a segment. -/
def source : Segment → List Char
  | copy text => text.toList.flatMap doubled
  | hole name => '{' :: (name.toList ++ ['}'])

/-- A variable that comes back when it is read: its name is not empty and trimmed, has no closing
    brace and does not start with an opening one. -/
def Writable : Segment → Prop
  | copy _ => True
  | hole name => name ≠ "" ∧ trim name = name ∧ '}' ∉ name.toList ∧ name.toList.head? ≠ some '{'

instance : DecidablePred Writable
  | copy _ => inferInstanceAs (Decidable True)
  | hole _ => inferInstanceAs (Decidable (_ ∧ _))

/-- The parts of a segment whose source starts at this byte position. -/
def parts (position : Nat) : Segment → List TemplatePart
  | copy text => text.toList.map TemplatePart.literal
  | hole name => [.variable name position]

/-- The name of a variable. -/
def name? : Segment → Option String
  | copy _ => none
  | hole name => some name

/-- What a segment renders to, if its variable has a value. -/
def value? (values : Bindings) : Segment → Option String
  | copy text => some text
  | hole name => values.lookup name

end Segment

/-- The source of segments. -/
def written (segments : List Segment) : List Char := segments.flatMap Segment.source

/-- The parts of segments whose source starts at this byte position. -/
def partsOf (position : Nat) : List Segment → List TemplatePart
  | [] => []
  | s :: segments => s.parts position ++ partsOf (position + byteLength s.source) segments

/-- The template of segments. -/
def ofSegments (segments : List Segment) : Template := { parts := partsOf 0 segments }

/-! ## Reading -/

/-- The token that a character of text is written as. -/
def Token.ofChar (c : Char) : Token :=
  if c = '{' then .opening else if c = '}' then .closing else .plain c

theorem Token.ofChar_spec (c : Char) : (ofChar c).source = doubled c ∧ (ofChar c).Sound ∧
    (∀ cs, (ofChar c).Fits cs) ∧ ∀ position, (ofChar c).part position = .literal c := by
  unfold ofChar
  split
  · rename_i hopen
    subst hopen
    exact ⟨rfl, trivial, fun _ => trivial, fun _ => rfl⟩
  · rename_i hopen
    split
    · rename_i hclose
      subst hclose
      exact ⟨rfl, trivial, fun _ => trivial, fun _ => rfl⟩
    · rename_i hclose
      have hsource : doubled c = [c] := if_neg (not_or.mpr ⟨hopen, hclose⟩)
      exact ⟨hsource.symm, trivial, fun _ => ⟨hopen, hclose⟩, fun _ => rfl⟩

theorem nameIn_toList {name : String} (h : (Segment.hole name).Writable) :
    nameIn name.toList = name := by
  rw [nameIn, String.ofList_toList, h.2.1]

/-- The tokens that a segment is read as. -/
def Segment.tokens : Segment → List Token
  | copy text => text.toList.map Token.ofChar
  | hole name => [.hole name.toList]

/-- The source of a segment is read as its tokens, whatever follows. -/
theorem reads_source {s : Segment} (hw : s.Writable) {cs : List Char} {ts : List Token}
    (h : Reads cs ts []) : Reads (s.source ++ cs) (s.tokens ++ ts) [] := by
  cases s with
  | copy text =>
    show Reads (text.toList.flatMap doubled ++ cs) (text.toList.map Token.ofChar ++ ts) []
    induction text.toList with
    | nil => exact h
    | cons c ds ih =>
      obtain ⟨hsource, -, hfits, -⟩ := Token.ofChar_spec c
      rw [List.flatMap_cons, List.append_assoc, ← hsource]
      exact .step (hfits _) ih
  | hole name =>
    obtain ⟨-, -, hclose, hopen⟩ := hw
    have hfits : (Token.hole name.toList).Fits cs := ⟨hopen, hclose⟩
    exact .step hfits h

theorem sound_of_mem_tokens {s : Segment} (hw : s.Writable) : ∀ t ∈ s.tokens, t.Sound := by
  intro t ht
  cases s with
  | copy text =>
    obtain ⟨c, -, rfl⟩ := List.mem_map.mp ht
    exact (Token.ofChar_spec c).2.1
  | hole name =>
    obtain rfl := List.mem_singleton.mp ht
    show nameIn name.toList ≠ ""
    rw [nameIn_toList hw]
    exact hw.1

/-- The tokens of a segment have its source and are its parts. -/
theorem partsAt_tokens {s : Segment} (hw : s.Writable) (position : Nat) (ts : List Token) :
    partsAt position (s.tokens ++ ts) =
      s.parts position ++ partsAt (position + byteLength s.source) ts := by
  cases s with
  | copy text =>
    show partsAt position (text.toList.map Token.ofChar ++ ts) = text.toList.map _ ++
      partsAt (position + byteLength (text.toList.flatMap doubled)) ts
    induction text.toList generalizing position with
    | nil => rfl
    | cons c ds ih =>
      obtain ⟨hsource, -, -, hpart⟩ := Token.ofChar_spec c
      rw [List.map_cons, List.cons_append, partsAt, hpart, hsource, ih, List.flatMap_cons,
        byteLength_append, ← Nat.add_assoc]
      rfl
  | hole name =>
    show Token.part position (.hole name.toList) :: _ = _
    rw [Token.part, nameIn_toList hw]
    rfl

section

variable {segments : List Segment} (h : ∀ s ∈ segments, s.Writable)
include h

theorem reads_written :
    Reads (written segments) (segments.flatMap Segment.tokens) [] := by
  induction segments with
  | nil => exact .stop []
  | cons s segments ih =>
    obtain ⟨hs, hrest⟩ := List.forall_mem_cons.mp h
    exact reads_source hs (ih hrest)

theorem partsAt_written (position : Nat) :
    partsAt position (segments.flatMap Segment.tokens) = partsOf position segments := by
  induction segments generalizing position with
  | nil => rfl
  | cons s segments ih =>
    obtain ⟨hs, hrest⟩ := List.forall_mem_cons.mp h
    rw [List.flatMap_cons, partsAt_tokens hs, ih hrest, partsOf]

/-- Reading what was written gives the segments. -/
theorem parse_written : parse (String.ofList (written segments)) = .ok (ofSegments segments) := by
  have hreads : Reads (String.ofList (written segments)).toList
      (segments.flatMap Segment.tokens) [] := by
    rw [String.toList_ofList]
    exact reads_written h
  rw [parse_of_reads hreads fun t ht => ?_, partsAt_written h, ofSegments]
  obtain ⟨s, hs, ht⟩ := List.mem_flatMap.mp ht
  exact sound_of_mem_tokens (h s hs) t ht

end

/-! ## Rendering -/

section

variable {values : Bindings}

/-- Text is copied before what comes after it. -/
theorem renderParts_copy (cs : List Char) {ps : List TemplatePart} {text : String}
    (h : renderParts values ps = .ok text) :
    renderParts values (cs.map TemplatePart.literal ++ ps) = .ok (String.ofList cs ++ text) := by
  induction cs with
  | nil => rw [List.map_nil, List.nil_append, String.ofList_nil, String.empty_append, h]
  | cons c cs ih =>
    rw [List.map_cons, List.cons_append, renderParts_cons rfl, ih, String.ofList_cons,
      String.append_assoc]
    rfl

theorem renderParts_partsOf {segments : List Segment} {texts : List String}
    (h : segments.mapM (Segment.value? values) = some texts) (position : Nat) :
    renderParts values (partsOf position segments) = .ok (String.join texts) := by
  induction segments generalizing position texts with
  | nil =>
    obtain rfl : [] = texts := Option.some.inj h
    rw [partsOf, renderParts, String.join_nil]
  | cons s segments ih =>
    rw [List.mapM_cons] at h
    obtain ⟨value, hvalue, h⟩ := Option.bind_eq_some_iff.mp h
    obtain ⟨rest, hrest, h⟩ := Option.bind_eq_some_iff.mp h
    obtain rfl : value :: rest = texts := Option.some.inj h
    have hparts := ih hrest (position + byteLength s.source)
    rw [partsOf, String.join_cons]
    cases s with
    | copy text =>
      obtain rfl : text = value := Option.some.inj hvalue
      rw [Segment.parts, renderParts_copy text.toList hparts, String.ofList_toList]
    | hole name =>
      have htext : partText? values (.variable name position) = some value := hvalue
      rw [Segment.parts, List.singleton_append, renderParts_cons htext, hparts]
      rfl

/-- If every variable has a value, the template of segments renders to their texts and values. -/
theorem render_ofSegments {segments : List Segment} {texts : List String}
    (h : segments.mapM (Segment.value? values) = some texts) :
    (ofSegments segments).render values = .ok (String.join texts) :=
  renderParts_partsOf h 0

end

theorem isSome_of_mem_tokens {values : Bindings} {s : Segment} (hw : s.Writable)
    (h : (s.value? values).isSome) : ∀ t ∈ s.tokens, (t.text? values).isSome := by
  intro t ht
  cases s with
  | copy text =>
    obtain ⟨c, -, rfl⟩ := List.mem_map.mp ht
    obtain ⟨-, -, -, hpart⟩ := Token.ofChar_spec c
    rw [← partText?_part _ 0, hpart]
    rfl
  | hole name =>
    obtain rfl := List.mem_singleton.mp ht
    show (values.lookup (nameIn name.toList)).isSome
    rwa [nameIn_toList hw]

theorem filterMap_name?_tokens {segments : List Segment} (h : ∀ s ∈ segments, s.Writable) :
    (segments.flatMap Segment.tokens).filterMap Token.name? = segments.filterMap Segment.name? := by
  induction segments with
  | nil => rfl
  | cons s segments ih =>
    obtain ⟨hs, hrest⟩ := List.forall_mem_cons.mp h
    rw [List.flatMap_cons, List.filterMap_append, ih hrest]
    cases s with
    | copy text =>
      have hnone : ∀ t ∈ (Segment.copy text).tokens, t.name? = none := by
        intro t ht
        obtain ⟨c, -, rfl⟩ := List.mem_map.mp ht
        unfold Token.ofChar
        grind [Token.name?]
      rw [List.filterMap_eq_nil_iff.mpr hnone]
      rfl
    | hole name => exact congrArg (· :: segments.filterMap Segment.name?) (nameIn_toList hs)

/-- What was written is a template with the variables of the segments in their order. It renders to
    the texts and values of the segments as they are, or blames the first variable without a value at
    the byte length of what was written before it. -/
theorem render_written (segments : List Segment) (h : ∀ s ∈ segments, s.Writable) :
    ∃ template, parse (String.ofList (written segments)) = .ok template ∧
      template.variableNames = segments.filterMap Segment.name? ∧
      ∀ values : Bindings,
        (∀ texts, segments.mapM (Segment.value? values) = some texts →
          template.render values = .ok (String.join texts)) ∧
        ∀ before name after, segments = before ++ .hole name :: after →
          (∀ s ∈ before, (s.value? values).isSome) → values.lookup name = none →
          template.render values =
            .error (.undefinedVariable name (byteLength (written before))) := by
  have hparts : ofSegments segments = { parts := partsAt 0 (segments.flatMap Segment.tokens) } := by
    rw [ofSegments, partsAt_written h]
  refine ⟨ofSegments segments, parse_written h, ?_, fun values => ⟨fun texts htexts => ?_, ?_⟩⟩
  · rw [hparts, variableNames_partsAt, filterMap_name?_tokens h]
  · exact render_ofSegments htexts
  · rintro before name after rfl hbefore hmissing
    obtain ⟨hwritable, hrest⟩ := List.forall_mem_append.mp h
    have hname : nameIn name.toList = name := nameIn_toList (hrest _ List.mem_cons_self)
    have hlen : byteLength (sourceOf (before.flatMap Segment.tokens)) = byteLength (written before) := by
      rw [(reads_written hwritable).eq_append, List.append_nil]
    have hdefined : ∀ t ∈ before.flatMap Segment.tokens, (t.text? values).isSome := by
      intro t ht
      obtain ⟨s, hs, ht⟩ := List.mem_flatMap.mp ht
      exact isSome_of_mem_tokens (hwritable s hs) (hbefore s hs) t ht
    rw [← hname] at hmissing
    rw [hparts, List.flatMap_append, List.flatMap_cons]
    exact (render_of_missing hdefined hmissing _).trans (by rw [hname, hlen])

/-- Texts of braces against the braces of variables. -/
def seams : List Segment := [.copy "\x7dé\x7b", .hole "a", .copy "\x7b\x7d", .hole "b\x7b"]

theorem render_written_seams :
    (∀ s ∈ seams, s.Writable) ∧
    ∃ template, parse (String.ofList (written seams)) = .ok template ∧
      template.variableNames = ["a", "b\x7b"] ∧
      template.render [("a", "\x7bx\x7d"), ("b\x7b", "")] = .ok "\x7dé\x7b\x7bx\x7d\x7b\x7d" ∧
      template.render [("a", "")] = .error (.undefinedVariable "b\x7b" 13) := by
  have hwritable : ∀ s ∈ seams, s.Writable := by decide +kernel
  obtain ⟨template, hparse, hnames, hvalues⟩ := render_written seams hwritable
  refine ⟨hwritable, template, hparse, hnames, ?_, ?_⟩
  · exact (hvalues _).1 ["\x7dé\x7b", "\x7bx\x7d", "\x7b\x7d", ""] rfl
  · exact (hvalues [("a", "")]).2 [.copy "\x7dé\x7b", .hole "a", .copy "\x7b\x7d"] "b\x7b" [] rfl
      (by decide +kernel) rfl

end AskSheet.Template
