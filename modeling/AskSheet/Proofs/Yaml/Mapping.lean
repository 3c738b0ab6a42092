/-
  Mappings that were written one entry after the other. Entries with keys that can stand plain and
  values that are read back (`Entry.IsRead`) are the tokens of one block mapping
  (`tokens?_entries`), which are the mapping of the keys to the values (`document?_entries`).
-/
import AskSheet.Proofs.Yaml.Scalar
import AskSheet.Yaml.Node

namespace AskSheet.Yaml

/-- An entry: its key, and the style and text of its value with the characters of it. -/
structure Entry where
  key : List Char
  style : Style
  text : List Char
  written : List Char
  deriving DecidableEq, Repr

namespace Entry

/-- The entry with this text as its value. -/
def ofText (key value : String) : Entry :=
  ⟨key.toList, styleOf value, value.toList, scalar 2 value⟩

/-- The characters of the entry. -/
def chars (e : Entry) : List Char := e.key ++ ':' :: ' ' :: e.written

def tokens (e : Entry) : List Token :=
  [.key, .scalar .plain e.key, .value, .scalar e.style e.text]

/-- The nodes of the key and the value. -/
def nodes (e : Entry) : Node × Node :=
  (.scalar none .plain (String.ofList e.key), .scalar none e.style (String.ofList e.text))

/-- The entry is one that is read back. -/
structure IsRead (e : Entry) : Prop where
  isKey : IsKey e.key
  reads : Lexer.ReadsScalar e.style e.text e.written
  admissible : ∀ c ∈ e.written, isAdmissible c = true

theorem chars_ofText (key value : String) :
    (ofText key value).chars = (entry 0 key value).toList := by
  simp [chars, ofText, entry]

/-- An entry with a text that is not empty is read back. -/
theorem isRead_ofText {key value : String} (hkey : IsKey key.toList) (hne : value ≠ "") :
    (ofText key value).IsRead :=
  ⟨hkey, Lexer.readsScalar_scalar hne, isAdmissible_scalar 2 value⟩

end Entry

/-! ## Tokens -/

theorem startsEntry_flatMap {es : List Entry} (h : ∀ e ∈ es, e.IsRead) :
    StartsEntry (es.flatMap Entry.chars) := by
  cases es with
  | nil => exact fun c hc => absurd hc (by simp)
  | cons e es =>
    obtain ⟨c, hc, halpha⟩ := (h e List.mem_cons_self).isKey.1
    intro d hd
    rw [List.flatMap_cons, Entry.chars, List.append_assoc, List.head?_append,
      Option.mem_def.mp hc, Option.some_or] at hd
    obtain rfl := Option.some.inj hd
    exact halpha

namespace Lexer

/-- After the last entry the mapping is closed. -/
theorem run_end {s : Lexer} {T : List Token} (h : s.AtLine T [0] []) :
    s.run = some (T.reverse ++ [.blockEnd]) := by
  obtain ⟨c, happroach, hc, -, -⟩ := h
  rw [run, happroach]
  dsimp only
  rw [if_pos hc]
  simp [unroll, inFlow, dropMark]

theorem run_entries {es : List Entry} (h : ∀ e ∈ es, e.IsRead) {s : Lexer} {T : List Token}
    (hline : s.AtLine T [0] (es.flatMap Entry.chars)) :
    s.run = some (T.reverse ++ es.flatMap Entry.tokens ++ [.blockEnd]) := by
  induction es generalizing s T with
  | nil =>
    rw [List.flatMap_nil, List.append_nil]
    exact run_end hline
  | cons e es ih =>
    have hrest : ∀ f ∈ es, f.IsRead := fun f hf => h f (List.mem_cons_of_mem e hf)
    obtain ⟨hkey, hreads, -⟩ := h e List.mem_cons_self
    rw [List.flatMap_cons, Entry.chars, List.append_assoc] at hline
    obtain ⟨t, hrun, ht⟩ := run_entry hkey hreads (startsEntry_flatMap hrest) (Or.inr rfl) hline
    rw [hrun, ih hrest ht]
    simp [opened, Entry.tokens]

end Lexer

theorem isAdmissible_of_isNameChar {c : Char} (h : isNameChar c = true) :
    isAdmissible c = true := by
  refine Text.forall_small (p := fun c => isNameChar c = true → isAdmissible c = true) ?_
    (toNat_lt_of_isNameChar h) h
  decide

theorem Entry.IsRead.isAdmissible {e : Entry} (h : e.IsRead) :
    ∀ c ∈ e.chars, isAdmissible c = true := by
  intro c hc
  rw [chars, List.mem_append, List.mem_cons, List.mem_cons] at hc
  rcases hc with hc | rfl | rfl | hc
  · exact isAdmissible_of_isNameChar (h.isKey.2.1 c hc)
  · decide
  · decide
  · exact h.admissible c hc

/-- The tokens of a document of entries. -/
theorem tokens?_entries {es : List Entry} (hne : es ≠ []) (h : ∀ e ∈ es, e.IsRead) :
    tokens? (String.ofList (es.flatMap Entry.chars)) =
      some (.blockMappingStart :: es.flatMap Entry.tokens ++ [.blockEnd]) := by
  have hall : (es.flatMap Entry.chars).all isAdmissible = true := by
    rw [List.all_eq_true]
    intro c hc
    obtain ⟨e, he, hce⟩ := List.mem_flatMap.mp hc
    exact (h e he).isAdmissible c hce
  obtain ⟨e, es, rfl⟩ := List.exists_cons_of_ne_nil hne
  have hrest : ∀ f ∈ es, f.IsRead := fun f hf => h f (List.mem_cons_of_mem e hf)
  obtain ⟨hkey, hreads, -⟩ := h e List.mem_cons_self
  have hline : Lexer.AtLine { cursor := { rest := (e :: es).flatMap Entry.chars } } [] []
      ((e :: es).flatMap Entry.chars) :=
    Lexer.atLine_self (Or.inl rfl) (startsEntry_flatMap h) rfl rfl
  rw [tokens?, String.toList_ofList, if_pos hall]
  rw [List.flatMap_cons, Entry.chars, List.append_assoc, List.cons_append,
    List.cons_append] at hline ⊢
  obtain ⟨t, hrun, ht⟩ :=
    Lexer.run_entry hkey hreads (startsEntry_flatMap hrest) (Or.inl rfl) hline
  rw [hrun, Lexer.run_entries hrest ht]
  simp [Lexer.opened, Entry.tokens]

/-! ## Nodes -/

namespace Source

variable {s : Source}

theorem node_scalar {style : Style} {text : List Char} {ts : List Token} {block indentless : Bool}
    (fuel : Nat) (h : s.tokens = .scalar style text :: ts) :
    s.node block indentless (fuel + 1) =
      some (.scalar none style (String.ofList text), s.goTo ts) := by
  have hproperties : s.properties = some (none, none, s) := by rw [properties, h]
  rw [node, h]
  dsimp only
  rw [hproperties]
  dsimp only
  rw [h]
  rfl

theorem nodeUnless_scalar {style : Style} {text : List Char} {ts : List Token}
    {block indentless : Bool} (fuel : Nat) (h : s.tokens = .scalar style text :: ts) :
    s.nodeUnless blockStops block indentless (fuel + 2) =
      some (.scalar none style (String.ofList text), s.goTo ts) := by
  have hsees : s.sees blockStops = false := by
    rw [sees, h]
    rfl
  rw [nodeUnless, if_neg (by rw [hsees]; exact Bool.false_ne_true), node_scalar fuel h]

/-- The entries of a mapping up to its end. -/
theorem blockEntries_entries (es : List Entry) {ts : List Token} {fuel : Nat}
    (h : s.tokens = es.flatMap Entry.tokens ++ .blockEnd :: ts) (hfuel : es.length + 4 ≤ fuel) :
    s.blockEntries fuel = some (es.map Entry.nodes, s.goTo ts) := by
  induction es generalizing s fuel with
  | nil =>
    obtain ⟨f, rfl⟩ : ∃ f, fuel = f + 1 := ⟨fuel - 1, by omega⟩
    rw [List.flatMap_nil, List.nil_append] at h
    rw [blockEntries, h]
    rfl
  | cons e es ih =>
    rw [List.length_cons] at hfuel
    obtain ⟨f, rfl⟩ : ∃ f, fuel = f + 4 := ⟨fuel - 4, by omega⟩
    have htokens : s.tokens = .key :: .scalar .plain e.key :: .value :: .scalar e.style e.text ::
        (es.flatMap Entry.tokens ++ .blockEnd :: ts) := h
    have hentries :=
      @ih (s.goTo (es.flatMap Entry.tokens ++ .blockEnd :: ts)) (f + 3) rfl (by omega)
    rw [blockEntries, htokens]
    dsimp only
    rw [nodeUnless_scalar (f + 1) rfl]
    dsimp only [Option.bind_eq_bind, Option.bind_some]
    rw [valueUnless]
    dsimp only [goTo]
    rw [nodeUnless_scalar f rfl]
    dsimp only [Option.bind_some, goTo] at hentries ⊢
    rw [hentries]
    rfl

end Source

theorem length_le_tokens (es : List Entry) : es.length ≤ (es.flatMap Entry.tokens).length := by
  induction es with
  | nil => exact Nat.le_refl _
  | cons e es ih =>
    rw [List.flatMap_cons, List.length_append, List.length_cons, Entry.tokens]
    simp only [List.length_cons, List.length_nil]
    omega

/-- The content of a document of one mapping. -/
theorem content_entries (es : List Entry) :
    Document.content [] (.blockMappingStart :: (es.flatMap Entry.tokens ++ [.blockEnd])) =
      some (.mapping none (es.map Entry.nodes),
        { tokens := [], handles := Document.defaultHandles }) := by
  have hlen := length_le_tokens es
  obtain ⟨fuel, hfuel⟩ : ∃ fuel, 3 * (Token.blockMappingStart ::
      (es.flatMap Entry.tokens ++ [.blockEnd])).length + 3 = fuel + 1 :=
    ⟨_, rfl⟩
  have henough : es.length + 4 ≤ fuel := by
    simp only [List.length_cons, List.length_append, List.length_nil] at hfuel
    omega
  have hentries := @Source.blockEntries_entries
    { tokens := es.flatMap Entry.tokens ++ [.blockEnd], handles := Document.defaultHandles } es []
    fuel rfl henough
  rw [Document.content, hfuel, Source.node]
  dsimp only [Source.properties, Source.goTo, Source.anchored, List.nil_append]
  rw [hentries]
  rfl

/-- A mapping and nothing after it is a document. -/
theorem ofTokens?_entries (es : List Entry) :
    Document.ofTokens? (.blockMappingStart :: es.flatMap Entry.tokens ++ [.blockEnd]) =
      some { root := .mapping none (es.map Entry.nodes), anchors := {} } := by
  have hdirectives : Document.directives false []
      (.blockMappingStart :: (es.flatMap Entry.tokens ++ [.blockEnd])) =
        some ([], .blockMappingStart :: (es.flatMap Entry.tokens ++ [.blockEnd])) := by
    rw [Document.directives]
    · exact fun _ _ _ h => Token.noConfusion (List.cons.inj h).1
    · exact fun _ _ _ h => Token.noConfusion (List.cons.inj h).1
  rw [List.cons_append]
  show (Document.directives false [] (.blockMappingStart :: (_ ++ [.blockEnd])) >>= _) = _
  rw [hdirectives]
  show (if List.length _ = List.length _ then Document.content [] _ >>= _ else _) = _
  rw [if_pos rfl, content_entries]
  rfl

/-- A document of entries is one mapping. -/
theorem document?_entries {es : List Entry} (hne : es ≠ []) (h : ∀ e ∈ es, e.IsRead) :
    document? (String.ofList (es.flatMap Entry.chars)) =
      some { root := .mapping none (es.map Entry.nodes), anchors := {} } := by
  rw [document?, tokens?_entries hne h, Option.bind_some, ofTokens?_entries]

end AskSheet.Yaml
