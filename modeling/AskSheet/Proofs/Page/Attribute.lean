/-
  Attributes of pages, read the way a browser finds them: a character at a time, with the place in
  the markup as state (`Place.step`). Text without `<` leaves content as it is, and text without the
  quote only makes a quoted value longer, so text that was filled in and escaped never begins an
  attribute. The names of the fields on a built-in page are therefore the numbers of the prompts
  (`fieldNames_pageText`).
-/
import AskSheet.Proofs.Page.BuiltIn
import AskSheet.Proofs.Page.Markup
import AskSheet.Proofs.Text.Numeral

namespace AskSheet.Page

open Text

/-- An attribute of a tag. The value is as written, with entities in it. -/
structure Attribute where
  name : String
  value : String
  deriving DecidableEq, Repr

/-- The blanks between attributes. -/
def isSeparator (c : Char) : Bool := c == ' ' || c == '\t' || c == '\n' || c == '\x0c' || c == '\r'

/-- Where a reader of a page stands, with the attribute read so far. -/
inductive Place where
  | content
  | opened
  | tag
  | between
  | name (read : String)
  | named (name : String)
  | equals (name : String)
  | quoted (name : String) (quote : Char) (read : String)
  | bare (name read : String)
  deriving DecidableEq, Repr

namespace Place

/-- One character: where the reader stands after it, and the attribute that ended there if one did.
    Comments and scripts are not told from other content. -/
def step : Place → Char → Place × List Attribute
  | content, c => (if c = '<' then opened else content, [])
  | opened, c => (if c.isAlpha || c = '/' then tag else if c = '<' then opened else content, [])
  | tag, c => (if c = '>' then content else if isSeparator c || c = '/' then between else tag, [])
  | between, c =>
    (if c = '>' then content else if isSeparator c || c = '/' then between
      else name (String.singleton c.toLower), [])
  | name n, c =>
    if c = '=' then (equals n, [])
    else if c = '>' then (content, [⟨n, ""⟩])
    else if c = '/' then (between, [⟨n, ""⟩])
    else if isSeparator c then (named n, [])
    else (name (n.push c.toLower), [])
  | named n, c =>
    if c = '=' then (equals n, [])
    else if c = '>' then (content, [⟨n, ""⟩])
    else if c = '/' then (between, [⟨n, ""⟩])
    else if isSeparator c then (named n, [])
    else (name (String.singleton c.toLower), [⟨n, ""⟩])
  | equals n, c =>
    if c = '"' || c = '\'' then (quoted n c "", [])
    else if c = '>' then (content, [⟨n, ""⟩])
    else if isSeparator c then (equals n, [])
    else (bare n (String.singleton c), [])
  | quoted n q v, c => if c = q then (between, [⟨n, v⟩]) else (quoted n q (v.push c), [])
  | bare n v, c =>
    if c = '>' then (content, [⟨n, v⟩])
    else if isSeparator c then (between, [⟨n, v⟩])
    else (bare n (v.push c), [])

/-- Reads characters, and gives the attributes that end among them. -/
def run (p : Place) : List Char → Place × List Attribute
  | [] => (p, [])
  | c :: cs =>
    let (q, found) := p.step c
    let (r, more) := q.run cs
    (r, found ++ more)

/-- The text takes a reader from one place to another, past these attributes. -/
def Reads (p : Place) (text : String) (q : Place) (found : List Attribute) : Prop :=
  p.run text.toList = (q, found)

instance (p : Place) (text : String) (q : Place) (found : List Attribute) :
    Decidable (p.Reads text q found) :=
  inferInstanceAs (Decidable (_ = _))

theorem run_cons {p q r : Place} {c : Char} {cs : List Char} {as bs : List Attribute}
    (hstep : p.step c = (q, as)) (hrun : q.run cs = (r, bs)) : p.run (c :: cs) = (r, as ++ bs) := by
  rw [run, hstep]
  dsimp only
  rw [hrun]

theorem run_append {p q r : Place} {cs ds : List Char} {as bs : List Attribute}
    (hcs : p.run cs = (q, as)) (hds : q.run ds = (r, bs)) : p.run (cs ++ ds) = (r, as ++ bs) := by
  induction cs generalizing p as with
  | nil =>
    rw [run, Prod.mk.injEq] at hcs
    obtain ⟨rfl, rfl⟩ := hcs
    exact hds
  | cons c cs ih =>
    rcases hstep : p.step c with ⟨p', found⟩
    rcases hrun : p'.run cs with ⟨q', more⟩
    rw [run_cons hstep hrun, Prod.mk.injEq] at hcs
    obtain ⟨rfl, rfl⟩ := hcs
    rw [List.cons_append, run_cons hstep (ih hrun), List.append_assoc]

/-- Text before other texts. -/
theorem Reads.cons {p q r : Place} {s : String} {ss : List String} {as bs : List Attribute}
    (hs : p.Reads s q as) (hss : q.Reads (String.join ss) r bs) :
    p.Reads (String.join (s :: ss)) r (as ++ bs) := by
  rw [Reads] at hs hss ⊢
  rw [String.join_cons, String.toList_append, run_append hs hss]

theorem reads_nil (p : Place) : p.Reads (String.join []) p [] := by
  rw [Reads, String.join_nil]
  rfl

/-- Texts that each leave a place as it is. -/
theorem reads_join {α : Type} {p : Place} {text : α → String} {found : α → List Attribute}
    (h : ∀ x, p.Reads (text x) p (found x)) (xs : List α) :
    p.Reads (String.join (xs.map text)) p (xs.flatMap found) := by
  induction xs with
  | nil => exact reads_nil p
  | cons x xs ih =>
    rw [List.map_cons, List.flatMap_cons]
    exact (h x).cons ih

theorem run_content {cs : List Char} (h : '<' ∉ cs) : content.run cs = (content, []) := by
  induction cs with
  | nil => rfl
  | cons c cs ih =>
    have hc : c ≠ '<' := fun hc => h (by rw [hc]; exact List.mem_cons_self)
    have hstep : content.step c = (content, []) := by rw [step, if_neg hc]
    exact run_cons hstep (ih fun hm => h (List.mem_cons_of_mem c hm))

theorem run_quoted {n v : String} {q : Char} {cs : List Char} (h : q ∉ cs) :
    (quoted n q v).run cs = (quoted n q (v ++ String.ofList cs), []) := by
  induction cs generalizing v with
  | nil => rw [run, String.ofList_nil, String.append_empty]
  | cons c cs ih =>
    have hc : c ≠ q := fun hc => h (by rw [hc]; exact List.mem_cons_self)
    have hstep : (quoted n q v).step c = (quoted n q (v.push c), []) := by rw [step, if_neg hc]
    rw [run_cons hstep (ih fun hm => h (List.mem_cons_of_mem c hm)), List.nil_append,
      String.ofList_cons, ← String.append_singleton, String.append_assoc]

theorem reads_quoted {text : String} {q : Char} (h : q ∉ text.toList) (n v : String) :
    (quoted n q v).Reads text (quoted n q (v ++ text)) [] := by
  rw [Reads, run_quoted h, String.ofList_toList]

/-- Escaped text leaves content as it is. -/
theorem reads_content_escape (s : String) : content.Reads (escape s) content [] :=
  run_content (not_mem_escape (by decide) s)

/-- Escaped text stays inside a quoted value. -/
theorem reads_quoted_escape (n v s : String) :
    (quoted n '"' v).Reads (escape s) (quoted n '"' (v ++ escape s)) [] :=
  reads_quoted (not_mem_escape (by decide) s) n v

theorem reads_quoted_decimal (n v : String) (number : Nat) :
    (quoted n '"' v).Reads (decimal number) (quoted n '"' (v ++ decimal number)) [] :=
  reads_quoted (not_mem_decimal (by decide) number) n v

/-- A line of its own for escaped text leaves content as it is. -/
theorem reads_block {opening closing : String} (hopening : content.Reads opening content [])
    (hclosing : content.Reads (closing ++ "\n") content []) (s : String) :
    content.Reads (block opening closing (escape s)) content [] := by
  rw [block]
  split
  · exact reads_nil content
  · have h := hopening.cons ((reads_content_escape s).cons (hclosing.cons (reads_nil content)))
    rw [String.join_cons, String.join_cons, String.join_cons, String.join_nil,
      String.append_empty] at h
    rwa [String.append_assoc, String.append_assoc]

end Place

/-- The attributes of a page in their order. -/
def attributes (page : String) : List Attribute := (Place.content.run page.toList).2

/-- The value of a `name` attribute. -/
def Attribute.fieldName? (a : Attribute) : Option String :=
  if a.name = "name" then some a.value else none

/-- The values of the `name` attributes of a page in their order. -/
def fieldNames (page : String) : List String := (attributes page).filterMap Attribute.fieldName?

/-! ## The attributes of a built-in page -/

section

open Place

/-- The attributes of a field, with an identifier that its label names too. -/
def fieldAttributes (p : Prompt) (number : Nat) : List Attribute :=
  [{ name := "for", value := "field-" ++ decimal number }, { name := "type", value := "text" },
    { name := "id", value := "field-" ++ decimal number },
    { name := "name", value := decimal number },
    { name := "placeholder", value := escape p.placeholder }]

theorem reads_fieldText (p : Prompt) (number : Nat) :
    content.Reads (fieldText p number) content (fieldAttributes p number) := by
  have hlabel : content.Reads "    <label for=\"field-" (quoted "for" '"' "field-") [] := by
    decide +kernel
  have hfor : ∀ v, (quoted "for" '"' v).Reads "\">" content [⟨"for", v⟩] := fun _ => rfl
  have hinput : content.Reads "</label>\n    <input type=\"text\" id=\"field-"
      (quoted "id" '"' "field-") [⟨"type", "text"⟩] := by
    decide +kernel
  have hid : ∀ v, (quoted "id" '"' v).Reads "\" name=\"" (quoted "name" '"' "") [⟨"id", v⟩] :=
    fun _ => rfl
  have hname : ∀ v, (quoted "name" '"' v).Reads "\" placeholder=\"" (quoted "placeholder" '"' "")
      [⟨"name", v⟩] := fun _ => rfl
  have hplaceholder :
      ∀ v, (quoted "placeholder" '"' v).Reads "\">\n" content [⟨"placeholder", v⟩] :=
    fun _ => rfl
  have hend := (reads_quoted_escape "placeholder" "" p.placeholder).cons
    ((hplaceholder _).cons (reads_nil content))
  have hsecond := (reads_quoted_decimal "id" "field-" number).cons
    ((hid _).cons ((reads_quoted_decimal "name" "" number).cons ((hname _).cons hend)))
  have hfirst := hlabel.cons ((reads_quoted_decimal "for" "field-" number).cons
    ((hfor _).cons ((reads_content_escape p.label).cons (hinput.cons hsecond))))
  rw [String.empty_append, String.empty_append] at hfirst
  exact hfirst

/-- The attributes of a built-in page are those of its form, of its fields and of its button. -/
theorem attributes_pageText (sheet : Sheet) (submit : String) :
    attributes (pageText sheet submit) = { name := "method", value := "post" } ::
      (sheet.numbered.flatMap fun p => fieldAttributes p.1 p.2) ++
        [{ name := "type", value := "submit" }, { name := "value", value := escape submit }] := by
  have htitle : content.Reads (block "<h1>" "</h1>" (escape sheet.title)) content [] :=
    reads_block (by decide +kernel) (by decide +kernel) sheet.title
  have hdescription : content.Reads (block "<p>" "</p>" (escape sheet.description)) content [] :=
    reads_block (by decide +kernel) (by decide +kernel) sheet.description
  have hform : content.Reads "<form method=\"post\">\n" content [⟨"method", "post"⟩] := by
    decide +kernel
  have hfield : ∀ p : Prompt × Nat,
    content.Reads (fieldText p.1 p.2) content (fieldAttributes p.1 p.2) :=
    fun p => reads_fieldText p.1 p.2
  have hfields : content.Reads (fieldTexts sheet.numbered) content
      (sheet.numbered.flatMap fun p => fieldAttributes p.1 p.2) := by
    rw [fieldTexts]
    exact reads_join hfield sheet.numbered
  have hbutton : content.Reads "    <input type=\"submit\" value=\"" (quoted "value" '"' "")
      [⟨"type", "submit"⟩] := by decide +kernel
  have hvalue : ∀ v, (quoted "value" '"' v).Reads "\">\n</form>\n" content [⟨"value", v⟩] :=
    fun _ => rfl
  have hend := hbutton.cons ((reads_quoted_escape "value" "" submit).cons
    ((hvalue _).cons (reads_nil content)))
  have hpage := htitle.cons (hdescription.cons (hform.cons (hfields.cons hend)))
  rw [Reads, String.empty_append] at hpage
  rw [attributes, pageText, hpage]
  rfl

end

/-- The names of the fields of `n` prompts. -/
def numbers (n : Nat) : List String := (List.range' 1 n).map decimal

/-- The names of the fields of a built-in page are the numbers of the prompts in order. -/
theorem fieldNames_pageText (sheet : Sheet) (submit : String) :
    fieldNames (pageText sheet submit) = numbers sheet.prompts.length := by
  have hfield : ∀ p : Prompt × Nat,
      (fieldAttributes p.1 p.2).filterMap Attribute.fieldName? = [decimal p.2] := fun _ => rfl
  have hmethod : Attribute.fieldName? { name := "method", value := "post" } = none := rfl
  have hbutton : [{ name := "type", value := "submit" },
      { name := "value", value := escape submit }].filterMap Attribute.fieldName? = [] := rfl
  calc fieldNames (pageText sheet submit)
      = sheet.numbered.flatMap fun p =>
          (fieldAttributes p.1 p.2).filterMap Attribute.fieldName? := by
        rw [fieldNames, attributes_pageText, List.filterMap_append,
          List.filterMap_cons_none hmethod, hbutton, List.append_nil, List.filterMap_flatMap]
    _ = (sheet.numbered.map Prod.snd).map decimal := by
        rw [funext hfield, ← List.map_eq_flatMap, List.map_map]
        rfl
    _ = numbers sheet.prompts.length := by
        rw [Sheet.numbered, List.zipIdx_map_snd, numbers]

end AskSheet.Page
