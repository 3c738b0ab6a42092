/-
  Form pages. A form template is rendered once and a field template once for each prompt; the name of a
  field is the number of its prompt, which is the key that `Answers.collect` takes back. All text of a
  sheet is escaped before it is put in: the five characters that mean something to markup are written as
  entities, all others as themselves (`escape`), so text can stand in content and in quoted attributes.
  Templates come from files. One whose path is not given is the built-in one, and both files are read
  before either is understood.
-/
import AskSheet.Answers
import AskSheet.Failure

namespace AskSheet.Page

open Text

/-! ## Text in markup -/

/-- How a character is written in HTML text. -/
def entity (c : Char) : List Char :=
  match c with
  | '&' => "&amp;".toList
  | '<' => "&lt;".toList
  | '>' => "&gt;".toList
  | '"' => "&quot;".toList
  | '\'' => "&#39;".toList
  | c => [c]

/-- The text written so that no character of it is markup. -/
def escape (s : String) : String := String.ofList (s.toList.flatMap entity)

theorem escape_empty : escape "" = "" := rfl

theorem entity_ne_nil (c : Char) : entity c ≠ [] := by
  unfold entity; split <;> simp

/-! ## Templates -/

/-- The source of the built-in form template. -/
def formSource : String :=
  "{title_block}{description_block}<form method=\"post\">\n" ++
  "{fields}    <input type=\"submit\" value=\"{submit_label}\">\n" ++
  "</form>\n"

/-- The source of the built-in field template. -/
def fieldSource : String :=
  "    <label for=\"field-{index}\">{label}</label>\n" ++
  "    <input type=\"text\" id=\"field-{index}\" name=\"{index}\" placeholder=\"{placeholder}\">\n"

/-- The built-in text of the submit button. -/
def submitLabel : String := "submit"

/-- The source of a template: that of the built-in one if there is no path. -/
def source (storage : Storage) (builtIn : String) : Option String → Except Failure String
  | none => .ok builtIn
  | some path => (storage.read path).mapError (.unreadableTemplate path)

/-- A template for the whole form and one for a field of it. -/
structure FormTemplate where
  form : Template
  field : Template
  deriving DecidableEq, Repr

namespace FormTemplate

/-- Reads the two sources, the form's first. -/
def parse (form field : String) : Except TemplateError FormTemplate := do
  return { form := ← Template.parse form, field := ← Template.parse field }

/-- The pair of built-in templates. -/
def builtIn : Except TemplateError FormTemplate := parse formSource fieldSource

/-- The templates behind two paths. -/
def load (storage : Storage) (form field : Option String) : Except Failure FormTemplate := do
  let form ← source storage formSource form
  let field ← source storage fieldSource field
  (parse form field).mapError .template

end FormTemplate

/-! ## Pages -/

/-- The variables of a field. -/
def fieldBindings (p : Prompt) (number : Nat) : Bindings :=
  [("index", decimal number), ("label", escape p.label), ("placeholder", escape p.placeholder)]

/-- The fields of the prompts one after the other. -/
def renderFields (field : Template) : List (Prompt × Nat) → Except TemplateError String
  | [] => .ok ""
  | (p, number) :: ps => do
    let text ← field.render (fieldBindings p number)
    let rest ← renderFields field ps
    return text ++ rest

/-- Text between an opening and a closing tag on a line of its own, or nothing for the empty text. -/
def block (opening closing text : String) : String :=
  if text = "" then "" else opening ++ text ++ closing ++ "\n"

/-- The variables of a form. -/
def formBindings (sheet : Sheet) (fields submit : String) : Bindings :=
  let title := escape sheet.title
  let description := escape sheet.description
  [("title", title), ("description", description),
    ("title_block", block "<h1>" "</h1>" title),
    ("description_block", block "<p>" "</p>" description),
    ("fields", fields), ("submit_label", escape submit)]

/-- The page of a sheet. The fields are rendered first. -/
def render (sheet : Sheet) (template : FormTemplate) (submit : String) : Except TemplateError String := do
  let fields ← renderFields template.field sheet.numbered
  template.form.render (formBindings sheet fields submit)

end AskSheet.Page
