/-
  The page that the built-in templates make. They are the templates of two lists of segments
  (`builtIn_eq`), every sheet can be rendered with them, and the page is written down once as text
  (`render_standard`).
-/
import AskSheet.Page.Form
import AskSheet.Proofs.Template.Writing

namespace AskSheet.Page

open Template Text

/-- The segments of the built-in form template. -/
def formSegments : List Segment :=
  [.hole "title_block", .hole "description_block", .copy "<form method=\"post\">\n", .hole "fields",
    .copy "    <input type=\"submit\" value=\"", .hole "submit_label", .copy "\">\n</form>\n"]

/-- The segments of the built-in field template. -/
def fieldSegments : List Segment :=
  [.copy "    <label for=\"field-", .hole "index", .copy "\">", .hole "label",
    .copy "</label>\n    <input type=\"text\" id=\"field-", .hole "index", .copy "\" name=\"",
    .hole "index", .copy "\" placeholder=\"", .hole "placeholder", .copy "\">\n"]

/-- The built-in templates, read. -/
def standard : FormTemplate :=
  { form := ofSegments formSegments, field := ofSegments fieldSegments }

theorem ok_bind {ε α β : Type} (a : α) (f : α → Except ε β) : (Except.ok a >>= f) = f a := rfl

theorem builtIn_eq : FormTemplate.builtIn = .ok standard := by
  have hform : formSource = String.ofList (written formSegments) := by decide +kernel
  have hfield : fieldSource = String.ofList (written fieldSegments) := by decide +kernel
  have hformWritable : ∀ s ∈ formSegments, s.Writable := by decide +kernel
  have hfieldWritable : ∀ s ∈ fieldSegments, s.Writable := by decide +kernel
  rw [FormTemplate.builtIn, FormTemplate.parse, hform, hfield, parse_written hformWritable,
    parse_written hfieldWritable, ok_bind, ok_bind, standard]
  rfl

/-! ## The page as text -/

/-- The field of a prompt. -/
def fieldText (p : Prompt) (number : Nat) : String :=
  String.join ["    <label for=\"field-", decimal number, "\">", escape p.label,
    "</label>\n    <input type=\"text\" id=\"field-", decimal number, "\" name=\"", decimal number,
    "\" placeholder=\"", escape p.placeholder, "\">\n"]

/-- The fields of numbered prompts. -/
def fieldTexts (ps : List (Prompt × Nat)) : String :=
  String.join (ps.map fun p => fieldText p.1 p.2)

/-- The page of a sheet. -/
def pageText (sheet : Sheet) (submit : String) : String :=
  String.join [block "<h1>" "</h1>" (escape sheet.title),
    block "<p>" "</p>" (escape sheet.description),
    "<form method=\"post\">\n", fieldTexts sheet.numbered, "    <input type=\"submit\" value=\"",
    escape submit, "\">\n</form>\n"]

theorem render_field (p : Prompt) (number : Nat) :
    standard.field.render (fieldBindings p number) = .ok (fieldText p number) :=
  render_ofSegments rfl

theorem renderFields_standard (ps : List (Prompt × Nat)) :
    renderFields standard.field ps = .ok (fieldTexts ps) := by
  induction ps with
  | nil => rfl
  | cons p ps ih =>
    have htexts : fieldTexts (p :: ps) = fieldText p.1 p.2 ++ fieldTexts ps := by
      rw [fieldTexts, List.map_cons, String.join_cons, fieldTexts]
    rw [renderFields, render_field, ih, ok_bind, ok_bind, htexts]
    rfl

theorem render_form (sheet : Sheet) (submit : String) :
    standard.form.render (formBindings sheet (fieldTexts sheet.numbered) submit) =
      .ok (pageText sheet submit) :=
  render_ofSegments rfl

/-- The built-in templates render every sheet. -/
theorem render_standard (sheet : Sheet) (submit : String) :
    render sheet standard submit = .ok (pageText sheet submit) := by
  rw [render, renderFields_standard, ok_bind, render_form]

end AskSheet.Page
