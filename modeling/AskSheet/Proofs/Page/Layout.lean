/-
  Layouts: pages before any text of a sheet stands on them. A layout is made from the templates and
  from the shape of a sheet, which is the number of its prompts and whether it has a title and a
  description. Its pieces are characters that are put on the page as they are and places for texts.

  Rendering is laying out and then filling in the escaped texts (`render_eq_layout`), so templates
  are never read again after a text was put in. What is filled in holds no markup character
  (`markup_fill`).
-/
import AskSheet.Page.Form

namespace AskSheet.Page

open Text

/-- The texts that are put on a page. -/
inductive Slot where
  | title
  | description
  | label (number : Nat)
  | placeholder (number : Nat)
  | button
  deriving DecidableEq, Repr

/-- A character of the page, or the place of a text. -/
inductive Piece where
  | fixed (c : Char)
  | text (slot : Slot)
  deriving DecidableEq, Repr

/-- What a layout knows of a sheet. -/
structure Shape where
  count : Nat
  hasTitle : Bool
  hasDescription : Bool
  deriving DecidableEq, Repr

def shape (sheet : Sheet) : Shape where
  count := sheet.prompts.length
  hasTitle := sheet.title != ""
  hasDescription := sheet.description != ""

/-! ## Laying out -/

/-- Characters of the page. -/
def verbatim (s : String) : List Piece := s.toList.map Piece.fixed

/-- The pieces of one part of a template. -/
def layoutPart (values : List (String × List Piece)) :
    TemplatePart → Except TemplateError (List Piece)
  | .literal c => .ok [.fixed c]
  | .variable name position =>
    match values.lookup name with
    | some pieces => .ok pieces
    | none => .error (.undefinedVariable name position)

/-- The pieces of the parts one after the other. -/
def layoutParts (values : List (String × List Piece)) :
    List TemplatePart → Except TemplateError (List Piece)
  | [] => .ok []
  | p :: ps => do
    let pieces ← layoutPart values p
    let rest ← layoutParts values ps
    return pieces ++ rest

/-- The variables of the field with this number. -/
def fieldPieces (number : Nat) : List (String × List Piece) :=
  [("index", verbatim (decimal number)), ("label", [.text (.label number)]),
    ("placeholder", [.text (.placeholder number)])]

/-- The fields with these numbers. -/
def layoutFields (field : Template) : List Nat → Except TemplateError (List Piece)
  | [] => .ok []
  | n :: ns => do
    let pieces ← layoutParts (fieldPieces n) field.parts
    let rest ← layoutFields field ns
    return pieces ++ rest

/-- A text between tags on a line of its own, if it is there. -/
def blockPieces (opening closing : String) (slot : Slot) (present : Bool) : List Piece :=
  if present then verbatim opening ++ .text slot :: verbatim (closing ++ "\n") else []

/-- The variables of the form. -/
def formPieces (shape : Shape) (fields : List Piece) : List (String × List Piece) :=
  [("title", [.text .title]), ("description", [.text .description]),
    ("title_block", blockPieces "<h1>" "</h1>" .title shape.hasTitle),
    ("description_block", blockPieces "<p>" "</p>" .description shape.hasDescription),
    ("fields", fields), ("submit_label", [.text .button])]

/-- The layout of all pages of one shape. -/
def layout (template : FormTemplate) (shape : Shape) : Except TemplateError (List Piece) := do
  let fields ← layoutFields template.field (List.range' 1 shape.count)
  layoutParts (formPieces shape fields) template.form.parts

/-! ## Filling in -/

/-- The text of a place; a number that no prompt has stands for no text. -/
def Slot.of (sheet : Sheet) (submit : String) : Slot → String
  | .title => sheet.title
  | .description => sheet.description
  | .label number => (sheet.prompt? number).elim "" Prompt.label
  | .placeholder number => (sheet.prompt? number).elim "" Prompt.placeholder
  | .button => submit

/-- The characters of a piece. Texts are escaped. -/
def Piece.chars (sheet : Sheet) (submit : String) : Piece → List Char
  | .fixed c => [c]
  | .text slot => (slot.of sheet submit).toList.flatMap entity

/-- The page with these pieces. -/
def fill (sheet : Sheet) (submit : String) (pieces : List Piece) : String :=
  String.ofList (pieces.flatMap (Piece.chars sheet submit))

section

variable (sheet : Sheet) (submit : String)

theorem fill_append (ps qs : List Piece) :
    fill sheet submit (ps ++ qs) = fill sheet submit ps ++ fill sheet submit qs := by
  rw [fill, List.flatMap_append, String.ofList_append]
  rfl

theorem fill_verbatim (s : String) : fill sheet submit (verbatim s) = s := by
  rw [fill, verbatim, List.flatMap_map]
  show String.ofList (s.toList.flatMap fun c => [c]) = s
  rw [List.flatMap_singleton', String.ofList_toList]

theorem fill_text (slot : Slot) :
    fill sheet submit [.text slot] = escape (slot.of sheet submit) := by
  rw [fill, List.flatMap_singleton]
  rfl

theorem escape_eq_empty_iff {s : String} : escape s = "" ↔ s = "" := by
  rw [escape, ← String.toList_inj, String.toList_ofList, String.toList_empty,
    List.flatMap_eq_nil_iff, ← String.toList_eq_nil_iff]
  constructor
  · intro h
    exact List.eq_nil_iff_forall_not_mem.mpr fun c hc => entity_ne_nil c (h c hc)
  · rintro h c hc
    rw [h] at hc
    exact absurd hc List.not_mem_nil

/-- A block stands for its text, and for nothing when the text is empty. -/
theorem fill_blockPieces (opening closing : String) (slot : Slot) :
    fill sheet submit (blockPieces opening closing slot (slot.of sheet submit != "")) =
      block opening closing (escape (slot.of sheet submit)) := by
  by_cases h : slot.of sheet submit = ""
  · rw [h, blockPieces, block, if_pos escape_empty]
    rfl
  · have hne : escape (slot.of sheet submit) ≠ "" := mt escape_eq_empty_iff.mp h
    rw [blockPieces, if_pos (bne_iff_ne.mpr h), block, if_neg hne, fill_append, fill_verbatim,
      ← List.singleton_append, fill_append, fill_text, fill_verbatim]
    simp only [String.append_assoc]

/-! ## Rendering -/

theorem lookup_map_fill (name : String) (values : List (String × List Piece)) :
    (values.map fun v => (v.1, fill sheet submit v.2)).lookup name =
      (values.lookup name).map (fill sheet submit) := by
  induction values with
  | nil => rfl
  | cons v values ih =>
    rw [List.map_cons, List.lookup_cons, List.lookup_cons, ih]
    split <;> rfl

theorem renderPart_eq_layoutPart (values : List (String × List Piece)) (p : TemplatePart) :
    Template.renderPart (values.map fun v => (v.1, fill sheet submit v.2)) p =
      (layoutPart values p).map (fill sheet submit) := by
  rcases p with c | ⟨name, position⟩
  · rfl
  · rw [Template.renderPart, layoutPart, lookup_map_fill]
    cases values.lookup name <;> rfl

/-- Values that are filled in give the filled-in parts. -/
theorem renderParts_eq_layoutParts (values : List (String × List Piece)) (ps : List TemplatePart) :
    Template.renderParts (values.map fun v => (v.1, fill sheet submit v.2)) ps =
      (layoutParts values ps).map (fill sheet submit) := by
  induction ps with
  | nil => rfl
  | cons p ps ih =>
    rw [Template.renderParts, layoutParts, renderPart_eq_layoutPart, ih]
    cases layoutPart values p with
    | error e => rfl
    | ok pieces =>
      cases layoutParts values ps with
      | error e => rfl
      | ok rest => exact congrArg Except.ok (fill_append sheet submit pieces rest).symm

theorem fieldBindings_eq_fill {p : Prompt} {number : Nat} (h : sheet.prompt? number = some p) :
    fieldBindings p number = (fieldPieces number).map fun v => (v.1, fill sheet submit v.2) := by
  simp only [fieldPieces, List.map_cons, List.map_nil, fill_verbatim, fill_text, Slot.of, h,
    Option.elim_some]
  rfl

theorem formBindings_eq_fill (fields : List Piece) :
    formBindings sheet (fill sheet submit fields) submit =
      (formPieces (shape sheet) fields).map fun v => (v.1, fill sheet submit v.2) := by
  have htitle := fill_blockPieces sheet submit "<h1>" "</h1>" .title
  have hdescription := fill_blockPieces sheet submit "<p>" "</p>" .description
  simp only [Slot.of] at htitle hdescription
  simp only [formPieces, shape, List.map_cons, List.map_nil, fill_text, htitle,
    hdescription, Slot.of]
  rfl

/-- The fields of prompts that follow one another are laid out by their numbers. -/
theorem renderFields_eq_layoutFields (field : Template) (ps : List Prompt) (first : Nat)
    (h : ∀ i (hi : i < ps.length), sheet.prompt? (first + i) = some ps[i]) :
    renderFields field (ps.zipIdx first) =
      (layoutFields field (List.range' first ps.length)).map (fill sheet submit) := by
  induction ps generalizing first with
  | nil => rfl
  | cons p ps ih =>
    have hfirst : sheet.prompt? first = some p := h 0 (Nat.zero_lt_succ _)
    have hrest : ∀ i (hi : i < ps.length), sheet.prompt? (first + 1 + i) = some ps[i] := by
      intro i hi
      rw [Nat.add_assoc, Nat.add_comm 1 i]
      exact h (i + 1) (Nat.succ_lt_succ hi)
    rw [List.zipIdx_cons, renderFields, List.length_cons, List.range'_succ, layoutFields,
      Template.render, fieldBindings_eq_fill sheet submit hfirst, renderParts_eq_layoutParts,
      ih (first + 1) hrest]
    cases layoutParts (fieldPieces first) field.parts with
    | error e => rfl
    | ok pieces =>
      cases layoutFields field (List.range' (first + 1) ps.length) with
      | error e => rfl
      | ok rest => exact congrArg Except.ok (fill_append sheet submit pieces rest).symm

/-- Rendering lays out a page of the shape of the sheet and fills in the texts. -/
theorem render_eq_layout (template : FormTemplate) :
    render sheet template submit = (layout template (shape sheet)).map (fill sheet submit) := by
  have hfields := renderFields_eq_layoutFields sheet submit template.field sheet.prompts 1 (by
    intro i hi
    rw [Nat.add_comm]
    exact List.getElem?_eq_getElem hi)
  rw [render, layout, Sheet.numbered, hfields]
  show _ = ((layoutFields template.field (List.range' 1 sheet.prompts.length)) >>= _).map _
  cases layoutFields template.field (List.range' 1 sheet.prompts.length) with
  | error e => rfl
  | ok fields =>
    show Template.render template.form (formBindings sheet (fill sheet submit fields) submit) = _
    rw [formBindings_eq_fill, Template.render, renderParts_eq_layoutParts]
    rfl

end

end AskSheet.Page
