/-
  Markup of pages: the characters that tags and quoted attributes are made of. Escaped text has none
  (`markup_escape`), so the markup of a page is that of its layout (`markup_fill`). Two sheets of
  one shape therefore fail on the same variable of a template or get pages with the same markup,
  whatever their texts and submit labels say (`render_noninterference`).
-/
import AskSheet.Proofs.Page.Layout

namespace AskSheet.Page

/-- The characters that end or start a tag or a quoted value. -/
def isMarkup (c : Char) : Bool := c == '<' || c == '>' || c == '"' || c == '\''

/-- The markup characters of a page in their order. -/
def markup (page : String) : List Char := page.toList.filter isMarkup

/-- The markup characters that a piece puts on every page. -/
def Piece.markup : Piece → List Char
  | .fixed c => [c].filter isMarkup
  | .text _ => []

theorem filter_entity (c : Char) : (entity c).filter isMarkup = [] := by
  unfold entity
  split
  · decide
  · decide
  · decide
  · decide
  · decide
  · rename_i hlt hgt hquote hapos
    have hc : isMarkup c = false := by
      simp only [isMarkup, Bool.or_eq_false_iff, beq_eq_false_iff_ne]
      exact ⟨⟨⟨hlt, hgt⟩, hquote⟩, hapos⟩
    rw [List.filter_cons_of_neg (by rw [hc]; exact Bool.false_ne_true), List.filter_nil]

/-- Escaped text holds no markup. -/
theorem markup_escape (s : String) : markup (escape s) = [] := by
  rw [markup, escape, String.toList_ofList, List.filter_flatMap, List.flatMap_eq_nil_iff]
  exact fun c _ => filter_entity c

theorem not_mem_escape {c : Char} (hc : isMarkup c = true) (s : String) :
    c ∉ (escape s).toList := by
  intro h
  have hm : c ∈ markup (escape s) := List.mem_filter.mpr ⟨h, hc⟩
  rw [markup_escape] at hm
  exact List.not_mem_nil hm

theorem filter_chars (sheet : Sheet) (submit : String) (p : Piece) :
    (p.chars sheet submit).filter isMarkup = p.markup := by
  cases p with
  | fixed c => rfl
  | text slot =>
    have h := markup_escape (slot.of sheet submit)
    rw [markup, escape, String.toList_ofList] at h
    exact h

/-- The markup of a page does not depend on the texts that were filled in. -/
theorem markup_fill (sheet : Sheet) (submit : String) (pieces : List Piece) :
    markup (fill sheet submit pieces) = pieces.flatMap Piece.markup := by
  rw [markup, fill, String.toList_ofList, List.filter_flatMap]
  exact congrArg (pieces.flatMap ·) (funext (filter_chars sheet submit))

theorem shape_eq {s t : Sheet} (hcount : s.prompts.length = t.prompts.length)
    (htitle : s.title = "" ↔ t.title = "")
    (hdescription : s.description = "" ↔ t.description = "") : shape s = shape t := by
  have hbne : ∀ {a b : String}, (a = "" ↔ b = "") → (a != "") = (b != "") := by
    intro a b h
    rw [Bool.eq_iff_iff, bne_iff_ne, bne_iff_ne]
    exact not_congr h
  rw [shape, shape, hcount, hbne htitle, hbne hdescription]

/-- Sheets with the same number of prompts, both with or without a title and both with or without a
    description, fail in the same way or get pages that are the same pieces filled in with their own
    texts, and so have the same markup. -/
theorem render_noninterference (template : FormTemplate) (s t : Sheet) (a b : String)
    (hcount : s.prompts.length = t.prompts.length) (htitle : s.title = "" ↔ t.title = "")
    (hdescription : s.description = "" ↔ t.description = "") :
    (∃ e, render s template a = .error e ∧ render t template b = .error e) ∨
    ∃ pieces, layout template (shape s) = .ok pieces ∧ layout template (shape t) = .ok pieces ∧
      render s template a = .ok (fill s a pieces) ∧ render t template b = .ok (fill t b pieces) ∧
      markup (fill s a pieces) = markup (fill t b pieces) := by
  rw [render_eq_layout, render_eq_layout, shape_eq hcount htitle hdescription]
  cases h : layout template (shape t) with
  | error e => exact Or.inl ⟨e, rfl, rfl⟩
  | ok pieces =>
    refine Or.inr ⟨pieces, rfl, rfl, rfl, rfl, ?_⟩
    rw [markup_fill, markup_fill]

/-- A sheet whose texts look like markup and like template variables. -/
def hostile : Sheet where
  title := "</h1><b>"
  prompts := [{ label := "{fields}", placeholder := "\" name=\"7" }]

/-- A sheet of the same shape without such texts. -/
def harmless : Sheet where
  title := "Greeter"
  prompts := [{ label := "Name:", placeholder := "" }]

/-- A template with one variable in a quoted value, around fields that repeat the label. -/
def repeating : FormTemplate where
  form := { parts := [.literal '<', .literal '"', .variable "submit_label" 2, .literal '"',
    .literal '>', .variable "fields" 18] }
  field := { parts := [.variable "label" 0, .literal '\'', .variable "placeholder" 8,
    .literal '\''] }

theorem render_noninterference_hostile :
    hostile.prompts.length = harmless.prompts.length ∧ (hostile.title = "" ↔ harmless.title = "") ∧
    (hostile.description = "" ↔ harmless.description = "") ∧
    ((∃ e, render hostile repeating "<" = .error e ∧ render harmless repeating "ok" = .error e) ∨
    ∃ pieces, layout repeating (shape hostile) = .ok pieces ∧
      layout repeating (shape harmless) = .ok pieces ∧
      render hostile repeating "<" = .ok (fill hostile "<" pieces) ∧
      render harmless repeating "ok" = .ok (fill harmless "ok" pieces) ∧
      markup (fill hostile "<" pieces) = markup (fill harmless "ok" pieces)) :=
  ⟨rfl, by decide, by decide,
    render_noninterference repeating hostile harmless "<" "ok" rfl (by decide) (by decide)⟩

end AskSheet.Page
