/-
  When a page cannot be made. The variables of a field and of a form have the same names for all
  sheets, so the templates alone decide: a field template with an unknown variable fails as soon as
  there is a prompt, and comes before the form template, which fails for every sheet.
  `render_fails_on_unknown` says when a page is made and which variable is blamed otherwise.
-/
import AskSheet.Page.Form
import AskSheet.Proofs.Template.Undefined

namespace AskSheet.Page

open Text Template

/-- The names that a field template can use. -/
def fieldVariables : List String := ["index", "label", "placeholder"]

/-- The names that a form template can use. -/
def formVariables : List String :=
  ["title", "description", "title_block", "description_block", "fields", "submit_label"]

/-- Both sources of a form template were read. -/
theorem parse_of_formTemplate {form field : String} {template : FormTemplate}
    (h : FormTemplate.parse form field = .ok template) :
    Template.parse form = .ok template.form ∧ Template.parse field = .ok template.field := by
  rw [FormTemplate.parse] at h
  cases hform : Template.parse form with
  | error e => rw [hform] at h; exact absurd h nofun
  | ok t =>
    cases hfield : Template.parse field with
    | error e => rw [hform, hfield] at h; exact absurd h nofun
    | ok u =>
      rw [hform, hfield] at h
      obtain rfl := Except.ok.inj h
      exact ⟨rfl, rfl⟩

/-! ## Fields -/

section

variable {source : String} {field : Template} (hparse : Template.parse source = .ok field)
include hparse

theorem renderFields_of_known (hknown : ∀ name ∈ field.variableNames, name ∈ fieldVariables)
    (ps : List (Prompt × Nat)) : ∃ text, renderFields field ps = .ok text := by
  induction ps with
  | nil => exact ⟨"", rfl⟩
  | cons p ps ih =>
    obtain ⟨p, number⟩ := p
    obtain ⟨text, htext⟩ : ∃ text, field.render (fieldBindings p number) = .ok text :=
      render_of_known hparse hknown
    obtain ⟨rest, hrest⟩ := ih
    exact ⟨text ++ rest, by rw [renderFields, htext, hrest]; rfl⟩

/-- The first field is where an unknown variable is met. -/
theorem renderFields_of_firstUnknown {e : TemplateError} (he : FirstUnknown fieldVariables source e)
    {ps : List (Prompt × Nat)} (hne : ps ≠ []) : renderFields field ps = .error e := by
  obtain ⟨⟨p, number⟩, ps, rfl⟩ := List.exists_cons_of_ne_nil hne
  have herror : field.render (fieldBindings p number) = .error e := render_of_firstUnknown hparse he
  rw [renderFields, herror]
  rfl

end

/-! ## Pages -/

section

variable {formSource fieldSource : String} {template : FormTemplate}
  (hparse : FormTemplate.parse formSource fieldSource = .ok template)
include hparse

/-- The fields of a sheet can be made: it has no prompts, or the field template has no unknown
    variable. -/
theorem render_of_fields {s : Sheet}
    (h : s.prompts = [] ∨ ∀ name ∈ template.field.variableNames, name ∈ fieldVariables)
    (submit : String) :
    ∃ fields, render s template submit = template.form.render (formBindings s fields submit) := by
  have hfields : ∃ fields, renderFields template.field s.numbered = .ok fields := by
    rcases h with hnil | hknown
    · exact ⟨"", by rw [Sheet.numbered, hnil]; rfl⟩
    · exact renderFields_of_known (parse_of_formTemplate hparse).2 hknown _
  obtain ⟨fields, hfields⟩ := hfields
  exact ⟨fields, by rw [render, hfields]; rfl⟩

theorem render_of_field_unknown {s : Sheet} (hne : s.prompts ≠ []) {e : TemplateError}
    (he : FirstUnknown fieldVariables fieldSource e) (submit : String) :
    render s template submit = .error e := by
  have hnumbered : s.numbered ≠ [] := by
    rwa [Sheet.numbered, ne_eq, List.zipIdx_eq_nil_iff]
  rw [render, renderFields_of_firstUnknown (parse_of_formTemplate hparse).2 he hnumbered]
  rfl

/-- With two templates that were read, there are three ways for a page to go. -/
theorem render_cases (s : Sheet) (submit : String) :
    ((s.prompts = [] ∨ ∀ name ∈ template.field.variableNames, name ∈ fieldVariables) ∧
      (∀ name ∈ template.form.variableNames, name ∈ formVariables) ∧
      ∃ page, render s template submit = .ok page) ∨
    (∃ e, (s.prompts = [] ∨ ∀ name ∈ template.field.variableNames, name ∈ fieldVariables) ∧
      FirstUnknown formVariables formSource e ∧ render s template submit = .error e) ∨
    ∃ e, s.prompts ≠ [] ∧ FirstUnknown fieldVariables fieldSource e ∧
      render s template submit = .error e := by
  obtain ⟨hform, hfield⟩ := parse_of_formTemplate hparse
  by_cases hfields : s.prompts = [] ∨ ∀ name ∈ template.field.variableNames, name ∈ fieldVariables
  · obtain ⟨fields, hrender⟩ := render_of_fields hparse hfields submit
    rw [hrender]
    rcases known_or_firstUnknown hform formVariables with hknown | ⟨e, he⟩
    · exact Or.inl ⟨hfields, hknown, render_of_known hform hknown⟩
    · exact Or.inr (Or.inl ⟨e, hfields, he, render_of_firstUnknown hform he⟩)
  · obtain ⟨hne, hunknown⟩ := not_or.mp hfields
    obtain ⟨e, he⟩ := (known_or_firstUnknown hfield fieldVariables).resolve_left hunknown
    exact Or.inr (Or.inr ⟨e, hne, he, render_of_field_unknown hparse hne he submit⟩)

theorem render_ok_iff (s : Sheet) (submit : String) :
    (∃ page, render s template submit = .ok page) ↔
      (∀ name ∈ template.form.variableNames, name ∈ formVariables) ∧
        (s.prompts = [] ∨ ∀ name ∈ template.field.variableNames, name ∈ fieldVariables) := by
  constructor
  · rintro ⟨page, hpage⟩
    rcases render_cases hparse s submit with
      ⟨hfields, hknown, -⟩ | ⟨_, _, _, hrender⟩ | ⟨_, _, _, hrender⟩
    · exact ⟨hknown, hfields⟩
    · rw [hrender] at hpage
      exact absurd hpage nofun
    · rw [hrender] at hpage
      exact absurd hpage nofun
  · rintro ⟨hknown, hfields⟩
    obtain ⟨fields, hrender⟩ := render_of_fields hparse hfields submit
    rw [hrender]
    exact render_of_known (parse_of_formTemplate hparse).1 hknown

theorem render_error_iff (s : Sheet) (submit : String) (e : TemplateError) :
    render s template submit = .error e ↔
      (s.prompts ≠ [] ∧ FirstUnknown fieldVariables fieldSource e) ∨
        (s.prompts = [] ∨ ∀ name ∈ template.field.variableNames, name ∈ fieldVariables) ∧
          FirstUnknown formVariables formSource e := by
  constructor
  · intro h
    rcases render_cases hparse s submit with
      ⟨-, -, page, hpage⟩ | ⟨e', hfields, he, hrender⟩ | ⟨e', hne, he, hrender⟩
    · rw [hpage] at h
      exact absurd h nofun
    · rw [hrender] at h
      exact Or.inr ⟨hfields, Except.error.inj h ▸ he⟩
    · rw [hrender] at h
      exact Or.inl ⟨hne, Except.error.inj h ▸ he⟩
  · rintro (⟨hne, he⟩ | ⟨hfields, he⟩)
    · exact render_of_field_unknown hparse hne he submit
    · obtain ⟨fields, hrender⟩ := render_of_fields hparse hfields submit
      rw [hrender]
      exact render_of_firstUnknown (parse_of_formTemplate hparse).1 he

end

/-- A page is made just when all variables of the form are known, and those of a field too if there
    is a prompt. Otherwise the first unknown variable is blamed, at the byte position of its brace in
    its own source: one of the field, if there is a prompt, before those of the form. The title, the
    description, the prompts and their number, and the label of the button make no difference. -/
theorem render_fails_on_unknown (formSource fieldSource : String) (template : FormTemplate)
    (hparse : FormTemplate.parse formSource fieldSource = .ok template) (s : Sheet)
    (submit : String) :
    ((∃ page, render s template submit = .ok page) ↔
      (∀ name ∈ template.form.variableNames, name ∈ formVariables) ∧
        (s.prompts = [] ∨ ∀ name ∈ template.field.variableNames, name ∈ fieldVariables)) ∧
    (∀ e, render s template submit = .error e ↔
      (s.prompts ≠ [] ∧ FirstUnknown fieldVariables fieldSource e) ∨
        (s.prompts = [] ∨ ∀ name ∈ template.field.variableNames, name ∈ fieldVariables) ∧
          FirstUnknown formVariables formSource e) ∧
    ∀ (s' : Sheet) (submit' : String) (e : TemplateError), (s'.prompts = [] ↔ s.prompts = []) →
      (render s' template submit' = .error e ↔ render s template submit = .error e) := by
  refine ⟨render_ok_iff hparse s submit, render_error_iff hparse s submit, ?_⟩
  intro s' submit' e hprompts
  rw [render_error_iff hparse, render_error_iff hparse, ne_eq, ne_eq, hprompts]

/-- The fields and an unknown variable. -/
def strayForm : List Token := [.hole "fields".toList, .hole "name".toList]

/-- A label and an unknown variable, behind a character of two bytes. -/
def strayField : List Token := [.plain 'é', .hole "label".toList, .hole "title".toList]

theorem reads_strayForm : Reads (sourceOf strayForm) strayForm [] :=
  .step (by decide) <| .step (by decide) <| .stop []

theorem reads_strayField : Reads (sourceOf strayField) strayField [] :=
  .step (by decide) <| .step (by decide) <| .step (by decide) <| .stop []

theorem render_fails_on_unknown_stray :
    ∃ template, FormTemplate.parse "\x7bfields\x7d\x7bname\x7d" "é\x7blabel\x7d\x7btitle\x7d" =
        .ok template ∧
      render { title := "A", description := "", prompts := [⟨"name", ""⟩] } template "go" =
        .error (.undefinedVariable "title" 9) ∧
      render { title := "B", description := "", prompts := [] } template "stop" =
        .error (.undefinedVariable "name" 8) := by
  have hform : Reads "\x7bfields\x7d\x7bname\x7d".toList strayForm [] := reads_strayForm
  have hfield : Reads "é\x7blabel\x7d\x7btitle\x7d".toList strayField [] := reads_strayField
  have hparse : FormTemplate.parse "\x7bfields\x7d\x7bname\x7d" "é\x7blabel\x7d\x7btitle\x7d" =
      .ok { form := { parts := partsAt 0 strayForm }, field := { parts := partsAt 0 strayField } } := by
    rw [FormTemplate.parse, parse_of_reads hform (by decide +kernel),
      parse_of_reads hfield (by decide +kernel)]
    rfl
  refine ⟨_, hparse, ?_, ?_⟩
  · refine ((render_fails_on_unknown _ _ _ hparse _ _).2.1 _).mpr (Or.inl ⟨List.cons_ne_nil _ _, ?_⟩)
    exact ⟨[.plain 'é', .hole "label".toList], "title".toList, [], hfield, by decide +kernel,
      by decide +kernel, by decide +kernel⟩
  · refine ((render_fails_on_unknown _ _ _ hparse _ _).2.1 _).mpr (Or.inr ⟨Or.inl rfl, ?_⟩)
    exact ⟨[.hole "fields".toList], "name".toList, [], hform, by decide +kernel, by decide +kernel,
      by decide +kernel⟩

end AskSheet.Page
