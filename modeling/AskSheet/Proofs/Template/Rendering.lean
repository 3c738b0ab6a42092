/-
  Rendering the parts of a template. If every variable has a value, the parts give their texts one
  after the other (`renderParts_of_texts`); otherwise the first variable without a value is blamed
  (`renderParts_of_missing`).
-/
import AskSheet.Template

namespace AskSheet.Template

/-- What a part renders to, if its variable has a value. -/
def partText? (values : Bindings) : TemplatePart → Option String
  | .literal c => some (String.singleton c)
  | .variable name _ => values.lookup name

variable {values : Bindings}

theorem renderPart_of_text {p : TemplatePart} {text : String}
    (h : partText? values p = some text) : renderPart values p = .ok text := by
  rcases p with c | ⟨name, position⟩
  · obtain rfl := Option.some.inj h
    rfl
  · have hvalue : values.lookup name = some text := h
    rw [renderPart, hvalue]

theorem renderParts_cons {p : TemplatePart} {text : String} (h : partText? values p = some text)
    (ps : List TemplatePart) :
    renderParts values (p :: ps) = (renderParts values ps).map (text ++ ·) := by
  rw [renderParts, renderPart_of_text h]
  cases renderParts values ps <;> rfl

/-- Parts that all have a text give their texts one after the other. -/
theorem renderParts_of_texts {ps : List TemplatePart} {texts : List String}
    (h : ps.mapM (partText? values) = some texts) :
    renderParts values ps = .ok (String.join texts) := by
  induction ps generalizing texts with
  | nil =>
    obtain rfl : [] = texts := Option.some.inj h
    rw [renderParts, String.join_nil]
  | cons p ps ih =>
    rw [List.mapM_cons] at h
    obtain ⟨text, htext, h⟩ := Option.bind_eq_some_iff.mp h
    obtain ⟨rest, hrest, h⟩ := Option.bind_eq_some_iff.mp h
    obtain rfl : text :: rest = texts := Option.some.inj h
    rw [renderParts_cons htext, ih hrest, String.join_cons]
    rfl

/-- The first variable without a value is blamed. -/
theorem renderParts_of_missing {before : List TemplatePart} {name : String}
    (hbefore : ∀ p ∈ before, (partText? values p).isSome) (hmissing : values.lookup name = none)
    (position : Nat) (after : List TemplatePart) :
    renderParts values (before ++ .variable name position :: after) =
      .error (.undefinedVariable name position) := by
  induction before with
  | nil =>
    rw [List.nil_append, renderParts, renderPart, hmissing]
    rfl
  | cons p before ih =>
    obtain ⟨text, htext⟩ := Option.isSome_iff_exists.mp (hbefore p List.mem_cons_self)
    rw [List.cons_append, renderParts_cons htext, ih fun q hq => hbefore q (List.mem_cons_of_mem p hq)]
    rfl

end AskSheet.Template
