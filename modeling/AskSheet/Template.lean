/-
  Templates: text with variables in braces. A doubled brace stands for one brace, and so does a closing
  brace on its own. `Template.parse` cuts a source into parts, blaming the first faulty variable by the
  byte position of its opening brace; `Template.render` puts values for the variables. Values are not
  read as template text.
-/
import AskSheet.Text.Basic
import AskSheet.Text.Numeral

namespace AskSheet

open Text

/-- What can be wrong with a template. Positions are byte offsets of an opening brace in the source. -/
inductive TemplateError where
  | undefinedVariable (name : String) (position : Nat)
  | unmatchedBrace (position : Nat)
  | emptyVariableName (position : Nat)
  deriving DecidableEq, Repr

namespace TemplateError

def message : TemplateError → String
  | undefinedVariable name position =>
    "undefined variable '" ++ name ++ "' at position " ++ decimal position ++ " in template"
  | unmatchedBrace position => "unmatched '\x7b' at position " ++ decimal position ++ " in template"
  | emptyVariableName position =>
    "empty variable name '\x7b\x7d' at position " ++ decimal position ++ " in template"

end TemplateError

/-- A part of a template: a character to be copied, or a variable with its byte position. -/
inductive TemplatePart where
  | literal (c : Char)
  | variable (name : String) (position : Nat)
  deriving DecidableEq, Repr

/-- A template is the sequence of its parts. -/
structure Template where
  parts : List TemplatePart
  deriving DecidableEq, Repr

/-- Values of variables. -/
abbrev Bindings := List (String × String)

namespace Template

/-- The body of a variable and what follows its closing brace. -/
def body? : List Char → Option (List Char × List Char)
  | [] => none
  | c :: cs =>
    if c = '}' then some ([], cs)
    else (body? cs).map fun (name, rest) => (c :: name, rest)

/-- Nothing but the closing brace is lost. -/
theorem eq_of_body? {cs name rest : List Char} (h : body? cs = some (name, rest)) :
    cs = name ++ '}' :: rest := by
  induction cs generalizing name with
  | nil => simp [body?] at h
  | cons c cs ih =>
    rw [body?] at h
    split at h
    · rename_i hc
      simp only [Option.some.injEq, Prod.mk.injEq] at h
      obtain ⟨rfl, rfl⟩ := h
      simp [hc]
    · simp only [Option.map_eq_some_iff, Prod.mk.injEq, Prod.exists] at h
      obtain ⟨n, r, hb, rfl, rfl⟩ := h
      simp [ih hb]

/-- The parts of a source that starts at this byte position. -/
def partsFrom (position : Nat) : List Char → Except TemplateError (List TemplatePart)
  | [] => .ok []
  | '{' :: '{' :: cs => do
    return .literal '{' :: (← partsFrom (position + 2) cs)
  | '{' :: cs =>
    match h : body? cs with
    | none => .error (.unmatchedBrace position)
    | some (name, rest) =>
      if name.all isBlank then .error (.emptyVariableName position)
      else do
        have : rest.length < cs.length := by
          have := congrArg List.length (eq_of_body? h); simp at this; omega
        return .variable (String.ofList (trimChars name)) position ::
          (← partsFrom (position + byteLength name + 2) rest)
  | '}' :: '}' :: cs => do
    return .literal '}' :: (← partsFrom (position + 2) cs)
  | c :: cs => do
    return .literal c :: (← partsFrom (position + c.utf8Size) cs)
termination_by cs => cs.length

/-- Reads the source of a template. -/
def parse (source : String) : Except TemplateError Template := do
  return { parts := ← partsFrom 0 source.toList }

/-- The names of the variables in order of appearance. -/
def variableNames (t : Template) : List String :=
  t.parts.filterMap fun
    | .variable name _ => some name
    | .literal _ => none

/-- The text of one part. -/
def renderPart (values : Bindings) : TemplatePart → Except TemplateError String
  | .literal c => .ok (String.singleton c)
  | .variable name position =>
    match values.lookup name with
    | some value => .ok value
    | none => .error (.undefinedVariable name position)

/-- The text of the parts one after the other. -/
def renderParts (values : Bindings) : List TemplatePart → Except TemplateError String
  | [] => .ok ""
  | p :: ps => do
    let text ← renderPart values p
    let rest ← renderParts values ps
    return text ++ rest

/-- The text of the template, or the first variable that has no value. -/
def render (t : Template) (values : Bindings) : Except TemplateError String :=
  renderParts values t.parts

end Template

end AskSheet
