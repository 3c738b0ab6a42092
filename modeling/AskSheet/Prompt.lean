/-
  Prompts: what the user is shown, and the suggested answer. In the written form of a prompt the first
  pair of brackets holds the suggestion; a bracket right after a backslash is a plain character.
-/
import AskSheet.Text.Basic

namespace AskSheet

open Text

/-- One question of a script. An empty placeholder means that the question suggests no answer. -/
structure Prompt where
  label : String
  placeholder : String
  deriving DecidableEq, Repr, Inhabited

namespace Prompt

def hasPlaceholder (p : Prompt) : Bool := p.placeholder != ""

/-- Cuts the text at the first `d` that is not right after a backslash; `escaped` says whether a backslash
    stands right before the text. -/
def cutAt (d : Char) (escaped : Bool) : List Char → Option (List Char × List Char)
  | [] => none
  | c :: cs =>
    if c = d && !escaped then some ([], cs)
    else (cutAt d (c = '\\') cs).map fun (before, after) => (c :: before, after)

/-- What stands before, inside and after the first pair of brackets. -/
def splitBrackets (raw : List Char) : Option (List Char × List Char × List Char) := do
  let (before, rest) ← cutAt '[' false raw
  let (inside, after) ← cutAt ']' false rest
  return (before, inside, after)

/-- Drops each backslash that stands right before a bracket. -/
def unescape : List Char → List Char
  | [] => []
  | '\\' :: '[' :: cs => '[' :: unescape cs
  | '\\' :: ']' :: cs => ']' :: unescape cs
  | c :: cs => c :: unescape cs

/-- Reads a written prompt. Every text is one: without a pair of brackets all of it is the label. -/
def parse (raw : String) : Prompt :=
  match splitBrackets raw.toList with
  | some (before, inside, after) =>
    { label := String.ofList (unescape (trimChars (before ++ after)))
      placeholder := String.ofList (trimChars inside) }
  | none => { label := String.ofList (unescape (trimChars raw.toList)), placeholder := "" }

/-- The cut loses only the delimiter. -/
theorem eq_of_cutAt {d : Char} {escaped : Bool} {cs before after : List Char}
    (h : cutAt d escaped cs = some (before, after)) : cs = before ++ d :: after := by
  induction cs generalizing escaped before with
  | nil => simp [cutAt] at h
  | cons c cs ih =>
    rw [cutAt] at h
    split at h
    · rename_i hc
      simp only [Bool.and_eq_true, decide_eq_true_eq] at hc
      simp only [Option.some.injEq, Prod.mk.injEq] at h
      obtain ⟨rfl, rfl⟩ := h
      simp [hc.1]
    · simp only [Option.map_eq_some_iff, Prod.mk.injEq, Prod.exists] at h
      obtain ⟨b, a, hcut, rfl, rfl⟩ := h
      simp [ih hcut]

end Prompt

end AskSheet
