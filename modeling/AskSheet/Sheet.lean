/-
  Sheets: title, description and prompts of a script. The position of a prompt is its identity: the prompt
  with number `n`, counted from 1, is answered by the `n`-th answer. `Sheet.ofScript` reads a sheet off the
  source of a script.
-/
import AskSheet.Prompt
import AskSheet.Script.Call
import AskSheet.Script.DocBlock

namespace AskSheet

/-- What a script tells and asks, the prompts in the order in which it asks them. -/
structure Sheet where
  title : String := ""
  description : String := ""
  prompts : List Prompt := []
  deriving DecidableEq, Repr, Inhabited

namespace Sheet

/-- The prompts with their numbers. -/
def numbered (s : Sheet) : List (Prompt × Nat) := s.prompts.zipIdx 1

/-- The prompt with this number. -/
def prompt? (s : Sheet) : Nat → Option Prompt
  | 0 => none
  | n + 1 => s.prompts[n]?

/-- The literals of the calls of `input` in a source, verbatim and in order. -/
def literals (source : String) : List String :=
  (Script.Call.literals false source.toList).map String.ofList

/-- The sheet of a script. Every text is a script, perhaps one that asks nothing. -/
def ofScript (source : String) : Sheet :=
  let doc := (Script.DocBlock.find? source).getD { title := "", description := "" }
  { title := doc.title
    description := doc.description
    prompts := (literals source).map Prompt.parse }

end Sheet

end AskSheet
