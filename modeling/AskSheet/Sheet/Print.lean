/-
  Sheets in print: as YAML documents, as listings for people to read, and the choice between the printed
  forms of a sheet. The YAML document is a mapping with the title, the description and the sequence of
  inputs; in a listing every prompt has a line of its own with its number.
-/
import AskSheet.Config
import AskSheet.Sheet.Json
import AskSheet.Yaml.Writer

namespace AskSheet

open Text

namespace Prompt

/-- The prompt as an entry of a sequence. -/
def toYaml (p : Prompt) : String :=
  "- " ++ Yaml.entry 2 "label" p.label ++ "  " ++ Yaml.entry 2 "placeholder" p.placeholder

/-- The line of a prompt. -/
def listing (p : Prompt) (number : Nat) : String :=
  "  " ++ decimal number ++ ". " ++ p.label ++ (if p.hasPlaceholder then " [" ++ p.placeholder ++ "]" else "")

end Prompt

namespace Sheet

/-- The sheet as a mapping. -/
def toYaml (s : Sheet) : String :=
  Yaml.entry 0 "title" s.title ++ Yaml.entry 0 "description" s.description ++
    if s.prompts = [] then "inputs: []\n"
    else "inputs:\n" ++ String.join (s.prompts.map Prompt.toYaml)

/-- The lines above the prompts: title and description, where there are any. -/
def headingLines (s : Sheet) : List String :=
  (if s.title = "" then [] else ["Title: " ++ s.title]) ++
    if s.description = "" then []
    else "Description:" :: (lines s.description.toList).map ("  " ++ String.ofList ·)

/-- The lines of the prompts under a line that announces them. -/
def promptLines (s : Sheet) : List String :=
  if s.prompts = [] then ["No prompts found."]
  else "Prompts:" :: s.numbered.map fun (p, number) => p.listing number

/-- The listing of a sheet. -/
def listing (s : Sheet) : String := unlines (s.headingLines ++ s.promptLines)

/-- The sheet in one of the output formats. -/
def print (s : Sheet) : OutputFormat → String
  | .json => s.toJson.pretty ++ "\n"
  | .yaml => s.toYaml
  | .text => s.listing

end Sheet

end AskSheet
