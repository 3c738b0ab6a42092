/-
  Writing JSON: without any spacing (`compact`), or with one item or member in a line, indented by two
  spaces for each level around it (`pretty`). An indefinite leaf is written as a literal that is no text or
  as a numeral that is out of range.
-/
import AskSheet.Json.Basic

namespace AskSheet.Json

/-- A string, or a literal that is no text. -/
def stringText : Option String → String
  | some s => quote s
  | none => "\"\\ud800\""

/-- A number, or a numeral that is out of range. -/
def numberText : Option Number → String
  | some n => n.text
  | none => "1e999"

/-- The texts between two marks, with commas between them. -/
def enclose (opening closing : String) (parts : List String) : String :=
  opening ++ String.intercalate "," parts ++ closing

mutual

/-- The document in one line. -/
def compact : Json → String
  | null => "null"
  | bool b => if b then "true" else "false"
  | number n => numberText n
  | string s => stringText s
  | array items => enclose "[" "]" (compactItems items)
  | object members => enclose "\x7b" "\x7d" (compactMembers members)

def compactItems : List Json → List String
  | [] => []
  | j :: js => compact j :: compactItems js

def compactMembers : List (Option String × Json) → List String
  | [] => []
  | (key, value) :: ms => (stringText key ++ ":" ++ compact value) :: compactMembers ms

end

/-- A line break and the indentation of a level. -/
def newLine (level : Nat) : String := String.ofList ('\n' :: List.replicate (2 * level) ' ')

/-- The texts between two marks, each in a line of its own one level deeper; marks without any text between
    them stand side by side. -/
def encloseLines (opening closing : String) (level : Nat) (parts : List String) : String :=
  if parts = [] then opening ++ closing
  else
    opening ++ String.intercalate "," (parts.map (newLine (level + 1) ++ ·)) ++ newLine level ++ closing

mutual

/-- The document on several lines, as seen from a level. -/
def prettyAt (level : Nat) : Json → String
  | null => "null"
  | bool b => if b then "true" else "false"
  | number n => numberText n
  | string s => stringText s
  | array items => encloseLines "[" "]" level (prettyItems (level + 1) items)
  | object members => encloseLines "\x7b" "\x7d" level (prettyMembers (level + 1) members)

def prettyItems (level : Nat) : List Json → List String
  | [] => []
  | j :: js => prettyAt level j :: prettyItems level js

def prettyMembers (level : Nat) : List (Option String × Json) → List String
  | [] => []
  | (key, value) :: ms => (stringText key ++ ": " ++ prettyAt level value) :: prettyMembers level ms

end

/-- The document on several lines. -/
def pretty (j : Json) : String := prettyAt 0 j

end AskSheet.Json
