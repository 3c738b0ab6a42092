/-
  Documentation blocks: the text between two triple quotes of one kind. The first terminated block of a
  source gives its title (the first line that is not blank) and its description (the lines after it).
-/
import AskSheet.Text.Basic

namespace AskSheet.Script

open Text

/-- Title and description of a script. -/
structure DocBlock where
  title : String
  description : String
  deriving DecidableEq, Repr, Inhabited

namespace DocBlock

/-- What stands before the first three `q` in a row. -/
def untilTriple (q : Char) : List Char → Option (List Char)
  | [] => none
  | c :: cs =>
    if [q, q, q].isPrefixOf (c :: cs) then some []
    else (untilTriple q cs).map (c :: ·)

/-- The content of the block that the text starts with. -/
def contentAt? : List Char → Option (List Char)
  | '"' :: '"' :: '"' :: cs => untilTriple '"' cs
  | '\'' :: '\'' :: '\'' :: cs => untilTriple '\'' cs
  | _ => none

/-- The content of the first block that is terminated. -/
def content? : List Char → Option (List Char)
  | [] => none
  | c :: cs => (contentAt? (c :: cs)).or (content? cs)

/-- The first line that is not blank is the title, the lines after it are the description; both are
    trimmed as a whole. -/
def ofContent (content : List Char) : DocBlock :=
  match (lines content).dropWhile (·.all isBlank) with
  | [] => { title := "", description := "" }
  | l :: ls =>
    { title := String.ofList (trimChars l)
      description := String.ofList (trimChars (List.intercalate ['\n'] ls)) }

/-- The first terminated block of a source. -/
def find? (source : String) : Option DocBlock :=
  (content? source.toList).map ofContent

end DocBlock

end AskSheet.Script
