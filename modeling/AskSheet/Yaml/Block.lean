/-
  Block scalars: the indented lines after a bar or an angle. A literal block keeps its line breaks; a
  folded one turns a single break between two lines that do not start with a blank into a space.
-/
import AskSheet.Text.Numeral
import AskSheet.Yaml.Quoted

namespace AskSheet.Yaml

open Text

/-- What becomes of the breaks at the end of a block: none stays, one stays, or all of them. -/
inductive Chomp where
  | strip
  | clip
  | keep
  deriving DecidableEq, Repr

/-- The sign for a way to treat the last breaks. -/
def chomp? : List Char → Option (Chomp × List Char)
  | '+' :: cs => some (.keep, cs)
  | '-' :: cs => some (.strip, cs)
  | _ => none

/-- The digit for the indentation of a block, which is not zero. -/
def indentDigit? : List Char → Option (Nat × List Char)
  | [] => none
  | c :: cs => (digit? 10 c).map (·, cs)

/-- The signs after the bar or angle, in either order; zero stands for no given indentation. -/
def blockSigns (cs : List Char) : Option (Chomp × Nat × List Char) :=
  match chomp? cs with
  | some (chomp, cs) =>
    match indentDigit? cs with
    | some (0, _) => none
    | some (n, cs) => some (chomp, n, cs)
    | none => some (chomp, 0, cs)
  | none =>
    match indentDigit? cs with
    | some (0, _) => none
    | some (n, cs) =>
      match chomp? cs with
      | some (chomp, cs) => some (chomp, n, cs)
      | none => some (.clip, n, cs)
    | none => some (.clip, 0, cs)

/-- The place after blanks and a comment, which have to reach the end of the line, and after the break. -/
def takeLineEnd (c : Cursor) : Option Cursor :=
  let c := (c.skipWhile isBlank).skipComment
  if c.rest = [] then some c
  else if c.sees isBreak then some c.takeBreak.2
  else none

/-- The empty lines at a place: their breaks, the deepest column that their spaces reach, and the place of
    the first line that is not empty. Where the indentation is known, spaces beyond it are content; a tab
    in place of a space of indentation is an error. -/
def takeEmptyLines (indent : Option Nat) (deepest : Nat) (c : Cursor) :
    Option (List Char × Nat × Cursor) :=
  let room := match indent with
    | some n => n - c.column
    | none => c.rest.length
  let run := (c.rest.takeWhile (· == ' ')).length
  let c' := c.drop (min room run)
  let deepest := max deepest c'.column
  if indent.all (c'.column < ·) && c'.sees (· == '\t') then none
  else if h : c'.sees isBreak then
    have : c'.takeBreak.2.rest.length < c.rest.length := by
      refine Nat.lt_of_lt_of_le (Cursor.length_takeBreak_lt h) ?_
      simp [c', Cursor.drop]
    (takeEmptyLines indent deepest c'.takeBreak.2).map fun (breaks, column, after) =>
      (c'.takeBreak.1 ++ breaks, column, after)
  else some ([], deepest, c')
termination_by c.rest.length

/-- The lines of a block: their text, the break after the last one, the breaks of the empty lines after
    that, and the place after them. -/
structure BlockLines where
  text : List Char
  lastBreak : List Char
  emptyLines : List Char
  after : Cursor
  deriving DecidableEq, Repr

/-- What stands for the break before a line and the empty lines after that break. -/
def blockJoint (fold : Bool) (lastBreak emptyLines : List Char) : List Char :=
  if fold && lastBreak = ['\n'] then if emptyLines = [] then [' '] else emptyLines
  else lastBreak ++ emptyLines

/-- The lines of a block from a place on; `lastBreak`, `emptyLines` and `blankStart` tell of the line
    before. -/
def takeBlockLines (folded : Bool) (indent : Nat) (lastBreak emptyLines : List Char) (blankStart : Bool)
    (c : Cursor) : Option BlockLines :=
  if c.column = indent && c.rest != [] then
    let startsBlank := c.sees isBlank
    let before := blockJoint (folded && !blankStart && !startsBlank) lastBreak emptyLines
    let (line, atBreak) := c.takeWhile (!isBreak ·)
    let (lineBreak, next) := atBreak.takeBreak
    match takeEmptyLines (some indent) 0 next with
    | none => none
    | some (breaks, _, next) =>
      if next.rest.length < c.rest.length then
        (takeBlockLines folded indent lineBreak breaks startsBlank next).map fun more =>
          { more with text := before ++ line ++ more.text }
      else none
  else some ⟨[], lastBreak, emptyLines, c⟩
termination_by c.rest.length

/-- The text of a block from after its bar or angle, and the place after it. The indentation of the
    collection around it is `parent`, which is -1 outside of all. -/
def takeBlock (folded : Bool) (parent : Int) (c : Cursor) : Option (List Char × Cursor) := do
  let (chomp, digit, signed) ← blockSigns c.rest
  let c ← takeLineEnd (c.moveTo signed)
  let given := if digit = 0 then none else some (parent.toNat + digit)
  let (breaks, deepest, c) ← takeEmptyLines given 0 c
  let indent := given.getD (max deepest (max (parent + 1).toNat 1))
  let lines ← takeBlockLines folded indent [] breaks false c
  let ending := match chomp with
    | .strip => []
    | .clip => lines.lastBreak
    | .keep => lines.lastBreak ++ lines.emptyLines
  return (lines.text ++ ending, lines.after)

end AskSheet.Yaml
