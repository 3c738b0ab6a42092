/-
  Written scalars. A text is written plain, between single quotes, as a literal block or between double
  quotes: plain when it cannot be mistaken for anything else, as a block when it has several lines, and
  between double quotes, with escapes, when no other style can hold it. Long lines are never folded.
-/
import AskSheet.Yaml.Char
import AskSheet.Yaml.Resolve

namespace AskSheet.Yaml

open Text

/-- The ways to write a scalar. -/
inductive Style where
  | plain
  | single
  | double
  | literal
  | folded
  deriving DecidableEq, Repr

/-- Holds of the first and second member of some two neighbours. -/
def anyPair (p q : Char → Bool) : List Char → Bool
  | [] => false
  | c :: cs => (p c && (cs.head?.any q)) || anyPair p q cs

/-- Starts like the marker of a document's start or end. -/
def startsLikeMarker (cs : List Char) : Bool :=
  "---".toList.isPrefixOf cs || "...".toList.isPrefixOf cs

/-- A colon before spacing, or a number sign after it. -/
def hasInnerIndicator : List Char → Bool
  | [] => false
  | c :: cs =>
    (c == ':' && atSpacing cs) || (isSpacing c && cs.head?.any (· == '#')) || hasInnerIndicator cs

/-- Would be read as something other than one plain scalar. -/
def hasIndicator (cs : List Char) : Bool :=
  startsLikeMarker cs || hasInnerIndicator cs ||
    match cs with
    | [] => false
    | c :: cs => isIndicator c || ((c == '?' || c == '-') && atSpacing cs)

/-- Can stand between single quotes: every character shows as it is, and no space is next to a break. -/
def allowsSingle (cs : List Char) : Bool :=
  cs.all isPrintable && !anyPair isBreak (· == ' ') cs && !anyPair (· == ' ') isBreak cs

/-- Can be written plain. -/
def allowsPlain (cs : List Char) : Bool :=
  allowsSingle cs && !cs.any isBreak && cs.head? != some ' ' && cs.getLast? != some ' ' &&
    !hasIndicator cs

/-- Can be written as a block. -/
def allowsBlock (cs : List Char) : Bool :=
  cs.all isPrintable && !anyPair (· == ' ') isBreak cs && cs.getLast? != some ' '

/-- The style in which a text is written. -/
def styleOf (s : String) : Style :=
  let cs := s.toList
  if cs.contains '\n' then if allowsBlock cs then .literal else .double
  else if isAmbiguous s || !allowsPlain cs then if allowsSingle cs then .single else .double
  else .plain

/-- A run of spaces. -/
def spaces (n : Nat) : List Char := List.replicate n ' '

/-- The text between single quotes: a quote is written twice, and the line after a break is indented.
    `fresh` says that a break stands right before. -/
def singleBody (indent : Nat) (fresh : Bool) : List Char → List Char
  | [] => if fresh then spaces indent else []
  | c :: cs =>
    if isBreak c then c :: singleBody indent true cs
    else (if fresh then spaces indent else []) ++
      (if c = '\'' then ['\'', '\''] else [c]) ++ singleBody indent false cs

/-- The letter that stands after a backslash for this character. -/
def escapeLetter? (c : Char) : Option Char :=
  match c.toNat with
  | 0x00 => some '0' | 0x07 => some 'a' | 0x08 => some 'b' | 0x09 => some 't'
  | 0x0A => some 'n' | 0x0B => some 'v' | 0x0C => some 'f' | 0x0D => some 'r'
  | 0x1B => some 'e' | 0x22 => some '"' | 0x5C => some '\\' | 0x85 => some 'N'
  | 0x2028 => some 'L' | 0x2029 => some 'P' | _ => none

/-- Digits of a code point, in capitals. -/
def hexDigits (width n : Nat) : List Char := (padded 16 width n).map Char.toUpper

/-- A character between double quotes. -/
def doubleChar (c : Char) : List Char :=
  match escapeLetter? c with
  | some e => ['\\', e]
  | none =>
    if isPrintable c then [c]
    else if c.toNat ≤ 0xFF then '\\' :: 'x' :: hexDigits 2 c.toNat
    else if c.toNat ≤ 0xFFFF then '\\' :: 'u' :: hexDigits 4 c.toNat
    else '\\' :: 'U' :: hexDigits 8 c.toNat

/-- The lines of a literal block, each indented unless it is empty. -/
def literalBody (indent : Nat) (fresh : Bool) : List Char → List Char
  | [] => []
  | c :: cs =>
    if isBreak c then c :: literalBody indent true cs
    else (if fresh then spaces indent else []) ++ c :: literalBody indent false cs

/-- What follows the bar of a literal block: the indentation, where the first line does not show it, and
    what becomes of the breaks at the end. -/
def literalHints (cs : List Char) : List Char :=
  (if cs.head?.any (fun c => c == ' ' || isBreak c) then ['2'] else []) ++
    match cs.reverse with
    | [] => ['-']
    | [c] => if isBreak c then ['+'] else ['-']
    | c :: d :: _ => if !isBreak c then ['-'] else if isBreak d then ['+'] else []

/-- A text as a scalar from its first character to the end of its last line, the lines of it after the
    first indented by `indent`. -/
def scalar (indent : Nat) (s : String) : List Char :=
  let cs := s.toList
  match styleOf s with
  | .single => '\'' :: singleBody indent false cs ++ ['\'', '\n']
  | .double => '"' :: cs.flatMap doubleChar ++ ['"', '\n']
  | .literal =>
    '|' :: literalHints cs ++ '\n' :: literalBody indent true cs ++
      if cs.getLast?.any isBreak then [] else ['\n']
  | _ => cs ++ ['\n']

/-- A key with a text in a mapping whose entries are indented by `indent`. -/
def entry (indent : Nat) (key value : String) : String :=
  key ++ ": " ++ String.ofList (scalar (indent + 2) value)

end AskSheet.Yaml
