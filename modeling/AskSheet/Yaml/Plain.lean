/-
  Plain scalars: text without quotes. One ends at a colon before spacing, at a number sign after spacing,
  at a marker, at a line that is not indented enough and, inside brackets, at their punctuation.
-/
import AskSheet.Yaml.Quoted

namespace AskSheet.Yaml

/-- Punctuation of the collections between brackets. -/
def isFlowMark (c : Char) : Bool := c == ',' || c == '[' || c == ']' || c == '{' || c == '}'

/-- A plain scalar can start with this text. -/
def startsPlain (flow : Bool) : List Char → Bool
  | [] => false
  | c :: cs =>
    if c == '-' then cs.head?.any (!isBlank ·)
    else if c == '?' || c == ':' then !flow && !atSpacing cs
    else !isSpacing c && !isIndicator c

/-- The characters of a plain scalar up to spacing or its end. Between brackets a colon right before
    punctuation is an error. -/
def plainPiece (flow : Bool) : List Char → Option (List Char)
  | [] => some []
  | c :: cs =>
    if isSpacing c then some []
    else if flow && c == ':' && cs.head?.any (fun d => isFlowMark d || d == '?') then none
    else if (c == ':' && atSpacing cs) || (flow && isFlowMark c) then some []
    else (plainPiece flow cs).map (c :: ·)

/-- A plain scalar: its text, the place after it and after the spacing that follows it, and whether there
    is a break in that spacing. -/
structure PlainScalar where
  text : List Char
  after : Cursor
  brokeLine : Bool
  deriving DecidableEq, Repr

/-- The plain scalar at a place; its lines after the first have to be indented by `indent` in a block. -/
def takePlain (flow : Bool) (indent : Int) (c : Cursor) : Option PlainScalar :=
  if c.seesMarker || c.sees (· == '#') then some ⟨[], c, false⟩
  else
    match plainPiece flow c.rest with
    | none => none
    | some [] => some ⟨[], c, false⟩
    | some text =>
      let after := c.drop text.length
      if !after.sees isSpacing then some ⟨text, after, false⟩
      else
        match takeSpacing indent after with
        | none => none
        | some (blanks, breaks, next) =>
          if !flow && next.column < indent then some ⟨text, next, breaks != []⟩
          else if next.rest.length < c.rest.length then
            (takePlain flow indent next).map fun more =>
              if more.text = [] then ⟨text, next, breaks != []⟩
              else { more with text := text ++ joint blanks breaks ++ more.text }
          else none
termination_by c.rest.length

end AskSheet.Yaml
