/-
  Scalars between quotes, and the folding of line breaks that they share with plain scalars: a single break
  between words is a space, and of several breaks the first is dropped.
-/
import AskSheet.Text.Numeral
import AskSheet.Yaml.Cursor

namespace AskSheet.Yaml

open Text

/-- What the breaks between two words stand for. -/
def foldBreaks : List Char → List Char
  | ['\n'] => [' ']
  | '\n' :: bs => bs
  | bs => bs

/-- The breaks at a place, each with the blanks after it skipped. A tab before column `indent` of a new
    line is an error. -/
def takeBreaks (indent : Int) (c : Cursor) : Option (List Char × Cursor) :=
  if h : c.sees isBreak then
    let taken := c.takeBreak
    let blanks := taken.2.takeWhile isBlank
    if (blanks.1.take indent.toNat).contains '\t' then none
    else
      have : blanks.2.rest.length < c.rest.length :=
        Nat.lt_of_le_of_lt (Cursor.length_skipWhile_le taken.2 isBlank) (Cursor.length_takeBreak_lt h)
      (takeBreaks indent blanks.2).map fun (breaks, after) => (taken.1 ++ breaks, after)
  else some ([], c)
termination_by c.rest.length

/-- The spacing at a place: the blanks before the first break, the breaks, and the place after it all. -/
def takeSpacing (indent : Int) (c : Cursor) : Option (List Char × List Char × Cursor) :=
  let (blanks, c) := c.takeWhile isBlank
  (takeBreaks indent c).map fun (breaks, c) => (blanks, breaks, c)

/-- What spacing inside a scalar stands for. -/
def joint (blanks breaks : List Char) : List Char :=
  if breaks = [] then blanks else foldBreaks breaks

/-- The text of a piece of a quoted scalar without spacing, the number of characters it takes, and whether
    it ends with a backslash that joins the next line to it. -/
structure Piece where
  text : List Char
  width : Nat
  joined : Bool := false
  deriving DecidableEq, Repr

/-- The piece with `cs` before it, written with `n` characters. -/
def Piece.after (cs : List Char) (n : Nat) (p : Piece) : Piece :=
  { p with text := cs ++ p.text, width := p.width + n }

/-- The piece between single quotes that starts here; a quote written twice stands for one. -/
def singlePiece : List Char → Piece
  | [] => ⟨[], 0, false⟩
  | '\'' :: '\'' :: cs => (singlePiece cs).after ['\''] 2
  | c :: cs =>
    if c = '\'' || isSpacing c then ⟨[], 0, false⟩
    else (singlePiece cs).after [c] 1

/-- What a letter after a backslash stands for. -/
def escaped? (c : Char) : Option Char :=
  match c with
  | '0' => some '\x00' | 'a' => some '\x07' | 'b' => some '\x08' | 't' => some '\t' | '\t' => some '\t'
  | 'n' => some '\n' | 'v' => some '\x0b' | 'f' => some '\x0c' | 'r' => some '\r' | 'e' => some '\x1b'
  | ' ' => some ' ' | '"' => some '"' | '/' => some '/' | '\\' => some '\\' | 'N' => some '\u0085'
  | '_' => some '\u00a0' | 'L' => some '\u2028' | 'P' => some '\u2029' | _ => none

/-- The number of digits that a letter after a backslash asks for. -/
def hexWidth? (c : Char) : Option Nat :=
  match c with
  | 'x' => some 2
  | 'u' => some 4
  | 'U' => some 8
  | _ => none

/-- The character with this code point. -/
def charOf? (n : Nat) : Option Char :=
  if n.isValidChar then some (Char.ofNat n) else none

/-- The piece between double quotes that starts here, with escapes read. -/
def doublePiece : List Char → Option Piece
  | [] => some ⟨[], 0, false⟩
  | '\\' :: e :: cs =>
    if isBreak e then some ⟨[], 1, true⟩
    else
      match hexWidth? e with
      | some n =>
        match (numeral? 16 (cs.take n)).bind charOf? with
        | some c => if n ≤ cs.length then (doublePiece (cs.drop n)).map (·.after [c] (n + 2)) else none
        | none => none
      | none =>
        match escaped? e with
        | some c => (doublePiece cs).map (·.after [c] 2)
        | none => none
  | ['\\'] => none
  | c :: cs =>
    if c = '"' || isSpacing c then some ⟨[], 0, false⟩
    else (doublePiece cs).map (·.after [c] 1)
termination_by cs => cs.length
decreasing_by
  · simp only [List.length_drop, List.length_cons]; omega
  · simp only [List.length_cons]; omega
  · simp only [List.length_cons]; omega

/-- The text of a quoted scalar from after its opening quote, and the place after its closing one. The
    marker of a document must not stand inside it. -/
def takeQuoted (quote : Char) (piece : List Char → Option Piece) (c : Cursor) :
    Option (List Char × Cursor) :=
  if c.seesMarker then none
  else
    match piece c.rest with
    | none => none
    | some p =>
      let after := c.drop p.width
      if after.sees (· == quote) && !p.joined then some (p.text, after.drop 1)
      else
        match takeSpacing 0 after with
        | none => none
        | some (blanks, breaks, next) =>
          if next.rest.length < c.rest.length && next.rest != [] then
            let between := if p.joined then breaks.tail else joint blanks breaks
            (takeQuoted quote piece next).map fun (text, c) => (p.text ++ between ++ text, c)
          else none
termination_by c.rest.length
decreasing_by simp_all

/-- The text of a scalar between single quotes, from after the first one. -/
def takeSingle (c : Cursor) : Option (List Char × Cursor) :=
  takeQuoted '\'' (fun cs => some (singlePiece cs)) c

/-- The text of a scalar between double quotes, from after the first one. -/
def takeDouble (c : Cursor) : Option (List Char × Cursor) :=
  takeQuoted '"' doublePiece c

end AskSheet.Yaml
