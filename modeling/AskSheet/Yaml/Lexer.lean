/-
  From a document to its tokens. `Lexer.step` reads one token; `tokens?` repeats it to the end of the
  document. A scalar or collection that may turn out to be a key, because a colon follows it in the same
  line, is remembered with its place among the tokens (`KeyMark`), where the token for the key, and for the
  mapping that it opens, is put in afterwards.
-/
import AskSheet.Yaml.Block
import AskSheet.Yaml.Plain
import AskSheet.Yaml.Property

namespace AskSheet.Yaml

/-- Where something that may be a key starts: the number of tokens before it and its place in the
    document. It is `required` to be one when it is the first thing in a line of a block mapping. -/
structure KeyMark where
  place : Nat
  required : Bool
  index : Nat
  line : Nat
  column : Nat
  deriving DecidableEq, Repr

/-- A document that is being read. The tokens so far are in reverse order; `indents` are the indentations
    of the open block collections, the innermost first; there is one entry of `marks` for each open bracket,
    the innermost first, and one for the document around them. -/
structure Lexer where
  cursor : Cursor
  tokens : List Token := []
  indents : List Nat := []
  marks : List (Option KeyMark) := [none]
  keyAllowed : Bool := true
  deriving DecidableEq, Repr

namespace Lexer

/-- Inside brackets. -/
def inFlow (s : Lexer) : Bool := 1 < s.marks.length

/-- The indentation of the innermost block collection, -1 outside of all. -/
def indent (s : Lexer) : Int :=
  match s.indents with
  | [] => -1
  | n :: _ => n

/-- Adds a token. -/
def emit (s : Lexer) (t : Token) : Lexer := { s with tokens := t :: s.tokens }

/-- Adds a token where `place` tokens stand before it. -/
def emitAt (s : Lexer) (place : Nat) (t : Token) : Lexer :=
  { s with tokens := s.tokens.insertIdx (s.tokens.length - place) t }

/-- Adds a token of `n` characters. -/
def emitMark (s : Lexer) (n : Nat) (t : Token) : Lexer :=
  { s.emit t with cursor := s.cursor.drop n }

/-- Skips blanks, comments and line breaks. At the start of a line of a block a key is allowed, and a tab
    may not stand before one. -/
def skipGap (s : Lexer) : Lexer :=
  let c := s.cursor.skipInLine (s.inFlow || !s.keyAllowed)
  if h : c.sees isBreak then
    have : c.takeBreak.2.rest.length < s.cursor.rest.length :=
      Nat.lt_of_lt_of_le (Cursor.length_takeBreak_lt h) (Cursor.length_skipInLine_le _ _)
    skipGap { s with cursor := c.takeBreak.2, keyAllowed := s.keyAllowed || !s.inFlow }
  else { s with cursor := c }
termination_by s.cursor.rest.length

/-- The mark, unless its line is over or it lies more than 1024 bytes back. -/
def KeyMark.renew (c : Cursor) : Option KeyMark → Option (Option KeyMark)
  | none => some none
  | some m =>
    if m.line < c.line || m.index + 1024 < c.index then if m.required then none else some none
    else some (some m)

/-- Drops the marks of what can no longer be a key. -/
def renewMarks (s : Lexer) : Option Lexer := do
  return { s with marks := ← s.marks.mapM (KeyMark.renew s.cursor) }

/-- Closes the block collections that are indented more than `column`. -/
def unroll (column : Int) (s : Lexer) : Lexer :=
  if s.inFlow then s
  else
    let closed := s.indents.takeWhile fun (n : Nat) => column < n
    { s with tokens := closed.map (fun _ => Token.blockEnd) ++ s.tokens
             indents := s.indents.drop closed.length }

/-- Opens a block collection at `column` unless one is open there. -/
def roll (column : Nat) (place : Nat) (t : Token) (s : Lexer) : Lexer :=
  if s.inFlow || column ≤ s.indent then s
  else { s.emitAt place t with indents := column :: s.indents }

/-- Forgets the innermost mark; something that is required to be a key must not be forgotten. -/
def dropMark (s : Lexer) : Option Lexer :=
  match s.marks with
  | some m :: ms => if m.required then none else some { s with marks := none :: ms }
  | _ => some s

/-- Marks the next token as one that may be a key, where a key is allowed. -/
def mark (s : Lexer) : Option Lexer :=
  if s.keyAllowed then do
    let s' ← s.dropMark
    let m : KeyMark :=
      { place := s.tokens.length, required := !s.inFlow && s.indent == s.cursor.column
        index := s.cursor.index, line := s.cursor.line, column := s.cursor.column }
    return { s' with marks := some m :: s'.marks.tail }
  else some s

/-- A marker of a document's start or end. -/
def readMarker (t : Token) (s : Lexer) : Option Lexer := do
  let s ← (s.unroll (-1)).dropMark
  return { s with keyAllowed := false }.emitMark 3 t

/-- A directive up to the end of its line. -/
def readDirective (s : Lexer) : Option Lexer := do
  let s ← (s.unroll (-1)).dropMark
  let (t, rest) ← directive? s.cursor.rest.tail
  let c ← takeLineEnd (s.cursor.moveTo rest)
  return { s.emit t with cursor := c, keyAllowed := false }

/-- An opening bracket. -/
def openFlow (t : Token) (s : Lexer) : Option Lexer := do
  let s ← s.mark
  return { s with marks := none :: s.marks, keyAllowed := true }.emitMark 1 t

/-- A closing bracket. -/
def closeFlow (t : Token) (s : Lexer) : Option Lexer := do
  let s ← s.dropMark
  return { s with marks := if s.inFlow then s.marks.tail else s.marks, keyAllowed := false }.emitMark 1 t

/-- A comma. -/
def readFlowEntry (s : Lexer) : Option Lexer := do
  let s ← s.dropMark
  return { s with keyAllowed := true }.emitMark 1 .flowEntry

/-- A hyphen before an entry of a sequence. -/
def readBlockEntry (s : Lexer) : Option Lexer := do
  guard (s.inFlow || s.keyAllowed)
  let s ← (s.roll s.cursor.column s.tokens.length .blockSequenceStart).dropMark
  return { s with keyAllowed := true }.emitMark 1 .blockEntry

/-- A question mark before a key. -/
def readKey (s : Lexer) : Option Lexer := do
  guard (s.inFlow || s.keyAllowed)
  let s ← (s.roll s.cursor.column s.tokens.length .blockMappingStart).dropMark
  return { s with keyAllowed := !s.inFlow }.emitMark 1 .key

/-- A colon before a value. What is marked turns out to be the key. -/
def readValue (s : Lexer) : Option Lexer :=
  match s.marks with
  | some m :: ms =>
    let s := (s.emitAt m.place .key).roll m.column m.place .blockMappingStart
    some ({ s with marks := none :: ms, keyAllowed := false }.emitMark 1 .value)
  | _ => do
    guard (s.inFlow || s.keyAllowed)
    let s := s.roll s.cursor.column s.tokens.length .blockMappingStart
    return { s with keyAllowed := !s.inFlow }.emitMark 1 .value

/-- An alias, an anchor or a tag: a token that may start a key. -/
def readProperty (read : List Char → Option (Token × List Char)) (s : Lexer) : Option Lexer := do
  let s ← s.mark
  let (t, rest) ← read s.cursor.rest
  return { s.emit t with cursor := s.cursor.moveTo rest, keyAllowed := false }

/-- The alias or anchor after its sign. -/
def named (t : List Char → Token) (cs : List Char) : Option (Token × List Char) :=
  (anchorName? cs.tail).map fun (name, rest) => (t name, rest)

/-- A block scalar. -/
def readBlock (folded : Bool) (s : Lexer) : Option Lexer := do
  let s ← s.dropMark
  let (text, c) ← takeBlock folded s.indent (s.cursor.drop 1)
  return { s.emit (.scalar (if folded then .folded else .literal) text) with cursor := c, keyAllowed := true }

/-- A scalar between quotes. -/
def readQuoted (style : Style) (take : Cursor → Option (List Char × Cursor)) (s : Lexer) :
    Option Lexer := do
  let s ← s.mark
  let (text, c) ← take (s.cursor.drop 1)
  return { s.emit (.scalar style text) with cursor := c, keyAllowed := false }

/-- A plain scalar. After a line break a key is allowed. -/
def readPlain (s : Lexer) : Option Lexer := do
  let s ← s.mark
  let p ← takePlain s.inFlow (s.indent + 1) s.cursor
  return { s.emit (.scalar .plain p.text) with cursor := p.after, keyAllowed := p.brokeLine }

/-- The next token, whose first characters are at the cursor. -/
def read (s : Lexer) : Option Lexer :=
  match s.cursor.rest with
  | [] => none
  | c :: _ =>
    let beforeSpacing := s.cursor.endsAfter 1
    if s.cursor.column = 0 && c == '%' then s.readDirective
    else if s.cursor.seesMarker then s.readMarker (if c == '-' then .documentStart else .documentEnd)
    else if c == '[' then s.openFlow .flowSequenceStart
    else if c == '{' then s.openFlow .flowMappingStart
    else if c == ']' then s.closeFlow .flowSequenceEnd
    else if c == '}' then s.closeFlow .flowMappingEnd
    else if c == ',' then s.readFlowEntry
    else if c == '-' && beforeSpacing then s.readBlockEntry
    else if c == '?' && (s.inFlow || beforeSpacing) then s.readKey
    else if c == ':' && (s.inFlow || beforeSpacing) then s.readValue
    else if c == '*' then s.readProperty (named .alias)
    else if c == '&' then s.readProperty (named .anchor)
    else if c == '!' then s.readProperty tag?
    else if c == '|' && !s.inFlow then s.readBlock false
    else if c == '>' && !s.inFlow then s.readBlock true
    else if c == '\'' then s.readQuoted .single takeSingle
    else if c == '"' then s.readQuoted .double takeDouble
    else if startsPlain s.inFlow s.cursor.rest then s.readPlain
    else none

/-- Goes to the next token and closes the block collections that end before it. -/
def approach (s : Lexer) : Option Lexer := do
  let s ← s.skipGap.renewMarks
  return s.unroll s.cursor.column

/-- The tokens up to the end of the document. -/
def run (s : Lexer) : Option (List Token) :=
  match s.approach with
  | none => none
  | some s' =>
    if s'.cursor.rest = [] then ((s'.unroll (-1)).dropMark).map (·.tokens.reverse)
    else
      match s'.read with
      | none => none
      | some next => if next.cursor.rest.length < s.cursor.rest.length then run next else none
termination_by s.cursor.rest.length

end Lexer

/-- The tokens of a document, unless a character or a token of it is not allowed. -/
def tokens? (document : String) : Option (List Token) :=
  if document.toList.all isAdmissible then Lexer.run { cursor := { rest := document.toList } } else none

end AskSheet.Yaml
