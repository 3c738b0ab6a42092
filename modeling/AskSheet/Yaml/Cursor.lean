/-
  A place in a document: the characters from there on, how many bytes stand before it, and its line and
  column, of which the column counts characters. A carriage return with a line feed after it is one break
  of two characters.
-/
import AskSheet.Text.Basic
import AskSheet.Yaml.Char

namespace AskSheet.Yaml

open Text (byteLength)

/-- A place in a document. All counts start at zero. -/
structure Cursor where
  rest : List Char
  index : Nat := 0
  line : Nat := 0
  column : Nat := 0
  deriving DecidableEq, Repr

namespace Cursor

/-- The place `n` characters further on in the same line. -/
def drop (c : Cursor) (n : Nat) : Cursor :=
  { c with rest := c.rest.drop n, index := c.index + byteLength (c.rest.take n),
           column := c.column + n }

/-- The place in the same line from which on these characters are left. -/
def moveTo (c : Cursor) (rest : List Char) : Cursor := c.drop (c.rest.length - rest.length)

/-- The characters up to the first one that is not in the class, and the place after them. -/
def takeWhile (c : Cursor) (p : Char → Bool) : List Char × Cursor :=
  let taken := c.rest.takeWhile p
  (taken, { c with rest := c.rest.dropWhile p, index := c.index + byteLength taken,
                   column := c.column + taken.length })

/-- The place after the characters of a class. -/
def skipWhile (c : Cursor) (p : Char → Bool) : Cursor := (c.takeWhile p).2

/-- What the break at this place stands for, none when there is no break, and the place after it. -/
def takeBreak (c : Cursor) : List Char × Cursor :=
  match c.rest with
  | '\r' :: '\n' :: cs => (['\n'], { rest := cs, index := c.index + 2, line := c.line + 1 })
  | b :: cs =>
    if isBreak b then
      ([if b == '\u2028' || b == '\u2029' then b else '\n'],
        { rest := cs, index := c.index + b.utf8Size, line := c.line + 1 })
    else ([], c)
  | [] => ([], c)

/-- The next character is in the class. -/
def sees (c : Cursor) (p : Char → Bool) : Bool := c.rest.head?.any p

/-- The next characters are these. -/
def seesText (c : Cursor) (s : String) : Bool := s.toList.isPrefixOf c.rest

/-- Spacing or the end of the document comes after `n` more characters. -/
def endsAfter (c : Cursor) (n : Nat) : Bool := !(c.rest.drop n).head?.any fun d => !isSpacing d

/-- The marker of a document's start or end stands here. -/
def seesMarker (c : Cursor) : Bool :=
  c.column == 0 && (c.seesText "---" || c.seesText "...") && c.endsAfter 3

/-- The place after a byte order mark at the start of a line. -/
def skipMark (c : Cursor) : Cursor :=
  if c.column = 0 && c.sees (· == '\ufeff') then c.drop 1 else c

/-- The place after a comment. -/
def skipComment (c : Cursor) : Cursor :=
  if c.sees (· == '#') then c.skipWhile (!isBreak ·) else c

/-- The place of the next token of a line, or of the end of the line. -/
def skipInLine (c : Cursor) (tabs : Bool) : Cursor :=
  (c.skipMark.skipWhile fun d => d == ' ' || (tabs && d == '\t')).skipComment

theorem length_skipWhile_le (c : Cursor) (p : Char → Bool) :
    (c.skipWhile p).rest.length ≤ c.rest.length := by
  simpa [skipWhile, takeWhile] using (List.dropWhile_sublist p).length_le

theorem length_skipInLine_le (c : Cursor) (tabs : Bool) :
    (c.skipInLine tabs).rest.length ≤ c.rest.length := by
  have h1 : c.skipMark.rest.length ≤ c.rest.length := by
    unfold skipMark; split <;> simp [drop]
  have h2 (d : Cursor) : d.skipComment.rest.length ≤ d.rest.length := by
    unfold skipComment; split
    · exact length_skipWhile_le _ _
    · exact Nat.le_refl _
  exact Nat.le_trans (h2 _) (Nat.le_trans (length_skipWhile_le _ _) h1)

theorem length_takeBreak_lt {c : Cursor} (h : c.sees isBreak = true) :
    c.takeBreak.2.rest.length < c.rest.length := by
  unfold takeBreak
  split
  · rename_i cs hc
    rw [hc, List.length_cons, List.length_cons]
    show cs.length < cs.length + 1 + 1
    omega
  · rename_i b cs _ hc
    have : isBreak b = true := by simpa [sees, hc] using h
    simp [this, hc]
  · rename_i hc
    simp [sees, hc] at h

end Cursor

end AskSheet.Yaml
