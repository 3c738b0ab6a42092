/-
  Character classes of YAML. A line break is one of five characters; blanks are the space and the tab; a
  document may hold only admissible characters, and a written scalar shows only printable ones as they are.
-/

namespace AskSheet.Yaml

/-- Line feed, carriage return, next line, line separator or paragraph separator. -/
def isBreak (c : Char) : Bool :=
  c == '\n' || c == '\r' || c == '\u0085' || c == '\u2028' || c == '\u2029'

/-- Space or tab. -/
def isBlank (c : Char) : Bool := c == ' ' || c == '\t'

/-- Blank or line break. -/
def isSpacing (c : Char) : Bool := isBlank c || isBreak c

/-- What a document may hold: no control character but tab, line feed, carriage return and next line. -/
def isAdmissible (c : Char) : Bool :=
  c == '\t' || c == '\n' || c == '\r' || (0x20 ≤ c.val && c.val ≤ 0x7E) || c.val == 0x85 ||
    (0xA0 ≤ c.val && c.val ≤ 0xFFFD) || 0x10000 ≤ c.val

/-- What a scalar shows without an escape. -/
def isPrintable (c : Char) : Bool :=
  c == '\n' || (0x20 ≤ c.val && c.val ≤ 0x7E) ||
    (0xA0 ≤ c.val && c.val ≤ 0xFFFD && c.val != 0xFEFF) || 0x10000 ≤ c.val

/-- What the name of an anchor, a directive or a tag handle is made of. -/
def isNameChar (c : Char) : Bool := c.isAlphanum || c == '_' || c == '-'

/-- Characters that mean something at the start of a plain scalar. -/
def isIndicator (c : Char) : Bool :=
  ['#', ',', '[', ']', '{', '}', '&', '*', '!', '|', '>', '\'', '"', '%', '@', '\x60'].contains c

/-- The end of the text or spacing. -/
def atSpacing : List Char → Bool
  | [] => true
  | c :: _ => isSpacing c

theorem isAdmissible_of_isPrintable {c : Char} (h : isPrintable c = true) : isAdmissible c = true := by
  simp only [isPrintable, isAdmissible, Bool.or_eq_true, Bool.and_eq_true] at h ⊢
  grind

end AskSheet.Yaml
