/-
  String literals of JSON. A character is written as itself, after a backslash, or by its UTF-16 units; two
  units that belong together stand for one character, and a unit without its partner for none.
-/
import AskSheet.Text.Numeral

namespace AskSheet.Json

open Text

/-- What a literal is made of: a character, or a unit of UTF-16. -/
inductive Unit where
  | char (c : Char)
  | code (n : Nat)
  deriving DecidableEq, Repr

/-- What a letter after a backslash stands for. -/
def escaped? (c : Char) : Option Char :=
  match c with
  | '"' => some '"' | '\\' => some '\\' | '/' => some '/' | 'b' => some '\x08' | 'f' => some '\x0c'
  | 'n' => some '\n' | 'r' => some '\r' | 't' => some '\t' | _ => none

/-- The units up to the closing quote and what follows it. Control characters have to be escaped. -/
def units? : List Char → Option (List Unit × List Char)
  | [] => none
  | '"' :: cs => some ([], cs)
  | '\\' :: 'u' :: a :: b :: c :: d :: cs => do
    let n ← numeral? 16 [a, b, c, d]
    let (us, rest) ← units? cs
    return (.code n :: us, rest)
  | '\\' :: e :: cs => do
    let c ← escaped? e
    let (us, rest) ← units? cs
    return (.char c :: us, rest)
  | c :: cs =>
    if c = '\\' || c.val < 0x20 then none
    else (units? cs).map fun (us, rest) => (.char c :: us, rest)

def isHighSurrogate (n : Nat) : Bool := 0xD800 ≤ n && n ≤ 0xDBFF

def isLowSurrogate (n : Nat) : Bool := 0xDC00 ≤ n && n ≤ 0xDFFF

/-- The characters that the units stand for, none where a unit lacks its partner. -/
def decodeUnits : List Unit → Option (List Char)
  | [] => some []
  | .char c :: us => (decodeUnits us).map (c :: ·)
  | .code h :: .code l :: us =>
    if isHighSurrogate h then
      if isLowSurrogate l then
        (decodeUnits us).map (Char.ofNat (0x10000 + (h - 0xD800) * 0x400 + (l - 0xDC00)) :: ·)
      else none
    else if isLowSurrogate h then none
    else (decodeUnits (.code l :: us)).map (Char.ofNat h :: ·)
  | .code n :: us =>
    if isHighSurrogate n || isLowSurrogate n then none else (decodeUnits us).map (Char.ofNat n :: ·)

/-- The text of a literal from after its opening quote, none where it is no text, and what follows it. -/
def literal? (cs : List Char) : Option (Option String × List Char) :=
  (units? cs).map fun (us, rest) => ((decodeUnits us).map String.ofList, rest)

/-- A character in a literal: quotes, backslashes and control characters are escaped. -/
def quoteChar (c : Char) : List Char :=
  match c with
  | '"' => ['\\', '"']
  | '\\' => ['\\', '\\']
  | '\n' => ['\\', 'n']
  | '\r' => ['\\', 'r']
  | '\t' => ['\\', 't']
  | '\x08' => ['\\', 'b']
  | '\x0c' => ['\\', 'f']
  | c => if c.val < 0x20 then '\\' :: 'u' :: padded 16 4 c.toNat else [c]

/-- The literal of a text. -/
def quote (s : String) : String := String.ofList ('"' :: s.toList.flatMap quoteChar ++ ['"'])

end AskSheet.Json
