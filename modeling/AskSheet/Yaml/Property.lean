/-
  Names, tags and directives. A tag is written with a handle, for which a directive of the document gives
  the start of the tag, or in full; octets that are no URI characters are written with a percent sign. A
  zero octet ends a tag or a part of it, whatever is written after it.
-/
import AskSheet.Text.Numeral
import AskSheet.Yaml.Token

namespace AskSheet.Yaml

open Text

/-- Characters of a URI; in full tags some punctuation may stand as well. -/
def isUriChar (verbatim : Bool) (c : Char) : Bool :=
  isNameChar c || [';', '/', '?', ':', '@', '&', '=', '+', '$', '.', '!', '~', '*', '\'', '(', ')'].contains c ||
    (verbatim && (c == ',' || c == '[' || c == ']'))

/-- The number of octets that follow this one in a character of UTF-8. -/
def followers? (octet : Nat) : Option Nat :=
  if octet < 0x80 then some 0
  else if 0xC0 ≤ octet && octet < 0xE0 then some 1
  else if 0xE0 ≤ octet && octet < 0xF0 then some 2
  else if 0xF0 ≤ octet && octet < 0xF8 then some 3
  else none

/-- The octets of a URI and what follows it; `due` more octets belong to the character under way, and have
    to be written with percent signs too. -/
def uriOctets (verbatim : Bool) (due : Nat) : List Char → Option (List UInt8 × List Char)
  | '%' :: a :: b :: cs => do
    let octet ← numeral? 16 [a, b]
    let due ← if due = 0 then followers? octet
      else if 0x80 ≤ octet && octet < 0xC0 then some (due - 1) else none
    let (octets, rest) ← uriOctets verbatim due cs
    return (octet.toUInt8 :: octets, rest)
  | c :: cs =>
    if due ≠ 0 || c = '%' then none
    else if isUriChar verbatim c then
      (uriOctets verbatim 0 cs).map fun (octets, rest) => (c.toNat.toUInt8 :: octets, rest)
    else some ([], c :: cs)
  | [] => if due = 0 then some ([], []) else none

/-- The octets before the first zero. -/
def untilZero (octets : List UInt8) : List UInt8 := octets.takeWhile (· != 0)

/-- A name, which is not empty, and what follows it. -/
def name? (cs : List Char) : Option (List Char × List Char) :=
  match cs.span isNameChar with
  | ([], _) => none
  | found => some found

/-- The end of the document, or a character of this kind next. -/
def endsBefore (p : Char → Bool) (cs : List Char) : Bool := !cs.head?.any (!p ·)

/-- The name of an anchor or alias and what follows it. -/
def anchorName? (cs : List Char) : Option (List Char × List Char) := do
  let (name, rest) ← name? cs
  guard (endsBefore (fun c => isSpacing c || ['?', ':', ',', ']', '}', '%', '@', '\x60'].contains c) rest)
  return (name, rest)

/-- An exclamation mark and a name, which may be empty, with the mark after it when there is one. -/
def tagHandle? : List Char → Option (List Char × List Char)
  | '!' :: cs =>
    let (name, rest) := cs.span isNameChar
    match rest with
    | '!' :: rest => some ('!' :: name ++ ['!'], rest)
    | rest => some ('!' :: name, rest)
  | _ => none

/-- A tag and what follows it. -/
def tag? (cs : List Char) : Option (Token × List Char) := do
  let (token, rest) ← match cs with
    | '!' :: '<' :: cs => do
      let (octets, rest) ← uriOctets true 0 cs
      guard (octets != [])
      match rest with
      | '>' :: rest => some (Token.tag [] (untilZero octets), rest)
      | _ => none
    | cs => do
      let (handle, rest) ← tagHandle? cs
      let (octets, rest) ← uriOctets false 0 rest
      if 2 ≤ handle.length && handle.getLast? = some '!' then
        guard (octets != [])
        return (Token.tag handle (untilZero octets), rest)
      else
        let suffix := handle.tail.map (·.toNat.toUInt8) ++ untilZero octets
        return (if suffix = [] then Token.tag [] ['!'.toNat.toUInt8] else Token.tag ['!'] suffix, rest)
  guard (endsBefore (fun c => isSpacing c || c == ',') rest)
  return (token, rest)

/-- A number of a version and what follows it. -/
def versionNumber? (cs : List Char) : Option (Nat × List Char) := do
  let (digits, rest) := cs.span (isDigit 10)
  guard (digits.length ≤ 9)
  return (← numeral? 10 digits, rest)

/-- The directive after a percent sign and what follows it. -/
def directive? (cs : List Char) : Option (Token × List Char) := do
  let (name, rest) ← name? cs
  guard (endsBefore isSpacing rest)
  let rest := rest.dropWhile isBlank
  if name = "YAML".toList then
    let (major, rest) ← versionNumber? rest
    match rest with
    | '.' :: rest =>
      let (minor, rest) ← versionNumber? rest
      return (.version major minor, rest)
    | _ => none
  else if name = "TAG".toList then
    let (handle, rest) ← tagHandle? rest
    guard (handle = ['!'] || handle.getLast? = some '!')
    guard (rest.head?.any isBlank)
    let (octets, rest) ← uriOctets true 0 (rest.dropWhile isBlank)
    guard (octets != [])
    guard (endsBefore isSpacing rest)
    return (.tagHandle handle (untilZero octets), rest)
  else none

end AskSheet.Yaml
