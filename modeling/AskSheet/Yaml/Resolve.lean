/-
  Plain scalars that mean something other than their text: null, a boolean, an integer or a number. A text
  that reads as one of these is written in quotes (`isAmbiguous`), so that it stays a text.
-/
import AskSheet.Text.Numeral

namespace AskSheet.Yaml

open Text

/-- The words for null. -/
def isNullWord (s : String) : Bool := ["null", "Null", "NULL", "~"].contains s

/-- The words for the truth values. -/
def truthValue? (s : String) : Option Bool :=
  if ["true", "True", "TRUE"].contains s then some true
  else if ["false", "False", "FALSE"].contains s then some false
  else none

/-- Removes one leading sign out of the given ones. -/
def dropSign (signs : List Char) : List Char → List Char
  | [] => []
  | c :: cs => if signs.contains c then cs else c :: cs

/-- The digits after `0x`, `0o` or `0b`, with the base. -/
def radixDigits? : List Char → Option (Nat × List Char)
  | '0' :: 'x' :: ds => some (16, ds)
  | '0' :: 'o' :: ds => some (8, ds)
  | '0' :: 'b' :: ds => some (2, ds)
  | _ => none

/-- A zero with more digits after it, perhaps behind a sign: a text, but one that looks like a number. -/
def isZeroLed (cs : List Char) : Bool :=
  match dropSign ['-', '+'] cs with
  | '0' :: d :: ds => (d :: ds).all (isDigit 10)
  | _ => false

/-- An integer of at most 128 bits in base 16, 8 or 2. -/
def isRadixInteger (cs : List Char) : Bool :=
  match cs with
  | '-' :: cs => fits (radixDigits? cs) (Nat.pow 2 127)
  | cs => fits (radixDigits? (dropSign ['+'] cs)) (Nat.pow 2 128 - 1)
where
  fits (digits : Option (Nat × List Char)) (bound : Nat) : Bool :=
    match digits.bind fun (base, ds) => numeral? base ds with
    | some n => n ≤ bound
    | none => false

/-- The parts of a decimal number: its digits with the point left out, and the power of ten to go with
    them. -/
def decimalParts? (cs : List Char) : Option (List Char × Int) := do
  let (whole, rest) := cs.span (isDigit 10)
  let (fraction, rest) := match rest with
    | '.' :: rest => rest.span (isDigit 10)
    | rest => ([], rest)
  let digits := whole ++ fraction
  guard (digits != [])
  let shift : Int := match rest with
    | [] => 0
    | _ :: '-' :: ds => -(ofDigits 10 0 ds : Nat)
    | _ :: ds => ofDigits 10 0 (dropSign ['+'] ds)
  let exponent := match rest with
    | [] => ['0']
    | 'e' :: ds => dropSign ['-', '+'] ds
    | 'E' :: ds => dropSign ['-', '+'] ds
    | _ => []
  guard (exponent != [] && exponent.all (isDigit 10))
  return (digits, shift - fraction.length)

/-- Whether the number `digits · 10 ^ shift` is below the bound from which on a double is infinite. -/
def isFinite (digits : List Char) (shift : Int) : Bool :=
  let significant := digits.dropWhile (· == '0')
  let magnitude := significant.length + shift
  significant == [] || magnitude < 309 ||
    (magnitude == 309 &&
      ofDigits 10 0 significant * Nat.pow 10 shift.toNat <
        (Nat.pow 2 1024 - Nat.pow 2 970) * Nat.pow 10 (-shift).toNat)

/-- A decimal number that a double can hold, or one of the words for infinity and for no number. -/
def isNumber (cs : List Char) : Bool :=
  let unsigned := dropSign ['-', '+'] cs
  [".inf", ".Inf", ".INF"].contains (String.ofList unsigned) ||
    [".nan", ".NaN", ".NAN"].contains (String.ofList cs) ||
    match decimalParts? unsigned with
    | some (digits, shift) => isFinite digits shift
    | none => false

/-- A text that would not be read as a text, or looks like a number, when written plain. -/
def isAmbiguous (s : String) : Bool :=
  s == "" || isNullWord s || (truthValue? s).isSome || isZeroLed s.toList || isRadixInteger s.toList ||
    isNumber s.toList

end AskSheet.Yaml
