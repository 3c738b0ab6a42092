/-
  Numerals: digits of a base up to 36, most significant first, and the number that they denote.
-/

namespace AskSheet.Text

/-- The value of a digit or letter: `0` to `9`, then `a` to `z` in either case. -/
def digitValue? (c : Char) : Option Nat :=
  if '0' ≤ c && c ≤ '9' then some (c.toNat - '0'.toNat)
  else if 'a' ≤ c && c ≤ 'z' then some (c.toNat - 'a'.toNat + 10)
  else if 'A' ≤ c && c ≤ 'Z' then some (c.toNat - 'A'.toNat + 10)
  else none

/-- The value of a digit of this base. -/
def digit? (base : Nat) (c : Char) : Option Nat :=
  (digitValue? c).filter (· < base)

def isDigit (base : Nat) (c : Char) : Bool := (digit? base c).isSome

/-- The number that the digits denote when `acc` stands before them. -/
def ofDigits (base acc : Nat) : List Char → Nat
  | [] => acc
  | c :: cs => ofDigits base (acc * base + (digit? base c).getD 0) cs

/-- The number that a text of at least one digit, and nothing else, denotes. -/
def numeral? (base : Nat) (cs : List Char) : Option Nat :=
  if cs != [] && cs.all (isDigit base) then some (ofDigits base 0 cs) else none

/-- A number in decimal digits without leading zeros. -/
def decimal (n : Nat) : String := String.ofList (Nat.toDigits 10 n)

/-- A number in digits of the base with zeros in front up to the width. -/
def padded (base width n : Nat) : List Char :=
  let ds := Nat.toDigits base n
  List.replicate (width - ds.length) '0' ++ ds

end AskSheet.Text
