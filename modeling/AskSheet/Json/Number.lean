/-
  Numbers of JSON. A numeral without fraction and exponent is an integer while it fits 64 bits; every other
  one is a magnitude with a sign. A magnitude is got from the first digits that fit 64 bits by one division
  or multiplication with a power of ten, so it need not be the nearest one.
-/
import AskSheet.Floating.Shortest
import AskSheet.Text.Numeral

namespace AskSheet.Json

open Text Floating

/-- A numeral: its sign, the digits before and after the point, and the exponent with its sign. -/
structure Numeral where
  negative : Bool
  whole : List Char
  fraction : Option (List Char)
  exponent : Option (Bool × List Char)
  deriving DecidableEq, Repr

/-- A number: an integer, or a magnitude with a sign. -/
inductive Number where
  | integer (n : Int)
  | double (negative : Bool) (magnitude : Binary)
  deriving DecidableEq, Repr

/-- The greatest significand. -/
def maxSignificand : Nat := Nat.pow 2 64 - 1

/-- Appends digits to a significand while it stays in range: the significand and the digits left over. -/
def appendDigits (significand : Nat) : List Char → Nat × List Char
  | [] => (significand, [])
  | c :: cs =>
    let next := significand * 10 + (digit? 10 c).getD 0
    if next ≤ maxSignificand then appendDigits next cs else (significand, c :: cs)

/-- The greatest power of ten that is divided or multiplied by at once. -/
def maxPower : Nat := 308

/-- The magnitude next to a power of ten. -/
def power? (n : Nat) : Option Binary := Binary.ofRatio? (Nat.pow 10 n) 1

theorem maxPower_pos : 0 < maxPower := by decide

/-- The magnitude divided by a power of ten, in steps of the greatest power. -/
def divideBy (b : Binary) (n : Nat) : Option Binary :=
  if n ≤ maxPower then (power? n).bind b.div?
  else if b.mantissa = 0 then some b
  else
    ((power? maxPower).bind b.div?).bind fun b => divideBy b (n - maxPower)
termination_by n
decreasing_by
  have hmax : maxPower < n := Nat.lt_of_not_le ‹¬ n ≤ maxPower›
  exact Nat.sub_lt (Nat.zero_lt_of_lt hmax) maxPower_pos

/-- The magnitude of a significand times a power of ten. -/
def magnitude? (significand : Nat) (exponent : Int) : Option Binary := do
  let b ← Binary.ofRatio? significand 1
  if exponent < 0 then divideBy b (-exponent).toNat
  else if exponent.toNat ≤ maxPower then b.mul? (← power? exponent.toNat)
  else if significand = 0 then some b
  else none

/-- The power of ten that an exponent adds, none where it is too large for the significand; an exponent out
    of 32 bits leaves zero of any significand that it makes smaller. -/
def exponentOf? (significand : Nat) : Option (Bool × List Char) → Option (Nat × Int)
  | none => some (significand, 0)
  | some (negative, digits) =>
    let e := ofDigits 10 0 digits
    if e < Nat.pow 2 31 then some (significand, if negative then -e else e)
    else if significand = 0 || negative then some (0, 0)
    else none

/-- The number that a numeral denotes, none where it is out of range. -/
def Numeral.number? (n : Numeral) : Option Number := do
  let (significand, dropped) := appendDigits 0 n.whole
  if dropped = [] && n.fraction = none && n.exponent = none &&
      (!n.negative || (significand ≠ 0 && significand ≤ Nat.pow 2 63)) then
    return Number.integer (if n.negative then -significand else significand)
  else
    let fraction := n.fraction.getD []
    let (significand, rest) := appendDigits significand fraction
    let shift : Int := dropped.length - (fraction.length - rest.length : Nat)
    let (significand, e) ← exponentOf? significand n.exponent
    return Number.double n.negative (← magnitude? significand (shift + e))

/-- The least and greatest exponent of a number that is written without one. -/
def plainExponents : Int × Int := (-5, 15)

/-- The digits of a decimal that is not zero: positional with a digit on both sides of the point, or with
    one digit before the point and the exponent after an `e`. -/
def decimalText (d : Decimal) : String :=
  let digits := Nat.toDigits 10 d.digits
  let exponent := d.exponent + digits.length - 1
  if plainExponents.1 ≤ exponent && exponent ≤ plainExponents.2 then
    if exponent < 0 then
      "0." ++ String.ofList (List.replicate (-exponent - 1).toNat '0' ++ digits)
    else
      let whole := exponent.toNat + 1
      let fraction := digits.drop whole
      String.ofList (digits.take whole ++ List.replicate (whole - digits.length) '0') ++ "." ++
        (if fraction = [] then "0" else String.ofList fraction)
  else
    String.ofList (digits.take 1) ++
      (if digits.length ≤ 1 then "" else "." ++ String.ofList (digits.drop 1)) ++
      (if exponent < 0 then "e-" else "e+") ++ decimal exponent.natAbs

/-- The number as it is written. -/
def Number.text : Number → String
  | .integer n => if n < 0 then "-" ++ decimal n.natAbs else decimal n.natAbs
  | .double negative b =>
    (if negative then "-" else "") ++ if b.mantissa = 0 then "0.0" else decimalText (shortest b)

end AskSheet.Json
