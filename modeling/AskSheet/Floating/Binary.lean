/-
  Binary floating-point magnitudes with 53 bits of mantissa and the range of a double. Every operation takes
  the exact result and rounds it to the nearest magnitude, a half to the even one; a result that is too
  large is none.
-/

namespace AskSheet.Floating

/-- The magnitude `mantissa * 2 ^ exponent`. -/
structure Binary where
  mantissa : Nat
  exponent : Int
  deriving DecidableEq, Repr, Inhabited

/-- A quotient rounded to the nearest integer, a half to the even one. -/
def roundDiv (num den : Nat) : Nat :=
  let q := num / den
  let r := num % den
  if den < 2 * r || (2 * r == den && q % 2 == 1) then q + 1 else q

/-- Numerator and denominator of `num / den * base ^ e`. -/
def scale (base : Nat) (num den : Nat) (e : Int) : Nat × Nat :=
  if 0 ≤ e then (num * Nat.pow base e.toNat, den) else (num, den * Nat.pow base (-e).toNat)

/-- The exponent of the power of two at or next below a quotient that is not zero. -/
def binaryExponent (num den : Nat) : Int :=
  let e : Int := (num.log2 : Int) - den.log2
  let (n, d) := scale 2 num den (-e)
  if d ≤ n then e else e - 1

namespace Binary

/-- The least exponent of a magnitude. -/
def minExponent : Int := -1074

/-- The greatest exponent of a magnitude. -/
def maxExponent : Int := 971

def zero : Binary := ⟨0, minExponent⟩

/-- The magnitude next to a quotient. -/
def ofRatio? (num den : Nat) : Option Binary :=
  if num = 0 then some zero
  else
    let e := max minExponent (binaryExponent num den - 52)
    let (n, d) := scale 2 num den (-e)
    let m := roundDiv n d
    let b : Binary := if m = Nat.pow 2 53 then ⟨Nat.pow 2 52, e + 1⟩ else ⟨m, e⟩
    if maxExponent < b.exponent then none else some b

/-- Numerator and denominator of the magnitude. -/
def ratio (b : Binary) : Nat × Nat := scale 2 b.mantissa 1 b.exponent

def mul? (a b : Binary) : Option Binary :=
  let (n, d) := scale 2 (a.mantissa * b.mantissa) 1 (a.exponent + b.exponent)
  ofRatio? n d

/-- The quotient of two magnitudes, of which the second is not zero. -/
def div? (a b : Binary) : Option Binary :=
  let (n, d) := scale 2 a.mantissa b.mantissa (a.exponent - b.exponent)
  ofRatio? n d

end Binary

end AskSheet.Floating
