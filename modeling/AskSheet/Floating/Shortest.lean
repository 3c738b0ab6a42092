/-
  The shortest decimal of a magnitude: the fewest digits that are read back as this magnitude, and of those
  the ones next to it. `shortest` tries one digit, then two and so on; on each grid of decimals only the two
  neighbours of the magnitude can be the nearest.
-/
import AskSheet.Floating.Binary

namespace AskSheet.Floating

/-- The decimal number `digits * 10 ^ exponent`. -/
structure Decimal where
  digits : Nat
  exponent : Int
  deriving DecidableEq, Repr, Inhabited

/-- The decimals that are read back as a magnitude lie between these quotients, which have one denominator;
    they belong to it when `closed`. -/
structure Interval where
  low : Nat
  high : Nat
  den : Nat
  closed : Bool

/-- The interval of a magnitude. Below a power of two the next magnitude is only half as far away. -/
def Binary.interval (b : Binary) : Interval :=
  let step := if b.mantissa = Nat.pow 2 52 && Binary.minExponent < b.exponent then 1 else 2
  let (low, den) := scale 2 (4 * b.mantissa - step) 4 b.exponent
  let (high, _) := scale 2 (4 * b.mantissa + 2) 4 b.exponent
  { low, high, den, closed := b.mantissa % 2 == 0 }

/-- The decimal lies in the interval. -/
def Interval.contains (i : Interval) (d : Decimal) : Bool :=
  let (n, m) := scale 10 d.digits 1 d.exponent
  let x := n * i.den
  if i.closed then i.low * m ≤ x && x ≤ i.high * m else i.low * m < x && x < i.high * m

/-- How far the decimal is from the quotient, in units of `1 / (den * m)` with `m` the decimal's own
    denominator. -/
def distance (num den : Nat) (d : Decimal) : Nat :=
  let (n, m) := scale 10 d.digits 1 d.exponent
  (n * den - num * m) + (num * m - n * den)

/-- The decimal with exponent `e` next to the magnitude, if one is read back as it. -/
def nearestOn? (b : Binary) (e : Int) : Option Decimal :=
  let (num, den) := b.ratio
  let (n, d) := scale 10 num den (-e)
  let below : Decimal := ⟨n / d, e⟩
  let above : Decimal := ⟨n / d + 1, e⟩
  let i := b.interval
  match i.contains below, i.contains above with
  | false, false => none
  | true, false => some below
  | false, true => some above
  | true, true =>
    let x := distance num den below
    let y := distance num den above
    some (if x < y || (x == y && below.digits % 2 == 0) then below else above)

/-- The number of decimal digits of a number. -/
def digitCount (n : Nat) : Nat := (Nat.toDigits 10 n).length

/-- The exponent of the power of ten at or next below a quotient that is not zero, give or take one. -/
def decimalExponent (num den : Nat) : Int := (digitCount num : Int) - digitCount den

/-- The first decimal found on finer and finer grids, the last of which always holds one. -/
def search (b : Binary) (e : Int) : Nat → Decimal
  | 0 => ⟨0, 0⟩
  | fuel + 1 =>
    match nearestOn? b e with
    | some d => d
    | none => search b (e - 1) fuel

/-- The decimal without zeros at the end. -/
def Decimal.strip (d : Decimal) : Nat → Decimal
  | 0 => d
  | fuel + 1 =>
    if d.digits % 10 = 0 && d.digits ≠ 0 then Decimal.strip ⟨d.digits / 10, d.exponent + 1⟩ fuel else d

/-- The shortest decimal that is read back as a magnitude which is not zero. The coarsest grid that can
    hold it has steps of the power of ten above the magnitude, and twenty finer ones suffice. -/
def shortest (b : Binary) : Decimal :=
  let (num, den) := b.ratio
  (search b (decimalExponent num den + 1) 24).strip 24

end AskSheet.Floating
