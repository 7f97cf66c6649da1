/-!
# Shortest decimals

A binary floating-point number stands for the interval of reals that round to it.
Among the decimals in that interval, those with the fewest digits name the number
as briefly as possible, and of those the nearest names it best.  The search is
carried out on exact fractions of naturals.
-/

namespace NativeBridge

/-- A decimal: `digits * 10 ^ power`. -/
structure Decimal where
  digits : Nat
  power : Int
deriving DecidableEq, Repr

namespace Decimal

/-- A positive binary number with its rounding interval, as fractions over one
denominator: the number itself, and how far the interval reaches down and up. -/
structure Rounding where
  numerator : Nat
  denominator : Nat
  below : Nat
  above : Nat
  /-- Whether the two ends round to the number as well. -/
  closed : Bool
deriving DecidableEq, Repr

/-- The interval of `mantissa * 2 ^ power`.  The gap below is half as wide when the
mantissa is the least one of its binade. -/
def Rounding.ofBinary (mantissa : Nat) (power : Int) (leastMantissa : Bool) : Rounding :=
  let up := Nat.pow 2 power.toNat
  let down := Nat.pow 2 (-power).toNat
  { numerator := 4 * mantissa * up
    denominator := 4 * down
    below := (if leastMantissa then 1 else 2) * up
    above := 2 * up
    closed := mantissa % 2 == 0 }

/-- The interval of the double with these bits, which must be finite, positive and
not zero. -/
def Rounding.ofBits (bits : UInt64) : Rounding :=
  let exponent : Nat := bits.toNat / Nat.pow 2 52 % Nat.pow 2 11
  let fraction : Nat := bits.toNat % Nat.pow 2 52
  if exponent = 0 then .ofBinary fraction (-1074) false
  else .ofBinary (Nat.pow 2 52 + fraction) ((exponent : Int) - 1075) (fraction == 0 && exponent > 1)

/-- The value of a decimal as a numerator over `denominator * 10 ^ (-power)`, next to
the factor that brings numerators over `denominator` to the same footing. -/
def Rounding.scaled (range : Rounding) (decimal : Decimal) : Nat × Nat :=
  (decimal.digits * Nat.pow 10 decimal.power.toNat * range.denominator,
    Nat.pow 10 (-decimal.power).toNat)

def Rounding.holds (range : Rounding) (decimal : Decimal) : Bool :=
  let (value, scale) := range.scaled decimal
  let low := (range.numerator - range.below) * scale
  let high := (range.numerator + range.above) * scale
  if range.closed then low ≤ value && value ≤ high else low < value && value < high

/-- The power of ten just above a fraction below one: the greatest `-k` with
`numerator * 10 ^ (k + 1) ≥ denominator`. -/
def powerBelowOne (denominator : Nat) : (fuel numerator : Nat) → Int
  | 0, _ => 0
  | fuel + 1, numerator =>
    if 10 * numerator ≥ denominator then 0
    else powerBelowOne denominator fuel (10 * numerator) - 1

/-- The least power of ten greater than the number. -/
def Rounding.power (range : Rounding) : Int :=
  let whole := range.numerator / range.denominator
  if whole = 0 then powerBelowOne range.denominator 400 range.numerator
  else ((Nat.toDigits 10 whole).length : Int)

/-- The number rounded down to a multiple of `10 ^ power`, as that multiple. -/
def Rounding.floorAt (range : Rounding) (power : Int) : Nat :=
  range.numerator * Nat.pow 10 (-power).toNat / (range.denominator * Nat.pow 10 power.toNat)

/-- The nearer of the two multiples of `10 ^ power` around the number that round to
it, if any does.  A tie goes to the greater. -/
def Rounding.nearestAt? (range : Rounding) (power : Int) : Option Decimal :=
  let floor := range.floorAt power
  let lower : Decimal := ⟨floor, power⟩
  let upper : Decimal := ⟨floor + 1, power⟩
  match range.holds lower, range.holds upper with
  | true, true =>
    let twice := 2 * range.numerator * Nat.pow 10 (-power).toNat
    let middle := (2 * floor + 1) * Nat.pow 10 power.toNat * range.denominator
    if twice < middle then some lower else some upper
  | true, false => some lower
  | false, true => some upper
  | false, false => none

/-- The number itself, which is a decimal because its denominator is a power of two. -/
def Rounding.exact (range : Rounding) : Decimal :=
  let places := range.denominator.log2
  ⟨range.numerator * Nat.pow 5 places, -(places : Int)⟩

/-- The first grid of multiples, from the coarsest of `fuel` on, with a decimal that
rounds to the number. -/
def Rounding.search (range : Rounding) : (fuel : Nat) → (power : Int) → Decimal
  | 0, _ => range.exact
  | fuel + 1, power => (range.nearestAt? power).getD (range.search fuel (power - 1))

/-- The shortest decimal that rounds to the number, and of those the nearest. -/
def Rounding.shortest (range : Rounding) : Decimal :=
  range.search 17 (range.power - 1)

end Decimal

end NativeBridge
