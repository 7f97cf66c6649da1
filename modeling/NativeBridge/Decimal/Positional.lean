import NativeBridge.Decimal.Shortest

/-!
# Positional notation of floating-point numbers

A float is written with the fewest digits that identify it and never with an
exponent, so large and small magnitudes are padded with zeros.  A whole number has
no point.  Zero keeps its sign.
-/

namespace NativeBridge

namespace Decimal

/-- The digits of a decimal with the point, or the zeros, that its power asks for.
Zeros that end the digits are dropped behind the point. -/
def positionalChars (digits : List Char) (power : Int) : List Char :=
  if 0 ≤ power then digits ++ List.replicate power.toNat '0'
  else
    let places := (-power).toNat
    let padded := List.replicate (places + 1 - digits.length) '0' ++ digits
    let whole := padded.take (padded.length - places)
    let part := padded.drop (padded.length - places)
    let kept := (part.reverse.dropWhile (· == '0')).reverse
    if kept.isEmpty then whole else whole ++ '.' :: kept

def positional (decimal : Decimal) : String :=
  String.ofList (positionalChars (Nat.toDigits 10 decimal.digits) decimal.power)

def floatText (number : Float) : String :=
  if number.isNaN then "NaN"
  else
    let bits := number.toBits
    let sign := if bits.toNat / Nat.pow 2 63 = 1 then "-" else ""
    let magnitude := bits.toNat % Nat.pow 2 63
    if !number.isFinite then sign ++ "inf"
    else if magnitude = 0 then sign ++ "0"
    else sign ++ (Rounding.ofBits magnitude.toUInt64).shortest.positional

end Decimal

end NativeBridge
