/-!
# Hexadecimal numerals

Numbers written in base sixteen with lower-case digits: with as many digits as
they need, or with a fixed number of them.
-/

namespace NativeBridge.Text

/-- The lower-case digit of a number below sixteen. -/
def hexDigit (digit : Nat) : Char :=
  if digit < 10 then Char.ofNat (48 + digit) else Char.ofNat (87 + digit)

/-- The `width` lowest hexadecimal digits of a number, the most significant first. -/
def fixedHexDigits : (width : Nat) → Nat → List Char
  | 0, _ => []
  | width + 1, number => fixedHexDigits width (number / 16) ++ [hexDigit (number % 16)]

/-- The `width` lowest hexadecimal digits of a number, as text. -/
def fixedHex (width number : Nat) : String :=
  String.ofList (fixedHexDigits width number)

/-- How many hexadecimal digits a number needs; zero needs one. -/
def hexWidth (number : Nat) : Nat :=
  number.log2 / 4 + 1

/-- A number in hexadecimal, without leading zeros. -/
def hex (number : Nat) : String :=
  fixedHex (hexWidth number) number

end NativeBridge.Text
