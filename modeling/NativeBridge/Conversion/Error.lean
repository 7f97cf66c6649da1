import NativeBridge.Value
import NativeBridge.Native.Integer

/-!
# Conversion errors

Why a single value could not cross the boundary, in either direction.
-/

namespace NativeBridge

/-- The failure of one conversion. -/
inductive ConversionError where
  /-- The value is of another kind than the type asks for. -/
  | typeMismatch (expected actual : String)
  /-- A script integer lies outside the native type. -/
  | integerOverflow (number : Int64) (target : IntegerType)
  /-- A native unsigned integer lies outside the script integers. -/
  | unsignedOverflow (number : Nat)
  /-- A finite float lies outside the single-precision range. -/
  | floatConversion (number : Float)
  /-- A text for a zero-terminated buffer holds a zero byte. -/
  | interiorZero (position : Nat)
  | invalidText
  /-- A text does not hold exactly one character. -/
  | notOneCharacter (length : Nat)
  | invalidInstance (expected actual : String)
  | staleInstance (index : UInt32)
  /-- Nil stands where an instance is needed. -/
  | nullInstance (target : String)

namespace ConversionError

def name : ConversionError → String
  | typeMismatch .. => "TypeMismatch"
  | integerOverflow .. => "IntegerOverflow"
  | unsignedOverflow .. => "UnsignedOverflow"
  | floatConversion .. => "FloatConversion"
  | interiorZero .. => "InteriorNul"
  | invalidText => "InvalidUtf8"
  | notOneCharacter .. => "NotAChar"
  | invalidInstance .. => "InvalidInstance"
  | staleInstance .. => "StaleInstance"
  | nullInstance .. => "NullInstance"

def message : ConversionError → String
  | typeMismatch expected actual =>
    "type mismatch: expected " ++ expected ++ ", got " ++ actual
  | integerOverflow number target =>
    "integer overflow: value " ++ toString number.toInt ++ " does not fit in " ++ target.nativeName
  | unsignedOverflow number =>
    "integer overflow: value " ++ toString number ++ " does not fit in a script integer"
  | floatConversion number =>
    "float conversion error: value " ++ Decimal.floatText number
      ++ " cannot be represented as f32"
  | interiorZero position =>
    "string contains an interior NUL byte at offset " ++ toString position
  | invalidText => "invalid UTF-8 string data"
  | notOneCharacter length =>
    "expected a single character, got a string of " ++ toString length ++ " characters"
  | invalidInstance expected actual =>
    "invalid instance: expected " ++ expected ++ ", got " ++ actual
  | staleInstance index =>
    "stale instance handle: instance at index " ++ toString index.toNat ++ " has been finalized"
  | nullInstance target => "nil cannot be converted to " ++ target

/-- Whether the failure is about which instance was given, not about the shape of a
value. -/
def isAboutInstance : ConversionError → Bool
  | invalidInstance .. | staleInstance .. | nullInstance .. => true
  | _ => false

end ConversionError

end NativeBridge
