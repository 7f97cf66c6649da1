import NativeBridge.Conversion.Codec

/-!
# Defaults of optional parameters

A default is declared as an expression and evaluated once, when the member is bound.
The value then stands for the argument that a call leaves out.
-/

namespace NativeBridge

/-- The default declared for an optional parameter. -/
inductive Default where
  | nil
  | bool (truth : Bool)
  | int (number : Int64)
  /-- An unsigned number, which may be too great for a script integer. -/
  | unsigned (number : IntegerType.Number .u64)
  | char (letter : Char)
  | float (number : Float)
  | text (content : String)
  /-- A float given as a fraction. -/
  | ratio (numerator denominator : Int64)

inductive DefaultFault where
  | exceedsScriptInteger (number : Nat)
  | zeroDenominator
  | conversion (cause : ConversionError)

def DefaultFault.message : DefaultFault → String
  | exceedsScriptInteger number => toString number ++ " exceeds the script integer range"
  | zeroDenominator => "zero denominator"
  | conversion cause => cause.message

namespace Default

def evaluate : Default → Except DefaultFault Value
  | nil => .ok .nil
  | bool truth => .ok (.bool truth)
  | int number => .ok (.int number)
  | unsigned number =>
    if number.val ≤ IntegerType.greatest .i64 then .ok (.int (Int64.ofInt number.val))
    else .error (.exceedsScriptInteger number.val.toNat)
  | char letter => .ok (.text (String.singleton letter))
  | float number => .ok (.float number)
  | text content => .ok (.text content)
  | ratio numerator denominator =>
    if denominator = 0 then .error .zeroDenominator
    else .ok (.float (Float.ofInt numerator.toInt / Float.ofInt denominator.toInt))

/-- A native integer as a default.  Only the unsigned 64-bit types may exceed the
script integers. -/
def ofInteger : (type : IntegerType) → type.Number → Default
  | .u64, number => .unsigned number
  | .usize, number => .unsigned ⟨number.val, number.property⟩
  | _, number => .int (Int64.ofInt number.val)

/-- Native data as a default, for the types whose data can be one. -/
def ofData? {family : ClassFamily} : (type : NativeType family.Class) → type.Data family →
    Option Default
  | .bool, truth => some (.bool truth)
  | .integer type, number => some (ofInteger type number)
  | .single, number => some (.float number.toFloat)
  | .double, number => some (.float number)
  | .char, letter => some (.char letter)
  | .string, content => some (.text content)
  | .staticText, content => some (.text content)
  | _, _ => none

end Default

end NativeBridge
