import NativeBridge.Arena

/-!
# Conversions between script values and native data

Decoding reads a script value as native data of a readable type, and encoding
writes native data as a script value.  Integers are never cut to fit.  A class
instance is decoded as a copy of what the arena holds, and encoded as a new instance
of its own.
-/

namespace NativeBridge

variable {family : ClassFamily}

/-- The greatest single-precision number, as a double. -/
def greatestSingle : Float :=
  Float.ofBits 0x47efffffe0000000

/-- A double as the nearest single.  A finite double outside the range of singles has
none. -/
def singleOfDouble (number : Float) : Except ConversionError Float32 :=
  if !number.isFinite || (number ≤ greatestSingle && -greatestSingle ≤ number) then
    .ok number.toFloat32
  else .error (.floatConversion number)

def onlyCharacter (content : String) : Except ConversionError Char :=
  match content.toList with
  | [char] => .ok char
  | chars => .error (.notOneCharacter chars.length)

/-- The bytes of a text, which must hold no zero byte. -/
def terminated (content : String) : Except ConversionError CText :=
  let bytes := content.toUTF8.toList
  if noZero : 0 ∉ bytes then .ok ⟨bytes, noZero⟩
  else .error (.interiorZero (bytes.idxOf 0))

def textOfBytes (bytes : List UInt8) : Except ConversionError String :=
  match String.fromUTF8? (ByteArray.mk bytes.toArray) with
  | some content => .ok content
  | none => .error .invalidText

/-- The error of a value whose kind does not suit the type called `expected`. -/
def mismatch (expected : String) (value : Value) : ConversionError :=
  .typeMismatch expected value.kindName

def decodeBool : Value → Except ConversionError Bool
  | .bool truth => .ok truth
  | other => .error (mismatch "bool" other)

def decodeInteger (type : IntegerType) : Value → Except ConversionError type.Number
  | .int number =>
    match type.number? number.toInt with
    | some native => .ok native
    | none => .error (.integerOverflow number type)
  | other => .error (mismatch type.scriptName other)

/-- Reads a float in single precision.  An integer is rounded once. -/
def decodeSingle : Value → Except ConversionError Float32
  | .float number => singleOfDouble number
  | .int number => .ok (Float32.ofInt number.toInt)
  | other => .error (mismatch "float" other)

/-- Reads a float in double precision.  An integer is rounded to the nearest one. -/
def decodeDouble : Value → Except ConversionError Float
  | .float number => .ok number
  | .int number => .ok (Float.ofInt number.toInt)
  | other => .error (mismatch "double" other)

def decodeChar : Value → Except ConversionError Char
  | .text content => onlyCharacter content
  | other => .error (mismatch "char" other)

def decodeString : Value → Except ConversionError String
  | .text content => .ok content
  | other => .error (mismatch "string" other)

def decodeCString : Value → Except ConversionError CText
  | .text content => terminated content
  | other => .error (mismatch "cstring" other)

/-- Reads a script value as native data.  Nil is no data for an option, whatever the
option may hold. -/
def decode (arena : Arena family) :
    (type : NativeType family.Class) → type.readable family = true → Value →
      Except ConversionError (type.Data family)
  | .bool, _, value => decodeBool value
  | .integer type, _, value => decodeInteger type value
  | .single, _, value => decodeSingle value
  | .double, _, value => decodeDouble value
  | .char, _, value => decodeChar value
  | .string, _, value => decodeString value
  | .cstring, _, value => decodeCString value
  | .value, _, value => .ok value
  | .object owner, _, value => arena.resolve owner value
  | .option inner, readable, value =>
    match value with
    | .nil => .ok none
    | other => (decode arena inner readable other).map some

def ParameterType.decode (parameter : ParameterType family) (arena : Arena family)
    (value : Value) : Except ConversionError parameter.Data :=
  NativeBridge.decode arena parameter.type parameter.isReadable value

/-- A native integer as a script integer, which must be wide enough. -/
def scriptInteger (number : Int) : Except ConversionError Value :=
  if number ≤ IntegerType.greatest .i64 then .ok (.int (Int64.ofInt number))
  else .error (.unsignedOverflow number.toNat)

/-- Writes native data as a script value.  Class instances enter the arena. -/
def encode (arena : Arena family) :
    (type : NativeType family.Class) → type.Data family →
      Except ConversionError (Value × Arena family)
  | .void, _ => .ok (.nil, arena)
  | .bool, truth => .ok (.bool truth, arena)
  | .integer _, number => (scriptInteger number.val).map (·, arena)
  | .single, number => .ok (.float number.toFloat, arena)
  | .double, number => .ok (.float number, arena)
  | .char, char => .ok (.text (String.singleton char), arena)
  | .string, content => .ok (.text content, arena)
  | .staticText, content => .ok (.text content, arena)
  | .cstring, content => (textOfBytes content.bytes).map (.text ·, arena)
  | .value, value => .ok (value, arena)
  | .object owner, content =>
    let (handle, arena) := arena.insert ⟨owner, content⟩
    .ok (.wrapped handle, arena)
  | .option _, none => .ok (.nil, arena)
  | .option inner, some data => encode arena inner data

end NativeBridge
