/-!
# Native integer types

The ten machine integer types by width and sign, and their numbers as integers
within bounds.
-/

namespace NativeBridge

/-- A machine integer type.  The pointer-sized types have 64 bits. -/
inductive IntegerType where
  | i8 | i16 | i32 | i64 | isize
  | u8 | u16 | u32 | u64 | usize
deriving DecidableEq

namespace IntegerType

def bits : IntegerType → Nat
  | i8 | u8 => 8
  | i16 | u16 => 16
  | i32 | u32 => 32
  | i64 | u64 | isize | usize => 64

def isSigned : IntegerType → Bool
  | i8 | i16 | i32 | i64 | isize => true
  | u8 | u16 | u32 | u64 | usize => false

def least (type : IntegerType) : Int :=
  if type.isSigned then -Int.pow 2 (type.bits - 1) else 0

def greatest (type : IntegerType) : Int :=
  if type.isSigned then Int.pow 2 (type.bits - 1) - 1 else Int.pow 2 type.bits - 1

/-- The name scripts know the type by. -/
def scriptName : IntegerType → String
  | i8 => "int8"
  | i16 => "int16"
  | i32 => "int"
  | i64 => "int64"
  | isize => "isize"
  | u8 => "uint8"
  | u16 => "uint16"
  | u32 => "uint"
  | u64 => "uint64"
  | usize => "usize"

/-- The name native code knows the type by. -/
def nativeName : IntegerType → String
  | i8 => "i8"
  | i16 => "i16"
  | i32 => "i32"
  | i64 => "i64"
  | isize => "isize"
  | u8 => "u8"
  | u16 => "u16"
  | u32 => "u32"
  | u64 => "u64"
  | usize => "usize"

def Holds (type : IntegerType) (number : Int) : Prop :=
  type.least ≤ number ∧ number ≤ type.greatest

instance (type : IntegerType) (number : Int) : Decidable (type.Holds number) :=
  inferInstanceAs (Decidable (_ ∧ _))

abbrev Number (type : IntegerType) : Type :=
  { number : Int // type.Holds number }

def number? (type : IntegerType) (number : Int) : Option type.Number :=
  if fits : type.Holds number then some ⟨number, fits⟩ else none

theorem holds_zero (type : IntegerType) : type.Holds 0 := by
  cases type <;> decide

instance (type : IntegerType) : Inhabited type.Number :=
  ⟨0, type.holds_zero⟩

end IntegerType

end NativeBridge
