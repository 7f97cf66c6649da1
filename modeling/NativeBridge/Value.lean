import NativeBridge.Decimal.Positional
import NativeBridge.Text.Quoted

/-!
# Script values

The closed set of values that cross the boundary between the virtual machine and
native code.  Native objects never cross it themselves: a script holds a handle,
which names a place in the arena and the generation that lived there.
-/

namespace NativeBridge

/-- Names an instance that native code lent to scripts. -/
@[ext]
structure Handle where
  index : UInt32
  generation : UInt32
deriving DecidableEq

/-- A value as scripts see it. -/
inductive Value where
  | nil
  | bool (truth : Bool)
  | int (number : Int64)
  | float (number : Float)
  | text (content : String)
  | wrapped (handle : Handle)

/-- What a script can ask about a value without looking inside. -/
inductive ValueKind where
  | nil
  | bool
  | int
  | float
  | text
  | wrapped
deriving DecidableEq

def ValueKind.name : ValueKind → String
  | .nil => "nil"
  | .bool => "bool"
  | .int => "int"
  | .float => "float"
  | .text => "string"
  | .wrapped => "instance"

namespace Value

def kind : Value → ValueKind
  | nil => .nil
  | bool _ => .bool
  | int _ => .int
  | float _ => .float
  | text _ => .text
  | wrapped _ => .wrapped

def kindName (value : Value) : String :=
  value.kind.name

def isNil : Value → Bool
  | nil => true
  | _ => false

def handle? : Value → Option Handle
  | wrapped handle => some handle
  | _ => none

def text? : Value → Option String
  | text content => some content
  | _ => none

/-- Values of different kinds differ.  Floats compare as numbers, so the two zeros
agree and a NaN differs from itself. -/
protected def beq : Value → Value → Bool
  | nil, nil => true
  | bool left, bool right => left == right
  | int left, int right => left == right
  | float left, float right => left == right
  | text left, text right => left == right
  | wrapped left, wrapped right => left == right
  | _, _ => false

instance : BEq Value := ⟨Value.beq⟩

def describe : Value → String
  | nil => "Nil"
  | bool truth => "Bool(" ++ (if truth then "true" else "false") ++ ")"
  | int number => "Int(" ++ toString number.toInt ++ ")"
  | float number => "Float(" ++ Decimal.floatText number ++ ")"
  | text content => "Str(" ++ Text.quoted content ++ ")"
  | wrapped handle =>
    "Instance(" ++ toString handle.index.toNat ++ ":" ++ toString handle.generation.toNat ++ ")"

end Value

end NativeBridge
