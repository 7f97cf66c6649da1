import NativeBridge.Fingerprint
import NativeBridge.Native.Integer
import NativeBridge.Value

/-!
# Native types and what they hold

The types that may stand in the signature of a native function, as codes, over a
family of native classes.  Each code has a script name, a kind and a fingerprint,
which are all that remains of a type once it is recorded, and a Lean type of native
data.
-/

namespace NativeBridge

/-- The native classes an embedding program lends to scripts.  Two classes may share a
script name; they are still different classes. -/
structure ClassFamily where
  Class : Type
  [sameClass : DecidableEq Class]
  Content : Class → Type
  /-- The name scripts know a class by. -/
  scriptName : Class → String
  /-- The name native code knows a class by. -/
  nativeName : Class → String
  /-- Whether instances may be taken by value, as a copy. -/
  byValue : Class → Bool

attribute [instance] ClassFamily.sameClass

/-- A native type, over the classes `Class`. -/
inductive NativeType (Class : Type) where
  /-- No value; only a result can be void. -/
  | void
  | bool
  | integer (type : IntegerType)
  | single
  | double
  | char
  | string
  /-- Text that lives as long as the program; only a result can be static text. -/
  | staticText
  /-- A byte string that ends at its first zero byte. -/
  | cstring
  /-- Any script value, passed through as it is. -/
  | value
  | object (owner : Class)
  | option (inner : NativeType Class)
deriving DecidableEq

inductive TypeKind where
  | void
  | bool
  | int
  | float
  | text
  | wrapped
  | any
deriving DecidableEq

def TypeKind.name : TypeKind → String
  | void => "void"
  | bool => "bool"
  | int => "int"
  | float => "float"
  | text => "str"
  | wrapped => "instance"
  | any => "any"

/-- A byte string without a zero byte. -/
structure CText where
  bytes : List UInt8
  noZero : 0 ∉ bytes := by simp

instance : Inhabited CText := ⟨{ bytes := [] }⟩

/-- A native type as it is recorded in signatures and parameter lists. -/
structure TypeTag where
  fingerprint : Fingerprint
  name : String
  kind : TypeKind
deriving DecidableEq

namespace NativeType

/-- What native code holds at a type. -/
@[reducible]
def Data (family : ClassFamily) : NativeType family.Class → Type
  | void => Unit
  | bool => Bool
  | integer type => type.Number
  | single => Float32
  | double => Float
  | char => Char
  | string => String
  | staticText => String
  | cstring => CText
  | value => Value
  | object owner => family.Content owner
  | option inner => Option (inner.Data family)

def readable (family : ClassFamily) : NativeType family.Class → Bool
  | void | staticText => false
  | object owner => family.byValue owner
  | option inner => inner.readable family
  | _ => true

/-- The name scripts know a type by.  An option has the name of what it may hold. -/
def scriptName (family : ClassFamily) : NativeType family.Class → String
  | void => "void"
  | bool => "bool"
  | integer type => type.scriptName
  | single => "float"
  | double => "double"
  | char => "char"
  | string | staticText => "string"
  | cstring => "cstring"
  | value => "any"
  | object owner => family.scriptName owner
  | option inner => inner.scriptName family

/-- The shape of a type.  An option has the shape of what it may hold. -/
def kind {Class : Type} : NativeType Class → TypeKind
  | void => .void
  | bool => .bool
  | integer _ => .int
  | single | double => .float
  | char | string | staticText | cstring => .text
  | value => .any
  | object _ => .wrapped
  | option inner => inner.kind

/-- The identity of a type, made from its script name; each option around it is
marked. -/
def fingerprint (family : ClassFamily) : NativeType family.Class → Fingerprint
  | option inner => (inner.fingerprint family).nullable
  | type => .ofName (type.scriptName family)

def tag (family : ClassFamily) (type : NativeType family.Class) : TypeTag where
  fingerprint := type.fingerprint family
  name := type.scriptName family
  kind := type.kind

end NativeType

structure ParameterType (family : ClassFamily) where
  type : NativeType family.Class
  isReadable : type.readable family = true

namespace ParameterType

abbrev Data {family : ClassFamily} (parameter : ParameterType family) : Type :=
  parameter.type.Data family

def tag {family : ClassFamily} (parameter : ParameterType family) : TypeTag :=
  parameter.type.tag family

end ParameterType

structure Datum (family : ClassFamily) where
  type : NativeType family.Class
  data : type.Data family

/-- The data of a datum, if it has the wanted type. -/
def Datum.as? {family : ClassFamily} (datum : Datum family) (type : NativeType family.Class) :
    Option (type.Data family) :=
  if same : datum.type = type then some (same ▸ datum.data) else none

/-- One native argument for each parameter, in order. -/
inductive Arguments (family : ClassFamily) : List (ParameterType family) → Type where
  | nil : Arguments family []
  | cons {parameter : ParameterType family} {rest : List (ParameterType family)}
      (first : parameter.Data) (others : Arguments family rest) :
      Arguments family (parameter :: rest)

def Arguments.toList {family : ClassFamily} :
    {parameters : List (ParameterType family)} → Arguments family parameters → List (Datum family)
  | [], .nil => []
  | parameter :: _, .cons first others => ⟨parameter.type, first⟩ :: others.toList

end NativeBridge
