import NativeBridge.Parameter.Default

/-!
# Binding errors

Why a class or a member could not be bound.  They arise before any entry point
reaches the virtual machine.
-/

namespace NativeBridge

inductive MemberKind where
  | constructor
  | method
  | getter
  | setter
  | raw
deriving DecidableEq

def MemberKind.name : MemberKind → String
  | constructor => "constructor"
  | method => "method"
  | getter => "getter"
  | setter => "setter"
  | raw => "raw method"

/-- The rejection of one declaration. -/
inductive BindError where
  | typeNotFound (nativeName : String)
  | duplicateType (name : String)
  | duplicateMember (name : String) (kind : MemberKind)
  /-- A parameter that takes an instance was given a default. -/
  | defaultForInstance (typeName : String) (member : String) (index : Nat)
  /-- More than one candidate answers to the signature. -/
  | ambiguousOverload (member : String) (candidates : Nat)
  /-- No candidate answers to the signature. -/
  | noMatchingOverload (member : String) (signature : Option String)
  /-- As many declarations are needed as there are native parameters. -/
  | parameterCount (member : String) (declared expected : Nat)
  /-- Optional parameters must come last. -/
  | requiredAfterOptional (member : String) (index : Nat)
  /-- A default is no value of its parameter. -/
  | invalidDefault (member : String) (index : Nat) (fault : DefaultFault)

def BindError.name : BindError → String
  | typeNotFound .. => "TypeNotFound"
  | duplicateType .. => "DuplicateType"
  | duplicateMember .. => "DuplicateRegistration"
  | defaultForInstance .. => "UnsupportedType"
  | ambiguousOverload .. => "AmbiguousOverload"
  | noMatchingOverload .. => "NoMatchingOverload"
  | parameterCount .. => "ParameterCount"
  | requiredAfterOptional .. => "RequiredAfterOptional"
  | invalidDefault .. => "InvalidDefault"

def BindError.message : BindError → String
  | typeNotFound nativeName => "type not found: " ++ nativeName
  | duplicateType name => "duplicate type: " ++ name
  | duplicateMember name kind =>
    "duplicate registration: " ++ name ++ " already registered as " ++ kind.name
  | defaultForInstance typeName member index =>
    "unsupported type '" ++ typeName ++ "': parameter " ++ toString index ++ " of '" ++ member
      ++ "' is class-valued and cannot have a default"
  | ambiguousOverload member candidates =>
    "ambiguous overload for '" ++ member ++ "': " ++ toString candidates ++ " candidates match"
  | noMatchingOverload member signature =>
    "no overload of '" ++ member ++ "' matches signature " ++ signature.getD "<none>"
  | parameterCount member declared expected =>
    "'" ++ member ++ "' declares " ++ toString declared ++ " parameter descriptor(s) but takes "
      ++ toString expected
  | requiredAfterOptional member index =>
    "'" ++ member ++ "': required parameter " ++ toString index ++ " follows an optional parameter"
  | invalidDefault member index fault =>
    "'" ++ member ++ "': invalid default for parameter " ++ toString index ++ ": "
      ++ fault.message

end NativeBridge
