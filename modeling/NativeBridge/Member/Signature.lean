import NativeBridge.Native.Type

/-!
# Signatures

The receiver, the parameters and the result of a native method, as records of types.
A signature picks one member among several that compete for a name, and gives the
member its identity under that name.
-/

namespace NativeBridge

structure Signature where
  receiver : TypeTag
  parameters : List TypeTag
  result : TypeTag
  /-- Whether the method may write to its receiver. -/
  exclusive : Bool
deriving DecidableEq

namespace Signature

/-- The signature of a method of `owner` with these types. -/
def ofTypes {family : ClassFamily} (owner : family.Class)
    (parameters : List (ParameterType family)) (result : NativeType family.Class)
    (exclusive : Bool) : Signature where
  receiver := (NativeType.object owner).tag family
  parameters := parameters.map (·.tag)
  result := result.tag family
  exclusive

/-- The identity of the member that has this signature under a name.  The result is no
part of it. -/
def memberId (signature : Signature) (name : String) : Fingerprint :=
  .ofMethod signature.receiver.fingerprint name (signature.parameters.map (·.fingerprint))
    signature.exclusive

def describe (signature : Signature) : String :=
  "fn(" ++ (if signature.exclusive then "&mut " else "&") ++ signature.receiver.name
    ++ String.join (signature.parameters.map fun parameter => ", " ++ parameter.name)
    ++ ") -> " ++ signature.result.name

end Signature

end NativeBridge
