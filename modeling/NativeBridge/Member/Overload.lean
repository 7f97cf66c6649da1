import NativeBridge.Member.Function
import NativeBridge.Registry.Error
import NativeBridge.Text.Quoted

/-!
# Overload sets

A script name refers to one native member.  When several methods compete for a name,
they are collected, and one is chosen by its signature when the name is bound.
-/

namespace NativeBridge

/-- What is left of a method when its types are forgotten: its signature, how its parameters
are declared, and how its entry point is made. -/
structure Candidate (schema : Schema) where
  signature : Signature
  declare : (name : String) → List ParameterMode → Except BindError ParameterList
  makeEntry : Fingerprint → ParameterList → EntryPoint schema

def NativeMethod.candidate {schema : Schema} {owner : schema.Class}
    (method : NativeMethod schema owner) : Candidate schema where
  signature := method.signature
  declare name modes := ParameterList.declare name method.parameters modes
  makeEntry := method.entry

/-- Methods of `owner` that compete for a name, in the order they were added. -/
structure OverloadSet (schema : Schema) (owner : schema.Class) where
  name : String
  candidates : List (NativeMethod schema owner)

namespace OverloadSet

variable {schema : Schema} {owner : schema.Class}

def size (set : OverloadSet schema owner) : Nat :=
  set.candidates.length

def isEmpty (set : OverloadSet schema owner) : Bool :=
  set.candidates.isEmpty

def signatures (set : OverloadSet schema owner) : List Signature :=
  set.candidates.map (·.signature)

/-- The candidates that a signature names; without a signature, all of them. -/
def matching (set : OverloadSet schema owner) : Option Signature →
    List (NativeMethod schema owner)
  | some wanted => set.candidates.filter (·.signature = wanted)
  | none => set.candidates

/-- The only candidate that a signature names. -/
def select (set : OverloadSet schema owner) (wanted : Option Signature) :
    Except BindError (NativeMethod schema owner) :=
  match set.matching wanted with
  | [candidate] => .ok candidate
  | [] => .error (.noMatchingOverload set.name (wanted.map (·.describe)))
  | several => .error (.ambiguousOverload set.name several.length)

def describe (set : OverloadSet schema owner) : String :=
  "Overloads \x7b name: " ++ Text.quoted set.name ++ ", candidates: " ++ toString set.size
    ++ " \x7d"

end OverloadSet

end NativeBridge
