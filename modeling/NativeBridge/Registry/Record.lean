import NativeBridge.Registry.Error
import NativeBridge.Registry.Host

/-!
# Class records

What the bridge remembers about a registered class: how the virtual machine refers to
it, how its instances are made and ended, and which members are bound on it.  A name
is bound at most once.
-/

namespace NativeBridge

structure Member (schema : Schema) where
  name : String
  kind : MemberKind
  id : Fingerprint
  required : Nat
  /-- The greatest number of arguments, unless the entry point counts for itself. -/
  greatest : Option Nat
  entry : EntryPoint schema

/-- The record of one registered class.  Members are kept in the order they were
bound. -/
structure ClassRecord (schema : Schema) (VmClass : Type) where
  owner : schema.Class
  name : String
  vmClass : VmClass
  scope : Option VmClass
  allocator : EntryPoint schema
  finalizer : Finalizer schema
  constructor : Option (Member schema)
  members : List (Member schema)

namespace ClassRecord

variable {schema : Schema} {VmClass : Type}

/-- The identity of the native class, whatever name it is registered under. -/
def fingerprint (record : ClassRecord schema VmClass) : Fingerprint :=
  (NativeType.object record.owner).fingerprint schema.toClassFamily

def member? (record : ClassRecord schema VmClass) (name : String) : Option (Member schema) :=
  record.members.find? (·.name == name)

/-- Adds a member under a name that is free. -/
def addMember (record : ClassRecord schema VmClass) (member : Member schema) :
    Except BindError (ClassRecord schema VmClass) :=
  match record.member? member.name with
  | some present => .error (.duplicateMember member.name present.kind)
  | none => .ok { record with members := record.members ++ [member] }

/-- Makes a constructor the way to make instances.  A class has at most one. -/
def setConstructor (record : ClassRecord schema VmClass) (member : Member schema) :
    Except BindError (ClassRecord schema VmClass) :=
  match record.constructor with
  | some present => .error (.duplicateMember present.name .constructor)
  | none => .ok { record with allocator := member.entry, constructor := some member }

end ClassRecord

end NativeBridge
