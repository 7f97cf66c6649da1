import NativeBridge.Call.Entry

/-!
# The host of a bridge

What a virtual machine provides so that native classes can be declared to it.  It
stores what it is given and gives back what it stored; it need not know what an entry
point does.
-/

namespace NativeBridge

/-- What a virtual machine runs when an object that wraps an instance dies.  Tells
whether an instance ended. -/
abbrev Finalizer (schema : Schema) : Type :=
  Heap schema → Handle → Bool × Heap schema

/-- A virtual machine that native classes of `schema` can be declared to; it refers to
its classes by `VmClass`. -/
class ScriptHost (schema : outParam Schema) (Vm : Type) (VmClass : outParam Type) where
  /-- Declares a class inside a scope, or at top level.  A scope only qualifies the
  name. -/
  defineClass : Vm → (name : String) → (scope : Option VmClass) → VmClass × Vm
  /-- Installs what makes and what ends the instances of a class. -/
  setLifecycle : Vm → VmClass → (allocator : EntryPoint schema) → Finalizer schema → Vm
  /-- Declares a method with the least number of its arguments. -/
  defineMethod : Vm → VmClass → (name : String) → (required : Nat) → EntryPoint schema → Vm
  /-- Stores a value that wraps an instance of a class in a variable of an object. -/
  setVariable : Vm → (object : Value) → (name : String) → VmClass → (value : Value) → Vm
  /-- The value of a variable of an object; nil when it is unset. -/
  readVariable : Vm → (object : Value) → (name : String) → Value
  /-- The name under which scripts call the writer of a field. -/
  setterName : Vm → (field : String) → String := fun _ field => field ++ "="

end NativeBridge
