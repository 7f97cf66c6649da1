import NativeBridge.Registry.Declaration

/-!
# The bridge

A virtual machine together with what the bridge keeps for it: the records of the
classes that were registered and the heap of lent instances.  There is nothing
global; one bridge serves one machine.
-/

namespace NativeBridge

/-- The records of registered classes, in the order of registration. -/
structure Registry (schema : Schema) (VmClass : Type) where
  records : List (ClassRecord schema VmClass)

namespace Registry

variable {schema : Schema} {VmClass : Type}

def empty : Registry schema VmClass := ⟨[]⟩

def size (registry : Registry schema VmClass) : Nat :=
  registry.records.length

def isEmpty (registry : Registry schema VmClass) : Bool :=
  registry.records.isEmpty

/-- The record of a native class.  Classes are told apart as native classes, whatever
they are called in scripts. -/
def record? (registry : Registry schema VmClass) (owner : schema.Class) :
    Option (ClassRecord schema VmClass) :=
  registry.records.find? (·.owner = owner)

/-- The record of a native class, which must be registered. -/
def lookup (registry : Registry schema VmClass) (owner : schema.Class) :
    Except BindError (ClassRecord schema VmClass) :=
  match registry.record? owner with
  | some record => .ok record
  | none => .error (.typeNotFound (schema.nativeName owner))

def contains (registry : Registry schema VmClass) (owner : schema.Class) : Bool :=
  (registry.record? owner).isSome

def add (registry : Registry schema VmClass) (record : ClassRecord schema VmClass) :
    Registry schema VmClass :=
  ⟨registry.records ++ [record]⟩

/-- Puts a record in the place of the one its class has. -/
def replace (registry : Registry schema VmClass) (record : ClassRecord schema VmClass) :
    Registry schema VmClass :=
  ⟨registry.records.map fun present => if present.owner = record.owner then record else present⟩

def describe (registry : Registry schema VmClass) : String :=
  "ClassRegistry \x7b class_count: " ++ toString registry.size ++ " \x7d"

end Registry

/-- A virtual machine with the classes and instances bridged to it. -/
structure Bridge (schema : Schema) (Vm VmClass : Type) where
  vm : Vm
  registry : Registry schema VmClass
  heap : Heap schema

/-- A change of a bridge that may be rejected. -/
abbrev Setup (schema : Schema) (Vm VmClass Outcome : Type) : Type :=
  EStateM BindError (Bridge schema Vm VmClass) Outcome

/-- What became of a list of declarations: how many were carried out, and why the next
one was not. -/
structure BindReport where
  bound : Nat
  rejection : Option BindError

/-- Carries out declarations until one is rejected. -/
def Declaration.bindAll {schema : Schema} {owner : schema.Class} {Vm VmClass : Type}
    [ScriptHost schema Vm VmClass] :
    List (Declaration schema owner) → BindSite schema Vm VmClass →
      BindReport × BindSite schema Vm VmClass
  | [], site => (⟨0, none⟩, site)
  | declaration :: rest, site =>
    match declaration.bind site with
    | .ok () site =>
      let (report, site) := bindAll rest site
      ({ report with bound := report.bound + 1 }, site)
    | .error error site => (⟨0, some error⟩, site)

namespace Bridge

variable {schema : Schema} {Vm VmClass : Type}

def new (vm : Vm) (world : schema.World) : Bridge schema Vm VmClass where
  vm
  registry := .empty
  heap := ⟨.empty, world⟩

/-- The record of a native class, which must be registered. -/
def classRecord (bridge : Bridge schema Vm VmClass) (owner : schema.Class) :
    Except BindError (ClassRecord schema VmClass) :=
  bridge.registry.lookup owner

/-- What the instance that a script value wraps holds. -/
def unwrap (bridge : Bridge schema Vm VmClass) (owner : schema.Class) (value : Value) :
    Except ConversionError (schema.Content owner) :=
  bridge.heap.arena.resolve owner value

/-- Changes what an instance holds, and gives its new content. -/
def updateInstance (bridge : Bridge schema Vm VmClass) (owner : schema.Class) (handle : Handle)
    (change : schema.Content owner → schema.Content owner) :
    Except ConversionError (schema.Content owner × Bridge schema Vm VmClass) :=
  match bridge.heap.arena.update owner handle change with
  | .error error => .error error
  | .ok (content, arena) =>
    .ok (content, { bridge with heap := { bridge.heap with arena } })

/-- Exclusive access to what the instance that a script value wraps holds. -/
def access (bridge : Bridge schema Vm VmClass) (owner : schema.Class) (value : Value) :
    Except ConversionError (Access schema.toClassFamily owner) :=
  match value with
  | .wrapped handle => bridge.heap.arena.access owner handle
  | .nil => .error (.nullInstance (schema.scriptName owner))
  | other => .error (.typeMismatch (schema.scriptName owner) other.kindName)

/-- Changes what the instance that a script value wraps holds. -/
def updateUnwrapped (bridge : Bridge schema Vm VmClass) (owner : schema.Class) (value : Value)
    (change : schema.Content owner → schema.Content owner) :
    Except ConversionError (schema.Content owner × Bridge schema Vm VmClass) :=
  match bridge.access owner value with
  | .error error => .error error
  | .ok held =>
    let content := change held.content
    .ok (content, { bridge with heap := { bridge.heap with arena := held.leave content } })

def finalize (bridge : Bridge schema Vm VmClass) (handle : Handle) :
    Bool × Bridge schema Vm VmClass :=
  let (ended, heap) := bridge.heap.finalize handle
  (ended, { bridge with heap })

/-- Runs an entry point against the heap of the bridge.  `returned` is what the return
slot holds before. -/
def call (bridge : Bridge schema Vm VmClass) (entry : EntryPoint schema) (frame : Frame)
    (returned : Value) : Except CallError Unit × Value × Bridge schema Vm VmClass :=
  let (outcome, state) := entry.call frame ⟨returned, bridge.heap⟩
  (outcome, state.returned, { bridge with heap := state.heap })

def describe (bridge : Bridge schema Vm VmClass) : String :=
  "Bindings \x7b registry: " ++ bridge.registry.describe ++ ", instances: "
    ++ bridge.heap.arena.describe ++ " \x7d"

variable [ScriptHost schema Vm VmClass]

/-- Registers a native class under a script name with a way to make its instances.  A
class that is registered already is rejected before the virtual machine hears of
it. -/
def addClass (owner : schema.Class) (name : String) (scope : Option VmClass)
    (allocator : EntryPoint schema) : Setup schema Vm VmClass Unit := do
  let bridge ← get
  if bridge.registry.contains owner then throw (.duplicateType name)
  let (vmClass, vm) := ScriptHost.defineClass bridge.vm name scope
  let vm := ScriptHost.setLifecycle vm vmClass allocator Heap.finalize
  let record : ClassRecord schema VmClass :=
    { owner, name, vmClass, scope, allocator
      finalizer := Heap.finalize
      constructor := none
      members := [] }
  set ({ bridge with vm, registry := bridge.registry.add record } : Bridge schema Vm VmClass)

/-- Registers a class whose instances start with a default content until a constructor
is bound. -/
def register (owner : schema.Class) (name : String) (scope : Option VmClass)
    (initial : Task schema.World (schema.Content owner)) : Setup schema Vm VmClass Unit :=
  addClass owner name scope (defaultAllocation owner initial)

/-- Registers a class that scripts cannot make instances of until a constructor is
bound. -/
def declare (owner : schema.Class) (name : String) (scope : Option VmClass) :
    Setup schema Vm VmClass Unit :=
  addClass owner name scope (refusedAllocation owner name)

def bind (owner : schema.Class) (declarations : List (Declaration schema owner)) :
    Setup schema Vm VmClass BindReport := do
  let bridge ← get
  match bridge.classRecord owner with
  | .error error => throw error
  | .ok record =>
    let (report, site) := Declaration.bindAll declarations ⟨bridge.vm, record⟩
    set ({ bridge with vm := site.vm, registry := bridge.registry.replace site.record } :
      Bridge schema Vm VmClass)
    return report

/-- Stores a new instance in a variable of a script object, and gives the stored value.
The virtual machine learns the class under which it can end the instance. -/
def setVariable (owner : schema.Class) (object : Value) (name : String)
    (content : schema.Content owner) : Setup schema Vm VmClass Value := do
  let bridge ← get
  match bridge.classRecord owner with
  | .error error => throw error
  | .ok record =>
    let (handle, arena) := bridge.heap.arena.insert ⟨owner, content⟩
    let value := Value.wrapped handle
    set ({ bridge with
      vm := ScriptHost.setVariable bridge.vm object name record.vmClass value
      heap := { bridge.heap with arena } } : Bridge schema Vm VmClass)
    return value

/-- What the instance in a variable of a script object holds. -/
def readVariable (bridge : Bridge schema Vm VmClass) (owner : schema.Class) (object : Value)
    (name : String) : Except ConversionError (schema.Content owner) :=
  bridge.unwrap owner (ScriptHost.readVariable bridge.vm object name)

end Bridge

end NativeBridge
