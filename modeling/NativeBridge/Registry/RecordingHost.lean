import NativeBridge.Registry.Host

/-!
# A host that records

The simplest virtual machine a bridge can serve: it numbers classes in the order in
which they are declared, keeps for each what it was given, and stores variables by
object and name.  Only objects that wrap an instance have variables.
-/

namespace NativeBridge

structure RecordedMethod (schema : Schema) where
  name : String
  required : Nat
  entry : EntryPoint schema

/-- A class as it was declared.  A module is a class without a lifecycle. -/
structure RecordedClass (schema : Schema) where
  name : String
  scope : Option Nat
  lifecycle : Option (EntryPoint schema × Finalizer schema)
  methods : List (RecordedMethod schema)

/-- A variable of an object, with the class under which its value was stored. -/
structure RecordedVariable where
  object : Handle
  name : String
  vmClass : Nat
  value : Value

/-- Everything a recording host was told.  Writers are called after their field, with
`setterPrefix` before it or an equals sign behind it. -/
structure RecordingHost (schema : Schema) where
  setterPrefix : Option String
  classes : List (RecordedClass schema)
  storedVariables : List RecordedVariable

namespace RecordingHost

variable {schema : Schema}

def new (setterPrefix : Option String) : RecordingHost schema :=
  ⟨setterPrefix, [], []⟩

def defineClass (host : RecordingHost schema) (name : String) (scope : Option Nat) :
    Nat × RecordingHost schema :=
  (host.classes.length,
    { host with classes := host.classes ++ [⟨name, scope, none, []⟩] })

/-- Keeps what makes and what ends the instances of a class, in place of what was kept
before. -/
def setLifecycle (host : RecordingHost schema) (vmClass : Nat) (allocator : EntryPoint schema)
    (finalizer : Finalizer schema) : RecordingHost schema :=
  { host with
    classes := host.classes.modify vmClass fun record =>
      { record with lifecycle := some (allocator, finalizer) } }

/-- A method replaces the one its class had under the name. -/
def defineMethod (host : RecordingHost schema) (vmClass : Nat) (name : String) (required : Nat)
    (entry : EntryPoint schema) : RecordingHost schema :=
  { host with
    classes := host.classes.modify vmClass fun record =>
      { record with
        methods := record.methods.filter (·.name != name) ++ [⟨name, required, entry⟩] } }

def variableOf? (host : RecordingHost schema) (object : Value) (name : String) :
    Option RecordedVariable :=
  object.handle?.bind fun handle =>
    host.storedVariables.find? fun stored => stored.object = handle && stored.name == name

/-- A value replaces the one its variable had. -/
def setVariable (host : RecordingHost schema) (object : Value) (name : String) (vmClass : Nat)
    (value : Value) : RecordingHost schema :=
  match object.handle? with
  | none => host
  | some handle =>
    let others := host.storedVariables.filter fun stored =>
      !(stored.object = handle && stored.name == name)
    { host with storedVariables := others ++ [⟨handle, name, vmClass, value⟩] }

def readVariable (host : RecordingHost schema) (object : Value) (name : String) : Value :=
  match host.variableOf? object name with
  | some stored => stored.value
  | none => .nil

def setterName (host : RecordingHost schema) (field : String) : String :=
  match host.setterPrefix with
  | some start => start ++ field
  | none => field ++ "="

instance : ScriptHost schema (RecordingHost schema) Nat where
  defineClass := defineClass
  setLifecycle := setLifecycle
  defineMethod := defineMethod
  setVariable := setVariable
  readVariable := readVariable
  setterName := setterName

def method? (host : RecordingHost schema) (vmClass : Nat) (name : String) :
    Option (RecordedMethod schema) :=
  host.classes[vmClass]?.bind fun record => record.methods.find? (·.name == name)

/-- The name of a class behind the names of at most `depth` scopes around it. -/
def qualifiedName (host : RecordingHost schema) : (depth : Nat) → (vmClass : Nat) → String
  | depth, vmClass =>
    match host.classes[vmClass]? with
    | none => ""
    | some record =>
      match depth, record.scope with
      | depth + 1, some scope => host.qualifiedName depth scope ++ "::" ++ record.name
      | _, _ => record.name

end RecordingHost

end NativeBridge
