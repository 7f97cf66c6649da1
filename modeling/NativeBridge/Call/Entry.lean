import NativeBridge.Call.Arguments

/-!
# Entry points

An entry point is what the virtual machine calls.  Its body reads the frame and works
on the heap and the return slot.  Whether it reports an error or breaks off with a
panic, what it did before stays done; the caller sees an error value in either case.
-/

namespace NativeBridge

/-- What a call can change: the return slot and the heap. -/
structure CallState (schema : Schema) where
  returned : Value
  heap : Heap schema

abbrev Native (schema : Schema) (Outcome : Type) : Type :=
  EStateM Interrupt (CallState schema) Outcome

/-- A bound native function as the virtual machine holds it. -/
structure EntryPoint (schema : Schema) where
  id : Fingerprint
  body : Frame → Native schema Unit

namespace EntryPoint

variable {schema : Schema}

/-- Runs an entry point.  A panic is caught here. -/
def call (entry : EntryPoint schema) (frame : Frame) (state : CallState schema) :
    Except CallError Unit × CallState schema :=
  match entry.body frame state with
  | .ok () state => (.ok (), state)
  | .error (.failed error) state => (.error error, state)
  | .error (.panicked panic) state => (.error (.panic panic.message), state)

def describe (entry : EntryPoint schema) : String :=
  "NativeFn \x7b id: " ++ entry.id.describe ++ ", .. \x7d"

end EntryPoint

namespace Native

variable {schema : Schema} {Outcome : Type}

def ofExcept (outcome : Except CallError Outcome) : Native schema Outcome :=
  match outcome with
  | .ok value => pure value
  | .error error => throw (.failed error)

def run (task : Task schema.World Outcome) : Native schema Outcome := fun state =>
  match task state.heap.world with
  | .ok value world => .ok value { state with heap := { state.heap with world } }
  | .error panic world =>
    .error (.panicked panic) { state with heap := { state.heap with world } }

def arguments (frame : Frame) (list : ParameterList)
    (parameters : List (ParameterType schema.toClassFamily)) :
    Native schema (Arguments schema.toClassFamily parameters) := do
  ofExcept (Arguments.extract frame (← get).heap.arena list parameters)

/-- The arguments of the call, exactly one for each parameter. -/
def exactArguments (frame : Frame) (parameters : List (ParameterType schema.toClassFamily)) :
    Native schema (Arguments schema.toClassFamily parameters) := do
  ofExcept (Arguments.exact frame (← get).heap.arena parameters)

def receiver (frame : Frame) (owner : schema.Class) : Native schema (schema.Content owner) := do
  ofExcept (frame.receiver (← get).heap.arena owner)

/-- Runs native code on what the receiver holds and on the world.  The receiver keeps
what the code left in it, also when the code panics. -/
def runOnReceiver (frame : Frame) (owner : schema.Class)
    (task : Task (schema.Content owner × schema.World) Outcome) : Native schema Outcome :=
  fun state =>
    match frame.accessReceiver state.heap.arena owner with
    | .error error => .error (.failed error) state
    | .ok held =>
      let keep (content : schema.Content owner) (world : schema.World) : CallState schema :=
        { state with heap := { arena := held.leave content, world } }
      match task (held.content, state.heap.world) with
      | .ok value (content, world) => .ok value (keep content world)
      | .error panic (content, world) => .error (.panicked panic) (keep content world)

def lend (inst : Instance schema.toClassFamily) : Native schema Value := fun state =>
  let (handle, arena) := state.heap.arena.insert inst
  .ok (.wrapped handle) { state with heap := { state.heap with arena } }

def setReturnValue (value : Value) : Native schema Unit :=
  modify fun state => { state with returned := value }

def setReturn (type : NativeType schema.Class) (data : type.Data schema.toClassFamily) :
    Native schema Unit := fun state =>
  match encode state.heap.arena type data with
  | .ok (value, arena) => .ok () { returned := value, heap := { state.heap with arena } }
  | .error cause => .error (.failed (.result cause)) state

end Native

end NativeBridge
