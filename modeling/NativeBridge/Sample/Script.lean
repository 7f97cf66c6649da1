import NativeBridge.Sample.World

/-!
# Hand-written entry points

Entry points written as lists of steps, each of which uses the frame, the return slot
or the arena once and notes its outcome.  A failed step ends the entry point only if
it says so; a panic always ends it, without a note.
-/

namespace NativeBridge.Sample

inductive ScriptAction where
  | argumentCount
  | slotAt (index : UInt64)
  | kindAt (index : UInt64)
  | argument (parameter : ParameterType family) (index : UInt64)
  | textAt (index : UInt64)
  | exactArguments (parameters : List (ParameterType family))
  | receiverHandle
  | receiver (owner : SampleClass)
  /-- Sets a field of the receiver, and gives its new content. -/
  | setReceiver (owner : SampleClass) (field : Field family owner) (data : field.type.Data family)
  | setReturn (datum : Datum family)
  | setReturnValue (value : Value)
  | returned
  | lend (inst : Instance family)
  /-- Ends the instance that a value wraps, if it wraps one. -/
  | finalize (value : Value)
  | liveCount
  | describeFrame
  | fail (text : String)
  | panic (payload : Panic)

/-- A step, and whether its failure ends the entry point. -/
structure ScriptStep where
  action : ScriptAction
  quits : Bool

def ScriptAction.run (frame : Frame) : ScriptAction → Native schema Outcome
  | argumentCount => pure (.count frame.argumentCount)
  | slotAt index => do
    return .slot (← ofExcept ((frame.slotAt index).mapError .panicked))
  | kindAt index => do
    return .kind (← ofExcept ((frame.kindAt index).mapError .panicked))
  | argument parameter index => do
    let data ← ofExcept (frame.dataAt (← get).heap.arena parameter index)
    return .datum ⟨parameter.type, data⟩
  | textAt index => do
    return .text (← ofExcept (frame.textAt index))
  | exactArguments parameters => do
    let arguments ← Native.exactArguments frame parameters
    return .data arguments.toList
  | receiverHandle => do
    return .value (.wrapped (← Native.ofExcept frame.receiverHandle))
  | receiver owner => do
    let content ← Native.receiver frame owner
    return .datum ⟨.object owner, content⟩
  | setReceiver owner field data => do
    let write : Task (owner.Content × Notes) owner.Content := fun (content, notes) =>
      let content := field.set data content
      .ok content (content, notes)
    let content ← Native.runOnReceiver frame owner write
    return .datum ⟨.object owner, content⟩
  | setReturn datum => do
    Native.setReturn datum.type datum.data
    return .nothing
  | setReturnValue value => do
    Native.setReturnValue value
    return .nothing
  | returned => do
    return .value (← get).returned
  | lend inst => do
    return .value (← Native.lend inst)
  | finalize value => fun state =>
    match value.handle? with
    | none => .ok (.truth false) state
    | some handle =>
      let (ended, heap) := state.heap.finalize handle
      .ok (.truth ended) { state with heap }
  | liveCount => do
    return .count (← get).heap.arena.size
  | describeFrame => pure (.text frame.describe)
  | fail text => throw (.failed (.other text))
  | panic payload => throw (.panicked payload)

def noted (entry : Note) (state : CallState schema) : CallState schema :=
  { state with heap := { state.heap with world := state.heap.world.add entry } }

/-- Carries out a step and notes its outcome. -/
def ScriptStep.run (frame : Frame) (step : ScriptStep) : Native schema Unit := fun state =>
  match step.action.run frame state with
  | .ok outcome state => .ok () (noted (.done outcome) state)
  | .error (.failed error) state =>
    let state := noted (.failed error) state
    if step.quits then .error (.failed error) state else .ok () state
  | .error (.panicked payload) state => .error (.panicked payload) state

/-- Runs the steps of an entry point in order. -/
def runScript (steps : List ScriptStep) (frame : Frame) : Native schema Unit :=
  steps.forM (·.run frame)

end NativeBridge.Sample
