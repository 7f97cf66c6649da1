import NativeBridge.Parameter.List

/-!
# Call frames

A frame is what the virtual machine hands to native code: the slots of the call and
where among them the arguments begin.  With a positive offset the first slot is the
receiver.  Positions are 64-bit words, and native code panics over a sum of positions
that is none.
-/

namespace NativeBridge

/-- The panic over a sum that no word holds. -/
def Panic.overflow : Panic := .text "attempt to add with overflow"

def addPositions (left right : UInt64) : Except Panic UInt64 :=
  if left.toNat + right.toNat < UInt64.size then .ok (left + right) else .error .overflow

/-- The slots of one call. -/
structure Frame where
  slots : List Value
  offset : UInt64

namespace Frame

def arguments (frame : Frame) : List Value :=
  frame.slots.drop frame.offset.toNat

/-- The number of arguments.  An offset behind the last slot leaves none. -/
def argumentCount (frame : Frame) : Nat :=
  frame.slots.length - frame.offset.toNat

/-- The slot that lies `index` behind the offset. -/
def slotAt (frame : Frame) (index : UInt64) : Except Panic (Option Value) :=
  (addPositions frame.offset index).map fun position => frame.slots[position.toNat]?

def kindAt (frame : Frame) (index : UInt64) : Except Panic (Option ValueKind) :=
  (frame.slotAt index).map (·.map (·.kind))

/-- The value in an argument slot, which must be there.  The number of arguments that
there should have been is worked out in any case. -/
def valueAt (frame : Frame) (index : UInt64) : Except Interrupt Value := do
  let slot ← (frame.slotAt index).mapError .panicked
  let wanted ← (addPositions index 1).mapError .panicked
  match slot with
  | some value => return value
  | none =>
    throw (.failed (.argumentCount frame.argumentCount wanted.toNat wanted.toNat))

def textAt (frame : Frame) (index : UInt64) : Except Interrupt String := do
  match ← frame.valueAt index with
  | .text content => return content
  | other => throw (.failed (.argument index.toNat (mismatch "string" other)))

def receiver? (frame : Frame) : Option Value :=
  if frame.offset = 0 then none else frame.slots.head?

def receiverHandle (frame : Frame) : Except CallError Handle :=
  match frame.receiver? with
  | some (.wrapped handle) => .ok handle
  | some other => .error (.receiver (mismatch "instance" other))
  | none => .error (.receiver (.nullInstance "instance"))

def describe (frame : Frame) : String :=
  "CallContext \x7b arg_count: " ++ toString frame.argumentCount ++ ", arg_offset: "
    ++ toString frame.offset.toNat ++ " \x7d"

variable {family : ClassFamily}

def dataAt (frame : Frame) (arena : Arena family) (parameter : ParameterType family)
    (index : UInt64) : Except Interrupt parameter.Data := do
  (parameter.decode arena (← frame.valueAt index)).mapError fun cause =>
    .failed (.argument index.toNat cause)

/-- What the receiver holds, as an instance of `owner`. -/
def receiver (frame : Frame) (arena : Arena family) (owner : family.Class) :
    Except CallError (family.Content owner) :=
  match frame.receiverHandle with
  | .error error => .error error
  | .ok handle =>
    match arena.get owner handle with
    | .ok content => .ok content
    | .error cause => .error (.receiver cause)

/-- Exclusive access to what the receiver holds, as an instance of `owner`. -/
def accessReceiver (frame : Frame) (arena : Arena family) (owner : family.Class) :
    Except CallError (Access family owner) :=
  match frame.receiverHandle with
  | .error error => .error error
  | .ok handle =>
    match arena.access owner handle with
    | .ok held => .ok held
    | .error cause => .error (.receiver cause)

end Frame

end NativeBridge
