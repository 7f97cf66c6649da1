import NativeBridge.Call.Frame

/-!
# From slots to native arguments

A call is matched with a parameter list in three steps: the number of arguments is
checked, the arguments that were given are converted in order, and the defaults of
the others are converted after them.  The first failure ends the call.
-/

namespace NativeBridge

namespace Arguments

variable {family : ClassFamily}

/-- Converts one value for each parameter, counted from `index`; `valueAt` finds the
values. -/
def collect (arena : Arena family) (valueAt : Nat → Except CallError Value) (index : Nat) :
    (parameters : List (ParameterType family)) → Except CallError (Arguments family parameters)
  | [] => .ok .nil
  | parameter :: rest =>
    match valueAt index with
    | .error error => .error error
    | .ok value =>
      match parameter.decode arena value with
      | .error cause => .error (.argument index cause)
      | .ok first =>
        match collect arena valueAt (index + 1) rest with
        | .error error => .error error
        | .ok others => .ok (.cons first others)

/-- The value for a parameter: the argument of the call, or the default when the call
has fewer arguments. -/
def suppliedOrDefault (frame : Frame) (list : ParameterList) (index : Nat) :
    Except CallError Value :=
  let value :=
    if index < frame.argumentCount then frame.arguments[index]? else list.defaultAt index
  match value with
  | some value => .ok value
  | none => .error (list.countError frame.argumentCount)

def supplied (frame : Frame) (index : Nat) : Except CallError Value :=
  match frame.arguments[index]? with
  | some value => .ok value
  | none => .error (.argumentCount frame.argumentCount (index + 1) (index + 1))

/-- The arguments of a call to a member with a parameter list. -/
def extract (frame : Frame) (arena : Arena family) (list : ParameterList)
    (parameters : List (ParameterType family)) : Except CallError (Arguments family parameters) :=
  match list.checkCount frame.argumentCount with
  | .error error => .error error
  | .ok () => collect arena (suppliedOrDefault frame list) 0 parameters

/-- The arguments of a call that gives exactly one for each parameter. -/
def exact (frame : Frame) (arena : Arena family) (parameters : List (ParameterType family)) :
    Except CallError (Arguments family parameters) :=
  if frame.argumentCount = parameters.length then collect arena (supplied frame) 0 parameters
  else .error (.argumentCount frame.argumentCount parameters.length parameters.length)

end Arguments

end NativeBridge
