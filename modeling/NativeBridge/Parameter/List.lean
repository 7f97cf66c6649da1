import NativeBridge.Call.Error
import NativeBridge.Registry.Error

/-!
# Parameter lists

What a member declares about its parameters, matched against the types that the
native function takes.  Required parameters come first; each optional one carries
the value that stands for it when a call leaves it out.
-/

namespace NativeBridge

inductive ParameterMode where
  | required
  | optional (default : Default)

/-- A parameter with its type and, when it is optional, its default. -/
structure Parameter where
  tag : TypeTag
  default : Option Value

/-- The parameters of a bound member.  The first `required` of them have no default. -/
structure ParameterList where
  parameters : List Parameter
  required : Nat

namespace ParameterList

def empty : ParameterList := ⟨[], 0⟩

def requiredOnly (tags : List TypeTag) : ParameterList where
  parameters := tags.map fun tag => ⟨tag, none⟩
  required := tags.length

/-- The default of the parameter at `index`, or why it cannot have it.  `required`
counts the required parameters before it. -/
def defaultFor (member : String) (index required : Nat) (tag : TypeTag) :
    ParameterMode → Except BindError (Option Value)
  | .required =>
    if required < index then .error (.requiredAfterOptional member index) else .ok none
  | .optional default =>
    if tag.kind = .wrapped then .error (.defaultForInstance tag.name member index)
    else
      match default.evaluate with
      | .ok value => .ok (some value)
      | .error fault => .error (.invalidDefault member index fault)

/-- Matches modes with types from the parameter at `index` on. -/
def resolveFrom (member : String) (index required : Nat) :
    List TypeTag → List ParameterMode → Except BindError ParameterList
  | tag :: tags, mode :: modes =>
    match defaultFor member index required tag mode with
    | .error error => .error error
    | .ok default =>
      let required := if default.isNone then required + 1 else required
      match resolveFrom member (index + 1) required tags modes with
      | .error error => .error error
      | .ok rest => .ok { rest with parameters := ⟨tag, default⟩ :: rest.parameters }
  | _, _ => .ok ⟨[], required⟩

/-- Matches the modes a member declares with the types of its parameters. -/
def resolve (member : String) (tags : List TypeTag) (modes : List ParameterMode) :
    Except BindError ParameterList :=
  if modes.length = tags.length then resolveFrom member 0 0 tags modes
  else .error (.parameterCount member modes.length tags.length)

def arity (list : ParameterList) : Nat :=
  list.parameters.length

def defaultAt (list : ParameterList) (index : Nat) : Option Value :=
  list.parameters[index]?.bind (·.default)

def countError (list : ParameterList) (given : Nat) : CallError :=
  .argumentCount given list.required list.arity

def checkCount (list : ParameterList) (given : Nat) : Except CallError Unit :=
  if given < list.required ∨ list.arity < given then .error (list.countError given) else .ok ()

variable {family : ClassFamily}

/-- Converts every default from `index` on, as a call that leaves it out would. -/
def checkDefaultsFrom (member : String) (list : ParameterList) (index : Nat) :
    List (ParameterType family) → Except BindError Unit
  | [] => .ok ()
  | parameter :: rest =>
    match list.defaultAt index with
    | none => checkDefaultsFrom member list (index + 1) rest
    | some default =>
      match parameter.decode Arena.empty default with
      | .ok _ => checkDefaultsFrom member list (index + 1) rest
      | .error cause => .error (.invalidDefault member index (.conversion cause))

/-- The parameter list of a member: its modes matched with its types, and its
defaults tried out. -/
def declare (member : String) (types : List (ParameterType family))
    (modes : List ParameterMode) : Except BindError ParameterList :=
  match resolve member (types.map (·.tag)) modes with
  | .error error => .error error
  | .ok list =>
    match checkDefaultsFrom member list 0 types with
    | .error error => .error error
    | .ok () => .ok list

end ParameterList

end NativeBridge
