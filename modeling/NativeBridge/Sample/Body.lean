import NativeBridge.Member.Function
import NativeBridge.Sample.World

/-!
# Function bodies

Native functions over the sample classes, written as lists of actions.  The actions
run in order on what the receiver holds until one of them returns or panics, and at
the end the body notes its arguments.
-/

namespace NativeBridge.Sample

/-- One action of a function body.  Arguments are counted from zero. -/
inductive BodyAction where
  /-- Sets a field of the receiver to an argument. -/
  | set (field : String) (argument : Nat)
  /-- Takes the attack of an argument from the hit points of the receiver; both are
  monsters. -/
  | damage (argument : Nat)
  | panic (payload : Panic)
  | returnArgument (argument : Nat)
  | returnConstant (datum : Datum family)
  | returnField (field : String)

inductive BodyEnd where
  | returned (datum : Datum family)
  | panicked (payload : Panic)
  /-- An action does not suit the function it stands in. -/
  | unsuited

def lessOrZero (left right : Word32) : Word32 :=
  if fits : IntegerType.u32.Holds (left.val - right.val) then ⟨_, fits⟩ else default

/-- What a monster holds after the attack of another. -/
def Monster.damagedBy (monster attacker : Monster) : Monster :=
  { monster with hp := lessOrZero monster.hp attacker.atk }

/-- The content of an instance after the attack of a monster, if it is a monster. -/
def damaged? : (owner : SampleClass) → owner.Content → Datum family → Option owner.Content
  | .monster, monster, datum => (datum.as? (.object .monster)).map monster.damagedBy
  | _, _, _ => none

/-- The content of an instance with a field set to a datum of the field's type. -/
def withField? (owner : SampleClass) (content : owner.Content) (name : String)
    (datum : Datum family) : Option owner.Content := do
  let field ← field? owner name
  let data ← datum.as? field.type
  return field.set data content

/-- Runs actions on the content of a receiver.  Running off the end returns nothing. -/
def runActions (owner : SampleClass) (arguments : List (Datum family)) :
    List BodyAction → owner.Content → BodyEnd × owner.Content
  | [], content => (.returned ⟨.void, ()⟩, content)
  | .set field argument :: rest, content =>
    match arguments[argument]?.bind (withField? owner content field) with
    | some content => runActions owner arguments rest content
    | none => (.unsuited, content)
  | .damage argument :: rest, content =>
    match arguments[argument]?.bind (damaged? owner content) with
    | some content => runActions owner arguments rest content
    | none => (.unsuited, content)
  | .panic payload :: _, content => (.panicked payload, content)
  | .returnArgument argument :: _, content =>
    match arguments[argument]? with
    | some datum => (.returned datum, content)
    | none => (.unsuited, content)
  | .returnConstant datum :: _, content => (.returned datum, content)
  | .returnField name :: _, content =>
    match field? owner name with
    | some field => (.returned ⟨field.type, field.get content⟩, content)
    | none => (.unsuited, content)

/-- The panic of a body that does not suit its function. -/
def unsuitedBody : Panic := .text "the body does not suit its function"

def performBody (owner : SampleClass) (actions : List BodyAction)
    (arguments : List (Datum family)) : Task (owner.Content × Notes) (Datum family) :=
  fun (content, notes) =>
    let (ending, content) := runActions owner arguments actions content
    match ending with
    | .unsuited => .error unsuitedBody (content, notes)
    | .panicked payload => .error payload (content, notes.add (.arguments arguments))
    | .returned datum => .ok datum (content, notes.add (.arguments arguments))

/-- Runs a body whose result must have the type `result`. -/
def runBody (owner : SampleClass) (actions : List BodyAction) (arguments : List (Datum family))
    (result : NativeType SampleClass) : Task (owner.Content × Notes) (result.Data family) := do
  let datum ← performBody owner actions arguments
  match datum.as? result with
  | some data => return data
  | none => throw unsuitedBody

/-- Runs a body on a copy of the receiver's content. -/
def readBody (owner : SampleClass) (actions : List BodyAction) (arguments : List (Datum family))
    (result : NativeType SampleClass) (content : owner.Content) :
    Task Notes (result.Data family) := fun notes =>
  match runBody owner actions arguments result (content, notes) with
  | .ok data (_, notes) => .ok data notes
  | .error payload (_, notes) => .error payload notes

/-- The constructor that runs a body on a given content. -/
def constructorOf (owner : SampleClass) (parameters : List (ParameterType family))
    (start : owner.Content) (actions : List BodyAction) : NativeConstructor schema owner where
  parameters
  code arguments := fun notes =>
    match performBody owner actions arguments.toList (start, notes) with
    | .ok _ (content, notes) => .ok content notes
    | .error payload (_, notes) => .error payload notes

/-- The method that runs a body on its receiver. -/
def methodOf (owner : SampleClass) (exclusive : Bool) (parameters : List (ParameterType family))
    (result : NativeType SampleClass) (actions : List BodyAction) :
    NativeMethod schema owner where
  parameters
  result
  code :=
    if exclusive then .writes fun arguments => runBody owner actions arguments.toList result
    else .reads fun content arguments => readBody owner actions arguments.toList result content

def getterOf (owner : SampleClass) (result : NativeType SampleClass) (actions : List BodyAction) :
    owner.Content → Task Notes (result.Data family) :=
  readBody owner actions [] result

/-- The code of a setter that runs a body; what the body returns is not used. -/
def setterOf (owner : SampleClass) (parameter : ParameterType family)
    (actions : List BodyAction) (data : parameter.Data) :
    Task (owner.Content × Notes) Unit := do
  let _ ← performBody owner actions [⟨parameter.type, data⟩]

/-- The declaration of a getter and a setter whose bodies read and write one field. -/
def propertyOf (owner : SampleClass) (name : String) (parameter : ParameterType family)
    (field : String) : Declaration schema owner :=
  .property name parameter (getterOf owner parameter.type [.returnField field])
    (setterOf owner parameter [.set field 0])

end NativeBridge.Sample
