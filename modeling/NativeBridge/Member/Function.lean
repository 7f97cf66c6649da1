import NativeBridge.Call.Entry
import NativeBridge.Member.Signature

/-!
# Native functions and their entry points

A native function is typed code: it takes native arguments, and as a method also what
its receiver holds.  Its entry point does what lies between such code and a script:
it unwraps the receiver, converts the arguments, runs the code and converts the
result, in this order.
-/

namespace NativeBridge

variable {schema : Schema}

structure NativeConstructor (schema : Schema) (owner : schema.Class) where
  parameters : List (ParameterType schema.toClassFamily)
  code : Arguments schema.toClassFamily parameters → Task schema.World (schema.Content owner)

/-- The code of a method: it reads its receiver, or it may write to it too. -/
inductive MethodCode (schema : Schema) (owner : schema.Class) (Given Outcome : Type) where
  | reads (code : schema.Content owner → Given → Task schema.World Outcome)
  | writes (code : Given → Task (schema.Content owner × schema.World) Outcome)

structure NativeMethod (schema : Schema) (owner : schema.Class) where
  parameters : List (ParameterType schema.toClassFamily)
  result : NativeType schema.Class
  code : MethodCode schema owner (Arguments schema.toClassFamily parameters)
    (result.Data schema.toClassFamily)

def MethodCode.exclusive {owner : schema.Class} {Given Outcome : Type} :
    MethodCode schema owner Given Outcome → Bool
  | reads _ => false
  | writes _ => true

namespace NativeConstructor

variable {owner : schema.Class}

/-- The identity of the constructor, from its class and its parameters. -/
def id (constructor : NativeConstructor schema owner) : Fingerprint :=
  .ofConstructor ((NativeType.object owner).fingerprint schema.toClassFamily)
    (constructor.parameters.map (·.tag.fingerprint))

/-- Converts the arguments, makes the instance and lends it. -/
def entry (constructor : NativeConstructor schema owner) (list : ParameterList) :
    EntryPoint schema where
  id := constructor.id
  body frame := do
    let arguments ← Native.arguments frame list constructor.parameters
    let content ← Native.run (constructor.code arguments)
    let value ← Native.lend ⟨owner, content⟩
    Native.setReturnValue value

end NativeConstructor

namespace NativeMethod

variable {owner : schema.Class}

def signature (method : NativeMethod schema owner) : Signature :=
  .ofTypes owner method.parameters method.result method.code.exclusive

/-- Unwraps the receiver, converts the arguments, runs the code and converts the
result. -/
def entry (method : NativeMethod schema owner) (id : Fingerprint) (list : ParameterList) :
    EntryPoint schema where
  id
  body frame := do
    let content ← Native.receiver frame owner
    let arguments ← Native.arguments frame list method.parameters
    let data ←
      match method.code with
      | .reads code => Native.run (code content arguments)
      | .writes code => Native.runOnReceiver frame owner (code arguments)
    Native.setReturn method.result data

/-- The method behind a reader: it has no parameters. -/
def getter (result : NativeType schema.Class)
    (code : schema.Content owner → Task schema.World (result.Data schema.toClassFamily)) :
    NativeMethod schema owner where
  parameters := []
  result
  code := .reads fun content _ => code content

/-- The method behind a writer: it has one parameter and gives nothing. -/
def setter (parameter : ParameterType schema.toClassFamily)
    (code : parameter.Data → Task (schema.Content owner × schema.World) Unit) :
    NativeMethod schema owner where
  parameters := [parameter]
  result := .void
  code := .writes fun | .cons data .nil => code data

end NativeMethod

def defaultAllocation (owner : schema.Class) (initial : Task schema.World (schema.Content owner)) :
    EntryPoint schema where
  id := .ofConstructor ((NativeType.object owner).fingerprint schema.toClassFamily) []
  body frame := do
    let _ ← Native.exactArguments frame []
    let content ← Native.run initial
    let value ← Native.lend ⟨owner, content⟩
    Native.setReturnValue value

/-- The entry point of a class whose instances scripts cannot make. -/
def refusedAllocation (owner : schema.Class) (className : String) : EntryPoint schema where
  id := .ofConstructor ((NativeType.object owner).fingerprint schema.toClassFamily) []
  body _ := throw (.failed (.noConstructor className))

def copySignature (owner : schema.Class) : Signature :=
  .ofTypes owner [] (.object owner) false

/-- The entry point that lends a copy of the receiver, made by `duplicate`.  It looks at the
number of arguments before it looks at the receiver. -/
def duplicateEntry (owner : schema.Class)
    (duplicate : schema.Content owner → Task schema.World (schema.Content owner))
    (id : Fingerprint) : EntryPoint schema where
  id
  body frame := do
    let _ ← Native.exactArguments frame []
    let content ← Native.receiver frame owner
    let copy ← Native.run (duplicate content)
    let value ← Native.lend ⟨owner, copy⟩
    Native.setReturnValue value

end NativeBridge
