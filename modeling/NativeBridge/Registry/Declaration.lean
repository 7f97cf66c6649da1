import NativeBridge.Member.Overload
import NativeBridge.Registry.Record

/-!
# Declaring members

What an embedding program may declare on a registered class, and what a declaration
does: the record of the class takes up the member, and then the virtual machine
receives its entry point.  A declaration that is rejected at any step leaves what the
steps before it did.
-/

namespace NativeBridge

/-- A field of the instances of a class.  Reading after writing gives what was
written. -/
structure Field (family : ClassFamily) (owner : family.Class) where
  name : String
  type : NativeType family.Class
  get : family.Content owner → type.Data family
  set : type.Data family → family.Content owner → family.Content owner
  get_set : ∀ content data, get (set data content) = data

/-- How scripts may use a field: under which name, and whether they may read it or
write it.  A field can be written only if its type is readable. -/
structure Accessor (family : ClassFamily) (owner : family.Class) where
  name : String
  field : Field family owner
  hasGetter : Bool
  hasSetter : Bool
  writable : hasSetter = true → field.type.readable family = true

def Accessor.parameter {family : ClassFamily} {owner : family.Class}
    (accessor : Accessor family owner) (written : accessor.hasSetter = true) :
    ParameterType family :=
  ⟨accessor.field.type, accessor.writable written⟩

inductive Declaration (schema : Schema) (owner : schema.Class) where
  /-- The way to make instances, with the modes of its parameters; without modes all
  are required. -/
  | constructor (modes : Option (List ParameterMode)) (code : NativeConstructor schema owner)
  | method (name : String) (modes : Option (List ParameterMode))
      (code : NativeMethod schema owner)
  | getter (name : String) (result : NativeType schema.Class)
      (code : schema.Content owner → Task schema.World (result.Data schema.toClassFamily))
  /-- A writer with one parameter; the virtual machine chooses its name. -/
  | setter (name : String) (parameter : ParameterType schema.toClassFamily)
      (code : parameter.Data → Task (schema.Content owner × schema.World) Unit)
  /-- A reader and a writer of one type. -/
  | property (name : String) (parameter : ParameterType schema.toClassFamily)
      (get : schema.Content owner → Task schema.World parameter.Data)
      (set : parameter.Data → Task (schema.Content owner × schema.World) Unit)
  | fields (accessors : List (Accessor schema.toClassFamily owner))
  /-- The method of a set that a signature names. -/
  | overload (set : OverloadSet schema owner) (wanted : Option Signature)
      (modes : List ParameterMode)
  | raw (name : String) (required : Nat) (body : Frame → Native schema Unit)
  /-- A method that lends copies of its receiver, which hold what it holds unless they are
  made in another way. -/
  | copy (name : String)
      (duplicate : schema.Content owner → Task schema.World (schema.Content owner) := pure)

/-- Where declarations take effect: a virtual machine and the record of one class. -/
structure BindSite (schema : Schema) (Vm VmClass : Type) where
  vm : Vm
  record : ClassRecord schema VmClass

/-- A change of a bind site that may be rejected. -/
abbrev Binding (schema : Schema) (Vm VmClass Outcome : Type) : Type :=
  EStateM BindError (BindSite schema Vm VmClass) Outcome

namespace Binding

variable {schema : Schema} {Vm VmClass : Type} [ScriptHost schema Vm VmClass]

def ofExcept {Outcome : Type} (outcome : Except BindError Outcome) :
    Binding schema Vm VmClass Outcome :=
  match outcome with
  | .ok value => pure value
  | .error error => throw error

/-- Records a member and hands its entry point to the virtual machine. -/
def bindMember (member : Member schema) : Binding schema Vm VmClass Unit := do
  let site ← get
  let record ← ofExcept (site.record.addMember member)
  set ({
    vm := ScriptHost.defineMethod site.vm record.vmClass member.name member.required member.entry
    record } : BindSite schema Vm VmClass)

/-- The modes of parameters that are all required, unless others are declared. -/
def modesFor {family : ClassFamily} (parameters : List (ParameterType family))
    (modes : Option (List ParameterMode)) : List ParameterMode :=
  modes.getD (List.replicate parameters.length .required)

/-- Binds the way to make instances, in place of the allocation the class had. -/
def bindConstructor {owner : schema.Class} (modes : Option (List ParameterMode))
    (code : NativeConstructor schema owner) : Binding schema Vm VmClass Unit := do
  let list ← ofExcept (ParameterList.declare "new" code.parameters (modesFor code.parameters modes))
  let entry := code.entry list
  let site ← get
  let record ← ofExcept (site.record.setConstructor
    { name := "new"
      kind := .constructor
      id := code.id
      required := list.required
      greatest := some list.arity
      entry })
  set ({
    vm := ScriptHost.setLifecycle site.vm record.vmClass entry record.finalizer
    record } : BindSite schema Vm VmClass)

/-- Binds a method whose parameter list is settled. -/
def bindMethodEntry {owner : schema.Class} (name : String) (kind : MemberKind)
    (method : NativeMethod schema owner) (list : ParameterList) :
    Binding schema Vm VmClass Unit :=
  let id := method.signature.memberId name
  bindMember
    { name
      kind
      id
      required := list.required
      greatest := some list.arity
      entry := method.entry id list }

/-- Binds a method with declared parameter modes. -/
def bindMethod {owner : schema.Class} (name : String) (modes : List ParameterMode)
    (method : NativeMethod schema owner) : Binding schema Vm VmClass Unit := do
  let list ← ofExcept (ParameterList.declare name method.parameters modes)
  bindMethodEntry name .method method list

/-- Binds a reader.  What is on record about it are no arguments. -/
def bindGetter {owner : schema.Class} (name : String) (result : NativeType schema.Class)
    (code : schema.Content owner → Task schema.World (result.Data schema.toClassFamily)) :
    Binding schema Vm VmClass Unit :=
  let method : NativeMethod schema owner := .getter result code
  let id := method.signature.memberId name
  bindMember
    { name
      kind := .getter
      id
      required := 0
      greatest := some 0
      entry := method.entry id .empty }

/-- Binds a writer under the name that the virtual machine gives it.  What is on record
about it is one argument. -/
def bindSetter {owner : schema.Class} (name : String)
    (parameter : ParameterType schema.toClassFamily)
    (code : parameter.Data → Task (schema.Content owner × schema.World) Unit) :
    Binding schema Vm VmClass Unit := do
  let scriptName := ScriptHost.setterName (← get).vm name
  let method : NativeMethod schema owner := .setter parameter code
  let id := method.signature.memberId scriptName
  bindMember
    { name := scriptName
      kind := .setter
      id
      required := 1
      greatest := some 1
      entry := method.entry id (.requiredOnly [parameter.tag]) }

/-- Binds the reader and the writer of a field, as far as the accessor allows them. -/
def bindAccessor {owner : schema.Class} (accessor : Accessor schema.toClassFamily owner) :
    Binding schema Vm VmClass Unit := do
  if accessor.hasGetter then
    bindGetter accessor.name accessor.field.type fun content => pure (accessor.field.get content)
  if written : accessor.hasSetter = true then
    bindSetter accessor.name (accessor.parameter written) fun data =>
      modify fun (content, world) => (accessor.field.set data content, world)

/-- Binds the method of a set that a signature names, under the name of the set.  Once the
method is chosen, only what is left of it without its types is used. -/
def bindOverload {owner : schema.Class} (set : OverloadSet schema owner)
    (wanted : Option Signature) (modes : List ParameterMode) :
    Binding schema Vm VmClass Unit := do
  let candidate := (← ofExcept (set.select wanted)).candidate
  let list ← ofExcept (candidate.declare set.name modes)
  let id := candidate.signature.memberId set.name
  bindMember
    { name := set.name
      kind := .method
      id
      required := list.required
      greatest := some list.arity
      entry := candidate.makeEntry id list }

/-- Binds a hand-written entry point.  Its identity does not depend on what it does. -/
def bindRaw (owner : schema.Class) (name : String) (required : Nat)
    (body : Frame → Native schema Unit) : Binding schema Vm VmClass Unit :=
  let id := Fingerprint.ofMethod ((NativeType.object owner).fingerprint schema.toClassFamily)
    name [] true
  bindMember { name, kind := .raw, id, required, greatest := none, entry := { id, body } }

/-- Binds a method that lends copies of its receiver, made by `duplicate`. -/
def bindCopy (owner : schema.Class) (name : String)
    (duplicate : schema.Content owner → Task schema.World (schema.Content owner)) :
    Binding schema Vm VmClass Unit :=
  let id := (copySignature owner).memberId name
  bindMember
    { name
      kind := .method
      id
      required := 0
      greatest := some 0
      entry := duplicateEntry owner duplicate id }

end Binding

namespace Declaration

variable {schema : Schema} {owner : schema.Class} {Vm VmClass : Type}
  [ScriptHost schema Vm VmClass]

def bind : Declaration schema owner → Binding schema Vm VmClass Unit
  | constructor modes code => Binding.bindConstructor modes code
  | method name modes code => Binding.bindMethod name (Binding.modesFor code.parameters modes) code
  | getter name result code => Binding.bindGetter name result code
  | setter name parameter code => Binding.bindSetter name parameter code
  | property name parameter get set => do
    Binding.bindGetter name parameter.type get
    Binding.bindSetter name parameter set
  | fields accessors => accessors.forM Binding.bindAccessor
  | overload set wanted modes => Binding.bindOverload set wanted modes
  | raw name required body => Binding.bindRaw owner name required body
  | copy name duplicate => Binding.bindCopy owner name duplicate

end Declaration

end NativeBridge
