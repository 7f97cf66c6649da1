import NativeBridge.Derive.Options

/-!
# The plan of a derived class

What deriving makes of an item: the script name, the abilities of the class, and one
accessor for each field that scripts may read or write, in the order of the fields.
-/

namespace NativeBridge.Derive

/-- What a class can do once it is derived. -/
inductive Ability where
  /-- It has a script name and a fingerprint. -/
  | scriptType
  | nativeClass
  | intoValue
  | fromValue
  /-- Its exposed fields can be bound. -/
  | scriptFields
deriving DecidableEq

def Ability.name : Ability → String
  | scriptType => "ScriptType"
  | nativeClass => "NativeClass"
  | intoValue => "IntoValue"
  | fromValue => "FromValue"
  | scriptFields => "ScriptFields"

/-- Whether an accessor reads or writes. -/
inductive AccessorKind where
  | getter
  | setter
deriving DecidableEq

/-- An accessor of a field, under a script name. -/
structure AccessorPlan where
  kind : AccessorKind
  name : String
  field : String
  type : String
deriving DecidableEq

structure Plan where
  target : String
  name : String
  abilities : List Ability
  accessors : List AccessorPlan
deriving DecidableEq

/-- The accessors of one field: a getter before a setter. -/
def FieldItem.accessors (field : FieldItem) (index : Nat) :
    Except DeriveError (List AccessorPlan) := do
  let options ← FieldOptions.ofAttributes field.attributes
  if !options.isExposed then return []
  match field.ident with
  | none => .error (.unnamedField index)
  | some ident =>
    let name := options.name.getD ident
    let getter := if options.getter then [⟨.getter, name, ident, field.type⟩] else []
    let setter := if options.setter then [⟨.setter, name, ident, field.type⟩] else []
    return getter ++ setter

/-- The accessors of fields, counted from `index`. -/
def fieldAccessors (index : Nat) : List FieldItem → Except DeriveError (List AccessorPlan)
  | [] => .ok []
  | field :: rest => do
    let accessors ← field.accessors index
    let others ← fieldAccessors (index + 1) rest
    return accessors ++ others

/-- Checks that a field of a variant is not exposed. -/
def FieldItem.checkHidden (field : FieldItem) : Except DeriveError Unit := do
  let options ← FieldOptions.ofAttributes field.attributes
  if options.isExposed then .error .variantField

/-- The accessors of a body.  Only a struct has any. -/
def Body.accessors : Body → Except DeriveError (List AccessorPlan)
  | struct fields => fieldAccessors 0 fields
  | union _ => .ok []
  | enum variants => do
    variants.forM fun variant => variant.fields.forM FieldItem.checkHidden
    return []

/-- The abilities of a class; only a value class can be an argument. -/
def abilities (byValue : Bool) : List Ability :=
  [.scriptType, .nativeClass, .intoValue] ++ (if byValue then [.fromValue] else [])
    ++ [.scriptFields]

def Item.derive (item : Item) : Except DeriveError Plan := do
  if !item.generics.isEmpty then .error .genericType
  let options ← TypeOptions.ofAttributes item.attributes
  let accessors ← item.body.accessors
  return {
    target := item.ident
    name := options.name.getD item.ident
    abilities := abilities options.byValue
    accessors }

end NativeBridge.Derive
