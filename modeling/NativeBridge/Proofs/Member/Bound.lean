import NativeBridge.Proofs.Call.Program
import NativeBridge.Proofs.Conversion.Instances
import NativeBridge.Proofs.Parameter.Resolution
import NativeBridge.Registry.Record

/-!
# Parameter lists and entry points of bound members

A member is bound with a list that was declared for its parameters, or with one in which
all of them are required.  In such a list no parameter that takes a class instance has a
default, so that every instance that native code receives comes from a slot of the call.
-/

namespace NativeBridge

namespace ParameterList

variable {family : ClassFamily}

/-- The lists with which the bridge binds members. -/
inductive Bound (parameters : List (ParameterType family)) : ParameterList → Prop
  | declared {member : String} {modes : List ParameterMode} {list : ParameterList}
      (hdeclare : declare member parameters modes = .ok list) : Bound parameters list
  | required : Bound parameters (requiredOnly (parameters.map (·.tag)))

theorem Bound.fits {parameters : List (ParameterType family)} {list : ParameterList}
    (hbound : list.Bound parameters) : list.Fits parameters := by
  cases hbound with
  | declared hdeclare => exact fits_of_declare hdeclare
  | required => exact requiredOnly_fits

/-- A list with which a member is bound was declared, if only as one without defaults. -/
theorem Bound.exists_declare {parameters : List (ParameterType family)} {list : ParameterList}
    (hbound : list.Bound parameters) :
    ∃ member modes, declare member parameters modes = .ok list := by
  cases hbound with
  | declared hdeclare => exact ⟨_, _, hdeclare⟩
  | required => exact ⟨"", _, declare_required "" parameters⟩

/-- Instances have no defaults. -/
theorem Bound.defaultAt_eq_none {parameters : List (ParameterType family)} {list : ParameterList}
    (hbound : list.Bound parameters) {index : Nat} {parameter : ParameterType family}
    {owner : family.Class} (hparameter : parameters[index]? = some parameter)
    (hheld : parameter.type.held? = some owner) : list.defaultAt index = none := by
  have htag : (parameters.map (·.tag))[index]? = some parameter.tag := by
    rw [List.getElem?_map, hparameter, Option.map_some]
  cases hbound with
  | declared hdeclare =>
      exact resolveFrom_defaultAt (of_declare hdeclare).2.1 htag (NativeType.kind_of_held? hheld)
  | required => simp [defaultAt, requiredOnly, hparameter]

end ParameterList

section Member

variable {schema : Schema} {owner : schema.Class} {member : Member schema}

/-- Entry points are bound with a list for the parameters of the code that they are made from. -/
def Origin.Bound : Origin schema → Prop
  | constructor code list => list.Bound code.parameters
  | method code _ list => list.Bound code.parameters
  | allocation .. | refusal .. | copy .. => True

/-- The entry point was made for a class, from something that belongs to the class and has its
parameters in order. -/
def EntryPoint.BoundFor (entry : EntryPoint schema) (owner : schema.Class) : Prop :=
  ∃ origin : Origin schema, origin.Bound ∧ origin.owner = owner ∧ origin.entry = entry

/-- The members that declarations make for a class, hand-written ones apart.  What is on
record about the number of arguments is what the entry point goes by. -/
inductive Member.Made {schema : Schema} (owner : schema.Class) : Member schema → Prop
  | method (name : String) (kind : MemberKind) (code : NativeMethod schema owner)
      (id : Fingerprint) {list : ParameterList} (hlist : list.Bound code.parameters) :
      Made owner
        { name, kind, id, required := list.required, greatest := some list.arity,
          entry := code.entry id list }
  | copy (name : String) (kind : MemberKind)
      (duplicate : schema.Content owner → Task schema.World (schema.Content owner))
      (id : Fingerprint) :
      Made owner
        { name, kind, id, required := 0, greatest := some 0,
          entry := duplicateEntry owner duplicate id }

inductive Member.MadeConstructor {schema : Schema} (owner : schema.Class) : Member schema → Prop
  | of (name : String) (kind : MemberKind) (code : NativeConstructor schema owner)
      {list : ParameterList} (hlist : list.Bound code.parameters) :
      MadeConstructor owner
        { name, kind, id := code.id, required := list.required, greatest := some list.arity,
          entry := code.entry list }

theorem Member.Made.boundFor (hmade : member.Made owner) : member.entry.BoundFor owner := by
  cases hmade with
  | method name kind code id hlist => exact ⟨.method code id _, hlist, rfl, rfl⟩
  | copy name kind duplicate id => exact ⟨.copy owner duplicate id, trivial, rfl, rfl⟩

theorem Member.MadeConstructor.boundFor (hmade : member.MadeConstructor owner) :
    member.entry.BoundFor owner := by
  cases hmade with
  | of name kind code hlist => exact ⟨.constructor code _, hlist, rfl, rfl⟩

end Member

end NativeBridge
