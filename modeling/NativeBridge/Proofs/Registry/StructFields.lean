import NativeBridge.Derive.Plan
import NativeBridge.Proofs.Call.Passage
import NativeBridge.Proofs.Registry.Uptake

/-!
# Fields of structs

A class that is derived from a struct exposes some of its fields, each under the name of
the field or another one, to be read, to be written or both.  This file ties three things
together: what a field is declared as, what deriving makes of the declaration, and which
members stand in the record of the class once its fields are bound.
-/

namespace NativeBridge

variable {family : ClassFamily} {schema : Schema}

/-! ## Structs -/

/-- Writing one of the two fields leaves what the other one holds. -/
structure Field.Apart {owner : family.Class} (first second : Field family owner) : Prop where
  get_set_right : ∀ data content, first.get (second.set data content) = first.get content
  get_set_left : ∀ data content, second.get (first.set data content) = second.get content

theorem Field.Apart.symm {owner : family.Class} {first second : Field family owner}
    (hapart : first.Apart second) : second.Apart first :=
  ⟨hapart.get_set_left, hapart.get_set_right⟩

/-- A field as it is declared, and as native code reads and writes it. -/
structure StructField (family : ClassFamily) (owner : family.Class) where
  item : Derive.FieldItem
  options : Derive.FieldOptions
  field : Field family owner
  ident_eq : item.ident = some field.name
  options_eq : Derive.FieldOptions.ofAttributes item.attributes = .ok options
  /-- What is written comes as an argument. -/
  writable : options.setter = true → field.type.readable family = true

/-- The fields of a struct, those that are not exposed too. -/
structure Struct (family : ClassFamily) (owner : family.Class) where
  fields : List (StructField family owner)
  apart : fields.Pairwise fun first second => first.field.Apart second.field

namespace StructField

variable {owner : family.Class}

/-- The name under which scripts know the field. -/
def scriptName (declared : StructField family owner) : String :=
  declared.options.name.getD declared.field.name

def accessor (declared : StructField family owner) : Accessor family owner where
  name := declared.scriptName
  field := declared.field
  hasGetter := declared.options.getter
  hasSetter := declared.options.setter
  writable := declared.writable

/-- What deriving should plan for the field: a getter before a setter. -/
def plans (declared : StructField family owner) : List Derive.AccessorPlan :=
  let plan (kind : Derive.AccessorKind) : Derive.AccessorPlan :=
    ⟨kind, declared.scriptName, declared.field.name, declared.item.type⟩
  (if declared.options.getter then [plan .getter] else []) ++
    if declared.options.setter then [plan .setter] else []

end StructField

def Struct.accessors {owner : family.Class} (struct : Struct family owner) :
    List (Accessor family owner) :=
  struct.fields.map (·.accessor)

theorem Struct.apart_of_ne {owner : family.Class} {struct : Struct family owner}
    {first second : Fin struct.fields.length} (hne : first ≠ second) :
    struct.fields[first].field.Apart struct.fields[second].field := by
  rcases Nat.lt_or_gt_of_ne (Fin.val_ne_of_ne hne) with hlt | hgt
  · exact List.pairwise_iff_getElem.mp struct.apart first second first.isLt second.isLt hlt
  · exact (List.pairwise_iff_getElem.mp struct.apart second first second.isLt first.isLt hgt).symm

/-! ## What deriving plans -/

section Derive

open Derive

variable {owner : family.Class}

theorem StructField.item_accessors (declared : StructField family owner) (index : Nat) :
    declared.item.accessors index = .ok declared.plans := by
  rw [FieldItem.accessors, declared.options_eq, declared.ident_eq]
  cases hgetter : declared.options.getter <;> cases hsetter : declared.options.setter <;>
    simp [bind, Except.bind, pure, Except.pure, FieldOptions.isExposed, plans, scriptName, hgetter,
      hsetter]

theorem fieldAccessors_eq_plans (fields : List (StructField family owner)) (index : Nat) :
    fieldAccessors index (fields.map (·.item)) = .ok (fields.flatMap (·.plans)) := by
  induction fields generalizing index with
  | nil => rfl
  | cons first rest ih =>
      rw [List.map_cons, fieldAccessors, first.item_accessors, ih]
      rfl

/-- Deriving plans the accessors of a struct, field by field. -/
theorem Struct.derive_accessors (struct : Struct family owner) {item : Item} {plan : Plan}
    (hderive : item.derive = .ok plan) (hbody : item.body = .struct (struct.fields.map (·.item))) :
    plan.accessors = struct.fields.flatMap (·.plans) := by
  have haccessors : item.body.accessors = .ok (struct.fields.flatMap (·.plans)) := by
    rw [hbody]
    exact fieldAccessors_eq_plans struct.fields 0
  rw [Item.derive, haccessors] at hderive
  cases hoptions : TypeOptions.ofAttributes item.attributes with
  | error error =>
      rw [hoptions] at hderive
      cases hgeneric : item.generics.isEmpty <;> simp [hgeneric, bind, Except.bind] at hderive
  | ok options =>
      rw [hoptions] at hderive
      cases hgeneric : item.generics.isEmpty with
      | false => simp [hgeneric, bind, Except.bind] at hderive
      | true =>
          simp only [hgeneric, bind, Except.bind, pure, Except.pure, Bool.not_true,
            Bool.false_eq_true, if_false, Except.ok.injEq] at hderive
          rw [← hderive]

end Derive

/-! ## Getters and setters -/

variable {owner : schema.Class}

namespace StructField

variable (declared : StructField schema.toClassFamily owner)

/-- The method that reads the field. -/
def getter : NativeMethod schema owner :=
  .getter declared.field.type fun content => pure (declared.field.get content)

variable {declared}

/-- The method that writes the field. -/
def setter (exposed : declared.options.setter = true) : NativeMethod schema owner :=
  .setter (declared.accessor.parameter exposed) fun data =>
    modify fun (content, world) => (declared.field.set data content, world)

variable (declared) {frame : Frame} (state : CallState schema) {content : schema.Content owner}

/-- A getter that is reached writes what the field holds as a script value. -/
theorem getter_call (id : Fingerprint)
    (hintake : frame.intake state.heap.arena owner .empty [] = .ok (content, .nil)) :
    (declared.getter.entry id .empty).call frame state =
      match encode state.heap.arena declared.field.type (declared.field.get content) with
      | .ok (value, arena) => (.ok (), ⟨value, arena, state.heap.world⟩)
      | .error cause => (.error (.result cause), state) := by
  obtain ⟨handle, -, hget, hcall⟩ := declared.getter.entry_call_of_ok id hintake
  have hact : declared.getter.code.act content .nil state.heap.world =
      .ok (declared.field.get content) (content, state.heap.world) := rfl
  simp only [hcall, hact, CallState.afterCode, Arena.put_same content hget]
  rfl

variable {declared}

/-- A setter that is reached puts its argument into the field and returns nil. -/
theorem setter_call (exposed : declared.options.setter = true) (id : Fingerprint)
    {data : declared.field.type.Data schema.toClassFamily}
    (hintake : frame.intake state.heap.arena owner
      (.requiredOnly [(declared.accessor.parameter exposed).tag])
      [declared.accessor.parameter exposed] = .ok (content, .cons data .nil)) :
    ∃ receiver, frame.receiverHandle = .ok receiver ∧
      state.heap.arena.get owner receiver = .ok content ∧
      ((setter exposed).entry id (.requiredOnly [(declared.accessor.parameter exposed).tag])).call
          frame state =
        (.ok (), ⟨.nil, state.heap.arena.put owner receiver (declared.field.set data content),
          state.heap.world⟩) :=
  NativeMethod.setter_call id hintake rfl

end StructField

/-! ## Fields that were bound -/

/-- What the record of a class should say about a method. -/
def NativeMethod.member (method : NativeMethod schema owner) (name : String) (kind : MemberKind)
    (list : ParameterList) : Member schema where
  name
  kind
  id := method.signature.memberId name
  required := list.required
  greatest := some list.arity
  entry := method.entry (method.signature.memberId name) list

namespace BindSite

variable {Vm VmClass : Type} [ScriptHost schema Vm VmClass]
variable {first site after : BindSite schema Vm VmClass} {member : Member schema}

theorem TakesMember.member?_eq (htakes : site.TakesMember member after) :
    after.record.member? member.name = some member := by
  obtain ⟨hfree, hafter⟩ := ClassRecord.addMember_eq_ok htakes.record_eq
  rw [hafter, ClassRecord.member?_append, hfree, if_pos rfl, Option.none_or]

/-- A member stays under its name. -/
theorem Becomes.member?_eq {entries : List (EntryPoint schema)}
    (hbecomes : first.Becomes entries site) {name : String}
    (hfirst : first.record.member? name = some member) :
    site.record.member? name = some member := by
  induction hbecomes with
  | refl => exact hfirst
  | member _ htakes ih =>
      rw [(ClassRecord.addMember_eq_ok htakes.record_eq).2, ClassRecord.member?_append, ih,
        Option.some_or]
  | constructor _ htakes ih =>
      rw [(ClassRecord.setConstructor_eq_ok htakes.record_eq).2]
      exact ih

end BindSite

namespace Declaration

variable {Vm VmClass : Type} [ScriptHost schema Vm VmClass]
variable {site after : BindSite schema Vm VmClass}

/-- Each of several accepted declarations was accepted at some site on the way. -/
theorem forM_accepted {declarations : List (Declaration schema owner)}
    (hsingle : ∀ declaration ∈ declarations, declaration.isSingle = true)
    (howner : site.record.owner = owner) (haccepted : declarations.forM bind site = .ok () after)
    {declaration : Declaration schema owner} (hmem : declaration ∈ declarations) :
    ∃ before next entries, before.record.owner = owner ∧
      declaration.bind before = .ok () next ∧ next.Becomes entries after := by
  induction declarations generalizing site with
  | nil => cases hmem
  | cons first rest ih =>
      have hrest : ∀ declaration ∈ rest, declaration.isSingle = true := fun declaration hmem =>
        hsingle declaration (List.mem_cons_of_mem _ hmem)
      obtain ⟨middle, hfirst, hothers⟩ := forM_cons_eq_ok.mp haccepted
      have hstep := becomes_of_isSingle (hsingle first List.mem_cons_self) howner hfirst
      have hmiddle := hstep.owner_eq.trans howner
      rcases List.mem_cons.mp hmem with rfl | hlater
      · exact ⟨site, middle, _, howner, hfirst, forM_becomes hrest hmiddle hothers⟩
      · exact ih hrest hmiddle hothers hlater

/-- The parts of an accepted declaration were accepted, and stay. -/
theorem part_accepted {declaration part : Declaration schema owner}
    (howner : site.record.owner = owner) (haccepted : declaration.bind site = .ok () after)
    (hpart : part ∈ declaration.parts) :
    ∃ before next entries, before.record.owner = owner ∧
      part.bind before = .ok () next ∧ next.Becomes entries after := by
  rw [bind_eq_parts] at haccepted
  exact forM_accepted (fun part hpart => isSingle_of_mem_parts hpart) howner haccepted hpart

end Declaration

namespace Binding

variable {Vm VmClass : Type} [ScriptHost schema Vm VmClass]
variable {site after : BindSite schema Vm VmClass}

theorem bindMethodEntry_member?_eq {method : NativeMethod schema owner} {name : String}
    {kind : MemberKind} {list : ParameterList} (hlist : list.Bound method.parameters)
    (howner : site.record.owner = owner)
    (haccepted : bindMethodEntry name kind method list site = .ok () after) :
    after.record.member? name = some (method.member name kind list) := by
  subst howner
  have htakes : site.TakesMember (method.member name kind list) after :=
    bindMember_takes rfl (fun _ => .method name kind method _ hlist) haccepted
  exact htakes.member?_eq

end Binding

namespace Struct

variable {Vm VmClass : Type} [ScriptHost schema Vm VmClass]
variable {site after : BindSite schema Vm VmClass} {struct : Struct schema.toClassFamily owner}
variable {declared : StructField schema.toClassFamily owner}

/-- When the fields of a struct were bound, what is on record under the name of a field that
may be read is its getter. -/
theorem getter_bound (howner : site.record.owner = owner)
    (haccepted : (Declaration.fields struct.accessors).bind site = .ok () after)
    (hdeclared : declared ∈ struct.fields) (exposed : declared.options.getter = true) :
    after.record.member? declared.scriptName =
      some (declared.getter.member declared.scriptName .getter .empty) := by
  have hpart : Declaration.getter declared.scriptName declared.field.type
      (fun content => pure (declared.field.get content)) ∈
        (Declaration.fields struct.accessors).parts := by
    refine List.mem_flatMap.mpr ⟨declared.accessor, List.mem_map_of_mem hdeclared, ?_⟩
    refine List.mem_append_left _ ?_
    rw [if_pos (show declared.accessor.hasGetter = true from exposed)]
    exact List.mem_singleton_self _
  obtain ⟨before, next, entries, hbefore, hpart, hnext⟩ :=
    Declaration.part_accepted howner haccepted hpart
  rw [Declaration.bind, Binding.bindGetter_eq] at hpart
  exact hnext.member?_eq (Binding.bindMethodEntry_member?_eq .required hbefore hpart)

/-- So is the setter of a field that may be written, under the name that the machine gives
it. -/
theorem setter_bound (howner : site.record.owner = owner)
    (haccepted : (Declaration.fields struct.accessors).bind site = .ok () after)
    (hdeclared : declared ∈ struct.fields) (exposed : declared.options.setter = true) :
    ∃ vm : Vm, after.record.member? (ScriptHost.setterName vm declared.scriptName) =
      some ((StructField.setter exposed).member (ScriptHost.setterName vm declared.scriptName)
        .setter (.requiredOnly [(declared.accessor.parameter exposed).tag])) := by
  have hpart : Declaration.setter declared.scriptName (declared.accessor.parameter exposed)
      (fun data => modify fun (content, world) => (declared.field.set data content, world)) ∈
        (Declaration.fields struct.accessors).parts := by
    refine List.mem_flatMap.mpr ⟨declared.accessor, List.mem_map_of_mem hdeclared, ?_⟩
    refine List.mem_append_right _ ?_
    rw [dif_pos (show declared.accessor.hasSetter = true from exposed)]
    exact List.mem_singleton_self _
  obtain ⟨before, next, entries, hbefore, hpart, hnext⟩ :=
    Declaration.part_accepted howner haccepted hpart
  rw [Declaration.bind, Binding.bindSetter_eq] at hpart
  refine ⟨before.vm, hnext.member?_eq ?_⟩
  exact Binding.bindMethodEntry_member?_eq .required hbefore hpart

end Struct

end NativeBridge
