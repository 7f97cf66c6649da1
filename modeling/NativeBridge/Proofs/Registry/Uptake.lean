import NativeBridge.Bridge
import NativeBridge.Proofs.Member.Bound
import NativeBridge.Proofs.Registry.Atomicity
import NativeBridge.Proofs.Registry.FaithfulHost

/-!
# What declarations hand to the virtual machine

The record of a class and the virtual machine hold the same entry points, each in its own
way.  Declarations change both, one entry point at a time, and some of them are rejected
in the middle.  This file describes what any declarations do as a path of single steps,
and shows that every step keeps a record sound and in agreement with the machine.
-/

namespace NativeBridge

variable {schema : Schema} {Vm VmClass : Type}

namespace ClassRecord

variable {record after : ClassRecord schema VmClass} {member : Member schema}

/-- What a virtual machine should hold for the class of a record. -/
def view (record : ClassRecord schema VmClass) : ClassView schema where
  lifecycle := some (record.allocator, record.finalizer)
  method? name := (record.member? name).map fun member => (member.required, member.entry)

/-- The entry points of the constructors bound on a class: one or none. -/
def constructors (record : ClassRecord schema VmClass) : List (EntryPoint schema) :=
  (record.constructor.map (·.entry)).toList

/-- A record in which every entry point stands under its own name and has the identity
that the record gives for it. -/
structure Sound (record : ClassRecord schema VmClass) : Prop where
  member?_name : ∀ member ∈ record.members, record.member? member.name = some member
  member_id : ∀ member ∈ record.members, member.entry.id = member.id
  constructor_id : ∀ member, record.constructor = some member → member.entry.id = member.id
  finalizer_eq : record.finalizer = Heap.finalize

theorem addMember_eq_ok (hadd : record.addMember member = .ok after) :
    record.member? member.name = none ∧
      after = { record with members := record.members ++ [member] } := by
  rw [addMember] at hadd
  split at hadd
  · cases hadd
  · next hfree =>
      cases hadd
      exact ⟨hfree, rfl⟩

theorem setConstructor_eq_ok (hset : record.setConstructor member = .ok after) :
    record.constructor = none ∧
      after = { record with allocator := member.entry, constructor := some member } := by
  rw [setConstructor] at hset
  split at hset
  · cases hset
  · next hnone =>
      cases hset
      exact ⟨hnone, rfl⟩

theorem member?_append (name : String) :
    ({ record with members := record.members ++ [member] } :
      ClassRecord schema VmClass).member? name =
      (record.member? name).or (if member.name = name then some member else none) := by
  rw [member?, member?, List.find?_append]
  by_cases hname : member.name = name <;> simp [hname]

theorem view_addMember (hadd : record.addMember member = .ok after) :
    after.view = record.view.withMethod member.name member.required member.entry := by
  obtain ⟨hfree, rfl⟩ := addMember_eq_ok hadd
  simp only [view, ClassView.withMethod, ClassView.mk.injEq, true_and]
  funext name
  rw [member?_append]
  by_cases hname : name = member.name
  · subst hname
    simp [hfree]
  · simp [Ne.symm hname, Function.update_of_ne hname]

theorem view_setConstructor (hset : record.setConstructor member = .ok after) :
    after.view = record.view.withLifecycle member.entry record.finalizer := by
  obtain ⟨-, rfl⟩ := setConstructor_eq_ok hset
  rfl

theorem Sound.addMember (hsound : record.Sound) (hadd : record.addMember member = .ok after)
    (hid : member.entry.id = member.id) : after.Sound := by
  obtain ⟨hfree, rfl⟩ := addMember_eq_ok hadd
  exact {
    member?_name := by
      intro present hpresent
      rw [member?_append]
      rcases List.mem_append.mp hpresent with hold | hnew
      · rw [hsound.member?_name present hold, Option.some_or]
      · obtain rfl := List.mem_singleton.mp hnew
        rw [hfree, if_pos rfl, Option.none_or]
    member_id := by
      intro present hpresent
      rcases List.mem_append.mp hpresent with hold | hnew
      · exact hsound.member_id present hold
      · obtain rfl := List.mem_singleton.mp hnew
        exact hid
    constructor_id := hsound.constructor_id
    finalizer_eq := hsound.finalizer_eq }

theorem Sound.setConstructor (hsound : record.Sound)
    (hset : record.setConstructor member = .ok after) (hid : member.entry.id = member.id) :
    after.Sound := by
  obtain ⟨-, rfl⟩ := setConstructor_eq_ok hset
  exact {
    member?_name := hsound.member?_name
    member_id := hsound.member_id
    constructor_id := by
      rintro present ⟨⟩
      exact hid
    finalizer_eq := hsound.finalizer_eq }

end ClassRecord

/-! ## Single steps -/

namespace BindSite

variable [ScriptHost schema Vm VmClass] {site after : BindSite schema Vm VmClass}

/-- The record took up a member, and the machine received its entry point. -/
structure TakesMember (site : BindSite schema Vm VmClass) (member : Member schema)
    (after : BindSite schema Vm VmClass) : Prop where
  id_eq : member.entry.id = member.id
  made : member.kind ≠ .raw → member.Made site.record.owner
  record_eq : site.record.addMember member = .ok after.record
  vm_eq : after.vm = ScriptHost.defineMethod site.vm site.record.vmClass member.name
    member.required member.entry

/-- The record took up a constructor, and the machine makes instances with it from now
on. -/
structure TakesConstructor (site : BindSite schema Vm VmClass) (member : Member schema)
    (after : BindSite schema Vm VmClass) : Prop where
  id_eq : member.entry.id = member.id
  made : member.MadeConstructor site.record.owner
  record_eq : site.record.setConstructor member = .ok after.record
  vm_eq : after.vm = ScriptHost.setLifecycle site.vm site.record.vmClass member.entry
    site.record.finalizer

/-- A bind site becomes another by taking up entry points one after the other; the list
has those of constructors. -/
inductive Becomes : BindSite schema Vm VmClass → List (EntryPoint schema) →
    BindSite schema Vm VmClass → Prop
  | refl (site : BindSite schema Vm VmClass) : Becomes site [] site
  | member {first site after : BindSite schema Vm VmClass} {entries : List (EntryPoint schema)}
      {member : Member schema} (hbecomes : Becomes first entries site)
      (htakes : site.TakesMember member after) : Becomes first entries after
  | constructor {first site after : BindSite schema Vm VmClass}
      {entries : List (EntryPoint schema)} {member : Member schema}
      (hbecomes : Becomes first entries site)
      (htakes : site.TakesConstructor member after) :
      Becomes first (entries ++ [member.entry]) after

theorem Becomes.trans {first second third : BindSite schema Vm VmClass}
    {left right : List (EntryPoint schema)} (hfirst : first.Becomes left second)
    (hsecond : second.Becomes right third) : first.Becomes (left ++ right) third := by
  induction hsecond with
  | refl => rwa [List.append_nil]
  | member _ htakes ih => exact .member ih htakes
  | constructor _ htakes ih =>
      rw [← List.append_assoc]
      exact .constructor ih htakes

end BindSite

/-! ## What every path keeps -/

namespace BindSite

section Record

variable [ScriptHost schema Vm VmClass] {first site : BindSite schema Vm VmClass}
variable {entries : List (EntryPoint schema)}

theorem Becomes.owner_eq (hbecomes : first.Becomes entries site) :
    site.record.owner = first.record.owner := by
  induction hbecomes with
  | refl => rfl
  | member _ htakes ih =>
      rw [(ClassRecord.addMember_eq_ok htakes.record_eq).2]
      exact ih
  | constructor _ htakes ih =>
      rw [(ClassRecord.setConstructor_eq_ok htakes.record_eq).2]
      exact ih

theorem Becomes.vmClass_eq (hbecomes : first.Becomes entries site) :
    site.record.vmClass = first.record.vmClass := by
  induction hbecomes with
  | refl => rfl
  | member _ htakes ih =>
      rw [(ClassRecord.addMember_eq_ok htakes.record_eq).2]
      exact ih
  | constructor _ htakes ih =>
      rw [(ClassRecord.setConstructor_eq_ok htakes.record_eq).2]
      exact ih

/-- The constructors bound on a class are those that were bound before and those taken up
since. -/
theorem Becomes.constructors_eq (hbecomes : first.Becomes entries site) :
    site.record.constructors = first.record.constructors ++ entries := by
  induction hbecomes with
  | refl => rw [List.append_nil]
  | member _ htakes ih =>
      rw [(ClassRecord.addMember_eq_ok htakes.record_eq).2]
      exact ih
  | constructor _ htakes ih =>
      obtain ⟨hnone, hafter⟩ := ClassRecord.setConstructor_eq_ok htakes.record_eq
      rw [← List.append_assoc, ← ih, hafter]
      simp [ClassRecord.constructors, hnone]

/-- Instances are made by the first constructor, and by the hook of the registration as
long as there is none. -/
theorem Becomes.allocator_eq {hook : EntryPoint schema} (hbecomes : first.Becomes entries site)
    (hfirst : first.record.allocator = first.record.constructors.head?.getD hook) :
    site.record.allocator = site.record.constructors.head?.getD hook := by
  induction hbecomes with
  | refl => exact hfirst
  | member _ htakes ih =>
      rw [(ClassRecord.addMember_eq_ok htakes.record_eq).2]
      exact ih
  | constructor _ htakes ih =>
      rw [(ClassRecord.setConstructor_eq_ok htakes.record_eq).2]
      rfl

end Record

section Machine

variable [FaithfulHost schema Vm VmClass] {first site after : BindSite schema Vm VmClass}
variable {entries : List (EntryPoint schema)} {member : Member schema}

open FaithfulHost

/-- The virtual machine holds for a class exactly what its record says, and the record is
sound. -/
structure Agrees (site : BindSite schema Vm VmClass) : Prop where
  sound : site.record.Sound
  view?_eq : view? site.vm site.record.vmClass = some site.record.view

theorem Agrees.takeMember (hagrees : site.Agrees) (htakes : site.TakesMember member after) :
    after.Agrees where
  sound := hagrees.sound.addMember htakes.record_eq htakes.id_eq
  view?_eq := by
    have hclass : after.record.vmClass = site.record.vmClass :=
      (Becomes.member (.refl site) htakes).vmClass_eq
    rw [hclass, htakes.vm_eq, view?_defineMethod_self, hagrees.view?_eq, Option.map_some,
      ClassRecord.view_addMember htakes.record_eq]

theorem Agrees.takeConstructor (hagrees : site.Agrees)
    (htakes : site.TakesConstructor member after) : after.Agrees where
  sound := hagrees.sound.setConstructor htakes.record_eq htakes.id_eq
  view?_eq := by
    have hclass : after.record.vmClass = site.record.vmClass :=
      (Becomes.constructor (.refl site) htakes).vmClass_eq
    rw [hclass, htakes.vm_eq, view?_setLifecycle_self, hagrees.view?_eq, Option.map_some,
      ClassRecord.view_setConstructor htakes.record_eq]

theorem Becomes.agrees (hbecomes : first.Becomes entries site) (hfirst : first.Agrees) :
    site.Agrees := by
  induction hbecomes with
  | refl => exact hfirst
  | member _ htakes ih => exact ih.takeMember htakes
  | constructor _ htakes ih => exact ih.takeConstructor htakes

/-- The machine hears nothing about other classes. -/
theorem Becomes.view?_of_ne (hbecomes : first.Becomes entries site) {other : VmClass}
    (hother : other ≠ first.record.vmClass) : view? site.vm other = view? first.vm other := by
  induction hbecomes with
  | refl => rfl
  | member hbefore htakes ih =>
      rw [htakes.vm_eq, view?_defineMethod_of_ne _ _ _ _ _ _ (hbefore.vmClass_eq ▸ hother)]
      exact ih
  | constructor hbefore htakes ih =>
      rw [htakes.vm_eq, view?_setLifecycle_of_ne _ _ _ _ _ (hbefore.vmClass_eq ▸ hother)]
      exact ih

end Machine

end BindSite

/-! ## Declarations as paths of steps -/

namespace Binding

variable {owner : schema.Class} {site after : BindSite schema Vm VmClass}

/-- What follows a check was carried out with what the check gave. -/
theorem ofExcept_bind_eq_ok {Checked Outcome : Type} {checked : Except BindError Checked}
    {next : Checked → Binding schema Vm VmClass Outcome} {outcome : Outcome}
    (haccepted : (ofExcept checked >>= next) site = .ok outcome after) :
    ∃ value, checked = .ok value ∧ next value site = .ok outcome after := by
  cases checked with
  | error error => cases haccepted
  | ok value => exact ⟨value, rfl, haccepted⟩

variable [ScriptHost schema Vm VmClass]

theorem bindMember_takes {member : Member schema} (hid : member.entry.id = member.id)
    (hmade : member.kind ≠ .raw → member.Made site.record.owner)
    (haccepted : bindMember member site = .ok () after) : site.TakesMember member after := by
  change (ofExcept (site.record.addMember member) >>= fun record =>
    set (⟨ScriptHost.defineMethod site.vm record.vmClass member.name member.required member.entry,
      record⟩ : BindSite schema Vm VmClass)) site = _ at haccepted
  obtain ⟨record, hrecord, hset⟩ := ofExcept_bind_eq_ok haccepted
  cases hset
  obtain ⟨-, rfl⟩ := ClassRecord.addMember_eq_ok hrecord
  exact ⟨hid, hmade, hrecord, rfl⟩

theorem bindConstructor_takes {modes : Option (List ParameterMode)}
    {code : NativeConstructor schema owner} (howner : site.record.owner = owner)
    (haccepted : bindConstructor modes code site = .ok () after) :
    ∃ list member, ParameterList.declare "new" code.parameters (modesFor code.parameters modes) =
        .ok list ∧ member.entry = code.entry list ∧ site.TakesConstructor member after := by
  obtain ⟨list, hlist, hnext⟩ := ofExcept_bind_eq_ok haccepted
  change (ofExcept (site.record.setConstructor _) >>= fun record =>
    set (⟨ScriptHost.setLifecycle site.vm record.vmClass (code.entry list) record.finalizer,
      record⟩ : BindSite schema Vm VmClass)) site = _ at hnext
  obtain ⟨record, hrecord, hset⟩ := ofExcept_bind_eq_ok hnext
  cases hset
  refine ⟨list, _, hlist, rfl, rfl, howner ▸ .of _ _ code (.declared hlist), hrecord, ?_⟩
  obtain ⟨-, rfl⟩ := ClassRecord.setConstructor_eq_ok hrecord
  rfl

/-- The counts on record for a getter are those of the list that its entry point goes by, which
is empty. -/
theorem bindGetter_eq (name : String) (result : NativeType schema.Class)
    (code : schema.Content owner → Task schema.World (result.Data schema.toClassFamily)) :
    (bindGetter name result code : Binding schema Vm VmClass Unit) =
      bindMethodEntry name .getter (.getter result code) .empty := rfl

/-- The counts on record for a setter are those of a list with one required parameter. -/
theorem bindSetter_eq (name : String) (parameter : ParameterType schema.toClassFamily)
    (code : parameter.Data → Task (schema.Content owner × schema.World) Unit) :
    (bindSetter name parameter code : Binding schema Vm VmClass Unit) = (do
      let scriptName := ScriptHost.setterName (← get).vm name
      bindMethodEntry scriptName .setter (.setter parameter code)
        (.requiredOnly [parameter.tag])) := rfl

end Binding

namespace Declaration

open BindSite

variable {owner : schema.Class}

/-- The entry point of a constructor, if that is what is declared and its parameters are
in order. -/
def constructorOf? : Declaration schema owner → Option (EntryPoint schema)
  | constructor modes code =>
    match ParameterList.declare "new" code.parameters
        (Binding.modesFor code.parameters modes) with
    | .ok list => some (code.entry list)
    | .error _ => none
  | _ => none

theorem constructorOf?_of_not_isSingle {declaration part : Declaration schema owner}
    (hsingle : declaration.isSingle = false) (hpart : part ∈ declaration.parts) :
    part.constructorOf? = none := by
  cases declaration with
  | property =>
      simp only [parts, List.mem_cons, List.not_mem_nil, or_false] at hpart
      rcases hpart with rfl | rfl <;> rfl
  | fields accessors =>
      simp only [parts, List.mem_flatMap, accessorParts, List.mem_append] at hpart
      obtain ⟨accessor, -, hreader | hwriter⟩ := hpart
      · split at hreader
        · rw [List.mem_singleton.mp hreader]
          rfl
        · cases hreader
      · split at hwriter
        · rw [List.mem_singleton.mp hwriter]
          rfl
        · cases hwriter
  | constructor | method | getter | setter | overload | raw | copy => cases hsingle

variable [ScriptHost schema Vm VmClass] {site after : BindSite schema Vm VmClass}

theorem becomes_of_isSingle {declaration : Declaration schema owner}
    (hsingle : declaration.isSingle = true) (howner : site.record.owner = owner)
    (haccepted : declaration.bind site = .ok () after) :
    site.Becomes declaration.constructorOf?.toList after := by
  have hmember : ∀ {member : Member schema}, member.entry.id = member.id →
      (member.kind ≠ .raw → member.Made owner) →
        Binding.bindMember member site = .ok () after → site.Becomes [] after :=
    fun hid hmade hbound =>
      .member (.refl site) (Binding.bindMember_takes hid (howner ▸ hmade) hbound)
  have hmethod : ∀ {name : String} {kind : MemberKind} {method : NativeMethod schema owner}
      {list : ParameterList}, list.Bound method.parameters →
        Binding.bindMethodEntry name kind method list site = .ok () after →
          site.Becomes [] after :=
    fun hlist hbound => hmember rfl (fun _ => .method _ _ _ _ hlist) hbound
  cases declaration with
  | property | fields => cases hsingle
  | constructor modes code =>
      obtain ⟨list, member, hlist, hentry, htakes⟩ := Binding.bindConstructor_takes howner haccepted
      have hdeclared : (constructor modes code).constructorOf? = some member.entry := by
        rw [constructorOf?, hlist, hentry]
      rw [hdeclared]
      exact .constructor (.refl site) htakes
  | method name modes code =>
      obtain ⟨list, hlist, hbound⟩ := Binding.ofExcept_bind_eq_ok haccepted
      exact hmethod (.declared hlist) hbound
  | overload set wanted modes =>
      obtain ⟨method, -, hselected⟩ := Binding.ofExcept_bind_eq_ok haccepted
      obtain ⟨list, hlist, hbound⟩ := Binding.ofExcept_bind_eq_ok hselected
      exact hmember rfl (fun _ => .method _ _ method _ (.declared hlist)) hbound
  | getter name result code =>
      rw [bind, Binding.bindGetter_eq] at haccepted
      refine hmethod ?_ haccepted
      exact .required
  | setter name parameter code =>
      rw [bind, Binding.bindSetter_eq] at haccepted
      refine hmethod ?_ haccepted
      exact .required
  | raw => exact hmember rfl (fun hkind => absurd rfl hkind) haccepted
  | copy => exact hmember rfl (fun _ => .copy _ _ _ _) haccepted

theorem forM_becomes {declarations : List (Declaration schema owner)}
    (hsingle : ∀ declaration ∈ declarations, declaration.isSingle = true)
    (howner : site.record.owner = owner)
    (haccepted : declarations.forM bind site = .ok () after) :
    site.Becomes (declarations.filterMap constructorOf?) after := by
  induction declarations generalizing site with
  | nil =>
      cases haccepted
      exact .refl _
  | cons first rest ih =>
      obtain ⟨middle, hfirst, hothers⟩ := forM_cons_eq_ok.mp haccepted
      have hstep := becomes_of_isSingle (hsingle first List.mem_cons_self) howner hfirst
      have hrest : ∀ declaration ∈ rest, declaration.isSingle = true := fun declaration hmem =>
        hsingle declaration (List.mem_cons_of_mem _ hmem)
      have hpath := hstep.trans (ih hrest (hstep.owner_eq.trans howner) hothers)
      cases hentry : first.constructorOf? <;> simpa [List.filterMap_cons, hentry] using hpath

/-- An accepted declaration is a path of steps. -/
theorem accepted_becomes {declaration : Declaration schema owner}
    (howner : site.record.owner = owner)
    (haccepted : declaration.bind site = .ok () after) :
    site.Becomes declaration.constructorOf?.toList after := by
  cases hsingle : declaration.isSingle with
  | true => exact becomes_of_isSingle hsingle howner haccepted
  | false =>
      rw [bind_eq_parts] at haccepted
      have hpath := forM_becomes (fun part hpart => isSingle_of_mem_parts hpart) howner haccepted
      have hnone : declaration.parts.filterMap constructorOf? = [] :=
        List.filterMap_eq_nil_iff.mpr fun part hpart =>
          constructorOf?_of_not_isSingle hsingle hpart
      have hwhole : declaration.constructorOf? = none := by
        cases declaration <;> first | rfl | cases hsingle
      rw [hwhole]
      rwa [hnone] at hpath

/-- So is one that was rejected in the middle, and no constructor is among what it
left. -/
theorem rejected_becomes {declaration : Declaration schema owner} {error : BindError}
    (howner : site.record.owner = owner)
    (hrejected : declaration.bind site = .error error after) : site.Becomes [] after := by
  rw [bind_eq_parts] at hrejected
  obtain ⟨done, rejected, rest, hsplit, hdone, -⟩ :=
    rejected_split (fun part hpart => isSingle_of_mem_parts hpart) hrejected
  have hmem : ∀ part ∈ done, part ∈ declaration.parts := by
    intro part hpart
    rw [hsplit]
    exact List.mem_append_left _ hpart
  have hpath :=
    forM_becomes (fun part hpart => isSingle_of_mem_parts (hmem part hpart)) howner hdone
  cases hsingle : declaration.isSingle with
  | true =>
      -- A single entry point was rejected, so that nothing came before it.
      rw [parts_of_isSingle hsingle] at hsplit
      have hnil : done = [] := by
        cases done with
        | nil => rfl
        | cons head tail => simp at hsplit
      rwa [hnil] at hpath
  | false =>
      have hnone : done.filterMap constructorOf? = [] :=
        List.filterMap_eq_nil_iff.mpr fun part hpart =>
          constructorOf?_of_not_isSingle hsingle (hmem part hpart)
      rwa [hnone] at hpath

/-- Whatever declarations are carried out, until all are or one is rejected, they lead
along a path of steps; its constructors are those of the declarations carried out. -/
theorem bindAll_becomes (declarations : List (Declaration schema owner))
    (site : BindSite schema Vm VmClass) (howner : site.record.owner = owner) :
    site.Becomes
      ((declarations.take (bindAll declarations site).1.bound).filterMap constructorOf?)
      (bindAll declarations site).2 := by
  induction declarations generalizing site with
  | nil => exact .refl site
  | cons first rest ih =>
      cases hfirst : (first.bind : Binding schema Vm VmClass Unit) site with
      | error error middle =>
          simp only [bindAll, hfirst]
          exact rejected_becomes howner hfirst
      | ok value middle =>
          simp only [bindAll, hfirst, List.take_succ_cons]
          have hstep := accepted_becomes howner hfirst
          have hpath := hstep.trans (ih middle (hstep.owner_eq.trans howner))
          cases hentry : first.constructorOf? <;> simpa [List.filterMap_cons, hentry] using hpath

end Declaration

end NativeBridge
