import NativeBridge.Registry.Declaration

/-!
# What a rejected declaration leaves

Most declarations bind one entry point: they check everything first, and a rejected one
leaves no trace.  Properties and fields bind several entry points one after the other,
and a rejected one leaves those that were bound before.  Both are told here through the
parts of a declaration, each of which binds one entry point or none.
-/

namespace NativeBridge

variable {schema : Schema} {Vm VmClass : Type}

namespace ClassRecord

variable {record after : ClassRecord schema VmClass} {member : Member schema}

/-- The number of entry points bound on a class. -/
def bound (record : ClassRecord schema VmClass) : Nat :=
  record.members.length + if record.constructor.isSome then 1 else 0

def Grows (record after : ClassRecord schema VmClass) : Prop :=
  after.owner = record.owner ∧ after.bound = record.bound + 1

theorem addMember_grows (hadd : record.addMember member = .ok after) : record.Grows after := by
  rw [addMember] at hadd
  split at hadd
  · cases hadd
  · cases hadd
    refine ⟨rfl, ?_⟩
    simp only [bound, List.length_append, List.length_singleton]
    omega

theorem setConstructor_grows (hset : record.setConstructor member = .ok after) :
    record.Grows after := by
  rw [setConstructor] at hset
  split at hset
  · cases hset
  · next hnone =>
      cases hset
      exact ⟨rfl, by simp [bound, hnone]⟩

end ClassRecord

namespace Binding

/-- Binds one entry point, or is rejected and changes nothing. -/
structure Atomic (action : Binding schema Vm VmClass Unit) : Prop where
  rejected : ∀ {site error after}, action site = .error error after → after = site
  accepted : ∀ {site after}, action site = .ok () after → site.record.Grows after.record

/-- What is checked before anything else may be rejected. -/
theorem Atomic.ofExcept_bind {Outcome : Type} (outcome : Except BindError Outcome)
    {next : Outcome → Binding schema Vm VmClass Unit} (hnext : ∀ value, (next value).Atomic) :
    (ofExcept outcome >>= next).Atomic := by
  cases outcome with
  | ok value => exact hnext value
  | error error =>
      constructor
      · intro site cause after hrejected
        cases hrejected
        rfl
      · intro site after haccepted
        cases haccepted

theorem Atomic.get_bind {next : BindSite schema Vm VmClass → Binding schema Vm VmClass Unit}
    (hnext : ∀ site, (next site).Atomic) :
    ((get : Binding schema Vm VmClass _) >>= next).Atomic :=
  ⟨fun hrejected => (hnext _).rejected hrejected, fun haccepted => (hnext _).accepted haccepted⟩

/-- The record takes the entry point up first; only then does the virtual machine
receive it. -/
theorem Atomic.record_then_declare
    {check : ClassRecord schema VmClass → Except BindError (ClassRecord schema VmClass)}
    (declare : Vm → ClassRecord schema VmClass → Vm)
    (hcheck : ∀ {record after}, check record = .ok after → record.Grows after) :
    Atomic (do
      let site ← get
      let record ← ofExcept (check site.record)
      set (⟨declare site.vm record, record⟩ : BindSite schema Vm VmClass)) := by
  constructor
  · intro site error after hrejected
    change (ofExcept (check site.record) >>= fun record =>
      set (⟨declare site.vm record, record⟩ : BindSite schema Vm VmClass)) site = _ at hrejected
    cases hrecord : check site.record with
    | error cause =>
        rw [hrecord] at hrejected
        cases hrejected
        rfl
    | ok record =>
        rw [hrecord] at hrejected
        cases hrejected
  · intro site after haccepted
    change (ofExcept (check site.record) >>= fun record =>
      set (⟨declare site.vm record, record⟩ : BindSite schema Vm VmClass)) site = _ at haccepted
    cases hrecord : check site.record with
    | error cause =>
        rw [hrecord] at haccepted
        cases haccepted
    | ok record =>
        rw [hrecord] at haccepted
        cases haccepted
        exact hcheck hrecord

section Declared

variable [ScriptHost schema Vm VmClass] {owner : schema.Class}

theorem bindMember_atomic (member : Member schema) :
    (bindMember member : Binding schema Vm VmClass Unit).Atomic :=
  Atomic.record_then_declare
    (fun vm record => ScriptHost.defineMethod vm record.vmClass member.name member.required
      member.entry)
    ClassRecord.addMember_grows

theorem bindConstructor_atomic (modes : Option (List ParameterMode))
    (code : NativeConstructor schema owner) :
    (bindConstructor modes code : Binding schema Vm VmClass Unit).Atomic :=
  Atomic.ofExcept_bind _ fun list => Atomic.record_then_declare
    (fun vm record => ScriptHost.setLifecycle vm record.vmClass (code.entry list)
      record.finalizer)
    ClassRecord.setConstructor_grows

theorem bindMethod_atomic (name : String) (modes : List ParameterMode)
    (method : NativeMethod schema owner) :
    (bindMethod name modes method : Binding schema Vm VmClass Unit).Atomic :=
  Atomic.ofExcept_bind _ fun _ => bindMember_atomic _

theorem bindSetter_atomic (name : String) (parameter : ParameterType schema.toClassFamily)
    (code : parameter.Data → Task (schema.Content owner × schema.World) Unit) :
    (bindSetter name parameter code : Binding schema Vm VmClass Unit).Atomic :=
  Atomic.get_bind fun _ => bindMember_atomic _

end Declared

end Binding

namespace Declaration

variable {owner : schema.Class}

/-! ## The parts of a declaration -/

def isSingle : Declaration schema owner → Bool
  | property .. | fields _ => false
  | _ => true

/-- The reader and the writer of a field, as far as the accessor allows them. -/
def accessorParts (accessor : Accessor schema.toClassFamily owner) :
    List (Declaration schema owner) :=
  let reader : List (Declaration schema owner) :=
    if accessor.hasGetter then
      [.getter accessor.name accessor.field.type fun content =>
        pure (accessor.field.get content)]
    else []
  let writer : List (Declaration schema owner) :=
    if written : accessor.hasSetter = true then
      [.setter accessor.name (accessor.parameter written) fun data =>
        modify fun (content, world) => (accessor.field.set data content, world)]
    else []
  reader ++ writer

/-- The declarations of single entry points that a declaration consists of, in order. -/
def parts : Declaration schema owner → List (Declaration schema owner)
  | property name parameter get set =>
    [.getter name parameter.type get, .setter name parameter set]
  | fields accessors => accessors.flatMap accessorParts
  | declaration => [declaration]

theorem parts_of_isSingle {declaration : Declaration schema owner}
    (hsingle : declaration.isSingle = true) : declaration.parts = [declaration] := by
  cases declaration <;> first | rfl | cases hsingle

theorem isSingle_of_mem_parts {declaration part : Declaration schema owner}
    (hpart : part ∈ declaration.parts) : part.isSingle = true := by
  cases declaration with
  | property =>
      simp only [parts, List.mem_cons, List.not_mem_nil, or_false] at hpart
      rcases hpart with rfl | rfl <;> rfl
  | fields accessors =>
      simp only [parts, List.mem_flatMap, accessorParts, List.mem_append] at hpart
      obtain ⟨accessor, -, hreader | hwriter⟩ := hpart
      · split at hreader
        · rw [List.mem_singleton.mp hreader]
          rfl
        · cases hreader
      · split at hwriter
        · rw [List.mem_singleton.mp hwriter]
          rfl
        · cases hwriter
  | constructor | method | getter | setter | overload | raw | copy =>
      rw [List.mem_singleton.mp hpart]
      rfl

variable [ScriptHost schema Vm VmClass]

theorem bindAccessor_eq_parts (accessor : Accessor schema.toClassFamily owner) :
    (Binding.bindAccessor accessor : Binding schema Vm VmClass Unit) =
      (accessorParts accessor).forM bind := by
  simp only [Binding.bindAccessor, accessorParts]
  by_cases hget : accessor.hasGetter = true <;> by_cases hset : accessor.hasSetter = true <;>
    simp [hget, hset, bind]

/-- Carrying a declaration out is carrying its parts out one after the other. -/
theorem bind_eq_parts (declaration : Declaration schema owner) :
    (declaration.bind : Binding schema Vm VmClass Unit) = declaration.parts.forM bind := by
  cases declaration with
  | fields accessors =>
      show accessors.forM Binding.bindAccessor = (accessors.flatMap accessorParts).forM bind
      induction accessors with
      | nil => rfl
      | cons accessor rest ih =>
          simp only [List.forM_eq_forM, List.forM_cons, List.flatMap_cons, List.forM_append,
            bindAccessor_eq_parts] at ih ⊢
          rw [ih]
  | property | constructor | method | getter | setter | overload | raw | copy =>
      simp [parts, bind]

theorem bind_atomic {declaration : Declaration schema owner}
    (hsingle : declaration.isSingle = true) :
    (declaration.bind : Binding schema Vm VmClass Unit).Atomic := by
  cases declaration with
  | property | fields => cases hsingle
  | constructor modes code => exact Binding.bindConstructor_atomic modes code
  | method name modes code => exact Binding.bindMethod_atomic name _ code
  | setter name parameter code => exact Binding.bindSetter_atomic name parameter code
  | overload set wanted modes =>
      exact Binding.Atomic.ofExcept_bind _ fun method => Binding.bindMethod_atomic _ modes method
  | getter | raw | copy => exact Binding.bindMember_atomic _

/-- Several declarations were accepted if the first was, and then the others. -/
theorem forM_cons_eq_ok {first : Declaration schema owner}
    {rest : List (Declaration schema owner)} {site after : BindSite schema Vm VmClass} :
    (first :: rest).forM bind site = .ok () after ↔
      ∃ middle, first.bind site = .ok () middle ∧ rest.forM bind middle = .ok () after := by
  rw [List.forM_eq_forM, List.forM_cons]
  cases hfirst : (first.bind : Binding schema Vm VmClass Unit) site <;>
    simp [Bind.bind, EStateM.bind, hfirst]

/-! ## Rejection in the middle -/

/-- When one of several declarations of single entry points is rejected, those before it
are bound and stay bound. -/
theorem rejected_split {declarations : List (Declaration schema owner)}
    (hsingle : ∀ declaration ∈ declarations, declaration.isSingle = true)
    {site after : BindSite schema Vm VmClass} {error : BindError}
    (hrejected : declarations.forM bind site = .error error after) :
    ∃ done rejected rest, declarations = done ++ rejected :: rest ∧
      done.forM bind site = .ok () after ∧ rejected.bind after = .error error after ∧
      after.record.owner = site.record.owner ∧
      after.record.bound = site.record.bound + done.length := by
  induction declarations generalizing site with
  | nil => cases hrejected
  | cons first rest ih =>
      have hfirst := hsingle first List.mem_cons_self
      have hrest : ∀ declaration ∈ rest, declaration.isSingle = true := fun declaration hmem =>
        hsingle declaration (List.mem_cons_of_mem _ hmem)
      rw [List.forM_eq_forM, List.forM_cons] at hrejected
      cases hbind : (first.bind : Binding schema Vm VmClass Unit) site with
      | error cause middle =>
          have hsame := (bind_atomic hfirst).rejected hbind
          simp only [Bind.bind, EStateM.bind, hbind] at hrejected
          cases hrejected
          subst hsame
          exact ⟨[], first, rest, rfl, rfl, hbind, rfl, rfl⟩
      | ok value middle =>
          obtain ⟨howner, hbound⟩ := (bind_atomic hfirst).accepted hbind
          simp only [Bind.bind, EStateM.bind, hbind] at hrejected
          obtain ⟨done, rejected, later, hsplit, hdone, hlast, hkept, hcount⟩ :=
            ih hrest hrejected
          refine ⟨first :: done, rejected, later, by rw [hsplit]; rfl,
            forM_cons_eq_ok.mpr ⟨middle, hbind, hdone⟩, hlast, hkept.trans howner, ?_⟩
          rw [hcount, hbound, List.length_cons]
          omega

/-- A rejected declaration changes nothing exactly when its first part was the rejected
one. -/
theorem rejected_unchanged_iff {declaration : Declaration schema owner}
    {site after : BindSite schema Vm VmClass} {error : BindError}
    (hrejected : declaration.bind site = .error error after) :
    after.record.owner = site.record.owner ∧ (after.record = site.record → after = site) ∧
      (after = site ↔ ∃ first rest cause, declaration.parts = first :: rest ∧
        first.bind site = .error cause site) := by
  rw [bind_eq_parts] at hrejected
  obtain ⟨done, rejected, rest, hsplit, hdone, hlast, howner, hbound⟩ :=
    rejected_split (fun part hpart => isSingle_of_mem_parts hpart) hrejected
  have hnone : after.record = site.record → done = [] := by
    intro hsame
    rw [hsame] at hbound
    exact List.length_eq_zero_iff.mp (by omega)
  have hstart : done = [] → after = site := by
    rintro rfl
    cases hdone
    rfl
  refine ⟨howner, fun hsame => hstart (hnone hsame), ?_, ?_⟩
  · intro hsame
    rw [hnone (congrArg BindSite.record hsame), List.nil_append] at hsplit
    exact ⟨rejected, rest, error, hsplit, hsame ▸ hlast⟩
  · rintro ⟨first, others, cause, hparts, hfirst⟩
    apply hstart
    cases done with
    | nil => rfl
    | cons head tail =>
        -- The first part would have been both accepted and rejected.
        rw [hparts, List.cons_append, List.cons.injEq] at hsplit
        obtain ⟨middle, haccepted, -⟩ := forM_cons_eq_ok.mp hdone
        cases hfirst.symm.trans (hsplit.1 ▸ haccepted)

end Declaration

end NativeBridge
