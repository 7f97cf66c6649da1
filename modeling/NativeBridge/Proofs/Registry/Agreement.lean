import NativeBridge.Proofs.Registry.Rejection
import NativeBridge.Proofs.Registry.Uptake

/-!
# The registry and the virtual machine agree

A bridge is set up by registering classes and declaring members on them, in any order and
with any number of rejections.  The records of the registry and the classes of a faithful
machine then tell the same: the same members with the same entry points, and the same way
to make and to end instances.
-/

namespace NativeBridge

variable {schema : Schema} {Vm VmClass : Type}

namespace Registry

variable {registry : Registry schema VmClass} {record : ClassRecord schema VmClass}

theorem record?_add (owner : schema.Class) :
    (registry.add record).record? owner =
      (registry.record? owner).or (if record.owner = owner then some record else none) := by
  rw [record?, add, List.find?_append, record?]
  by_cases howner : record.owner = owner <;> simp [howner]

theorem record?_replace (owner : schema.Class) :
    (registry.replace record).record? owner =
      if record.owner = owner then (registry.record? owner).map fun _ => record
      else registry.record? owner := by
  have hkeeps : ((fun present => decide (present.owner = owner)) ∘ fun present =>
      if present.owner = record.owner then record else present) =
      fun present : ClassRecord schema VmClass => decide (present.owner = owner) := by
    funext present
    by_cases hpresent : present.owner = record.owner <;> simp [hpresent]
  rw [record?, replace, List.find?_map, hkeeps, ← record?]
  cases hfound : registry.record? owner with
  | none => simp
  | some present =>
      have hpresent := (record?_eq_some hfound).2
      by_cases howner : record.owner = owner
      · simp [hpresent, howner]
      · simp [hpresent, howner, Ne.symm howner]

end Registry

/-- One step of setting a bridge up.  It may be rejected. -/
inductive SetupStep (schema : Schema) (VmClass : Type) where
  /-- The machine declares a class of its own. -/
  | defineModule (name : String) (scope : Option VmClass)
  | register (owner : schema.Class) (name : String) (scope : Option VmClass)
      (initial : Task schema.World (schema.Content owner))
  | declare (owner : schema.Class) (name : String) (scope : Option VmClass)
  | bind (owner : schema.Class) (declarations : List (Declaration schema owner))

def Setup.accepted {Outcome : Type} (setup : Setup schema Vm VmClass Outcome)
    (bridge : Bridge schema Vm VmClass) : Bool :=
  match setup bridge with
  | .ok _ _ => true
  | .error _ _ => false

namespace Bridge

section Steps

variable [ScriptHost schema Vm VmClass]

def setUp (bridge : Bridge schema Vm VmClass) : SetupStep schema VmClass →
    Bridge schema Vm VmClass
  | .defineModule name scope =>
    { bridge with vm := (ScriptHost.defineClass bridge.vm name scope).2 }
  | .register owner name scope initial => Setup.left (register owner name scope initial) bridge
  | .declare owner name scope => Setup.left (declare owner name scope) bridge
  | .bind owner declarations => Setup.left (Bridge.bind owner declarations) bridge

def setUpAll (bridge : Bridge schema Vm VmClass) : List (SetupStep schema VmClass) →
    Bridge schema Vm VmClass
  | [] => bridge
  | step :: rest => (bridge.setUp step).setUpAll rest

/-- The hook for making instances that a step brings in, if it registers `owner`. -/
def registration (bridge : Bridge schema Vm VmClass) (owner : schema.Class) :
    SetupStep schema VmClass → List (EntryPoint schema)
  | .register other name scope initial =>
    if other = owner ∧ Setup.accepted (register other name scope initial) bridge then
      [defaultAllocation other initial]
    else []
  | .declare other name scope =>
    if other = owner ∧ Setup.accepted (declare other name scope) bridge then
      [refusedAllocation other name]
    else []
  | .defineModule _ _ | .bind _ _ => []

/-- The entry points of the constructors that a step binds on `owner`. -/
def construction (bridge : Bridge schema Vm VmClass) (owner : schema.Class) :
    SetupStep schema VmClass → List (EntryPoint schema)
  | .bind other declarations =>
    match Bridge.bind other declarations bridge with
    | .ok report _ =>
      if other = owner then
        (declarations.take report.bound).filterMap Declaration.constructorOf?
      else []
    | .error _ _ => []
  | .defineModule _ _ | .register _ _ _ _ | .declare _ _ _ => []

/-- The hooks with which `owner` was registered in a run. -/
def registrations (bridge : Bridge schema Vm VmClass) (owner : schema.Class) :
    List (SetupStep schema VmClass) → List (EntryPoint schema)
  | [] => []
  | step :: rest => bridge.registration owner step ++ (bridge.setUp step).registrations owner rest

/-- The constructors that were bound on `owner` in a run, in order. -/
def constructions (bridge : Bridge schema Vm VmClass) (owner : schema.Class) :
    List (SetupStep schema VmClass) → List (EntryPoint schema)
  | [] => []
  | step :: rest => bridge.construction owner step ++ (bridge.setUp step).constructions owner rest

/-! ## What a step does -/

theorem addClass_of_free {bridge : Bridge schema Vm VmClass} {owner : schema.Class}
    (hfree : bridge.registry.contains owner = false) (name : String) (scope : Option VmClass)
    (allocator : EntryPoint schema) :
    addClass owner name scope allocator bridge =
      .ok () { bridge with
        vm := ScriptHost.setLifecycle (ScriptHost.defineClass bridge.vm name scope).2
          (ScriptHost.defineClass bridge.vm name scope).1 allocator Heap.finalize
        registry := bridge.registry.add
          { owner, name, vmClass := (ScriptHost.defineClass bridge.vm name scope).1, scope,
            allocator, finalizer := Heap.finalize, constructor := none, members := [] } } := by
  have hget : (get : Setup schema Vm VmClass _) bridge = .ok bridge bridge := rfl
  rw [addClass]
  simp only [Bind.bind, EStateM.bind, hget, hfree]
  rfl

/-- The history of a class: its hook and its constructors, as far as it is registered. -/
def Remembers (bridge : Bridge schema Vm VmClass) (owner : schema.Class)
    (registered constructed : List (EntryPoint schema)) : Prop :=
  match bridge.registry.record? owner with
  | none => registered = [] ∧ constructed = []
  | some record => record.constructors = constructed ∧
    ∃ hook, registered = [hook] ∧ record.allocator = constructed.head?.getD hook

theorem Remembers.addClass {bridge : Bridge schema Vm VmClass} {owner : schema.Class}
    {registered constructed : List (EntryPoint schema)}
    (hremembers : bridge.Remembers owner registered constructed) (other : schema.Class)
    (name : String) (scope : Option VmClass) (allocator : EntryPoint schema) :
    (Setup.left (addClass other name scope allocator) bridge).Remembers owner
      (registered ++
        if other = owner ∧ Setup.accepted (addClass other name scope allocator) bridge then
          [allocator] else [])
      constructed := by
  cases hcontains : bridge.registry.contains other with
  | true =>
      have hrejected := (addClass_apply other name scope allocator bridge).1 hcontains
      simpa [Setup.left, Setup.accepted, hrejected] using hremembers
  | false =>
      have hadded := addClass_of_free hcontains name scope allocator
      rw [Registry.contains, Option.isSome_eq_false_iff, Option.isNone_iff_eq_none] at hcontains
      simp only [Setup.left, Setup.accepted, hadded]
      rw [Remembers, Registry.record?_add]
      by_cases hother : other = owner
      · subst hother
        rw [Remembers, hcontains] at hremembers
        obtain ⟨rfl, rfl⟩ := hremembers
        simp [hcontains, ClassRecord.constructors]
      · rw [Remembers] at hremembers
        simpa [hother] using hremembers

theorem Remembers.bind {bridge : Bridge schema Vm VmClass} {owner : schema.Class}
    {registered constructed : List (EntryPoint schema)}
    (hremembers : bridge.Remembers owner registered constructed) (other : schema.Class)
    (declarations : List (Declaration schema other)) :
    (bridge.setUp (.bind other declarations)).Remembers owner registered
      (constructed ++ bridge.construction owner (.bind other declarations)) := by
  rw [setUp, Setup.left, construction, bind_apply]
  cases hrecord : bridge.registry.record? other with
  | none => simpa using hremembers
  | some record =>
      have hpath := Declaration.bindAll_becomes declarations
        (⟨bridge.vm, record⟩ : BindSite _ _ _) (Registry.record?_eq_some hrecord).2
      have howner : (Declaration.bindAll declarations ⟨bridge.vm, record⟩).2.record.owner = other :=
        hpath.owner_eq.trans (Registry.record?_eq_some hrecord).2
      rw [Remembers, Registry.record?_replace, howner]
      by_cases hother : other = owner
      · subst hother
        rw [Remembers, hrecord] at hremembers
        obtain ⟨hconstructors, hook, hregistered, hallocator⟩ := hremembers
        have hafter := hpath.constructors_eq
        rw [hconstructors] at hafter
        rw [if_pos rfl, hrecord, Option.map_some]
        simp only [if_pos]
        refine ⟨hafter, hook, hregistered, ?_⟩
        rw [← hafter]
        exact hpath.allocator_eq (hconstructors.symm ▸ hallocator)
      · rw [Remembers] at hremembers
        simpa [hother] using hremembers

theorem Remembers.setUp {bridge : Bridge schema Vm VmClass} {owner : schema.Class}
    {registered constructed : List (EntryPoint schema)}
    (hremembers : bridge.Remembers owner registered constructed)
    (step : SetupStep schema VmClass) :
    (bridge.setUp step).Remembers owner (registered ++ bridge.registration owner step)
      (constructed ++ bridge.construction owner step) := by
  cases step with
  | defineModule name scope =>
      rw [registration, construction, List.append_nil, List.append_nil]
      exact hremembers
  | register other name scope initial =>
      rw [construction, List.append_nil]
      exact hremembers.addClass other name scope (defaultAllocation other initial)
  | declare other name scope =>
      rw [construction, List.append_nil]
      exact hremembers.addClass other name scope (refusedAllocation other name)
  | bind other declarations =>
      rw [registration, List.append_nil]
      exact hremembers.bind other declarations

theorem Remembers.setUpAll {bridge : Bridge schema Vm VmClass} {owner : schema.Class}
    {registered constructed : List (EntryPoint schema)}
    (hremembers : bridge.Remembers owner registered constructed)
    (steps : List (SetupStep schema VmClass)) :
    (bridge.setUpAll steps).Remembers owner (registered ++ bridge.registrations owner steps)
      (constructed ++ bridge.constructions owner steps) := by
  induction steps generalizing bridge registered constructed with
  | nil =>
      rw [registrations, constructions, List.append_nil, List.append_nil]
      exact hremembers
  | cons step rest ih =>
      rw [registrations, constructions, ← List.append_assoc, ← List.append_assoc]
      exact ih (hremembers.setUp step)

end Steps

/-! ## Agreement of every record -/

section Faithful

variable [FaithfulHost schema Vm VmClass] {bridge : Bridge schema Vm VmClass}

open FaithfulHost

/-- The records of a bridge and the classes of its machine tell the same. -/
structure Coherent (bridge : Bridge schema Vm VmClass) : Prop where
  /-- No native class is registered twice. -/
  distinct : bridge.registry.Distinct
  /-- Different native classes are different classes of the machine. -/
  vmClass_ne : ∀ first ∈ bridge.registry.records, ∀ second ∈ bridge.registry.records,
    first.owner ≠ second.owner → first.vmClass ≠ second.vmClass
  agrees : ∀ record ∈ bridge.registry.records,
    (⟨bridge.vm, record⟩ : BindSite schema Vm VmClass).Agrees

theorem new_coherent (vm : Vm) (world : schema.World) :
    (Bridge.new vm world : Bridge schema Vm VmClass).Coherent where
  distinct := List.nodup_nil
  vmClass_ne := by rintro _ ⟨⟩
  agrees := by rintro _ ⟨⟩

/-- A class of the machine that has a record is not the one it declares next. -/
theorem Coherent.vmClass_ne_new (hcoherent : bridge.Coherent)
    {record : ClassRecord schema VmClass} (hrecord : record ∈ bridge.registry.records)
    (name : String) (scope : Option VmClass) :
    record.vmClass ≠ (ScriptHost.defineClass bridge.vm name scope).1 := by
  intro hsame
  have hview := (hcoherent.agrees record hrecord).view?_eq
  rw [hsame, view?_defineClass_fresh] at hview
  cases hview

/-- A machine that holds the same for a class agrees with the same record. -/
theorem agrees_of_view?_eq {vm other : Vm} {record : ClassRecord schema VmClass}
    (hagrees : (⟨vm, record⟩ : BindSite schema Vm VmClass).Agrees)
    (hview : view? other record.vmClass = view? vm record.vmClass) :
    (⟨other, record⟩ : BindSite schema Vm VmClass).Agrees :=
  ⟨hagrees.sound, hview.trans hagrees.view?_eq⟩

theorem Coherent.defineModule (hcoherent : bridge.Coherent) (name : String)
    (scope : Option VmClass) : (bridge.setUp (.defineModule name scope)).Coherent where
  distinct := hcoherent.distinct
  vmClass_ne := hcoherent.vmClass_ne
  agrees record hrecord := agrees_of_view?_eq (hcoherent.agrees record hrecord)
    (view?_defineClass_of_ne _ _ _ _ (hcoherent.vmClass_ne_new hrecord name scope))

theorem Coherent.addClass (hcoherent : bridge.Coherent) (owner : schema.Class) (name : String)
    (scope : Option VmClass) (allocator : EntryPoint schema) :
    (Setup.left (addClass owner name scope allocator) bridge).Coherent := by
  have hdistinct := addClass_distinct hcoherent.distinct owner name scope allocator
  cases hcontains : bridge.registry.contains owner with
  | true =>
      rw [Setup.left, (addClass_apply owner name scope allocator bridge).1 hcontains]
      exact hcoherent
  | false =>
      rw [Setup.left, addClass_of_free hcontains] at hdistinct ⊢
      refine ⟨hdistinct, ?_, ?_⟩
      · intro first hfirst second hsecond howner
        rcases List.mem_append.mp hfirst with hfirst | hfirst <;>
          rcases List.mem_append.mp hsecond with hsecond | hsecond
        · exact hcoherent.vmClass_ne first hfirst second hsecond howner
        · rw [List.mem_singleton.mp hsecond]
          exact hcoherent.vmClass_ne_new hfirst name scope
        · rw [List.mem_singleton.mp hfirst]
          exact (hcoherent.vmClass_ne_new hsecond name scope).symm
        · rw [List.mem_singleton.mp hfirst, List.mem_singleton.mp hsecond] at howner
          exact absurd rfl howner
      · intro record hrecord
        rcases List.mem_append.mp hrecord with hold | hnew
        · have hne := hcoherent.vmClass_ne_new hold name scope
          apply agrees_of_view?_eq (hcoherent.agrees record hold)
          rw [view?_setLifecycle_of_ne _ _ _ _ _ hne, view?_defineClass_of_ne _ _ _ _ hne]
        · rw [List.mem_singleton.mp hnew]
          refine ⟨⟨by rintro _ ⟨⟩, by rintro _ ⟨⟩, by rintro _ ⟨⟩, rfl⟩, ?_⟩
          rw [view?_setLifecycle_self, view?_defineClass_self]
          rfl

/-- Declarations on one class keep the others as they are. -/
theorem Coherent.replace (hcoherent : bridge.Coherent) {record : ClassRecord schema VmClass}
    (hmem : record ∈ bridge.registry.records) {entries : List (EntryPoint schema)}
    {site : BindSite schema Vm VmClass}
    (hpath : (⟨bridge.vm, record⟩ : BindSite schema Vm VmClass).Becomes entries site) :
    ({ bridge with vm := site.vm, registry := bridge.registry.replace site.record } :
      Bridge schema Vm VmClass).Coherent := by
  -- Every record of the new registry is the changed one or belongs to another class.
  have hcases : ∀ later ∈ (bridge.registry.replace site.record).records,
      later = site.record ∨ later ∈ bridge.registry.records ∧ later.owner ≠ record.owner := by
    intro later hlater
    obtain ⟨present, hpresent, hlater⟩ := List.mem_map.mp hlater
    rw [hpath.owner_eq] at hlater
    by_cases howner : present.owner = record.owner
    · rw [if_pos howner] at hlater
      exact .inl hlater.symm
    · rw [if_neg howner] at hlater
      exact .inr ⟨hlater ▸ hpresent, hlater ▸ howner⟩
  refine ⟨Registry.replace_distinct hcoherent.distinct _, ?_, ?_⟩
  · intro first hfirst second hsecond howner
    rcases hcases first hfirst with rfl | ⟨hfirst, hother⟩ <;>
      rcases hcases second hsecond with rfl | ⟨hsecond, hother'⟩
    · exact absurd rfl howner
    · rw [hpath.vmClass_eq]
      exact hcoherent.vmClass_ne record hmem second hsecond hother'.symm
    · rw [hpath.vmClass_eq]
      exact hcoherent.vmClass_ne first hfirst record hmem hother
    · exact hcoherent.vmClass_ne first hfirst second hsecond howner
  · intro later hlater
    rcases hcases later hlater with rfl | ⟨hlater, hother⟩
    · exact hpath.agrees (hcoherent.agrees record hmem)
    · have hne := hcoherent.vmClass_ne later hlater record hmem hother
      exact agrees_of_view?_eq (hcoherent.agrees later hlater) (hpath.view?_of_ne hne)

theorem Coherent.bind (hcoherent : bridge.Coherent) (owner : schema.Class)
    (declarations : List (Declaration schema owner)) :
    (bridge.setUp (.bind owner declarations)).Coherent := by
  rw [setUp, Setup.left, bind_apply]
  cases hfound : bridge.registry.record? owner with
  | none => exact hcoherent
  | some record =>
      obtain ⟨hrecord, howner⟩ := Registry.record?_eq_some hfound
      exact hcoherent.replace hrecord
        (Declaration.bindAll_becomes declarations ⟨bridge.vm, record⟩ howner)

theorem Coherent.setUp (hcoherent : bridge.Coherent) (step : SetupStep schema VmClass) :
    (bridge.setUp step).Coherent := by
  cases step with
  | defineModule name scope => exact hcoherent.defineModule name scope
  | register owner name scope initial => exact hcoherent.addClass owner name scope _
  | declare owner name scope => exact hcoherent.addClass owner name scope _
  | bind owner declarations => exact hcoherent.bind owner declarations

theorem Coherent.setUpAll (hcoherent : bridge.Coherent) (steps : List (SetupStep schema VmClass)) :
    (bridge.setUpAll steps).Coherent := by
  induction steps generalizing bridge with
  | nil => exact hcoherent
  | cons step rest ih => exact ih (hcoherent.setUp step)

/-- After every run of setup steps, whatever was rejected on the way: a native class is
registered at most once, and different ones are different classes of the machine; the
machine holds for each the members on record, with their entry points, and the lifecycle on
record; and instances are made with the first constructor that was bound, before that with
the hook of the registration. -/
theorem setUpAll_agrees (vm : Vm) (world : schema.World)
    (steps : List (SetupStep schema VmClass)) :
    let start : Bridge schema Vm VmClass := Bridge.new vm world
    let bridge := start.setUpAll steps
    bridge.registry.Distinct ∧
    (∀ first ∈ bridge.registry.records, ∀ second ∈ bridge.registry.records,
      first.owner ≠ second.owner → first.vmClass ≠ second.vmClass) ∧
    (∀ record ∈ bridge.registry.records, record.Sound ∧
      ∃ view, view? bridge.vm record.vmClass = some view ∧
        view.lifecycle = some (record.allocator, Heap.finalize) ∧
        ∀ name, view.method? name =
          (record.member? name).map fun member => (member.required, member.entry)) ∧
    ∀ owner,
      (bridge.registry.record? owner = none →
        start.registrations owner steps = [] ∧ start.constructions owner steps = []) ∧
      ∀ record, bridge.registry.record? owner = some record →
        record.constructors = start.constructions owner steps ∧
        ∃ hook, start.registrations owner steps = [hook] ∧
          record.allocator = (start.constructions owner steps).head?.getD hook := by
  intro start bridge
  have hcoherent : bridge.Coherent := (new_coherent vm world).setUpAll steps
  refine ⟨hcoherent.distinct, hcoherent.vmClass_ne, ?_, ?_⟩
  · intro record hrecord
    obtain ⟨hsound, hview⟩ := hcoherent.agrees record hrecord
    refine ⟨hsound, record.view, hview, ?_, fun name => rfl⟩
    rw [ClassRecord.view, hsound.finalizer_eq]
  · intro owner
    have hstart : start.Remembers owner [] [] := ⟨rfl, rfl⟩
    have hremembers := hstart.setUpAll steps
    rw [List.nil_append, List.nil_append, Remembers] at hremembers
    constructor
    · intro hnone
      rwa [hnone] at hremembers
    · intro record hrecord
      rwa [hrecord] at hremembers

end Faithful

section Sample

open Sample

theorem readable_word (type : IntegerType) :
    (NativeType.integer type).readable Sample.family = true := rfl

/-- Makes a hero with the given hit points. -/
def heroOf : Declaration Sample.schema .hero :=
  .constructor none
    { parameters := [⟨.integer .u32, readable_word .u32⟩]
      code := fun | .cons hp .nil => pure ({ hp } : Hero) }

/-- Two native classes under one script name; the second constructor and the second
registration of heroes are rejected. -/
def heroSteps : List (SetupStep Sample.schema Nat) :=
  [.defineModule "Game" none,
   .register .hero "Hero" (some 0) (pure ({} : Hero)),
   .declare .monster "Hero" (some 0),
   .bind .hero [heroHp, heroOf, heroOf],
   .register .hero "Other" none (pure ({} : Hero))]

theorem setUpAll_agrees_shared_name :
    let start : Bridge Sample.schema (RecordingHost Sample.schema) Nat :=
      Bridge.new (.new none) .empty
    ∃ record hook, (start.setUpAll heroSteps).registry.record? .hero = some record ∧
      (start.setUpAll heroSteps).registry.records.map (·.vmClass) = [1, 2] ∧
      (start.constructions .hero heroSteps).length = 1 ∧
      start.registrations .hero heroSteps = [hook] ∧
      record.allocator = (start.constructions .hero heroSteps).head?.getD hook := by
  intro start
  have hagrees := setUpAll_agrees (RecordingHost.new none) Sample.Notes.empty heroSteps
  obtain ⟨-, hook, hregistered, hallocator⟩ := (hagrees.2.2.2 .hero).2 _ rfl
  exact ⟨_, hook, rfl, rfl, rfl, hregistered, hallocator⟩

end Sample

end Bridge

end NativeBridge
