import NativeBridge.Proofs.Arena.Holdings
import NativeBridge.Proofs.Registry.Agreement
import NativeBridge.Proofs.Registry.VariableHost

/-!
# Instances in variables

An embedding program may keep native instances in variables of script objects.  Storing
one touches the registry, the arena and the virtual machine.  This file tells what storing
and reading do in the middle of any run: storing an instance of a class that is not
registered changes nothing, any other adds one new instance and sets one variable, and
reading gives what was stored last, as far as that instance is still there and of the
wanted class.
-/

namespace NativeBridge

variable {schema : Schema} {Vm VmClass : Type}

/-- A step of a run in which variables are set and read. -/
inductive VariableStep (schema : Schema) (VmClass : Type) where
  | setUp (step : SetupStep schema VmClass)
  | set (owner : schema.Class) (object : Value) (name : String) (content : schema.Content owner)
  | read (owner : schema.Class) (object : Value) (name : String)
  /-- Lends an instance that is in no variable. -/
  | insert (inst : Instance schema.toClassFamily)
  | finalize (handle : Handle)

@[reducible]
def VariableStep.Answer : VariableStep schema VmClass → Type
  | setUp _ => Unit
  | set _ _ _ _ => Except BindError Value
  | read owner _ _ => Except ConversionError (schema.Content owner)
  | insert _ => Handle
  | finalize _ => Bool

/-- A step with the answer that it got. -/
structure VariableExchange (schema : Schema) (VmClass : Type) where
  step : VariableStep schema VmClass
  answer : step.Answer

namespace VariableExchange

/-- What an exchange did to the arena. -/
def arenaExchanges : VariableExchange schema VmClass → List (Exchange schema)
  | ⟨.set owner _ _ content, .ok (.wrapped handle)⟩ => [⟨.insert ⟨owner, content⟩, handle⟩]
  | ⟨.insert inst, handle⟩ => [⟨.insert inst, handle⟩]
  | ⟨.finalize handle, ended⟩ => [⟨.finalize handle, ended⟩]
  | _ => []

/-- The instance that an exchange stored in a variable, with its handle. -/
def stored? (object : Handle) (name : String) :
    VariableExchange schema VmClass → Option (Handle × Instance schema.toClassFamily)
  | ⟨.set owner target key content, .ok (.wrapped handle)⟩ =>
    if target.handle? = some object ∧ key = name then some (handle, ⟨owner, content⟩) else none
  | _ => none

end VariableExchange

/-- What a run of exchanges did to the arena. -/
def arenaExchanges (past : List (VariableExchange schema VmClass)) : List (Exchange schema) :=
  past.flatMap VariableExchange.arenaExchanges

theorem arenaExchanges_append (first second : List (VariableExchange schema VmClass)) :
    arenaExchanges (first ++ second) = arenaExchanges first ++ arenaExchanges second :=
  List.flatMap_append

/-- Variables are never written to, they are replaced. -/
theorem keepsContents_of_mem_arenaExchanges {past : List (VariableExchange schema VmClass)}
    {exchange : Exchange schema} (hexchange : exchange ∈ arenaExchanges past) :
    exchange.operation.keepsContents = true := by
  obtain ⟨⟨step, answer⟩, -, hmem⟩ := List.mem_flatMap.mp hexchange
  rw [VariableExchange.arenaExchanges.eq_def] at hmem
  split at hmem
  · rw [List.mem_singleton.mp hmem]
    rfl
  · rw [List.mem_singleton.mp hmem]
    rfl
  · rw [List.mem_singleton.mp hmem]
    rfl
  · cases hmem

/-- The instance that was stored last in a variable of an object, with its handle. -/
def lastStored? (past : List (VariableExchange schema VmClass)) (object : Value)
    (name : String) : Option (Handle × Instance schema.toClassFamily) :=
  object.handle?.bind fun target => (past.filterMap (·.stored? target name)).getLast?

theorem given_of_lastStored? {past : List (VariableExchange schema VmClass)} {object : Value}
    {name : String} {handle : Handle} {inst : Instance schema.toClassFamily}
    (hstored : lastStored? past object name = some (handle, inst)) :
    (handle, inst) ∈ given (arenaExchanges past) := by
  obtain ⟨target, -, hlast⟩ := Option.bind_eq_some_iff.mp hstored
  obtain ⟨exchange, hmem, hexchange⟩ := List.mem_filterMap.mp (List.mem_of_getLast? hlast)
  rw [VariableExchange.stored?.eq_def] at hexchange
  split at hexchange
  · next owner object key content handle =>
      split at hexchange
      · cases hexchange
        refine List.mem_filterMap.mpr ⟨⟨.insert ⟨owner, content⟩, handle⟩, ?_, rfl⟩
        exact List.mem_flatMap.mpr ⟨_, hmem, List.mem_singleton_self _⟩
      · cases hexchange
  · cases hexchange

/-- What reading a variable for a class gives, from the instance that was stored last there
and the handles that were ended. -/
def readStored (owner : schema.Class) (ended : List Handle) :
    Option (Handle × Instance schema.toClassFamily) →
      Except ConversionError (schema.Content owner)
  | none => .error (.nullInstance (schema.scriptName owner))
  | some (handle, inst) =>
    if handle ∈ ended then .error (.staleInstance handle.index)
    else
      match inst.as? owner with
      | some content => .ok content
      | none => .error (.invalidInstance (schema.scriptName owner) inst.scriptName)

/-- What reading a variable gives, when the arena holds what the past tells. -/
theorem Arena.Holds.resolve_stored {arena : Arena schema.toClassFamily}
    {past : List (Exchange schema)} (hholds : arena.Holds past) (owner : schema.Class)
    {stored : Option (Handle × Instance schema.toClassFamily)}
    (hgiven : ∀ handle inst, stored = some (handle, inst) → (handle, inst) ∈ given past) :
    arena.resolve owner ((stored.map fun stored => .wrapped stored.1).getD .nil) =
      readStored owner (ended past) stored := by
  cases stored with
  | none => rfl
  | some stored =>
      obtain ⟨handle, inst⟩ := stored
      show arena.get owner handle = _
      rw [hholds.consistent.get_eq, hholds.occupant?_eq (hgiven handle inst rfl), readStored]
      by_cases hended : handle ∈ ended past
      · simp only [hended, if_true]
      · simp only [hended, if_false]
        cases inst.as? owner <;> rfl

theorem BindSite.Becomes.kept?_eq [VariableHost schema Vm VmClass]
    {first site : BindSite schema Vm VmClass} {entries : List (EntryPoint schema)}
    (hbecomes : first.Becomes entries site) :
    VariableHost.kept? site.vm = VariableHost.kept? first.vm := by
  induction hbecomes with
  | refl => rfl
  | member _ htakes ih => rw [htakes.vm_eq, VariableHost.kept?_defineMethod, ih]
  | constructor _ htakes ih => rw [htakes.vm_eq, VariableHost.kept?_setLifecycle, ih]

namespace Bridge

section Runs

variable [ScriptHost schema Vm VmClass]

def advance (bridge : Bridge schema Vm VmClass) :
    (step : VariableStep schema VmClass) → step.Answer × Bridge schema Vm VmClass
  | .setUp step => ((), bridge.setUp step)
  | .set owner object name content =>
    match setVariable owner object name content bridge with
    | .ok value after => (.ok value, after)
    | .error error after => (.error error, after)
  | .read owner object name => (bridge.readVariable owner object name, bridge)
  | .insert inst =>
    let (handle, heap) := bridge.heap.perform (.insert inst)
    (handle, { bridge with heap })
  | .finalize handle => bridge.finalize handle

def advanceAll (bridge : Bridge schema Vm VmClass) :
    List (VariableStep schema VmClass) → Bridge schema Vm VmClass
  | [] => bridge
  | step :: rest => (bridge.advance step).2.advanceAll rest

def exchanges (bridge : Bridge schema Vm VmClass) :
    List (VariableStep schema VmClass) → List (VariableExchange schema VmClass)
  | [] => []
  | step :: rest => ⟨step, (bridge.advance step).1⟩ :: (bridge.advance step).2.exchanges rest

theorem advanceAll_append (bridge : Bridge schema Vm VmClass)
    (first second : List (VariableStep schema VmClass)) :
    bridge.advanceAll (first ++ second) = (bridge.advanceAll first).advanceAll second := by
  induction first generalizing bridge with
  | nil => rfl
  | cons step rest ih => exact ih _

theorem exchanges_append (bridge : Bridge schema Vm VmClass)
    (first second : List (VariableStep schema VmClass)) :
    bridge.exchanges (first ++ second) =
      bridge.exchanges first ++ (bridge.advanceAll first).exchanges second := by
  induction first generalizing bridge with
  | nil => rfl
  | cons step rest ih => exact congrArg _ (ih _)

/-! ## One step -/

/-- The bridge after a new instance was stored in a variable. -/
def withVariable (bridge : Bridge schema Vm VmClass) (object : Value) (name : String)
    (vmClass : VmClass) (inst : Instance schema.toClassFamily) : Bridge schema Vm VmClass :=
  { bridge with
    vm := ScriptHost.setVariable bridge.vm object name vmClass
      (.wrapped (bridge.heap.arena.insert inst).1)
    heap := (bridge.heap.perform (.insert inst)).2 }

theorem setVariable_apply (owner : schema.Class) (object : Value) (name : String)
    (content : schema.Content owner) (bridge : Bridge schema Vm VmClass) :
    setVariable owner object name content bridge =
      match bridge.registry.record? owner with
      | none => .error (.typeNotFound (schema.nativeName owner)) bridge
      | some record =>
        .ok (.wrapped (bridge.heap.arena.insert ⟨owner, content⟩).1)
          (bridge.withVariable object name record.vmClass ⟨owner, content⟩) := by
  have hget : (get : Setup schema Vm VmClass _) bridge = .ok bridge bridge := rfl
  cases hrecord : bridge.registry.record? owner <;>
    simp only [setVariable, Bind.bind, EStateM.bind, hget, classRecord, Registry.lookup,
      hrecord] <;> rfl

/-- Setting up does not touch the heap. -/
theorem setUp_heap (bridge : Bridge schema Vm VmClass) (step : SetupStep schema VmClass) :
    (bridge.setUp step).heap = bridge.heap := by
  have haddClass : ∀ owner name scope allocator,
      (Setup.left (addClass owner name scope allocator) bridge).heap = bridge.heap := by
    intro owner name scope allocator
    obtain ⟨htaken, hfree⟩ := addClass_apply owner name scope allocator bridge
    rw [Setup.left]
    cases hcontains : bridge.registry.contains owner with
    | true => rw [htaken hcontains]
    | false =>
        obtain ⟨vm, record, -, hadded⟩ := hfree hcontains
        rw [hadded]
  cases step with
  | defineModule name scope => rfl
  | register owner name scope initial => exact haddClass owner name scope _
  | declare owner name scope => exact haddClass owner name scope _
  | bind owner declarations =>
      rw [setUp, Setup.left, bind_apply]
      cases bridge.registry.record? owner <;> rfl

/-- A step does to the arena what its exchange tells. -/
theorem advance_follows (bridge : Bridge schema Vm VmClass)
    (step : VariableStep schema VmClass) :
    bridge.heap.Follows (bridge.advance step).2.heap
      (VariableExchange.arenaExchanges ⟨step, (bridge.advance step).1⟩) := by
  cases step with
  | setUp step => exact .none (congrArg Heap.arena (bridge.setUp_heap step).symm)
  | set owner object name content =>
      simp only [advance, setVariable_apply]
      cases bridge.registry.record? owner with
      | none => exact .none rfl
      | some record => exact .perform bridge.heap (.insert ⟨owner, content⟩)
  | read owner object name => exact .none rfl
  | insert inst => exact .perform bridge.heap (.insert inst)
  | finalize handle => exact .perform bridge.heap (.finalize handle)

theorem advanceAll_follows (bridge : Bridge schema Vm VmClass)
    (steps : List (VariableStep schema VmClass)) :
    bridge.heap.Follows (bridge.advanceAll steps).heap
      (arenaExchanges (bridge.exchanges steps)) := by
  induction steps generalizing bridge with
  | nil => exact .none rfl
  | cons step rest ih => exact (bridge.advance_follows step).trans (ih _)

end Runs

/-! ## Variables and their history -/

section Variables

variable [VariableHost schema Vm VmClass]

open VariableHost

/-- The variables hold what was stored last in each. -/
def Recalls (bridge : Bridge schema Vm VmClass) (past : List (VariableExchange schema VmClass)) :
    Prop :=
  ∀ handle name, (kept? bridge.vm handle name).map Prod.snd =
    (lastStored? past (.wrapped handle) name).map fun stored => .wrapped stored.1

/-- Declarations do not touch variables. -/
theorem kept?_setUp (bridge : Bridge schema Vm VmClass) (step : SetupStep schema VmClass) :
    kept? (bridge.setUp step).vm = kept? bridge.vm := by
  have haddClass : ∀ owner name scope allocator,
      kept? (Setup.left (addClass owner name scope allocator) bridge).vm =
        kept? bridge.vm := by
    intro owner name scope allocator
    cases hcontains : bridge.registry.contains owner with
    | true => rw [Setup.left, (addClass_apply owner name scope allocator bridge).1 hcontains]
    | false =>
        rw [Setup.left, addClass_of_free hcontains]
        exact (kept?_setLifecycle _ _ _ _).trans (kept?_defineClass _ _ _)
  cases step with
  | defineModule name scope => exact kept?_defineClass _ _ _
  | register owner name scope initial => exact haddClass owner name scope _
  | declare owner name scope => exact haddClass owner name scope _
  | bind owner declarations =>
      rw [setUp, Setup.left, bind_apply]
      cases hfound : bridge.registry.record? owner with
      | none => rfl
      | some record =>
          exact (Declaration.bindAll_becomes declarations (⟨bridge.vm, record⟩ : BindSite _ _ _)
            (Registry.record?_eq_some hfound).2).kept?_eq

/-- A step sets the variable that its exchange tells, and no other. -/
theorem kept?_advance (bridge : Bridge schema Vm VmClass)
    (step : VariableStep schema VmClass) (handle : Handle) (name : String) :
    (kept? (bridge.advance step).2.vm handle name).map Prod.snd =
      ((VariableExchange.stored? handle name ⟨step, (bridge.advance step).1⟩).map
        fun stored => .wrapped stored.1).or ((kept? bridge.vm handle name).map Prod.snd) := by
  cases step with
  | setUp step =>
      show (kept? (bridge.setUp step).vm handle name).map Prod.snd = _
      rw [kept?_setUp]
      rfl
  | set owner object key content =>
      simp only [advance, setVariable_apply]
      cases bridge.registry.record? owner with
      | none => rfl
      | some record =>
          simp only [withVariable, kept?_setVariable, VariableExchange.stored?]
          split <;> rfl
  | read owner object key => rfl
  | insert inst => rfl
  | finalize ended => rfl

theorem Recalls.advance {bridge : Bridge schema Vm VmClass}
    {past : List (VariableExchange schema VmClass)} (hrecalls : bridge.Recalls past)
    (step : VariableStep schema VmClass) :
    (bridge.advance step).2.Recalls (past ++ [⟨step, (bridge.advance step).1⟩]) := by
  intro handle name
  rw [kept?_advance, hrecalls, lastStored?, lastStored?]
  simp only [Value.handle?, Option.bind_some, List.filterMap_append, List.getLast?_append]
  cases hstored : VariableExchange.stored? handle name ⟨step, (bridge.advance step).1⟩ with
  | none => simp [hstored]
  | some stored => simp [hstored]

theorem Recalls.advanceAll {bridge : Bridge schema Vm VmClass}
    {past : List (VariableExchange schema VmClass)} (hrecalls : bridge.Recalls past)
    (steps : List (VariableStep schema VmClass)) :
    (bridge.advanceAll steps).Recalls (past ++ bridge.exchanges steps) := by
  induction steps generalizing bridge past with
  | nil =>
      rw [exchanges, List.append_nil]
      exact hrecalls
  | cons step rest ih =>
      have hrest := ih (hrecalls.advance step)
      rwa [List.append_assoc] at hrest

theorem readVariable_of_recalls {bridge : Bridge schema Vm VmClass}
    {past : List (VariableExchange schema VmClass)} (hrecalls : bridge.Recalls past)
    (owner : schema.Class) (object : Value) (name : String) :
    bridge.readVariable owner object name =
      bridge.unwrap owner
        (((lastStored? past object name).map fun stored => .wrapped stored.1).getD .nil) := by
  rw [readVariable, readVariable_eq]
  cases hobject : object.handle? with
  | none => simp [lastStored?, hobject]
  | some handle =>
      have hkept := hrecalls handle name
      have hlast : lastStored? past object name = lastStored? past (.wrapped handle) name := by
        rw [lastStored?, lastStored?, hobject]
        rfl
      rw [hlast, ← hkept, Option.bind_some]
      cases kept? bridge.vm handle name <;> rfl

/-! ## Runs from the start -/

/-- What the bridge is after storing an instance in a variable: it has one instance more,
under a handle that was never given out, and the variable holds that handle under the
class that was registered. -/
structure Stored (bridge after : Bridge schema Vm VmClass) (past : List (Exchange schema))
    (handle : Handle) (inst : Instance schema.toClassFamily) (object : Value) (name : String)
    (vmClass : VmClass) : Prop where
  fresh : handle ∉ lent past
  stale_before : bridge.heap.arena.occupant? handle = none
  occupant?_eq : ∀ other, after.heap.arena.occupant? other =
    if other = handle then some inst else bridge.heap.arena.occupant? other
  live_eq : after.heap.arena.live = bridge.heap.arena.live + 1
  kept?_eq : ∀ other key, kept? after.vm other key =
    if object.handle? = some other ∧ name = key then some (vmClass, .wrapped handle)
    else kept? bridge.vm other key
  registry_eq : after.registry = bridge.registry

end Variables

section Holding

variable [ScriptHost schema Vm VmClass] {bridge : Bridge schema Vm VmClass}
variable {past : List (Exchange schema)}

theorem size_le_advanceAll (hconsistent : bridge.heap.arena.Consistent)
    (steps : List (VariableStep schema VmClass)) :
    bridge.heap.arena.slots.size ≤ (bridge.advanceAll steps).heap.arena.slots.size := by
  rw [← (bridge.advanceAll_follows steps).2]
  exact bridge.heap.size_le_after _ hconsistent

theorem advanceAll_consistent (hconsistent : bridge.heap.arena.Consistent)
    (steps : List (VariableStep schema VmClass)) :
    (bridge.advanceAll steps).heap.arena.Consistent := by
  rw [← (bridge.advanceAll_follows steps).2]
  exact bridge.heap.after_consistent _ hconsistent

theorem advanceAll_holds (hholds : bridge.heap.arena.Holds past)
    (steps : List (VariableStep schema VmClass))
    (hfits : (bridge.advanceAll steps).heap.arena.slots.size ≤ UInt32.size)
    (hfresh : (lent past ++ lent (arenaExchanges (bridge.exchanges steps))).Nodup) :
    (bridge.advanceAll steps).heap.arena.Holds
      (past ++ arenaExchanges (bridge.exchanges steps)) := by
  obtain ⟨htranscript, harena⟩ := bridge.advanceAll_follows steps
  have hkeeps : ∀ operation ∈ (arenaExchanges (bridge.exchanges steps)).map (·.operation),
      operation.keepsContents = true := by
    intro operation hoperation
    obtain ⟨exchange, hexchange, rfl⟩ := List.mem_map.mp hoperation
    exact keepsContents_of_mem_arenaExchanges hexchange
  have hafter := Heap.after_holds hholds _ hkeeps (by rwa [harena]) (by rwa [htranscript])
  rwa [harena, htranscript] at hafter

/-- What holds before a step of a run that keeps within its bounds: the arena holds what the
past tells, and the step finds a place and gives out no handle a second time. -/
structure Ready (bridge : Bridge schema Vm VmClass) (step : VariableStep schema VmClass)
    (past : List (Exchange schema)) : Prop where
  holds : bridge.heap.arena.Holds past
  size_le : (bridge.advance step).2.heap.arena.slots.size ≤ UInt32.size
  fresh : ∀ handle ∈ lent (VariableExchange.arenaExchanges ⟨step, (bridge.advance step).1⟩),
    handle ∉ lent past

/-- Bounds on a whole run are bounds at each of its steps. -/
theorem ready_of_bounds (vm : Vm) (world : schema.World)
    {steps before later : List (VariableStep schema VmClass)} {step : VariableStep schema VmClass} :
    let start : Bridge schema Vm VmClass := Bridge.new vm world
    (start.advanceAll steps).heap.arena.slots.size < UInt32.size →
    (∀ index, (ended (arenaExchanges (start.exchanges steps))).countP (·.index = index) <
      UInt32.size) →
    steps = before ++ step :: later →
      (start.advanceAll before).Ready step (arenaExchanges (start.exchanges before)) := by
  intro start hslots hended hsteps
  have hnodup : (lent (arenaExchanges (start.exchanges steps))).Nodup := by
    obtain ⟨htranscript, harena⟩ := start.advanceAll_follows steps
    rw [← htranscript] at hended ⊢
    exact Heap.lent_nodup_of_ended (by rwa [← harena] at hslots) hended
  subst hsteps
  -- What the run did before the step, in the step and after it.
  rw [exchanges_append, arenaExchanges_append, lent_append] at hnodup
  rw [advanceAll_append] at hslots
  have hconsistent : (start.advanceAll before).heap.arena.Consistent :=
    advanceAll_consistent Arena.empty_consistent before
  have hnext : ((start.advanceAll before).advance step).2.heap.arena.slots.size ≤ UInt32.size :=
    Nat.le_trans (size_le_advanceAll (advanceAll_consistent hconsistent [step]) later)
      (Nat.le_of_lt hslots)
  exact {
    holds := advanceAll_holds Arena.empty_holds before
      (Nat.le_trans (size_le_advanceAll hconsistent [step]) hnext)
      (hnodup.sublist (List.sublist_append_left _ _))
    size_le := hnext
    fresh := by
      intro handle hlent hpast
      refine List.disjoint_of_nodup_append hnodup hpast ?_
      rw [exchanges, arenaExchanges, List.flatMap_cons, lent_append]
      exact List.mem_append_left _ hlent }

end Holding

section Run

variable [VariableHost schema Vm VmClass] {bridge : Bridge schema Vm VmClass}
variable {past : List (Exchange schema)}

open VariableHost

/-- Storing an instance adds it and nothing else, when the arena holds what the past tells
and there are places and handles left. -/
theorem stored_of_holds (hholds : bridge.heap.arena.Holds past) (object : Value)
    (name : String) (vmClass : VmClass) (inst : Instance schema.toClassFamily)
    (hfits : bridge.heap.arena.place < UInt32.size)
    (hfresh : (bridge.heap.arena.insert inst).1 ∉ lent past) :
    bridge.Stored (bridge.withVariable object name vmClass inst) past
      (bridge.heap.arena.insert inst).1 inst object name vmClass where
  fresh := hfresh
  stale_before := by
    by_contra hlive
    obtain ⟨present, hoccupant⟩ := Option.ne_none_iff_exists'.mp hlive
    exact hfresh (hholds.lent_of_occupant? hoccupant)
  occupant?_eq other := by
    show (bridge.heap.arena.insert inst).2.occupant? other = _
    split
    · next hsame => rw [hsame, hholds.consistent.occupant?_insert_self _ hfits]
    · next hother => exact hholds.consistent.occupant?_insert_of_ne _ hother
  live_eq := Arena.insert_live _
  kept?_eq other key := kept?_setVariable _ _ _ _ _ _ _
  registry_eq := rfl

theorem Ready.stored {owner : schema.Class} {object : Value} {name : String}
    {content : schema.Content owner}
    (hready : bridge.Ready (.set owner object name content) past)
    {record : ClassRecord schema VmClass} (hrecord : bridge.registry.record? owner = some record) :
    ∃ handle after, setVariable owner object name content bridge = .ok (.wrapped handle) after ∧
      bridge.Stored after past handle ⟨owner, content⟩ object name record.vmClass := by
  have hadvance : bridge.advance (.set owner object name content) =
      (.ok (.wrapped (bridge.heap.arena.insert ⟨owner, content⟩).1),
        bridge.withVariable object name record.vmClass ⟨owner, content⟩) := by
    rw [advance, setVariable_apply, hrecord]
  have hsize := hready.size_le
  have hfresh := hready.fresh
  rw [hadvance] at hsize hfresh
  refine ⟨_, _, by rw [setVariable_apply, hrecord],
    stored_of_holds hready.holds object name record.vmClass ⟨owner, content⟩ ?_ ?_⟩
  · exact bridge.heap.place_lt_of_fits ⟨owner, content⟩ hready.holds.consistent hsize
  · exact hfresh _ (List.mem_singleton_self _)

/-- In every run from the start, in which the arena keeps below as many slots as a word
counts and no slot is ended as often: storing an instance in a variable is rejected
exactly if its class is not registered, and then nothing has changed; else the bridge has
one new instance in that variable, and nothing else has changed.  Reading a variable is
resolving what was stored there last, and tells why that instance is not to be had. -/
theorem variables_follow_history (vm : Vm) (world : schema.World)
    (hblank : ∀ handle name, kept? vm handle name = none)
    (steps : List (VariableStep schema VmClass)) :
    let start : Bridge schema Vm VmClass := Bridge.new vm world
    (start.advanceAll steps).heap.arena.slots.size < UInt32.size →
    (∀ index, (ended (arenaExchanges (start.exchanges steps))).countP (·.index = index) <
      UInt32.size) →
    ∀ before step later, steps = before ++ step :: later →
      let bridge := start.advanceAll before
      let past := start.exchanges before
      (∀ owner object name content, step = .set owner object name content →
        (bridge.registry.record? owner = none →
          setVariable owner object name content bridge =
            .error (.typeNotFound (schema.nativeName owner)) bridge) ∧
        ∀ record, bridge.registry.record? owner = some record → ∃ handle after,
          setVariable owner object name content bridge = .ok (.wrapped handle) after ∧
            bridge.Stored after (arenaExchanges past) handle ⟨owner, content⟩ object name
              record.vmClass) ∧
      ∀ owner object name, step = .read owner object name →
        bridge.readVariable owner object name =
          bridge.unwrap owner
            (((lastStored? past object name).map fun stored => .wrapped stored.1).getD .nil) ∧
        bridge.readVariable owner object name =
          readStored owner (ended (arenaExchanges past)) (lastStored? past object name) := by
  intro start hslots hended before step later hsteps bridge past
  have hready : bridge.Ready step (arenaExchanges past) :=
    ready_of_bounds vm world hslots hended hsteps
  refine ⟨?_, ?_⟩
  · rintro owner object name content rfl
    exact ⟨fun hnone => by rw [setVariable_apply, hnone], fun record => hready.stored⟩
  · rintro owner object name rfl
    have hstart : start.Recalls [] := fun handle name => by
      rw [show kept? start.vm handle name = none from hblank handle name]
      rfl
    have hread := readVariable_of_recalls (hstart.advanceAll before) owner object name
    refine ⟨hread, hread.trans (hready.holds.resolve_stored owner ?_)⟩
    exact fun handle inst hstored => given_of_lastStored? hstored

end Run

section Sample

open Sample

def palStart : Bridge Sample.schema (RecordingHost Sample.schema) Nat :=
  Bridge.new (.new none) .empty

/-- A hero keeps a monster in a variable, and then another one, which is ended. -/
def palSteps : List (VariableStep Sample.schema Nat) :=
  [.setUp (.register .monster "Monster" none (pure ({} : Monster))),
   .insert ⟨.hero, ({} : Hero)⟩,
   .set .monster (.wrapped ⟨0, 0⟩) "pal" ({ hp := ⟨9, by decide⟩ } : Monster),
   .set .monster (.wrapped ⟨0, 0⟩) "pal" ({} : Monster),
   .finalize ⟨2, 0⟩]

/-- Reading the variable tells that the second monster is gone, although the first one is
still there. -/
theorem variables_follow_history_pal :
    let steps := palSteps ++ [.read .monster (.wrapped ⟨0, 0⟩) "pal"]
    (palStart.advanceAll steps).heap.arena.slots.size < UInt32.size ∧
      ended (arenaExchanges (palStart.exchanges steps)) = [⟨2, 0⟩] ∧
      (palStart.advanceAll palSteps).heap.arena.isLive ⟨1, 0⟩ = true ∧
      (palStart.advanceAll palSteps).readVariable .monster (.wrapped ⟨0, 0⟩) "pal" =
        .error (.staleInstance 2) := by
  intro steps
  have hslots : (palStart.advanceAll steps).heap.arena.slots.size < UInt32.size := by
    have hsize : (palStart.advanceAll steps).heap.arena.slots.size = 3 := rfl
    rw [hsize]
    decide
  have hended : ended (arenaExchanges (palStart.exchanges steps)) = [⟨2, 0⟩] := rfl
  have hbounds : ∀ index, (ended (arenaExchanges (palStart.exchanges steps))).countP
      (·.index = index) < UInt32.size := by
    intro index
    rw [hended]
    exact Nat.lt_of_le_of_lt List.countP_le_length (by decide)
  have hruns := variables_follow_history (RecordingHost.new none : RecordingHost Sample.schema)
    (Notes.empty : Sample.schema.World) (fun _ _ => rfl)
  have hrun := hruns steps hslots hbounds palSteps _ [] rfl
  exact ⟨hslots, hended, rfl, (hrun.2 .monster (.wrapped ⟨0, 0⟩) "pal" rfl).2⟩

end Sample

end Bridge

end NativeBridge
