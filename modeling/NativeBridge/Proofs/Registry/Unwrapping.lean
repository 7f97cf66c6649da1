import NativeBridge.Bridge
import NativeBridge.Proofs.Arena.Outline
import NativeBridge.Proofs.Call.Conservation
import NativeBridge.Proofs.Call.Intake
import NativeBridge.Registry.RecordingHost
import NativeBridge.Sample.World

/-!
# The ways to an instance

An instance can be taken by its handle, by a script value that wraps it, as an argument or as the
receiver of a call, and in most of these ways to read it or to write to it.  All of them come to
the same instance or fail for the same reason.  What is written in one of the ways changes that
one instance and nothing else, and is found in all of the ways until the instance is written to
again or ended.
-/

namespace NativeBridge

variable {schema : Schema} {owner : schema.Class} {handle : Handle}

/-! ## Taking an instance -/

/-- Every way to take what a script value wraps, as an instance of `owner`, has the same
outcome: reading it, writing to it, resolving the value and, for a class that is taken by
value, decoding an argument. -/
structure Bridge.Unwraps {Vm VmClass : Type} (bridge : Bridge schema Vm VmClass)
    (owner : schema.Class) (value : Value)
    (outcome : Except ConversionError (schema.Content owner)) : Prop where
  unwrap : bridge.unwrap owner value = outcome
  access : (bridge.access owner value).map (·.content) = outcome
  resolve : bridge.heap.arena.resolve owner value = outcome
  decode : ∀ readable : (NativeType.object owner).readable schema.toClassFamily = true,
    NativeBridge.decode bridge.heap.arena (.object owner) readable value = outcome

theorem Arena.map_access {family : ClassFamily} (arena : Arena family) (owner : family.Class)
    (handle : Handle) :
    (arena.access owner handle).map (·.content) = arena.get owner handle := by
  rw [access_eq]
  cases arena.get owner handle <;> rfl

theorem Frame.map_accessReceiver {family : ClassFamily} (frame : Frame) (arena : Arena family)
    (owner : family.Class) :
    (frame.accessReceiver arena owner).map (·.content) = frame.receiver arena owner := by
  rw [accessReceiver_eq, receiver]
  cases frame.receiverHandle with
  | error error => rfl
  | ok handle =>
      simp only
      cases arena.get owner handle <;> rfl

theorem Bridge.unwraps_resolve {Vm VmClass : Type} (bridge : Bridge schema Vm VmClass)
    (owner : schema.Class) (value : Value) :
    bridge.Unwraps owner value (bridge.heap.arena.resolve owner value) where
  unwrap := rfl
  access := by
    cases value with
    | wrapped handle => exact bridge.heap.arena.map_access owner handle
    | nil | bool | int | float | text => rfl
  resolve := rfl
  decode _ := rfl

/-- Every way to the instance behind a handle shows the same content: the handle itself, a
script value that wraps it and a receiver that it is, each to read and to write. -/
structure Arena.Shows (arena : Arena schema.toClassFamily) (owner : schema.Class)
    (handle : Handle) (content : schema.Content owner) : Prop where
  get : arena.get owner handle = .ok content
  access : (arena.access owner handle).map (·.content) = .ok content
  unwraps : ∀ {Vm VmClass : Type} (bridge : Bridge schema Vm VmClass),
    bridge.heap.arena = arena → bridge.Unwraps owner (.wrapped handle) (.ok content)
  receiver : ∀ frame : Frame, frame.receiverHandle = .ok handle →
    frame.receiver arena owner = .ok content
  accessReceiver : ∀ frame : Frame, frame.receiverHandle = .ok handle →
    (frame.accessReceiver arena owner).map (·.content) = .ok content

theorem Arena.shows_of_occupant? {arena : Arena schema.toClassFamily}
    {content : schema.Content owner} (hlive : arena.occupant? handle = some ⟨owner, content⟩) :
    arena.Shows owner handle content := by
  have hget : arena.get owner handle = .ok content := get_eq_ok_iff.mpr hlive
  have hreceiver : ∀ frame : Frame, frame.receiverHandle = .ok handle →
      frame.receiver arena owner = .ok content := fun frame hhandle =>
    Frame.receiver_eq_ok.mpr ⟨handle, hhandle, hget⟩
  exact {
    get := hget
    access := (arena.map_access owner handle).trans hget
    unwraps := by
      rintro Vm VmClass bridge rfl
      have hunwraps := bridge.unwraps_resolve owner (.wrapped handle)
      rwa [show bridge.heap.arena.resolve owner (.wrapped handle) = .ok content from hget]
        at hunwraps
    receiver := hreceiver
    accessReceiver := fun frame hhandle =>
      (frame.map_accessReceiver arena owner).trans (hreceiver frame hhandle) }

/-! ## Writing to an instance -/

/-- From `before` to `after` the content behind one handle has changed and nothing else. -/
structure Arena.Written (before after : Arena schema.toClassFamily) (owner : schema.Class)
    (handle : Handle) (content : schema.Content owner) : Prop where
  occupant?_self : after.occupant? handle = some ⟨owner, content⟩
  occupant?_of_ne : ∀ other, other ≠ handle → after.occupant? other = before.occupant? other
  owner_eq : ∀ other, (after.occupant? other).map (·.owner) = (before.occupant? other).map (·.owner)
  isLive_eq : ∀ other, after.isLive other = before.isLive other
  scriptNameOf?_eq : ∀ other, after.scriptNameOf? other = before.scriptNameOf? other
  outlines_eq : after.slots.map (·.outline) = before.slots.map (·.outline)
  vacant_eq : after.vacant = before.vacant
  live_eq : after.live = before.live

theorem Arena.written_put {arena : Arena schema.toClassFamily} {old : schema.Content owner}
    (hget : arena.get owner handle = .ok old) (content : schema.Content owner) :
    arena.Written (arena.put owner handle content) owner handle content where
  occupant?_self := by rw [occupant?_put content hget, if_pos rfl]
  occupant?_of_ne other hother := by rw [occupant?_put content hget, if_neg hother]
  owner_eq other := ((put_sameOutline arena owner handle content).owner_eq other).symm
  isLive_eq other := ((put_sameOutline arena owner handle content).isLive_eq other).symm
  scriptNameOf?_eq other :=
    ((put_sameOutline arena owner handle content).scriptNameOf?_eq other).symm
  outlines_eq := (put_sameOutline arena owner handle content).slots.symm
  vacant_eq := put_vacant owner handle content
  live_eq := put_live owner handle content

/-! ## What is found later -/

/-- An operation neither ends the instance behind a handle nor writes to it. -/
def Operation.Spares (handle : Handle) : Operation schema → Prop
  | finalize ended => ended ≠ handle
  | update _ written _ => written ≠ handle
  | _ => True

namespace Heap

variable {heap : Heap schema} {inst : Instance schema.toClassFamily}

theorem perform_occupant?_of_spares (hconsistent : heap.arena.Consistent)
    {operation : Operation schema} (hspares : operation.Spares handle)
    (hlive : heap.arena.occupant? handle = some inst) :
    (heap.perform operation).2.arena.occupant? handle = some inst := by
  cases operation with
  | insert lent => exact hconsistent.occupant?_insert_of_some lent hlive
  | finalize ended =>
      rw [perform_finalize, finalize_arena, Arena.occupant?_release, if_neg hspares.symm, hlive]
  | update writer written change =>
      cases hget : heap.arena.get writer written with
      | error error => rwa [perform_update_of_error heap written change hget]
      | ok old =>
          rw [perform_update_arena heap written change hget]
          exact (Arena.occupant?_put _ hget handle).trans ((if_neg hspares.symm).trans hlive)
  | get | resolve | scriptNameOf | isLive | size => exact hlive

theorem after_occupant?_of_spares (hconsistent : heap.arena.Consistent)
    (operations : List (Operation schema))
    (hspares : ∀ operation ∈ operations, operation.Spares handle)
    (hlive : heap.arena.occupant? handle = some inst) :
    (heap.after operations).arena.occupant? handle = some inst := by
  induction operations generalizing heap with
  | nil => exact hlive
  | cons operation rest ih =>
      obtain ⟨hfirst, hrest⟩ := List.forall_mem_cons.mp hspares
      exact ih (heap.perform_consistent operation hconsistent) hrest
        (perform_occupant?_of_spares hconsistent hfirst hlive)

/-- Whatever embedding programs and native code do, an instance that they neither end nor
write to stays what it is. -/
theorem afterAll_occupant?_of_spares (hconsistent : heap.arena.Consistent)
    (activities : List (Activity schema))
    (hspares : ∀ exchange ∈ heap.exchanges activities, exchange.operation.Spares handle)
    (hlive : heap.arena.occupant? handle = some inst) :
    (heap.afterAll activities).arena.occupant? handle = some inst := by
  rw [← (heap.afterAll_follows activities).2]
  apply after_occupant?_of_spares hconsistent _ _ hlive
  intro operation hoperation
  obtain ⟨exchange, hexchange, rfl⟩ := List.mem_map.mp hoperation
  exact hspares exchange hexchange

end Heap

/-- What is left through an access goes to the instance behind a handle and nowhere else, and it
is found there in every way after whatever neither ends that instance nor writes to it. -/
structure Access.WritesTo (held : Access schema.toClassFamily owner)
    (arena : Arena schema.toClassFamily) (handle : Handle) : Prop where
  written : ∀ content, arena.Written (held.leave content) owner handle content
  shows : ∀ content world activities,
    (∀ exchange ∈ (⟨held.leave content, world⟩ : Heap schema).exchanges activities,
      exchange.operation.Spares handle) →
    ((⟨held.leave content, world⟩ : Heap schema).afterAll activities).arena.Shows owner handle
      content

theorem Arena.Consistent.writesTo {arena : Arena schema.toClassFamily}
    (hconsistent : arena.Consistent) {held : Access schema.toClassFamily owner}
    (haccess : arena.access owner handle = .ok held) : held.WritesTo arena handle := by
  rw [access_eq] at haccess
  cases hget : arena.get owner handle with
  | error error => simp only [hget, reduceCtorEq] at haccess
  | ok old =>
      simp only [hget, Except.ok.injEq] at haccess
      subst haccess
      refine ⟨written_put hget, fun content world activities hspares => ?_⟩
      apply shows_of_occupant?
      exact Heap.afterAll_occupant?_of_spares (hconsistent.put owner handle content) activities
        hspares (written_put hget content).occupant?_self

/-- In every arena that can be come to, all ways to take an instance succeed on the same values,
handles and frames with the same content and otherwise fail with the same error.  Whoever has
exclusive access through a handle, a value or a receiver writes to that one instance, changes
nothing else, and what was written is found in all of the ways as long as the instance is
neither written to again nor ended. -/
theorem unwrapping_agrees {Vm VmClass : Type} (bridge : Bridge schema Vm VmClass)
    (hreached : bridge.heap.arena.Reached) (owner : schema.Class) :
    (∀ value, bridge.Unwraps owner value (bridge.heap.arena.resolve owner value)) ∧
    (∀ handle, (bridge.heap.arena.access owner handle).map (·.content) =
      bridge.heap.arena.get owner handle) ∧
    (∀ frame : Frame, (frame.accessReceiver bridge.heap.arena owner).map (·.content) =
      frame.receiver bridge.heap.arena owner) ∧
    (∀ handle held, bridge.heap.arena.access owner handle = .ok held →
      held.WritesTo bridge.heap.arena handle) ∧
    (∀ value held, bridge.access owner value = .ok held →
      ∃ handle, value = .wrapped handle ∧ held.WritesTo bridge.heap.arena handle) ∧
    ∀ (frame : Frame) held, frame.accessReceiver bridge.heap.arena owner = .ok held →
      ∃ handle, frame.receiverHandle = .ok handle ∧ held.WritesTo bridge.heap.arena handle := by
  have hwrites : ∀ handle held, bridge.heap.arena.access owner handle = .ok held →
      held.WritesTo bridge.heap.arena handle := fun handle held haccess =>
    hreached.consistent.writesTo haccess
  refine ⟨bridge.unwraps_resolve owner, bridge.heap.arena.map_access owner,
    fun frame => frame.map_accessReceiver bridge.heap.arena owner, hwrites, ?_, ?_⟩
  · intro value held haccess
    cases value with
    | wrapped handle => exact ⟨handle, rfl, hwrites handle held haccess⟩
    | nil | bool | int | float | text => cases haccess
  · intro frame held haccess
    rw [Frame.accessReceiver] at haccess
    cases hhandle : frame.receiverHandle with
    | error error => simp only [hhandle, reduceCtorEq] at haccess
    | ok handle =>
        cases hheld : bridge.heap.arena.access owner handle with
        | error cause => simp only [hhandle, hheld, reduceCtorEq] at haccess
        | ok taken =>
            simp only [hhandle, hheld, Except.ok.injEq] at haccess
            subst haccess
            exact ⟨handle, rfl, hwrites handle taken hheld⟩

section Sample

open Sample

/-- A bridge after a monster was lent, ended, and lent a place again beside a hero. -/
def crowdedBridge : Bridge Sample.schema (RecordingHost Sample.schema) Nat where
  vm := .new none
  registry := .empty
  heap := (Heap.new Notes.empty).afterAll
    [.direct (.insert ⟨.monster, ({} : Monster)⟩), .direct (.finalize ⟨0, 0⟩),
      .direct (.insert ⟨.monster, ({} : Monster)⟩), .direct (.insert ⟨.hero, ({} : Hero)⟩)]

/-- Nine hit points written to the monster as a receiver are found by its value, after the hero
beside it was ended; the old handle of the monster is stale in every way. -/
theorem unwrapping_agrees_crowded :
    crowdedBridge.heap.arena.Reached ∧
      crowdedBridge.Unwraps .monster (.wrapped ⟨0, 0⟩) (.error (.staleInstance 0)) ∧
      ∃ held : Access Sample.schema.toClassFamily SampleClass.monster,
        Frame.accessReceiver ⟨[.wrapped ⟨0, 1⟩], 1⟩ crowdedBridge.heap.arena .monster =
            .ok held ∧
          ((⟨held.leave ({ hp := ⟨9, by decide⟩ } : Monster), Notes.empty⟩ :
              Heap Sample.schema).afterAll [.direct (.finalize ⟨1, 0⟩)]).arena.resolve
            .monster (.wrapped ⟨0, 1⟩) = .ok ({ hp := ⟨9, by decide⟩ } : Monster) := by
  have hreached : crowdedBridge.heap.arena.Reached := ⟨Notes.empty, _, rfl⟩
  obtain ⟨hunwraps, -, -, -, -, hreceiver⟩ :=
    unwrapping_agrees crowdedBridge hreached (SampleClass.monster : Sample.schema.Class)
  refine ⟨hreached, hunwraps (.wrapped ⟨0, 0⟩), _, rfl, ?_⟩
  obtain ⟨handle, hhandle, hwrites⟩ := hreceiver ⟨[.wrapped ⟨0, 1⟩], 1⟩ _ rfl
  cases hhandle
  refine (hwrites.shows _ Notes.empty [.direct (.finalize ⟨1, 0⟩)] ?_).get
  intro exchange hexchange
  obtain rfl := List.mem_singleton.mp hexchange
  show (⟨1, 0⟩ : Handle) ≠ ⟨0, 1⟩
  decide

end Sample

end NativeBridge
