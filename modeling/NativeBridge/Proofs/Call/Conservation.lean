import NativeBridge.Proofs.Call.Program

/-!
# Conservation of instances

Embedding programs use the arena directly, and native code uses it inside calls.  Calls
may end with an error or a panic when half of their work is done, and the content of an
ended instance may panic when it is thrown away.  In spite of this no instance is lost,
none is overwritten, and the number of live instances is the number that was lent less
the number that was ended.
-/

namespace NativeBridge

variable {schema : Schema}

/-- An entry point together with the program that its body follows. -/
structure AccountedEntry (schema : Schema) where
  entry : EntryPoint schema
  code : Frame → Program schema Unit
  follows : ∀ frame, entry.body frame = (code frame).run

/-- What uses the arena: the embedding program itself, or native code inside a call. -/
inductive Activity (schema : Schema) where
  | direct (operation : Operation schema)
  /-- Calls an entry point, with what the return slot holds before. -/
  | call (accounted : AccountedEntry schema) (frame : Frame) (returned : Value)

namespace Activity

/-- The heap that an activity leaves, also when its call fails or panics. -/
def left (heap : Heap schema) : Activity schema → Heap schema
  | direct operation => (heap.perform operation).2
  | call accounted frame returned => (accounted.entry.call frame ⟨returned, heap⟩).2.heap

def exchanges (heap : Heap schema) : Activity schema → List (Exchange schema)
  | direct operation => [⟨operation, (heap.perform operation).1⟩]
  | call accounted frame returned => (accounted.code frame).exchanges ⟨returned, heap⟩

end Activity

namespace Heap

def afterAll (heap : Heap schema) : List (Activity schema) → Heap schema
  | [] => heap
  | activity :: rest => (activity.left heap).afterAll rest

def exchanges (heap : Heap schema) : List (Activity schema) → List (Exchange schema)
  | [] => []
  | activity :: rest => activity.exchanges heap ++ (activity.left heap).exchanges rest

end Heap

/-! ## Activities as operations -/

/-- However an activity ends, what it did to the arena is what it exchanged with it. -/
theorem Activity.follows (activity : Activity schema) (heap : Heap schema) :
    heap.Follows (activity.left heap) (activity.exchanges heap) := by
  cases activity with
  | direct operation => exact Heap.Follows.perform heap operation
  | call accounted frame returned =>
      have hleft : (accounted.entry.call frame ⟨returned, heap⟩).2 =
          (accounted.code frame).run.left ⟨returned, heap⟩ := by
        rw [EntryPoint.call_snd, accounted.follows]
      simp only [Activity.left, Activity.exchanges, hleft]
      exact (accounted.code frame).run_follows ⟨returned, heap⟩

theorem Heap.afterAll_follows (heap : Heap schema) (activities : List (Activity schema)) :
    heap.Follows (heap.afterAll activities) (heap.exchanges activities) := by
  induction activities generalizing heap with
  | nil => exact Heap.Follows.none rfl
  | cons activity rest ih => exact (activity.follows heap).trans (ih (activity.left heap))

/-! ## The books of an arena -/

/-- The books of an arena are in order, and they match what was exchanged with it. -/
structure Arena.Accounted (arena : Arena schema.toClassFamily)
    (exchanges : List (Exchange schema)) : Prop extends arena.Consistent where
  /-- The vacant list stays among the slots. -/
  vacant_lt : ∀ index ∈ arena.vacant, index.toNat < arena.slots.size
  live_eq_sub : arena.live = arena.slots.size - arena.vacant.length
  /-- Lending a place never overwrites an instance. -/
  insert_keeps : ∀ inst (position : Nat) slot, arena.slots[position]? = some slot →
    slot.occupant.isSome = true → (arena.insert inst).2.slots[position]? = some slot
  /-- Ending an instance never counts below zero. -/
  release_live : ∀ handle, arena.isLive handle = true →
    (arena.release handle).2.live + 1 = arena.live
  /-- What was lent is live or was ended. -/
  size_eq : arena.size + (ended exchanges).length = (lent exchanges).length

theorem Heap.after_accounted (world : schema.World) (operations : List (Operation schema)) :
    ((new world).after operations).arena.Accounted ((new world).transcript operations) :=
  have hconsistent := new_after_consistent world operations
  { toConsistent := hconsistent
    vacant_lt := fun index hindex => hconsistent.vacant_lt hindex
    live_eq_sub := by
      have htotal := hconsistent.live_add_vacant
      omega
    insert_keeps := fun inst position slot hslot hoccupied =>
      hconsistent.insert_keeps inst hslot hoccupied
    release_live := fun handle hlive => hconsistent.release_live_add_one hlive
    size_eq := by
      have hcount := (new world).after_live operations Arena.empty_consistent
      have hempty : (new world).arena.live = 0 := rfl
      rw [hempty, Nat.zero_add] at hcount
      exact hcount }

/-- The arenas that embedding programs and native code can come to. -/
def Arena.Reached (arena : Arena schema.toClassFamily) : Prop :=
  ∃ (world : schema.World) (activities : List (Activity schema)),
    ((Heap.new world).afterAll activities).arena = arena

theorem Arena.Reached.consistent {arena : Arena schema.toClassFamily} (hreached : arena.Reached) :
    arena.Consistent := by
  obtain ⟨world, activities, rfl⟩ := hreached
  rw [← ((Heap.new world).afterAll_follows activities).2]
  exact Heap.new_after_consistent world _

/-- The books are in order after everything that embedding programs and native code may
do, however often and however it ends.  They are in order at every point on the way, in
the middle of calls too.  The entry points that the bridge makes itself are among the
native code that may be called. -/
theorem activities_accounted (world : schema.World) (activities : List (Activity schema)) :
    ((Heap.new world).afterAll activities).arena.Accounted
        ((Heap.new world).exchanges activities) ∧
      (∀ before rest, (Heap.new world).exchanges activities = before ++ rest →
        ((Heap.new world).after (before.map (·.operation))).arena.Accounted before) ∧
      ∀ entry : EntryPoint schema, entry.Synthesized →
        ∃ accounted : AccountedEntry schema, accounted.entry = entry := by
  obtain ⟨hanswers, harena⟩ := (Heap.new world).afterAll_follows activities
  refine ⟨?_, ?_, ?_⟩
  · have hall := Heap.after_accounted world
      (((Heap.new world).exchanges activities).map (·.operation))
    rwa [hanswers, harena] at hall
  · intro before rest hsplit
    have hbefore : (Heap.new world).transcript (before.map (·.operation)) = before := by
      rw [hsplit, List.map_append, Heap.transcript_append] at hanswers
      exact (List.append_inj hanswers (by simp)).1
    have hpoint := Heap.after_accounted world (before.map (·.operation))
    rwa [hbefore] at hpoint
  · rintro _ ⟨origin, rfl⟩
    have hprograms := fun frame => origin.body_isProgram frame
    exact ⟨⟨origin.entry, fun frame => (hprograms frame).choose,
      fun frame => (hprograms frame).choose_spec.symm⟩, rfl⟩

end NativeBridge
