import NativeBridge.Native.Schema
import NativeBridge.Proofs.Arena.Consistency

/-!
# Runs of arena operations

An embedding program and the native code that it binds use the arena through a handful
of operations.  A run is any list of them; its transcript pairs each with the answer it
got.  Ending an instance throws its content away, which is native code and may panic.
-/

namespace NativeBridge

variable {schema : Schema}

inductive Operation (schema : Schema) where
  | insert (inst : Instance schema.toClassFamily)
  | finalize (handle : Handle)
  /-- Takes the content behind a handle to change it. -/
  | update (owner : schema.Class) (handle : Handle)
      (change : schema.Content owner → schema.Content owner)
  | get (owner : schema.Class) (handle : Handle)
  | resolve (owner : schema.Class) (value : Value)
  | scriptNameOf (handle : Handle)
  | isLive (handle : Handle)
  | size

@[reducible]
def Operation.Answer : Operation schema → Type
  | insert _ => Handle
  | finalize _ => Bool
  | update owner _ _ | get owner _ | resolve owner _ =>
    Except ConversionError (schema.Content owner)
  | scriptNameOf _ => Option String
  | isLive _ => Bool
  | size => Nat

/-- An operation with the answer that it got. -/
structure Exchange (schema : Schema) where
  operation : Operation schema
  answer : operation.Answer

namespace Exchange

/-- The handle that an exchange gave out. -/
def lent? : Exchange schema → Option Handle
  | ⟨.insert _, handle⟩ => some handle
  | _ => none

/-- The handle whose instance an exchange ended. -/
def ended? : Exchange schema → Option Handle
  | ⟨.finalize handle, true⟩ => some handle
  | _ => none

end Exchange

/-- The handles given out in a transcript, in order. -/
def lent (transcript : List (Exchange schema)) : List Handle :=
  transcript.filterMap Exchange.lent?

/-- The handles whose instances were ended in a transcript, in order. -/
def ended (transcript : List (Exchange schema)) : List Handle :=
  transcript.filterMap Exchange.ended?

theorem lent_append (first second : List (Exchange schema)) :
    lent (first ++ second) = lent first ++ lent second :=
  List.filterMap_append

theorem ended_append (first second : List (Exchange schema)) :
    ended (first ++ second) = ended first ++ ended second :=
  List.filterMap_append

namespace Heap

def new (world : schema.World) : Heap schema := ⟨.empty, world⟩

def perform (heap : Heap schema) : (operation : Operation schema) →
    operation.Answer × Heap schema
  | .insert inst => ((heap.arena.insert inst).1, { heap with arena := (heap.arena.insert inst).2 })
  | .finalize handle => heap.finalize handle
  | .update owner handle change =>
    match heap.arena.update owner handle change with
    | .ok (content, arena) => (.ok content, { heap with arena })
    | .error error => (.error error, heap)
  | .get owner handle => (heap.arena.get owner handle, heap)
  | .resolve owner value => (heap.arena.resolve owner value, heap)
  | .scriptNameOf handle => (heap.arena.scriptNameOf? handle, heap)
  | .isLive handle => (heap.arena.isLive handle, heap)
  | .size => (heap.arena.size, heap)

def after (heap : Heap schema) : List (Operation schema) → Heap schema
  | [] => heap
  | operation :: rest => (heap.perform operation).2.after rest

def transcript (heap : Heap schema) : List (Operation schema) → List (Exchange schema)
  | [] => []
  | operation :: rest =>
    ⟨operation, (heap.perform operation).1⟩ :: (heap.perform operation).2.transcript rest

theorem after_append (heap : Heap schema) (first second : List (Operation schema)) :
    heap.after (first ++ second) = (heap.after first).after second := by
  induction first generalizing heap with
  | nil => rfl
  | cons operation rest ih => exact ih _

theorem transcript_append (heap : Heap schema) (first second : List (Operation schema)) :
    heap.transcript (first ++ second) =
      heap.transcript first ++ (heap.after first).transcript second := by
  induction first generalizing heap with
  | nil => rfl
  | cons operation rest ih => exact congrArg _ (ih _)

@[simp]
theorem length_transcript (heap : Heap schema) (operations : List (Operation schema)) :
    (heap.transcript operations).length = operations.length := by
  induction operations generalizing heap with
  | nil => rfl
  | cons operation rest ih => simp [transcript, ih]

/-! ## What one operation does -/

theorem perform_isLive (heap : Heap schema) (handle : Handle) :
    heap.perform (.isLive handle) = (heap.arena.isLive handle, heap) := rfl

theorem perform_finalize (heap : Heap schema) (handle : Handle) :
    heap.perform (.finalize handle) = heap.finalize handle := rfl

@[simp]
theorem discard_arena (heap : Heap schema) (inst : Instance schema.toClassFamily) :
    (heap.discard inst).arena = heap.arena := by
  rw [discard]
  split <;> rfl

/-- Whatever native code does when the content is thrown away, the arena has lost the
instance and nothing else. -/
theorem finalize_arena (heap : Heap schema) (handle : Handle) :
    (heap.finalize handle).2.arena = (heap.arena.release handle).2 := by
  rw [finalize]
  rcases heap.arena.release handle with ⟨_ | inst, arena⟩ <;> simp

theorem finalize_fst (heap : Heap schema) (handle : Handle) :
    (heap.finalize handle).1 = heap.arena.isLive handle := by
  have hreleased : (heap.arena.release handle).1 = _ := Arena.release_fst handle
  rw [Arena.isLive_eq_isSome_occupant?, ← hreleased]
  rw [finalize]
  rcases heap.arena.release handle with ⟨_ | inst, arena⟩ <;> rfl

theorem perform_update_arena (heap : Heap schema) {owner : schema.Class} (handle : Handle)
    (change : schema.Content owner → schema.Content owner) {old : schema.Content owner}
    (hget : heap.arena.get owner handle = .ok old) :
    heap.perform (.update owner handle change) =
      (.ok (change old), { heap with arena := heap.arena.put owner handle (change old) }) := by
  simp [perform, Arena.update_eq, hget]

theorem perform_update_of_error (heap : Heap schema) {owner : schema.Class} (handle : Handle)
    (change : schema.Content owner → schema.Content owner) {error : ConversionError}
    (hget : heap.arena.get owner handle = .error error) :
    heap.perform (.update owner handle change) = (.error error, heap) := by
  simp [perform, Arena.update_eq, hget]

/-- What holds of an arena after lending, ending and writing holds after every
operation. -/
theorem perform_arena_induction (Holds : Arena schema.toClassFamily → Prop)
    (hinsert : ∀ arena inst, Holds arena → Holds (arena.insert inst).2)
    (hrelease : ∀ arena handle, Holds arena → Holds (arena.release handle).2)
    (hput : ∀ arena owner handle content, Holds arena → Holds (arena.put owner handle content))
    (heap : Heap schema) (operation : Operation schema) (hbefore : Holds heap.arena) :
    Holds (heap.perform operation).2.arena := by
  cases operation with
  | insert inst => exact hinsert _ _ hbefore
  | finalize handle =>
      show Holds (heap.finalize handle).2.arena
      rw [finalize_arena]
      exact hrelease _ _ hbefore
  | update owner handle change =>
      cases hget : heap.arena.get owner handle with
      | error error =>
          rw [perform_update_of_error heap handle change hget]
          exact hbefore
      | ok old =>
          rw [perform_update_arena heap handle change hget]
          exact hput _ _ _ _ hbefore
  | get | resolve | scriptNameOf | isLive | size => exact hbefore

/-- The live count rises by what an operation lent and falls by what it ended. -/
theorem perform_live (heap : Heap schema) (operation : Operation schema)
    (hconsistent : heap.arena.Consistent) :
    (heap.perform operation).2.arena.live +
        (ended [⟨operation, (heap.perform operation).1⟩]).length =
      heap.arena.live + (lent [⟨operation, (heap.perform operation).1⟩]).length := by
  cases operation with
  | insert inst => exact Arena.insert_live inst
  | finalize handle =>
      show (heap.finalize handle).2.arena.live +
          (ended [⟨.finalize handle, (heap.finalize handle).1⟩]).length = heap.arena.live + 0
      rw [finalize_arena, finalize_fst]
      cases hlive : heap.arena.isLive handle with
      | false =>
          rw [Arena.isLive_eq_isSome_occupant?, Option.isSome_eq_false_iff,
            Option.isNone_iff_eq_none] at hlive
          rw [Arena.release_of_stale hlive]
          rfl
      | true =>
          exact hconsistent.release_live_add_one hlive
  | update owner handle change =>
      cases hget : heap.arena.get owner handle with
      | error error =>
          rw [perform_update_of_error heap handle change hget]
          rfl
      | ok old =>
          rw [perform_update_arena heap handle change hget]
          exact Arena.put_live owner handle (change old)
  | get | resolve | scriptNameOf | isLive | size => rfl

theorem perform_consistent (heap : Heap schema) (operation : Operation schema)
    (hconsistent : heap.arena.Consistent) :
    (heap.perform operation).2.arena.Consistent :=
  perform_arena_induction _ (fun _ inst hbefore => hbefore.insert inst)
    (fun _ handle hbefore => hbefore.release handle)
    (fun _ owner handle content hbefore => hbefore.put owner handle content)
    heap operation hconsistent

/-! ## What every run keeps -/

theorem after_consistent (heap : Heap schema) (operations : List (Operation schema))
    (hconsistent : heap.arena.Consistent) : (heap.after operations).arena.Consistent := by
  induction operations generalizing heap with
  | nil => exact hconsistent
  | cons operation rest ih => exact ih _ (heap.perform_consistent operation hconsistent)

/-- Over a run the live count rises by what was lent and falls by what was ended. -/
theorem after_live (heap : Heap schema) (operations : List (Operation schema))
    (hconsistent : heap.arena.Consistent) :
    (heap.after operations).arena.live + (ended (heap.transcript operations)).length =
      heap.arena.live + (lent (heap.transcript operations)).length := by
  induction operations generalizing heap with
  | nil => rfl
  | cons operation rest ih =>
      have hperform := heap.perform_live operation hconsistent
      have hrest := ih _ (heap.perform_consistent operation hconsistent)
      rw [after, transcript, ← List.singleton_append, ended_append, lent_append,
        List.length_append, List.length_append]
      omega

theorem new_after_consistent (world : schema.World) (operations : List (Operation schema)) :
    ((new world).after operations).arena.Consistent :=
  after_consistent _ _ Arena.empty_consistent

/-! ## Runs and the world of native code -/

/-- What an operation answers, and what it does to the arena, does not depend on the
world of native code. -/
theorem perform_congr {heap other : Heap schema} (harena : heap.arena = other.arena)
    (operation : Operation schema) :
    (heap.perform operation).1 = (other.perform operation).1 ∧
      (heap.perform operation).2.arena = (other.perform operation).2.arena := by
  cases operation with
  | insert inst => simp only [perform, harena, and_self]
  | finalize handle =>
      simp only [perform, finalize_fst, finalize_arena, harena, and_self]
  | update owner handle change =>
      simp only [perform, harena]
      cases other.arena.update owner handle change with
      | error error => exact ⟨rfl, harena⟩
      | ok changed => exact ⟨rfl, rfl⟩
  | get | resolve | scriptNameOf | isLive | size => simp only [perform, harena, and_self]

theorem transcript_congr {heap other : Heap schema} (harena : heap.arena = other.arena)
    (operations : List (Operation schema)) :
    heap.transcript operations = other.transcript operations ∧
      (heap.after operations).arena = (other.after operations).arena := by
  induction operations generalizing heap other with
  | nil => exact ⟨rfl, harena⟩
  | cons operation rest ih =>
      obtain ⟨hanswer, hnext⟩ := perform_congr harena operation
      obtain ⟨hrest, hafter⟩ := ih hnext
      exact ⟨by rw [transcript, transcript, hanswer, hrest], hafter⟩

/-- From `heap` to `later` nothing happened to the arena but some operations with their
answers. -/
def Follows (heap later : Heap schema) (exchanges : List (Exchange schema)) : Prop :=
  heap.transcript (exchanges.map (·.operation)) = exchanges ∧
    (heap.after (exchanges.map (·.operation))).arena = later.arena

theorem Follows.none {heap later : Heap schema} (harena : heap.arena = later.arena) :
    heap.Follows later [] :=
  ⟨rfl, harena⟩

theorem Follows.perform (heap : Heap schema) (operation : Operation schema) :
    heap.Follows (heap.perform operation).2 [⟨operation, (heap.perform operation).1⟩] :=
  ⟨rfl, rfl⟩

theorem Follows.trans {heap middle later : Heap schema} {first second : List (Exchange schema)}
    (hfirst : heap.Follows middle first) (hsecond : middle.Follows later second) :
    heap.Follows later (first ++ second) := by
  obtain ⟨hanswers, harena⟩ := hfirst
  obtain ⟨hrest, hafter⟩ := transcript_congr harena (second.map (·.operation))
  constructor
  · rw [List.map_append, transcript_append, hanswers, hrest, hsecond.1]
  · rw [List.map_append, after_append, hafter, hsecond.2]

end Heap

end NativeBridge
