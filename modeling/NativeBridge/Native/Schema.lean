import NativeBridge.Arena

/-!
# Native code and its memory

Native code runs outside the reach of scripts.  It may read and change a world of its
own, and it may panic instead of returning; what it changed before stays changed.
The heap is what native code and the bridge share: the arena of lent instances and
that world.
-/

namespace NativeBridge

/-- What native code throws when it breaks off. -/
inductive Panic where
  | text (content : String)
  /-- A payload that is no text. -/
  | unknown
deriving DecidableEq

def Panic.message : Panic → String
  | text content => content
  | unknown => "unknown panic payload"

/-- Native code that gives an `Outcome`, or panics, and may change a state. -/
abbrev Task (State Outcome : Type) : Type :=
  EStateM Panic State Outcome

/-- The native side of a bridge: its classes, the world its code works in, and what
that code does when an instance ends. -/
structure Schema extends ClassFamily where
  World : Type
  /-- Runs when the content of an ended instance is thrown away. -/
  discard : (owner : Class) → Content owner → Task World Unit

/-- The memory that native code and the bridge share. -/
structure Heap (schema : Schema) where
  arena : Arena schema.toClassFamily
  world : schema.World

namespace Heap

variable {schema : Schema}

/-- Throws an instance away.  A panic is swallowed. -/
def discard (heap : Heap schema) (inst : Instance schema.toClassFamily) : Heap schema :=
  match schema.discard inst.owner inst.content heap.world with
  | .ok _ world => { heap with world }
  | .error _ world => { heap with world }

/-- Ends the instance behind a handle, and tells whether there was one.  The slot is
free before the content is thrown away, so a panic there changes nothing for
scripts. -/
def finalize (heap : Heap schema) (handle : Handle) : Bool × Heap schema :=
  match heap.arena.release handle with
  | (none, arena) => (false, { heap with arena })
  | (some inst, arena) => (true, ({ heap with arena } : Heap schema).discard inst)

end Heap

end NativeBridge
