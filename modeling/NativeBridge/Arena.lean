import NativeBridge.Conversion.Error
import NativeBridge.Native.Type

/-!
# The arena of lent instances

Every native instance that scripts may refer to lives in a slot of the arena.  A
handle names a slot and the generation that lived there when the handle was given
out.  Ending an instance empties its slot and advances the generation, so that old
handles go stale although the slot is used again.
-/

namespace NativeBridge

structure Instance (family : ClassFamily) where
  owner : family.Class
  content : family.Content owner

/-- The content of an instance, if it belongs to the wanted class. -/
def Instance.as? {family : ClassFamily} (inst : Instance family) (owner : family.Class) :
    Option (family.Content owner) :=
  if same : inst.owner = owner then some (same ▸ inst.content) else none

def Instance.scriptName {family : ClassFamily} (inst : Instance family) : String :=
  family.scriptName inst.owner

/-- A place for one instance at a time.  It keeps the script name of the class that it
took last, also when it is empty. -/
structure Slot (family : ClassFamily) where
  generation : UInt32
  occupant : Option (Instance family)
  scriptName : String

/-- All slots ever made, the empty ones with the last emptied first, and the number of
instances. -/
structure Arena (family : ClassFamily) where
  slots : Array (Slot family)
  vacant : List UInt32
  live : Nat

/-- Exclusive access to an instance: what it holds, and the arena once something else is left
in it. -/
structure Access (family : ClassFamily) (owner : family.Class) where
  content : family.Content owner
  leave : family.Content owner → Arena family

namespace Arena

variable {family : ClassFamily}

def empty : Arena family := ⟨#[], [], 0⟩

instance : Inhabited (Arena family) := ⟨empty⟩

def size (arena : Arena family) : Nat := arena.live

def isEmpty (arena : Arena family) : Bool := arena.live == 0

/-- Gives an instance a place: the slot emptied last, in its present generation, or a
new slot.  Slot numbers are 32-bit words. -/
def insert (arena : Arena family) (inst : Instance family) : Handle × Arena family :=
  match arena.vacant with
  | index :: vacant =>
    let generation := (arena.slots[index.toNat]?.map (·.generation)).getD 0
    (⟨index, generation⟩,
      { slots := arena.slots.modify index.toNat fun slot =>
          { slot with occupant := some inst, scriptName := inst.scriptName }
        vacant
        live := arena.live + 1 })
  | [] =>
    (⟨arena.slots.size.toUInt32, 0⟩,
      { slots := arena.slots.push ⟨0, some inst, inst.scriptName⟩
        vacant := []
        live := arena.live + 1 })

/-- The slot of a live handle: it is occupied, in the generation of the handle. -/
def liveSlot? (arena : Arena family) (handle : Handle) : Option (Slot family) :=
  arena.slots[handle.index.toNat]?.filter fun slot =>
    slot.generation == handle.generation && slot.occupant.isSome

/-- The instance behind a handle, if it is live. -/
def occupant? (arena : Arena family) (handle : Handle) : Option (Instance family) :=
  (arena.liveSlot? handle).bind (·.occupant)

def isLive (arena : Arena family) (handle : Handle) : Bool :=
  (arena.liveSlot? handle).isSome

def scriptNameOf? (arena : Arena family) (handle : Handle) : Option String :=
  (arena.liveSlot? handle).map (·.scriptName)

/-- The content behind a handle, as an instance of `owner`.  The class itself is
compared, not its name. -/
def get (arena : Arena family) (owner : family.Class) (handle : Handle) :
    Except ConversionError (family.Content owner) :=
  match arena.liveSlot? handle with
  | none => .error (.staleInstance handle.index)
  | some slot =>
    match slot.occupant.bind (·.as? owner) with
    | some content => .ok content
    | none => .error (.invalidInstance (family.scriptName owner) slot.scriptName)

/-- Exclusive access to the content behind a handle, as an instance of `owner`.  The name
for the error is taken before the slot is opened for writing. -/
def access (arena : Arena family) (owner : family.Class) (handle : Handle) :
    Except ConversionError (Access family owner) :=
  match arena.liveSlot? handle with
  | none => .error (.staleInstance handle.index)
  | some live =>
    let occupant := arena.slots[handle.index.toNat]?.bind (·.occupant)
    match occupant.bind (·.as? owner) with
    | some content =>
      let leave (content : family.Content owner) : Arena family :=
        { arena with
          slots := arena.slots.modify handle.index.toNat fun slot =>
            { slot with occupant := some ⟨owner, content⟩ } }
      .ok ⟨content, leave⟩
    | none => .error (.invalidInstance (family.scriptName owner) live.scriptName)

/-- Puts new content behind a live handle, as an instance of `owner`; another handle
changes nothing. -/
def put (arena : Arena family) (owner : family.Class) (handle : Handle)
    (content : family.Content owner) : Arena family :=
  match arena.get owner handle with
  | .ok _ =>
    { arena with
      slots := arena.slots.modify handle.index.toNat fun slot =>
        { slot with occupant := some ⟨owner, content⟩ } }
  | .error _ => arena

/-- Changes the content behind a handle, as an instance of `owner`, and gives the new
content. -/
def update (arena : Arena family) (owner : family.Class) (handle : Handle)
    (change : family.Content owner → family.Content owner) :
    Except ConversionError (family.Content owner × Arena family) :=
  match arena.access owner handle with
  | .ok held => .ok (change held.content, held.leave (change held.content))
  | .error error => .error error

/-- The content behind a script value, as an instance of `owner`. -/
def resolve (arena : Arena family) (owner : family.Class) (value : Value) :
    Except ConversionError (family.Content owner) :=
  match value with
  | .wrapped handle => arena.get owner handle
  | .nil => .error (.nullInstance (family.scriptName owner))
  | other => .error (.typeMismatch (family.scriptName owner) other.kindName)

/-- Takes the instance behind a handle out of the arena, if it is live. -/
def release (arena : Arena family) (handle : Handle) : Option (Instance family) × Arena family :=
  match arena.occupant? handle with
  | none => (none, arena)
  | some inst =>
    (some inst,
      { slots := arena.slots.modify handle.index.toNat fun slot =>
          { slot with generation := slot.generation + 1, occupant := none }
        vacant := handle.index :: arena.vacant
        live := arena.live - 1 })

def describe (arena : Arena family) : String :=
  "InstanceTable \x7b slot_count: " ++ toString arena.slots.size ++ ", live: "
    ++ toString arena.live ++ " \x7d"

end Arena

end NativeBridge
