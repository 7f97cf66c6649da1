import NativeBridge.Proofs.Arena.Lookup

/-!
# Arenas up to contents

Writing to an instance changes what it holds and nothing else about the arena: no handle
becomes live or stale by it, and none changes its class or its script name.
-/

namespace NativeBridge

variable {family : ClassFamily}

/-- What a slot holds apart from the content of its instance. -/
def Slot.outline (slot : Slot family) : UInt32 × Option family.Class × String :=
  (slot.generation, slot.occupant.map (·.owner), slot.scriptName)

namespace Arena

variable {arena other : Arena family}

/-- Two arenas differ at most in the contents of instances. -/
structure SameOutline (arena other : Arena family) : Prop where
  slots : arena.slots.map (·.outline) = other.slots.map (·.outline)
  vacant : arena.vacant = other.vacant
  live : arena.live = other.live

theorem SameOutline.refl (arena : Arena family) : arena.SameOutline arena := ⟨rfl, rfl, rfl⟩

/-- The slot of a live handle has the same outline in both arenas. -/
theorem SameOutline.liveSlot?_eq (hsame : arena.SameOutline other) (handle : Handle) :
    (arena.liveSlot? handle).map (·.outline) = (other.liveSlot? handle).map (·.outline) := by
  have hslot : (arena.slots[handle.index.toNat]?).map (·.outline) =
      (other.slots[handle.index.toNat]?).map (·.outline) := by
    rw [← Array.getElem?_map, hsame.slots, Array.getElem?_map]
  -- Whether a slot is that of the live handle shows in its outline.
  have hfilter : ∀ found : Option (Slot family),
      (found.filter fun slot =>
        slot.generation == handle.generation && slot.occupant.isSome).map (·.outline) =
        (found.map (·.outline)).filter fun outline =>
          outline.1 == handle.generation && outline.2.1.isSome := by
    rintro (_ | slot)
    · rfl
    · simp only [Option.filter_some, Option.map_some, Slot.outline, Option.isSome_map]
      split <;> rfl
  rw [liveSlot?, liveSlot?, hfilter, hfilter, hslot]

theorem SameOutline.isLive_eq (hsame : arena.SameOutline other) (handle : Handle) :
    arena.isLive handle = other.isLive handle := by
  simpa [isLive] using congrArg Option.isSome (hsame.liveSlot?_eq handle)

theorem SameOutline.scriptNameOf?_eq (hsame : arena.SameOutline other) (handle : Handle) :
    arena.scriptNameOf? handle = other.scriptNameOf? handle := by
  simpa [scriptNameOf?, Function.comp_def, Slot.outline] using
    congrArg (Option.map fun outline => outline.2.2) (hsame.liveSlot?_eq handle)

theorem SameOutline.owner_eq (hsame : arena.SameOutline other) (handle : Handle) :
    (arena.occupant? handle).map (·.owner) = (other.occupant? handle).map (·.owner) := by
  have howner := congrArg (Option.bind · fun outline => outline.2.1) (hsame.liveSlot?_eq handle)
  simpa [occupant?, Option.map_bind, Option.bind_map, Function.comp_def, Slot.outline] using howner

theorem put_sameOutline (arena : Arena family) (owner : family.Class) (handle : Handle)
    (content : family.Content owner) : arena.SameOutline (arena.put owner handle content) where
  slots := by
    cases hget : arena.get owner handle with
    | error error => rw [put_of_error hget]
    | ok old =>
        obtain ⟨slot, hslot, -, hoccupant⟩ := occupant?_eq_some_iff.mp (get_eq_ok_iff.mp hget)
        apply Array.ext_getElem?
        intro position
        rw [Array.getElem?_map, Array.getElem?_map, put_slots content hget]
        split
        · next hposition => simp [← hposition, hslot, Slot.outline, hoccupant]
        · rfl
  vacant := (put_vacant owner handle content).symm
  live := (put_live owner handle content).symm

end Arena

end NativeBridge
