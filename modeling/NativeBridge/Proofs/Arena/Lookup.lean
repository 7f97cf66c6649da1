import NativeBridge.Arena

/-!
# What the arena operations do to a slot

Every operation on an arena changes at most one slot.  This file states for each of
them what becomes of that slot and which handles notice it.
-/

namespace NativeBridge

variable {family : ClassFamily}

theorem Instance.as?_eq_some_iff {inst : Instance family} {owner : family.Class}
    {content : family.Content owner} :
    inst.as? owner = some content ↔ inst = ⟨owner, content⟩ := by
  obtain ⟨present, held⟩ := inst
  rw [Instance.as?]
  by_cases hsame : present = owner
  · subst hsame
    simp
  · have hother : (⟨present, held⟩ : Instance family) ≠ ⟨owner, content⟩ := by
      intro heq
      exact hsame (congrArg Instance.owner heq)
    simp [hsame, hother]

theorem Instance.as?_eq_none_iff {inst : Instance family} {owner : family.Class} :
    inst.as? owner = none ↔ inst.owner ≠ owner := by
  rw [Instance.as?]
  by_cases hsame : inst.owner = owner <;> simp [hsame]

namespace Arena

variable {arena : Arena family}

/-! ## Looking a handle up -/

theorem liveSlot?_eq_some_iff {handle : Handle} {slot : Slot family} :
    arena.liveSlot? handle = some slot ↔
      arena.slots[handle.index.toNat]? = some slot ∧
        slot.generation = handle.generation ∧ slot.occupant.isSome = true := by
  simp [liveSlot?]

theorem occupant?_eq_some_iff {handle : Handle} {inst : Instance family} :
    arena.occupant? handle = some inst ↔
      ∃ slot, arena.slots[handle.index.toNat]? = some slot ∧
        slot.generation = handle.generation ∧ slot.occupant = some inst := by
  simp only [occupant?, Option.bind_eq_some_iff, liveSlot?_eq_some_iff]
  constructor
  · rintro ⟨slot, ⟨hslot, hgeneration, -⟩, hoccupant⟩
    exact ⟨slot, hslot, hgeneration, hoccupant⟩
  · rintro ⟨slot, hslot, hgeneration, hoccupant⟩
    exact ⟨slot, ⟨hslot, hgeneration, by simp [hoccupant]⟩, hoccupant⟩

theorem liveSlot?_eq_none_iff {handle : Handle} :
    arena.liveSlot? handle = none ↔ arena.occupant? handle = none := by
  cases hslot : arena.liveSlot? handle with
  | none => simp [occupant?, hslot]
  | some slot =>
      have hoccupied := (liveSlot?_eq_some_iff.mp hslot).2.2
      obtain ⟨inst, hinst⟩ := Option.isSome_iff_exists.mp hoccupied
      simp [occupant?, hslot, hinst]

theorem isLive_eq_isSome_occupant? (arena : Arena family) (handle : Handle) :
    arena.isLive handle = (arena.occupant? handle).isSome := by
  rw [Bool.eq_iff_iff, isLive, Option.isSome_iff_ne_none, Option.isSome_iff_ne_none, ne_eq,
    ne_eq, liveSlot?_eq_none_iff]

/-- What a handle refers to depends on its slot only. -/
theorem occupant?_congr {other : Arena family} {handle : Handle}
    (hslot : arena.slots[handle.index.toNat]? = other.slots[handle.index.toNat]?) :
    arena.occupant? handle = other.occupant? handle := by
  simp only [occupant?, liveSlot?, hslot]

/-- A handle of the generation that a slot does not have refers to nothing. -/
theorem occupant?_eq_none_of_generation {handle : Handle} {slot : Slot family}
    (hslot : arena.slots[handle.index.toNat]? = some slot)
    (hgeneration : slot.generation ≠ handle.generation) :
    arena.occupant? handle = none := by
  simp [occupant?, liveSlot?, hslot, hgeneration]

theorem occupant?_eq_none_of_vacant {handle : Handle} {slot : Slot family}
    (hslot : arena.slots[handle.index.toNat]? = some slot)
    (hvacant : slot.occupant = none) : arena.occupant? handle = none := by
  simp [occupant?, liveSlot?, hslot, hvacant]

/-! ## Counting slots -/

/-- Changing one slot changes a count by what that slot counted before and after. -/
theorem countP_modify (counted : Slot family → Bool) {slots : Array (Slot family)}
    {position : Nat} {slot : Slot family} (hslot : slots[position]? = some slot)
    (change : Slot family → Slot family) :
    (slots.modify position change).countP counted + (if counted slot then 1 else 0) =
      slots.countP counted + (if counted (change slot) then 1 else 0) := by
  have hlist : ∀ (list : List (Slot family)) (position : Nat), list[position]? = some slot →
      (list.modify position change).countP counted + (if counted slot then 1 else 0) =
        list.countP counted + (if counted (change slot) then 1 else 0) := by
    intro list
    induction list with
    | nil => simp
    | cons first rest ih =>
        intro position hposition
        cases position with
        | zero =>
            simp only [List.getElem?_cons_zero, Option.some.injEq] at hposition
            simp only [List.modify_zero_cons, List.countP_cons, hposition]
            omega
        | succ position =>
            have htail := ih position (by simpa using hposition)
            simp only [List.modify_succ_cons, List.countP_cons]
            omega
  have hcount := hlist slots.toList position (by simpa using hslot)
  simpa [← Array.countP_toList] using hcount

/-! ## Lending a place -/

theorem toNat_toUInt32 {position : Nat} (hfits : position < UInt32.size) :
    position.toUInt32.toNat = position := by
  rw [Nat.toUInt32, UInt32.toNat_ofNat', Nat.mod_eq_of_lt hfits]

/-- The position that the next instance takes. -/
def place (arena : Arena family) : Nat :=
  match arena.vacant with
  | index :: _ => index.toNat
  | [] => arena.slots.size

theorem place_of_vacant {index : UInt32} {rest : List UInt32}
    (hvacant : arena.vacant = index :: rest) : arena.place = index.toNat := by
  simp [place, hvacant]

theorem place_of_full (hfull : arena.vacant = []) : arena.place = arena.slots.size := by
  simp [place, hfull]

theorem insert_live (inst : Instance family) :
    (arena.insert inst).2.live = arena.live + 1 := by
  cases hvacant : arena.vacant <;> simp [insert, hvacant]

theorem insert_vacant (inst : Instance family) :
    (arena.insert inst).2.vacant = arena.vacant.tail := by
  cases hvacant : arena.vacant <;> simp [insert, hvacant]

/-- The handle names the place of the instance, cut to a 32-bit word. -/
theorem insert_index (inst : Instance family) :
    (arena.insert inst).1.index = arena.place.toUInt32 := by
  cases hvacant : arena.vacant <;> simp [insert, place, hvacant]

/-- The handle has the generation that its slot is in; a new slot is in the first. -/
theorem insert_generation (inst : Instance family) :
    (arena.insert inst).1.generation =
      (arena.slots[arena.place]?.map (·.generation)).getD 0 := by
  cases hvacant : arena.vacant <;> simp [insert, place, hvacant]

/-! ## Ending an instance -/

theorem release_of_stale {handle : Handle} (hstale : arena.occupant? handle = none) :
    arena.release handle = (none, arena) := by
  simp [release, hstale]

theorem release_fst (handle : Handle) :
    (arena.release handle).1 = arena.occupant? handle := by
  rw [release]
  cases arena.occupant? handle <;> rfl

section Live

variable {handle : Handle} {inst : Instance family}

/-- Ending a live instance empties its slot and moves the slot to the next
generation. -/
theorem release_slots (hlive : arena.occupant? handle = some inst) (position : Nat) :
    (arena.release handle).2.slots[position]? =
      if handle.index.toNat = position then
        arena.slots[position]?.map fun slot =>
          { slot with generation := slot.generation + 1, occupant := none }
      else arena.slots[position]? := by
  simp [release, hlive, Array.getElem?_modify]

theorem release_vacant (hlive : arena.occupant? handle = some inst) :
    (arena.release handle).2.vacant = handle.index :: arena.vacant := by
  simp [release, hlive]

theorem release_live (hlive : arena.occupant? handle = some inst) :
    (arena.release handle).2.live = arena.live - 1 := by
  simp [release, hlive]

theorem release_countP (hlive : arena.occupant? handle = some inst) :
    (arena.release handle).2.slots.countP (·.occupant.isSome) + 1 =
      arena.slots.countP (·.occupant.isSome) := by
  obtain ⟨slot, hslot, -, hoccupant⟩ := occupant?_eq_some_iff.mp hlive
  have hcount := countP_modify (·.occupant.isSome) hslot
    fun slot => { slot with generation := slot.generation + 1, occupant := none }
  simpa [release, hlive, hoccupant] using hcount

end Live

theorem release_size (handle : Handle) :
    (arena.release handle).2.slots.size = arena.slots.size := by
  rw [release]
  cases arena.occupant? handle <;> simp

/-- After it was ended, a handle refers to nothing; every other handle refers to what
it referred to. -/
theorem occupant?_release (handle other : Handle) :
    (arena.release handle).2.occupant? other =
      if other = handle then none else arena.occupant? other := by
  cases hlive : arena.occupant? handle with
  | none =>
      rw [release_of_stale hlive]
      split
      · next hsame => rw [hsame, hlive]
      · rfl
  | some inst =>
      obtain ⟨slot, hslot, hgeneration, -⟩ := occupant?_eq_some_iff.mp hlive
      by_cases hindex : other.index = handle.index
      · -- The slot is empty now, and before it was of the generation of `handle`.
        have hempty := release_slots hlive other.index.toNat
        rw [hindex, if_pos rfl, ← hindex] at hempty
        rw [hindex, hslot, ← hindex, Option.map_some] at hempty
        rw [occupant?_eq_none_of_vacant hempty rfl]
        split
        · rfl
        · next hother =>
            have hstale : slot.generation ≠ other.generation := by
              intro hsame
              exact hother (Handle.ext hindex (hgeneration ▸ hsame).symm)
            exact (occupant?_eq_none_of_generation (hindex ▸ hslot) hstale).symm
      · have hother : other ≠ handle := fun hsame => hindex (congrArg Handle.index hsame)
        have hposition : handle.index.toNat ≠ other.index.toNat := by
          intro hsame
          exact hindex (UInt32.toNat_inj.mp hsame.symm)
        rw [if_neg hother]
        exact occupant?_congr (by rw [release_slots hlive, if_neg hposition])

/-! ## Writing behind a handle -/

theorem get_eq_ok_iff {owner : family.Class} {handle : Handle}
    {content : family.Content owner} :
    arena.get owner handle = .ok content ↔ arena.occupant? handle = some ⟨owner, content⟩ := by
  rw [get, occupant?]
  cases hslot : arena.liveSlot? handle with
  | none => simp
  | some slot =>
      obtain ⟨-, -, hoccupied⟩ := liveSlot?_eq_some_iff.mp hslot
      obtain ⟨inst, hinst⟩ := Option.isSome_iff_exists.mp hoccupied
      simp only [hinst, Option.bind_some, Option.some.injEq]
      rw [← Instance.as?_eq_some_iff]
      cases inst.as? owner <;> simp

theorem put_of_error {owner : family.Class} {handle : Handle} {error : ConversionError}
    (hget : arena.get owner handle = .error error) (content : family.Content owner) :
    arena.put owner handle content = arena := by
  simp [put, hget]

section Put

variable (owner : family.Class) (handle : Handle) (content : family.Content owner)

@[simp]
theorem put_vacant : (arena.put owner handle content).vacant = arena.vacant := by
  rw [put]
  split <;> rfl

@[simp]
theorem put_live : (arena.put owner handle content).live = arena.live := by
  rw [put]
  split <;> rfl

@[simp]
theorem put_size : (arena.put owner handle content).slots.size = arena.slots.size := by
  rw [put]
  split <;> simp

variable {owner handle} {old : family.Content owner}

/-- Writing behind a live handle changes the content in its slot. -/
theorem put_slots (hget : arena.get owner handle = .ok old) (position : Nat) :
    (arena.put owner handle content).slots[position]? =
      if handle.index.toNat = position then
        arena.slots[position]?.map fun slot => { slot with occupant := some ⟨owner, content⟩ }
      else arena.slots[position]? := by
  simp [put, hget, Array.getElem?_modify]

theorem put_slots_of_ne {position : Nat} (hposition : position ≠ handle.index.toNat) :
    (arena.put owner handle content).slots[position]? = arena.slots[position]? := by
  cases hget : arena.get owner handle with
  | error error => rw [put_of_error hget]
  | ok old => rw [put_slots content hget, if_neg hposition.symm]

/-- Writing back what is there changes nothing. -/
theorem put_same (hget : arena.get owner handle = .ok content) :
    arena.put owner handle content = arena := by
  obtain ⟨slot, hslot, -, hoccupant⟩ := occupant?_eq_some_iff.mp (get_eq_ok_iff.mp hget)
  have hslots : (arena.put owner handle content).slots = arena.slots := by
    apply Array.ext_getElem?
    intro position
    rw [put_slots content hget]
    split
    · next hposition => rw [← hposition, hslot, Option.map_some, ← hoccupant]
    · rfl
  have hvacant := arena.put_vacant owner handle content
  have hlive := arena.put_live owner handle content
  cases hput : arena.put owner handle content
  cases arena
  simp_all

theorem put_countP (hget : arena.get owner handle = .ok old) :
    (arena.put owner handle content).slots.countP (·.occupant.isSome) =
      arena.slots.countP (·.occupant.isSome) := by
  obtain ⟨slot, hslot, -, hoccupant⟩ := occupant?_eq_some_iff.mp (get_eq_ok_iff.mp hget)
  have hcount := countP_modify (·.occupant.isSome) hslot
    fun slot => { slot with occupant := some ⟨owner, content⟩ }
  simpa [put, hget, hoccupant] using hcount

/-- A write through a live handle changes the content behind that handle and nothing
else. -/
theorem occupant?_put (hget : arena.get owner handle = .ok old) (other : Handle) :
    (arena.put owner handle content).occupant? other =
      if other = handle then some ⟨owner, content⟩ else arena.occupant? other := by
  obtain ⟨slot, hslot, hgeneration, -⟩ := occupant?_eq_some_iff.mp (get_eq_ok_iff.mp hget)
  by_cases hindex : other.index = handle.index
  · have hnew := put_slots content hget handle.index.toNat
    rw [if_pos rfl, hslot, Option.map_some, ← hindex] at hnew
    split
    · next hsame =>
        subst hsame
        exact occupant?_eq_some_iff.mpr ⟨_, hnew, hgeneration, rfl⟩
    · next hother =>
        have hstale : slot.generation ≠ other.generation := by
          intro hsame
          exact hother (Handle.ext hindex (hgeneration ▸ hsame).symm)
        have hbefore : arena.occupant? other = none :=
          occupant?_eq_none_of_generation (hindex ▸ hslot) hstale
        rw [hbefore]
        exact occupant?_eq_none_of_generation hnew hstale
  · have hother : other ≠ handle := fun hsame => hindex (congrArg Handle.index hsame)
    have hposition : handle.index.toNat ≠ other.index.toNat := by
      intro hsame
      exact hindex (UInt32.toNat_inj.mp hsame.symm)
    rw [if_neg hother]
    exact occupant?_congr (by rw [put_slots content hget, if_neg hposition])

theorem get_put (hget : arena.get owner handle = .ok old) :
    (arena.put owner handle content).get owner handle = .ok content := by
  rw [get_eq_ok_iff, occupant?_put content hget, if_pos rfl]

end Put

/-! ## Exclusive access -/

/-- Exclusive access is had where reading succeeds and fails as reading fails: the slot that is
opened for writing is the one that was found live. -/
theorem access_eq (arena : Arena family) (owner : family.Class) (handle : Handle) :
    arena.access owner handle =
      match arena.get owner handle with
      | .ok content => .ok ⟨content, arena.put owner handle⟩
      | .error error => .error error := by
  rw [access]
  cases hlive : arena.liveSlot? handle with
  | none =>
      have hget : arena.get owner handle = .error (.staleInstance handle.index) := by
        rw [get, hlive]
      rw [hget]
  | some live =>
      have hslot := (liveSlot?_eq_some_iff.mp hlive).1
      cases hcontent : live.occupant.bind (·.as? owner) with
      | none =>
          have hget : arena.get owner handle =
              .error (.invalidInstance (family.scriptName owner) live.scriptName) := by
            simp only [get, hlive, hcontent]
          simp only [hslot, Option.bind_some, hcontent, hget]
      | some content =>
          have hget : arena.get owner handle = .ok content := by
            simp only [get, hlive, hcontent]
          simp only [hslot, Option.bind_some, hcontent, hget, Except.ok.injEq, Access.mk.injEq,
            true_and]
          funext left
          rw [put, hget]

/-- Changing the content behind a handle puts the changed content there. -/
theorem update_eq (arena : Arena family) (owner : family.Class) (handle : Handle)
    (change : family.Content owner → family.Content owner) :
    arena.update owner handle change =
      match arena.get owner handle with
      | .ok content => .ok (change content, arena.put owner handle (change content))
      | .error error => .error error := by
  rw [update, access_eq]
  cases arena.get owner handle <;> rfl

end Arena

end NativeBridge
