import NativeBridge.Proofs.Arena.Lookup

/-!
# Consistent arenas

An arena keeps three accounts of the same thing: the slots themselves, the list of
vacant slots and the number of live instances.  An arena is consistent when the three
agree, and every operation keeps them together.  Nothing here depends on the number of
slots, although slot numbers are 32-bit words.
-/

namespace NativeBridge.Arena

variable {family : ClassFamily} {arena : Arena family}

/-- The slots, the vacant list and the live count tell the same. -/
structure Consistent (arena : Arena family) : Prop where
  vacant_nodup : arena.vacant.Nodup
  /-- The vacant list holds the positions of the empty slots and no others. -/
  vacant_iff : ∀ position : Nat, (∃ index ∈ arena.vacant, index.toNat = position) ↔
    ∃ slot, arena.slots[position]? = some slot ∧ slot.occupant = none
  live_eq : arena.live = arena.slots.countP (·.occupant.isSome)
  /-- Every slot is counted as live or listed as vacant. -/
  live_add_vacant : arena.live + arena.vacant.length = arena.slots.size
  /-- The name kept for an occupied slot is that of its occupant's class. -/
  scriptName_eq : ∀ (position : Nat) slot inst, arena.slots[position]? = some slot →
    slot.occupant = some inst → slot.scriptName = inst.scriptName

theorem empty_consistent : (empty : Arena family).Consistent where
  vacant_nodup := List.nodup_nil
  vacant_iff := by simp [empty]
  live_eq := by simp [empty]
  live_add_vacant := by simp [empty]
  scriptName_eq := by simp [empty]

namespace Consistent

/-- Every position in the vacant list lies among the slots, and its slot is empty. -/
theorem vacant_slot (hconsistent : arena.Consistent) {index : UInt32}
    (hindex : index ∈ arena.vacant) :
    ∃ slot, arena.slots[index.toNat]? = some slot ∧ slot.occupant = none :=
  (hconsistent.vacant_iff index.toNat).mp ⟨index, hindex, rfl⟩

theorem not_mem_vacant (hconsistent : arena.Consistent) {index : UInt32} {slot : Slot family}
    (hslot : arena.slots[index.toNat]? = some slot) (hoccupied : slot.occupant.isSome) :
    index ∉ arena.vacant := by
  intro hindex
  obtain ⟨listed, hlisted, hvacant⟩ := hconsistent.vacant_slot hindex
  rw [hslot, Option.some.injEq] at hlisted
  simp [hlisted, hvacant] at hoccupied

theorem live_pos (hconsistent : arena.Consistent) {handle : Handle}
    (hlive : arena.isLive handle = true) : 0 < arena.live := by
  obtain ⟨slot, hslot⟩ := Option.isSome_iff_exists.mp hlive
  obtain ⟨hat, -, hoccupied⟩ := liveSlot?_eq_some_iff.mp hslot
  rw [hconsistent.live_eq, Array.countP_pos_iff]
  exact ⟨slot, Array.mem_of_getElem? hat, hoccupied⟩

theorem get_eq (hconsistent : arena.Consistent) (owner : family.Class) (handle : Handle) :
    arena.get owner handle =
      match arena.occupant? handle with
      | none => .error (.staleInstance handle.index)
      | some inst =>
        match inst.as? owner with
        | some content => .ok content
        | none => .error (.invalidInstance (family.scriptName owner) inst.scriptName) := by
  rw [get]
  cases hslot : arena.liveSlot? handle with
  | none => rw [liveSlot?_eq_none_iff.mp hslot]
  | some slot =>
      obtain ⟨hat, hgeneration, hoccupied⟩ := liveSlot?_eq_some_iff.mp hslot
      obtain ⟨inst, hinst⟩ := Option.isSome_iff_exists.mp hoccupied
      have hoccupant : arena.occupant? handle = some inst :=
        occupant?_eq_some_iff.mpr ⟨slot, hat, hgeneration, hinst⟩
      have hname := hconsistent.scriptName_eq _ _ _ hat hinst
      cases hcontent : inst.as? owner <;>
        simp only [hoccupant, hinst, Option.bind_some, hname, hcontent]

/-- Ending a live instance takes one off a live count that is not zero. -/
theorem release_live_add_one (hconsistent : arena.Consistent) {handle : Handle}
    (hlive : arena.isLive handle = true) : (arena.release handle).2.live + 1 = arena.live := by
  have hpos := hconsistent.live_pos hlive
  rw [isLive_eq_isSome_occupant?] at hlive
  obtain ⟨inst, hinst⟩ := Option.isSome_iff_exists.mp hlive
  rw [release_live hinst]
  exact Nat.sub_add_cancel hpos

theorem scriptNameOf?_eq (hconsistent : arena.Consistent) (handle : Handle) :
    arena.scriptNameOf? handle = (arena.occupant? handle).map (·.scriptName) := by
  rw [scriptNameOf?]
  cases hslot : arena.liveSlot? handle with
  | none => simp [liveSlot?_eq_none_iff.mp hslot]
  | some slot =>
      obtain ⟨hat, hgeneration, hoccupied⟩ := liveSlot?_eq_some_iff.mp hslot
      obtain ⟨inst, hinst⟩ := Option.isSome_iff_exists.mp hoccupied
      have hoccupant : arena.occupant? handle = some inst :=
        occupant?_eq_some_iff.mpr ⟨slot, hat, hgeneration, hinst⟩
      simp [hoccupant, hconsistent.scriptName_eq _ _ _ hat hinst]

end Consistent

/-! ## Lending a place -/

namespace Consistent

theorem vacant_lt (hconsistent : arena.Consistent) {index : UInt32}
    (hindex : index ∈ arena.vacant) : index.toNat < arena.slots.size := by
  obtain ⟨slot, hslot, -⟩ := hconsistent.vacant_slot hindex
  exact (Array.getElem?_eq_some_iff.mp hslot).1

theorem place_le (hconsistent : arena.Consistent) : arena.place ≤ arena.slots.size := by
  cases hvacant : arena.vacant with
  | nil => exact Nat.le_of_eq (place_of_full hvacant)
  | cons index rest =>
      have hindex : index ∈ arena.vacant := by simp [hvacant]
      rw [place_of_vacant hvacant]
      exact Nat.le_of_lt (hconsistent.vacant_lt hindex)

/-- Nothing is stored at the place of the next instance. -/
theorem place_vacant (hconsistent : arena.Consistent) {slot : Slot family}
    (hslot : arena.slots[arena.place]? = some slot) : slot.occupant = none := by
  cases hvacant : arena.vacant with
  | nil => simp [place_of_full hvacant] at hslot
  | cons index rest =>
      have hindex : index ∈ arena.vacant := by simp [hvacant]
      obtain ⟨listed, hlisted, hempty⟩ := hconsistent.vacant_slot hindex
      rw [place_of_vacant hvacant, hlisted, Option.some.injEq] at hslot
      rw [← hslot, hempty]

/-- Lending a place fills the slot at that place and leaves every other slot alone. -/
theorem insert_slots (hconsistent : arena.Consistent) (inst : Instance family)
    (position : Nat) :
    (arena.insert inst).2.slots[position]? =
      if position = arena.place then
        some ⟨(arena.insert inst).1.generation, some inst, inst.scriptName⟩
      else arena.slots[position]? := by
  cases hvacant : arena.vacant with
  | nil => simp [insert, place, hvacant, Array.getElem?_push]
  | cons index rest =>
      have hindex : index ∈ arena.vacant := by simp [hvacant]
      obtain ⟨slot, hslot, -⟩ := hconsistent.vacant_slot hindex
      by_cases hposition : position = index.toNat
      · subst hposition
        simp [insert, place, hvacant, Array.getElem?_modify, hslot]
      · simp [insert, place, hvacant, Array.getElem?_modify, hposition, Ne.symm hposition]

theorem insert_keeps (hconsistent : arena.Consistent) (inst : Instance family)
    {position : Nat} {slot : Slot family} (hslot : arena.slots[position]? = some slot)
    (hoccupied : slot.occupant.isSome = true) :
    (arena.insert inst).2.slots[position]? = some slot := by
  have hother : position ≠ arena.place := by
    rintro rfl
    simp [hconsistent.place_vacant hslot] at hoccupied
  rw [hconsistent.insert_slots, if_neg hother, hslot]

theorem insert_size (hconsistent : arena.Consistent) (inst : Instance family) :
    (arena.insert inst).2.slots.size = max arena.slots.size (arena.place + 1) := by
  cases hvacant : arena.vacant with
  | nil => simp [insert, place, hvacant]
  | cons index rest =>
      have hindex : index ∈ arena.vacant := by simp [hvacant]
      have hlt := hconsistent.vacant_lt hindex
      simp only [insert, place, hvacant, Array.size_modify]
      omega

/-- Lending a place keeps the three accounts together. -/
theorem insert (hconsistent : arena.Consistent) (inst : Instance family) :
    (arena.insert inst).2.Consistent where
  vacant_nodup := by
    rw [insert_vacant]
    exact hconsistent.vacant_nodup.tail
  vacant_iff position := by
    rw [insert_vacant, hconsistent.insert_slots]
    by_cases hposition : position = arena.place
    · subst hposition
      simp only [if_true, Option.some.injEq, exists_eq_left', reduceCtorEq, iff_false]
      rintro ⟨index, hindex, hplace⟩
      cases hvacant : arena.vacant with
      | nil => simp [hvacant] at hindex
      | cons first rest =>
          have hnodup := hconsistent.vacant_nodup
          rw [hvacant, List.nodup_cons] at hnodup
          rw [place_of_vacant hvacant] at hplace
          rw [hvacant, List.tail_cons, UInt32.toNat_inj.mp hplace] at hindex
          exact hnodup.1 hindex
    · rw [if_neg hposition, ← hconsistent.vacant_iff]
      cases hvacant : arena.vacant with
      | nil => simp
      | cons first rest =>
          rw [place_of_vacant hvacant] at hposition
          simp [Ne.symm hposition]
  live_eq := by
    rw [insert_live, hconsistent.live_eq]
    cases hvacant : arena.vacant with
    | nil => simp [Arena.insert, hvacant]
    | cons index rest =>
        have hindex : index ∈ arena.vacant := by simp [hvacant]
        obtain ⟨slot, hslot, hempty⟩ := hconsistent.vacant_slot hindex
        have hcount := countP_modify (·.occupant.isSome) hslot
          fun slot => { slot with occupant := some inst, scriptName := inst.scriptName }
        simp only [hempty, Option.isSome_none, Option.isSome_some, if_true] at hcount
        simp only [Arena.insert, hvacant]
        simpa using hcount.symm
  live_add_vacant := by
    have htotal := hconsistent.live_add_vacant
    rw [insert_live, insert_vacant]
    cases hvacant : arena.vacant with
    | nil =>
        rw [hvacant] at htotal
        simp only [Arena.insert, hvacant, Array.size_push, List.tail_nil]
        simpa using htotal
    | cons index rest =>
        rw [hvacant, List.length_cons] at htotal
        simp only [Arena.insert, hvacant, Array.size_modify, List.tail_cons]
        omega
  scriptName_eq position slot present hslot hpresent := by
    rw [hconsistent.insert_slots] at hslot
    split at hslot
    · obtain rfl := Option.some.inj hslot
      obtain rfl := Option.some.inj hpresent
      rfl
    · exact hconsistent.scriptName_eq position slot present hslot hpresent

end Consistent

/-- Lending a place changes nothing for any handle but the one given out. -/
theorem Consistent.occupant?_insert_of_ne (hconsistent : arena.Consistent)
    (inst : Instance family) {handle : Handle} (hother : handle ≠ (arena.insert inst).1) :
    (arena.insert inst).2.occupant? handle = arena.occupant? handle := by
  by_cases hposition : handle.index.toNat = arena.place
  · have hindex : handle.index = (arena.insert inst).1.index := by
      rw [insert_index, ← hposition]
      simp
    have hgeneration : (arena.insert inst).1.generation ≠ handle.generation := by
      intro hsame
      exact hother (Handle.ext hindex hsame.symm)
    rw [occupant?_eq_none_of_generation
      (by rw [hconsistent.insert_slots, if_pos hposition]) hgeneration]
    cases hslot : arena.slots[handle.index.toNat]? with
    | none => simp [occupant?, liveSlot?, hslot]
    | some slot =>
        exact (occupant?_eq_none_of_vacant hslot
          (hconsistent.place_vacant (hposition ▸ hslot))).symm
  · exact occupant?_congr (by rw [hconsistent.insert_slots, if_neg hposition])

/-- A live instance stays behind its handle, however many slots there are. -/
theorem Consistent.occupant?_insert_of_some (hconsistent : arena.Consistent)
    (inst : Instance family) {handle : Handle} {present : Instance family}
    (hlive : arena.occupant? handle = some present) :
    (arena.insert inst).2.occupant? handle = some present := by
  obtain ⟨slot, hslot, hgeneration, hoccupant⟩ := occupant?_eq_some_iff.mp hlive
  have hoccupied : slot.occupant.isSome = true := by rw [hoccupant, Option.isSome_some]
  exact occupant?_eq_some_iff.mpr
    ⟨slot, hconsistent.insert_keeps inst hslot hoccupied, hgeneration, hoccupant⟩

/-- The handle given out refers to the instance, as long as slot numbers fit in a
word. -/
theorem Consistent.occupant?_insert_self (hconsistent : arena.Consistent)
    (inst : Instance family) (hfits : arena.place < UInt32.size) :
    (arena.insert inst).2.occupant? (arena.insert inst).1 = some inst := by
  have hposition : (arena.insert inst).1.index.toNat = arena.place := by
    rw [insert_index, toNat_toUInt32 hfits]
  exact occupant?_eq_some_iff.mpr
    ⟨⟨(arena.insert inst).1.generation, some inst, inst.scriptName⟩,
      by rw [hconsistent.insert_slots, if_pos hposition], rfl, rfl⟩

/-! ## Ending an instance and writing behind a handle -/

theorem Consistent.release (hconsistent : arena.Consistent) (handle : Handle) :
    (arena.release handle).2.Consistent := by
  cases hlive : arena.occupant? handle with
  | none =>
      rw [release_of_stale hlive]
      exact hconsistent
  | some inst =>
      obtain ⟨slot, hslot, -, hoccupant⟩ := occupant?_eq_some_iff.mp hlive
      have hisLive : arena.isLive handle = true := by
        simp [isLive_eq_isSome_occupant?, hlive]
      have hpos := hconsistent.live_pos hisLive
      exact {
        vacant_nodup := by
          rw [release_vacant hlive, List.nodup_cons]
          exact ⟨hconsistent.not_mem_vacant hslot (by simp [hoccupant]),
            hconsistent.vacant_nodup⟩
        vacant_iff := by
          intro position
          rw [release_vacant hlive, release_slots hlive]
          simp only [List.mem_cons, exists_eq_or_imp, hconsistent.vacant_iff position]
          by_cases hposition : handle.index.toNat = position
          · subst hposition
            simp [hslot]
          · simp [hposition]
        live_eq := by
          have hcount := release_countP hlive
          rw [release_live hlive, hconsistent.live_eq]
          omega
        live_add_vacant := by
          have htotal := hconsistent.live_add_vacant
          rw [release_live hlive, release_vacant hlive, release_size, List.length_cons]
          omega
        scriptName_eq := by
          intro position present occupant hpresent hat
          rw [release_slots hlive] at hpresent
          split at hpresent
          · obtain ⟨old, -, rfl⟩ := Option.map_eq_some_iff.mp hpresent
            simp at hat
          · exact hconsistent.scriptName_eq position present occupant hpresent hat }

theorem Consistent.put (hconsistent : arena.Consistent) (owner : family.Class)
    (handle : Handle) (content : family.Content owner) :
    (arena.put owner handle content).Consistent := by
  cases hget : arena.get owner handle with
  | error error =>
      rw [put_of_error hget]
      exact hconsistent
  | ok old =>
      obtain ⟨slot, hslot, -, hoccupant⟩ :=
        occupant?_eq_some_iff.mp (get_eq_ok_iff.mp hget)
      exact {
        vacant_nodup := by
          rw [put_vacant]
          exact hconsistent.vacant_nodup
        vacant_iff := by
          intro position
          rw [put_vacant, put_slots content hget, hconsistent.vacant_iff position]
          by_cases hposition : handle.index.toNat = position
          · subst hposition
            simp [hslot, hoccupant]
          · simp [hposition]
        live_eq := by
          rw [put_live, put_countP content hget]
          exact hconsistent.live_eq
        live_add_vacant := by
          rw [put_live, put_vacant, put_size]
          exact hconsistent.live_add_vacant
        scriptName_eq := by
          intro position present occupant hpresent hat
          rw [put_slots content hget] at hpresent
          split at hpresent
          · next hposition =>
              subst hposition
              rw [hslot, Option.map_some, Option.some.injEq] at hpresent
              subst hpresent
              obtain rfl := Option.some.inj hat
              have hname := hconsistent.scriptName_eq _ _ _ hslot hoccupant
              exact hname
          · exact hconsistent.scriptName_eq position present occupant hpresent hat }

end NativeBridge.Arena
