import NativeBridge.Proofs.Arena.Operation

/-!
# Filling and emptying one slot

A slot is filled by what is lent and emptied by what is ended, in turn.  So a slot was
filled at most once more often than it was emptied, as long as slot numbers fit in a
word.
-/

namespace NativeBridge

namespace Arena

variable {family : ClassFamily} {arena : Arena family}

/-- One if the slot of an index is occupied. -/
def occupancy (arena : Arena family) (index : UInt32) : Nat :=
  if arena.slots[index.toNat]?.any (·.occupant.isSome) then 1 else 0

theorem occupancy_le_one (index : UInt32) : arena.occupancy index ≤ 1 := by
  rw [occupancy]
  split <;> omega

theorem occupancy_congr {other : Arena family} {index : UInt32}
    (hslot : arena.slots[index.toNat]? = other.slots[index.toNat]?) :
    arena.occupancy index = other.occupancy index := by
  rw [occupancy, hslot, occupancy]

theorem occupancy_of_slot {index : UInt32} {slot : Slot family}
    (hslot : arena.slots[index.toNat]? = some slot) :
    arena.occupancy index = if slot.occupant.isSome then 1 else 0 := by
  rw [occupancy, hslot]
  rfl

/-- Lending a place fills the slot that the handle names. -/
theorem Consistent.insert_occupancy (hconsistent : arena.Consistent) (inst : Instance family)
    (hfits : arena.place < UInt32.size) (index : UInt32) :
    (arena.insert inst).2.occupancy index =
      arena.occupancy index + if (arena.insert inst).1.index = index then 1 else 0 := by
  have hindex : (arena.insert inst).1.index.toNat = arena.place := by
    rw [insert_index, toNat_toUInt32 hfits]
  by_cases hsame : (arena.insert inst).1.index = index
  · subst hsame
    have hafter := hconsistent.insert_slots inst (arena.insert inst).1.index.toNat
    rw [if_pos hindex] at hafter
    rw [occupancy_of_slot hafter, if_pos rfl]
    cases hbefore : arena.slots[(arena.insert inst).1.index.toNat]? with
    | none => simp [occupancy, hbefore]
    | some slot =>
        have hempty : slot.occupant = none := hconsistent.place_vacant (hindex ▸ hbefore)
        rw [occupancy_of_slot hbefore, hempty]
        rfl
  · have hother : index.toNat ≠ arena.place := by
      rw [← hindex]
      exact fun heq => hsame (UInt32.toNat_inj.mp heq.symm)
    rw [if_neg hsame, Nat.add_zero]
    exact occupancy_congr (by rw [hconsistent.insert_slots, if_neg hother])

/-- Ending a live instance empties the slot that the handle names. -/
theorem release_occupancy {handle : Handle} {inst : Instance family}
    (hlive : arena.occupant? handle = some inst) (index : UInt32) :
    (arena.release handle).2.occupancy index + (if handle.index = index then 1 else 0) =
      arena.occupancy index := by
  have hafter := release_slots hlive index.toNat
  by_cases hsame : handle.index = index
  · obtain ⟨slot, hslot, -, hoccupant⟩ := occupant?_eq_some_iff.mp hlive
    subst hsame
    rw [if_pos rfl, hslot, Option.map_some] at hafter
    rw [occupancy_of_slot hafter, occupancy_of_slot hslot, hoccupant]
    simp
  · have hother : handle.index.toNat ≠ index.toNat := fun heq =>
      hsame (UInt32.toNat_inj.mp heq)
    rw [if_neg hother] at hafter
    rw [if_neg hsame, Nat.add_zero, occupancy_congr hafter]

theorem put_occupancy (owner : family.Class) (handle : Handle)
    (content : family.Content owner) (index : UInt32) :
    (arena.put owner handle content).occupancy index = arena.occupancy index := by
  cases hget : arena.get owner handle with
  | error error => rw [put_of_error hget]
  | ok old =>
      obtain ⟨slot, hslot, -, hoccupant⟩ := occupant?_eq_some_iff.mp (get_eq_ok_iff.mp hget)
      have hafter := put_slots content hget index.toNat
      by_cases hsame : handle.index.toNat = index.toNat
      · rw [hsame] at hslot
        rw [if_pos hsame, hslot, Option.map_some] at hafter
        rw [occupancy_of_slot hafter, occupancy_of_slot hslot, hoccupant]
        rfl
      · rw [if_neg hsame] at hafter
        exact occupancy_congr hafter

end Arena

namespace Heap

variable {schema : Schema}

/-! ## Slots are never given up -/

theorem size_le_perform (heap : Heap schema) (operation : Operation schema)
    (hconsistent : heap.arena.Consistent) :
    heap.arena.slots.size ≤ (heap.perform operation).2.arena.slots.size := by
  have hstep := perform_arena_induction
    (fun arena => arena.Consistent ∧ heap.arena.slots.size ≤ arena.slots.size)
    (fun arena inst hbefore => by
      refine ⟨hbefore.1.insert inst, ?_⟩
      rw [hbefore.1.insert_size]
      exact Nat.le_trans hbefore.2 (Nat.le_max_left _ _))
    (fun arena handle hbefore => by
      refine ⟨hbefore.1.release handle, ?_⟩
      rw [Arena.release_size]
      exact hbefore.2)
    (fun arena owner handle content hbefore => by
      refine ⟨hbefore.1.put owner handle content, ?_⟩
      rw [Arena.put_size]
      exact hbefore.2)
    heap operation ⟨hconsistent, Nat.le_refl _⟩
  exact hstep.2

theorem size_le_after (heap : Heap schema) (operations : List (Operation schema))
    (hconsistent : heap.arena.Consistent) :
    heap.arena.slots.size ≤ (heap.after operations).arena.slots.size := by
  induction operations generalizing heap with
  | nil => exact Nat.le_refl _
  | cons operation rest ih =>
      exact Nat.le_trans (heap.size_le_perform operation hconsistent)
        (ih _ (heap.perform_consistent operation hconsistent))

/-- The next instance takes a place whose number fits in a word, if the slots after it
do. -/
theorem place_lt_of_fits (heap : Heap schema) (inst : Instance schema.toClassFamily)
    (hconsistent : heap.arena.Consistent) {bound : Nat}
    (hfits : (heap.perform (.insert inst)).2.arena.slots.size ≤ bound) :
    heap.arena.place < bound := by
  change (heap.arena.insert inst).2.slots.size ≤ bound at hfits
  rw [hconsistent.insert_size] at hfits
  omega

/-! ## Counting per slot -/

/-- A slot is occupied when it was filled and not emptied since. -/
theorem perform_occupancy (heap : Heap schema) (operation : Operation schema)
    (hconsistent : heap.arena.Consistent)
    (hfits : (heap.perform operation).2.arena.slots.size ≤ UInt32.size) (index : UInt32) :
    (heap.perform operation).2.arena.occupancy index +
        (ended [⟨operation, (heap.perform operation).1⟩]).countP (·.index = index) =
      heap.arena.occupancy index +
        (lent [⟨operation, (heap.perform operation).1⟩]).countP (·.index = index) := by
  cases operation with
  | insert inst =>
      have hplace := heap.place_lt_of_fits inst hconsistent hfits
      change (heap.arena.insert inst).2.occupancy index + 0 =
        _ + [(heap.arena.insert inst).1].countP (·.index = index)
      rw [hconsistent.insert_occupancy inst hplace, List.countP_singleton]
      simp
  | finalize handle =>
      rw [perform_finalize, finalize_fst, finalize_arena, Arena.isLive_eq_isSome_occupant?]
      cases hoccupant : heap.arena.occupant? handle with
      | none =>
          rw [Arena.release_of_stale hoccupant]
          rfl
      | some inst =>
          change _ + [handle].countP (·.index = index) = _
          rw [List.countP_singleton, ← Arena.release_occupancy hoccupant index]
          simp [lent, Exchange.lent?]
  | update owner handle change =>
      cases hget : heap.arena.get owner handle with
      | error error =>
          rw [perform_update_of_error heap handle change hget]
          rfl
      | ok old =>
          rw [perform_update_arena heap handle change hget]
          exact congrArg (· + 0) (Arena.put_occupancy owner handle (change old) index)
  | get | resolve | scriptNameOf | isLive | size => rfl

theorem after_occupancy (heap : Heap schema) (operations : List (Operation schema))
    (hconsistent : heap.arena.Consistent)
    (hfits : (heap.after operations).arena.slots.size ≤ UInt32.size) (index : UInt32) :
    (heap.after operations).arena.occupancy index +
        (ended (heap.transcript operations)).countP (·.index = index) =
      heap.arena.occupancy index +
        (lent (heap.transcript operations)).countP (·.index = index) := by
  induction operations generalizing heap with
  | nil => rfl
  | cons operation rest ih =>
      have hnext := heap.perform_consistent operation hconsistent
      have hperform := heap.perform_occupancy operation hconsistent
        (Nat.le_trans (size_le_after _ rest hnext) hfits) index
      have hrest := ih _ hnext hfits
      rw [after, transcript, ← List.singleton_append, ended_append, lent_append,
        List.countP_append, List.countP_append]
      omega

/-- In a run a slot is filled at most once more often than it is emptied. -/
theorem countP_lent_le {world : schema.World} {operations : List (Operation schema)}
    (hfits : ((new world).after operations).arena.slots.size ≤ UInt32.size) (index : UInt32) :
    (lent ((new world).transcript operations)).countP (·.index = index) ≤
      (ended ((new world).transcript operations)).countP (·.index = index) + 1 := by
  have hcount := (new world).after_occupancy operations Arena.empty_consistent hfits index
  have hbefore : (new world).arena.occupancy index = 0 := by
    simp [Arena.occupancy, new, Arena.empty]
  have hafter := ((new world).after operations).arena.occupancy_le_one index
  omega

end Heap

end NativeBridge
