import Mathlib.Data.List.Nodup
import NativeBridge.Proofs.Arena.Operation

/-!
# The history of places

Every instance that is lent takes a place, and a place may be taken again and again.
This file numbers the fillings of each place and shows that slots keep count of them:
the generation of a slot is the number of its fillings that ended, cut to a word, and
every handle names the filling that it was given out for.
-/

namespace NativeBridge

variable {schema : Schema}

/-! ## Numbering what was placed -/

/-- One filling of a place. -/
structure Filling where
  place : Nat
  /-- How often the place was filled before. -/
  round : Nat

def Filling.handle (filling : Filling) : Handle :=
  ⟨filling.place.toUInt32, filling.round.toUInt32⟩

/-- A filling whose numbers fit in words. -/
def Filling.Fits (filling : Filling) : Prop :=
  filling.place < UInt32.size ∧ filling.round < UInt32.size

/-- Fillings that fit are told apart by their handles. -/
theorem Filling.Fits.eq_of_handle_eq {first second : Filling} (hfirst : first.Fits)
    (hsecond : second.Fits) (hhandle : first.handle = second.handle) : first = second := by
  have hindex := congrArg (UInt32.toNat ·.index) hhandle
  have hgeneration := congrArg (UInt32.toNat ·.generation) hhandle
  simp only [Filling.handle, Arena.toNat_toUInt32 hfirst.1, Arena.toNat_toUInt32 hfirst.2,
    Arena.toNat_toUInt32 hsecond.1, Arena.toNat_toUInt32 hsecond.2] at hindex hgeneration
  cases first
  cases second
  simp only [Filling.mk.injEq]
  exact ⟨hindex, hgeneration⟩

/-- Numbers the fillings of places that are filled one after the other, when those in
`past` were filled before. -/
def fillings (past : List Nat) : List Nat → List Filling
  | [] => []
  | place :: later => ⟨place, past.count place⟩ :: fillings (past ++ [place]) later

theorem fillings_append (past first second : List Nat) :
    fillings past (first ++ second) =
      fillings past first ++ fillings (past ++ first) second := by
  induction first generalizing past with
  | nil => simp [fillings]
  | cons place later ih => simp [fillings, ih]

theorem mem_fillings_iff {past places : List Nat} {filling : Filling} :
    filling ∈ fillings past places ↔
      past.count filling.place ≤ filling.round ∧
        filling.round < (past ++ places).count filling.place := by
  induction places generalizing past with
  | nil => simp [fillings]
  | cons place later ih =>
      obtain ⟨wanted, round⟩ := filling
      simp only [fillings, List.mem_cons, Filling.mk.injEq, ih, List.count_append,
        List.count_cons, List.count_nil, beq_iff_eq]
      by_cases hplace : place = wanted
      · subst hplace
        simp only [if_true, true_and]
        omega
      · simp [hplace, Ne.symm hplace]

theorem fillings_nodup (past places : List Nat) : (fillings past places).Nodup := by
  induction places generalizing past with
  | nil => exact List.nodup_nil
  | cons place later ih =>
      apply List.nodup_cons.mpr
      refine ⟨fun hagain => ?_, ih _⟩
      have hround := (mem_fillings_iff.mp hagain).1
      simp only [List.count_append, List.count_singleton_self] at hround
      omega

theorem countP_fillings (wanted : Nat → Bool) (past places : List Nat) :
    (fillings past places).countP (wanted ·.place) = places.countP wanted := by
  induction places generalizing past with
  | nil => rfl
  | cons place later ih => simp only [fillings, List.countP_cons, ih]

/-! ## Generations as numbers of fillings -/

/-- How often a slot was filled, as a word: its generation counts the fillings that
ended. -/
def Slot.filled {family : ClassFamily} (slot : Slot family) : UInt32 :=
  slot.generation + if slot.occupant.isSome then 1 else 0

/-- The places in `past` are those that were filled in an arena, in order. -/
structure Arena.Chronicled (past : List Nat) (arena : Arena schema.toClassFamily) :
    Prop where
  consistent : arena.Consistent
  filled_iff : ∀ place : Nat, place ∈ past ↔ place < arena.slots.size
  filled_eq : ∀ (place : Nat) slot, arena.slots[place]? = some slot →
    slot.filled = (past.count place).toUInt32

namespace Arena

variable {arena : Arena schema.toClassFamily} {past : List Nat}

theorem empty_chronicled : Chronicled [] (empty : Arena schema.toClassFamily) where
  consistent := empty_consistent
  filled_iff := by simp [empty]
  filled_eq := by simp [empty]

namespace Chronicled

/-- The handle given out next names the next filling. -/
theorem insert_fst (hpast : arena.Chronicled past) (inst : Instance schema.toClassFamily) :
    (arena.insert inst).1 = Filling.handle ⟨arena.place, past.count arena.place⟩ := by
  apply Handle.ext
  · exact insert_index inst
  · rw [insert_generation]
    cases hslot : arena.slots[arena.place]? with
    | none =>
        have hnew : arena.place ∉ past := by
          rw [hpast.filled_iff, Nat.not_lt]
          exact Array.getElem?_eq_none_iff.mp hslot
        simp [Filling.handle, List.count_eq_zero.mpr hnew]
    | some slot =>
        have hfilled := hpast.filled_eq _ _ hslot
        simpa [Slot.filled, hpast.consistent.place_vacant hslot, Filling.handle] using hfilled

theorem insert (hpast : arena.Chronicled past) (inst : Instance schema.toClassFamily) :
    (arena.insert inst).2.Chronicled (past ++ [arena.place]) where
  consistent := hpast.consistent.insert inst
  filled_iff place := by
    have hplace := hpast.consistent.place_le
    rw [hpast.consistent.insert_size, List.mem_append, List.mem_singleton, hpast.filled_iff]
    omega
  filled_eq place slot hslot := by
    rw [hpast.consistent.insert_slots] at hslot
    split at hslot
    · next hsame =>
        subst hsame
        obtain rfl := Option.some.inj hslot
        simp [Slot.filled, hpast.insert_fst inst, Filling.handle, UInt32.ofNat_add]
    · next hother =>
        have hfilled := hpast.filled_eq _ _ hslot
        simpa [List.count_append, Ne.symm hother] using hfilled

/-- A change that fills no slot, and keeps count where it empties one, makes no
history. -/
theorem of_filled_eq (hpast : arena.Chronicled past) {after : Arena schema.toClassFamily}
    (hconsistent : after.Consistent) (hsize : after.slots.size = arena.slots.size)
    (hslots : ∀ (place : Nat) slot, after.slots[place]? = some slot →
      ∃ old, arena.slots[place]? = some old ∧ slot.filled = old.filled) :
    after.Chronicled past where
  consistent := hconsistent
  filled_iff place := by rw [hsize, hpast.filled_iff]
  filled_eq place slot hslot := by
    obtain ⟨old, hold, hfilled⟩ := hslots place slot hslot
    rw [hfilled, hpast.filled_eq place old hold]

theorem release (hpast : arena.Chronicled past) (handle : Handle) :
    (arena.release handle).2.Chronicled past := by
  cases hlive : arena.occupant? handle with
  | none =>
      rw [release_of_stale hlive]
      exact hpast
  | some inst =>
      apply hpast.of_filled_eq (hpast.consistent.release handle) (release_size handle)
      intro place slot hslot
      rw [release_slots hlive] at hslot
      split at hslot
      · next hplace =>
          obtain ⟨old, hold, -, hoccupant⟩ := occupant?_eq_some_iff.mp hlive
          rw [← hplace, hold] at hslot
          obtain rfl := Option.some.inj hslot
          exact ⟨old, hplace ▸ hold, by simp [Slot.filled, hoccupant]⟩
      · exact ⟨slot, hslot, rfl⟩

theorem put (hpast : arena.Chronicled past) (owner : schema.Class) (handle : Handle)
    (content : schema.Content owner) :
    (arena.put owner handle content).Chronicled past := by
  cases hget : arena.get owner handle with
  | error error =>
      rw [put_of_error hget]
      exact hpast
  | ok old =>
      apply hpast.of_filled_eq (hpast.consistent.put owner handle content)
        (put_size owner handle content)
      intro place slot hslot
      rw [put_slots content hget] at hslot
      split at hslot
      · next hplace =>
          obtain ⟨before, hbefore, -, hoccupant⟩ :=
            occupant?_eq_some_iff.mp (get_eq_ok_iff.mp hget)
          rw [← hplace, hbefore] at hslot
          obtain rfl := Option.some.inj hslot
          exact ⟨before, hplace ▸ hbefore, by simp [Slot.filled, hoccupant]⟩
      · exact ⟨slot, hslot, rfl⟩

end Chronicled

end Arena

namespace Heap

/-! ## Runs and their history -/

/-- The place that an operation fills, if it fills one. -/
def taken (heap : Heap schema) : Operation schema → List Nat
  | .insert _ => [heap.arena.place]
  | _ => []

/-- The places that a run fills, in order. -/
def places (heap : Heap schema) : List (Operation schema) → List Nat
  | [] => []
  | operation :: rest => heap.taken operation ++ (heap.perform operation).2.places rest

/-- An operation gives out the handle of the place that it fills. -/
theorem lent_perform {heap : Heap schema} {past : List Nat}
    (hpast : heap.arena.Chronicled past) (operation : Operation schema) :
    lent [⟨operation, (heap.perform operation).1⟩] =
        (fillings past (heap.taken operation)).map Filling.handle ∧
      (heap.perform operation).2.arena.Chronicled (past ++ heap.taken operation) := by
  cases operation with
  | insert inst =>
      have hhandle : (heap.perform (.insert inst)).1 = _ := hpast.insert_fst inst
      exact ⟨by rw [hhandle]; rfl, hpast.insert inst⟩
  | finalize handle =>
      have htaken : heap.taken (.finalize handle) = [] := rfl
      rw [htaken, List.append_nil, perform_finalize, finalize_arena]
      constructor
      · cases (heap.finalize handle).1 <;> rfl
      · exact hpast.release handle
  | update owner handle change =>
      have htaken : heap.taken (.update owner handle change) = [] := rfl
      rw [htaken, List.append_nil]
      cases hget : heap.arena.get owner handle with
      | error error =>
          rw [perform_update_of_error heap handle change hget]
          exact ⟨rfl, hpast⟩
      | ok old =>
          rw [perform_update_arena heap handle change hget]
          exact ⟨rfl, hpast.put owner handle (change old)⟩
  | get | resolve | scriptNameOf | isLive | size =>
      exact ⟨rfl, (List.append_nil past).symm ▸ hpast⟩

/-- A run gives out the handles of the places that it fills. -/
theorem lent_transcript {heap : Heap schema} {past : List Nat}
    (hpast : heap.arena.Chronicled past) (operations : List (Operation schema)) :
    lent (heap.transcript operations) =
        (fillings past (heap.places operations)).map Filling.handle ∧
      (heap.after operations).arena.Chronicled (past ++ heap.places operations) := by
  induction operations generalizing heap past with
  | nil =>
      rw [places, List.append_nil]
      exact ⟨rfl, hpast⟩
  | cons operation rest ih =>
      obtain ⟨hfirst, hnext⟩ := lent_perform hpast operation
      obtain ⟨hrest, hafter⟩ := ih hnext
      rw [transcript, places, ← List.singleton_append, lent_append, fillings_append,
        List.map_append, hfirst, hrest, ← List.append_assoc]
      exact ⟨rfl, hafter⟩

section Run

variable (world : schema.World) (operations : List (Operation schema))

theorem new_chronicled : (new world).arena.Chronicled [] :=
  Arena.empty_chronicled

theorem lent_new :
    lent ((new world).transcript operations) =
      (fillings [] ((new world).places operations)).map Filling.handle :=
  (lent_transcript (new_chronicled world) operations).1

/-- The places that a run fills are the slots that it leaves. -/
theorem mem_places_iff (place : Nat) :
    place ∈ (new world).places operations ↔
      place < ((new world).after operations).arena.slots.size :=
  (lent_transcript (new_chronicled world) operations).2.filled_iff place

end Run

end Heap

end NativeBridge
