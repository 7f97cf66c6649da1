import NativeBridge.Proofs.Arena.History
import NativeBridge.Sample.World

/-!
# Which handles a run gives out

A handle names a place and how often that place was filled before, both as 32-bit
words.  The words are cut without a check, so a run can give a handle out twice, and
then the old holder of the handle finds the new instance.  This file says exactly which
runs do, and what an ended handle is good for in the others.
-/

namespace NativeBridge

variable {schema : Schema}

namespace Heap

section Run

variable {world : schema.World} {operations : List (Operation schema)}

/-- While slot numbers fit in a word, the handles with an index are those of one
place. -/
theorem countP_lent (hfits : ((new world).after operations).arena.slots.size ≤ UInt32.size)
    (index : UInt32) :
    (lent ((new world).transcript operations)).countP (·.index = index) =
      ((new world).places operations).count index.toNat := by
  rw [lent_new, List.countP_map]
  apply (countP_fillings (fun place => place.toUInt32 = index) [] _).trans
  apply List.countP_congr
  intro place hplace
  have hlt := (mem_places_iff world operations place).mp hplace
  have hword : place.toUInt32.toNat = place :=
    Arena.toNat_toUInt32 (Nat.lt_of_lt_of_le hlt hfits)
  rw [decide_eq_true_iff, beq_iff_eq]
  constructor
  · rintro rfl
    exact hword.symm
  · rintro rfl
    exact UInt32.toNat_inj.mp hword

/-- Two fillings of places whose numbers agree as words have one handle. -/
theorem not_nodup_of_handle_eq {first second : Filling} (hdiffer : first ≠ second)
    (hfirst : first ∈ fillings [] ((new world).places operations))
    (hsecond : second ∈ fillings [] ((new world).places operations))
    (hhandle : first.handle = second.handle) :
    ¬ (lent ((new world).transcript operations)).Nodup := by
  intro hnodup
  rw [lent_new] at hnodup
  exact hdiffer (List.inj_on_of_nodup_map hnodup hfirst hsecond hhandle)

/-- If all handles differ, every slot number fits in a word: otherwise the first slot and
the one behind the last word would share a handle. -/
theorem slots_size_le_of_nodup (hnodup : (lent ((new world).transcript operations)).Nodup) :
    ((new world).after operations).arena.slots.size ≤ UInt32.size := by
  apply Nat.not_lt.mp
  intro hmany
  have hfilled : ∀ place ≤ UInt32.size,
      (⟨place, 0⟩ : Filling) ∈ fillings [] ((new world).places operations) := by
    intro place hplace
    have hslot := (mem_places_iff world operations place).mpr (by omega)
    exact mem_fillings_iff.mpr ⟨Nat.le_of_eq List.count_nil, List.count_pos_iff.mpr hslot⟩
  have hwrap : (0 : Nat).toUInt32 = UInt32.size.toUInt32 := by decide
  exact not_nodup_of_handle_eq (by simp) (hfilled 0 (by omega))
    (hfilled UInt32.size (Nat.le_refl _)) (Handle.ext hwrap rfl) hnodup

/-- If all handles differ, no slot is filled more often than a word counts: otherwise its
first filling and a later one would share a handle. -/
theorem countP_lent_le_of_nodup (hnodup : (lent ((new world).transcript operations)).Nodup)
    (index : UInt32) :
    (lent ((new world).transcript operations)).countP (·.index = index) ≤ UInt32.size := by
  rw [countP_lent (slots_size_le_of_nodup hnodup)]
  apply Nat.not_lt.mp
  intro hmany
  have hfilled : ∀ round ≤ UInt32.size,
      (⟨index.toNat, round⟩ : Filling) ∈ fillings [] ((new world).places operations) := by
    intro round hround
    exact mem_fillings_iff.mpr ⟨by simp, Nat.lt_of_le_of_lt hround hmany⟩
  have hwrap : (0 : Nat).toUInt32 = UInt32.size.toUInt32 := by decide
  exact not_nodup_of_handle_eq (by simp) (hfilled 0 (by omega))
    (hfilled UInt32.size (Nat.le_refl _)) (Handle.ext rfl hwrap) hnodup

/-- In a run within the bounds of a word every filling fits. -/
theorem fits_of_mem_fillings
    (hslots : ((new world).after operations).arena.slots.size ≤ UInt32.size)
    (hrounds : ∀ index, (lent ((new world).transcript operations)).countP (·.index = index) ≤
      UInt32.size)
    {filling : Filling} (hfilling : filling ∈ fillings [] ((new world).places operations)) :
    filling.Fits := by
  have hround := (mem_fillings_iff.mp hfilling).2
  have hfilled : filling.place ∈ (new world).places operations :=
    List.count_pos_iff.mp (Nat.lt_of_le_of_lt (Nat.zero_le _) hround)
  have hplace : filling.place < UInt32.size :=
    Nat.lt_of_lt_of_le ((mem_places_iff world operations _).mp hfilled) hslots
  constructor
  · exact hplace
  · calc
      filling.round < ((new world).places operations).count filling.place := hround
      _ = (lent ((new world).transcript operations)).countP
            (·.index = filling.place.toUInt32) := by
          rw [countP_lent hslots, Arena.toNat_toUInt32 hplace]
      _ ≤ UInt32.size := hrounds _

/-- The handles that a run gives out differ from each other exactly when no slot has a
number that does not fit in a word and no slot is filled more often than a word
counts. -/
theorem lent_nodup_iff :
    (lent ((new world).transcript operations)).Nodup ↔
      ((new world).after operations).arena.slots.size ≤ UInt32.size ∧
        ∀ index, (lent ((new world).transcript operations)).countP (·.index = index) ≤
          UInt32.size := by
  constructor
  · intro hnodup
    exact ⟨slots_size_le_of_nodup hnodup, countP_lent_le_of_nodup hnodup⟩
  · rintro ⟨hslots, hrounds⟩
    rw [lent_new]
    apply (fillings_nodup _ _).map_on
    intro first hfirst second hsecond hhandle
    exact (fits_of_mem_fillings hslots hrounds hfirst).eq_of_handle_eq
      (fits_of_mem_fillings hslots hrounds hsecond) hhandle

end Run

/-! ## Ended handles -/

/-- Every use of a handle says that it refers to nothing. -/
structure Stale (heap : Heap schema) (handle : Handle) : Prop where
  isLive : (heap.perform (.isLive handle)).1 = false
  scriptNameOf : (heap.perform (.scriptNameOf handle)).1 = none
  finalize : (heap.perform (.finalize handle)).1 = false
  get : ∀ owner, (heap.perform (.get owner handle)).1 = .error (.staleInstance handle.index)
  update : ∀ owner change,
    (heap.perform (.update owner handle change)).1 = .error (.staleInstance handle.index)
  resolve : ∀ owner,
    (heap.perform (.resolve owner (.wrapped handle))).1 = .error (.staleInstance handle.index)

theorem stale_of_occupant? {heap : Heap schema} {handle : Handle}
    (hnone : heap.arena.occupant? handle = none) : heap.Stale handle := by
  have hslot := Arena.liveSlot?_eq_none_iff.mpr hnone
  have hlive : heap.arena.isLive handle = false := by simp [Arena.isLive, hslot]
  have hget : ∀ owner, heap.arena.get owner handle = .error (.staleInstance handle.index) := by
    intro owner
    simp [Arena.get, hslot]
  exact {
    isLive := hlive
    scriptNameOf := by simp [perform, Arena.scriptNameOf?, hslot]
    finalize := by rw [perform_finalize, finalize_fst, hlive]
    get := hget
    update := fun owner change => by rw [perform_update_of_error heap handle change (hget owner)]
    resolve := hget }

/-- A handle that refers to nothing still does so after an operation that does not give
it out. -/
theorem occupant?_perform_of_not_lent {heap : Heap schema} {operation : Operation schema}
    {handle : Handle} (hconsistent : heap.arena.Consistent)
    (hnone : heap.arena.occupant? handle = none)
    (hother : handle ∉ lent [⟨operation, (heap.perform operation).1⟩]) :
    (heap.perform operation).2.arena.occupant? handle = none := by
  cases operation with
  | insert inst =>
      have hne : handle ≠ (heap.arena.insert inst).1 := fun hsame =>
        hother (List.mem_singleton.mpr hsame)
      exact (hconsistent.occupant?_insert_of_ne inst hne).trans hnone
  | finalize ended =>
      rw [perform_finalize, finalize_arena, Arena.occupant?_release, hnone, ite_self]
  | update owner written change =>
      cases hget : heap.arena.get owner written with
      | error error => rwa [perform_update_of_error heap written change hget]
      | ok old =>
          rw [perform_update_arena heap written change hget, Arena.occupant?_put _ hget]
          split
          · next hsame =>
              rw [Arena.get_eq_ok_iff, ← hsame, hnone] at hget
              cases hget
          · exact hnone
  | get | resolve | scriptNameOf | isLive | size => exact hnone

theorem occupant?_after_of_not_lent {heap : Heap schema} {handle : Handle}
    (operations : List (Operation schema)) (hconsistent : heap.arena.Consistent)
    (hnone : heap.arena.occupant? handle = none)
    (hother : handle ∉ lent (heap.transcript operations)) :
    (heap.after operations).arena.occupant? handle = none := by
  induction operations generalizing heap with
  | nil => exact hnone
  | cons operation rest ih =>
      rw [transcript, ← List.singleton_append, lent_append, List.mem_append, not_or] at hother
      exact ih (heap.perform_consistent operation hconsistent)
        (occupant?_perform_of_not_lent hconsistent hnone hother.1) hother.2

theorem mem_lent_of_isLive {world : schema.World} {operations : List (Operation schema)}
    {handle : Handle} (hlive : ((new world).after operations).arena.isLive handle = true) :
    handle ∈ lent ((new world).transcript operations) := by
  by_contra hother
  have hempty : (new world).arena.occupant? handle = none := by
    simp [new, Arena.occupant?, Arena.liveSlot?, Arena.empty]
  have hnone := occupant?_after_of_not_lent operations Arena.empty_consistent hempty hother
  simp [Arena.isLive_eq_isSome_occupant?, hnone] at hlive

/-- In which runs handles are unique: exactly in those that make no more slots, and fill
no slot more often, than a word counts.  Once a handle was ended, every use of it says
so until the handle is given out again, which does not happen in those runs. -/
theorem handles_unique_iff (world : schema.World) (operations : List (Operation schema)) :
    ((lent ((new world).transcript operations)).Nodup ↔
        ((new world).after operations).arena.slots.size ≤ UInt32.size ∧
          ∀ index, (lent ((new world).transcript operations)).countP (·.index = index) ≤
            UInt32.size) ∧
      ∀ before handle later, operations = before ++ .finalize handle :: later →
        (((new world).after before).perform (.finalize handle)).1 = true →
          (handle ∉ lent ((((new world).after before).perform (.finalize handle)).2.transcript
              later) → ((new world).after operations).Stale handle) ∧
            ((lent ((new world).transcript operations)).Nodup →
              handle ∉ lent ((((new world).after before).perform
                (.finalize handle)).2.transcript later)) := by
  refine ⟨lent_nodup_iff, ?_⟩
  rintro before handle later rfl hended
  have hconsistent := new_after_consistent world before
  rw [perform_finalize, finalize_fst] at hended
  constructor
  · intro hother
    rw [after_append]
    refine stale_of_occupant? (occupant?_after_of_not_lent later
      (perform_consistent _ _ hconsistent) ?_ hother)
    rw [perform_finalize, finalize_arena, Arena.occupant?_release, if_pos rfl]
  · intro hnodup hagain
    rw [transcript_append, transcript, lent_append] at hnodup
    have hdisjoint := List.disjoint_of_nodup_append hnodup
    refine hdisjoint (mem_lent_of_isLive hended) ?_
    rw [← List.singleton_append, lent_append]
    exact List.mem_append_right _ hagain

/-! ## A run that gives a handle out twice -/

/-- Fills the first slot, and ends and fills it again so many times. -/
def refills (inst : Instance schema.toClassFamily) : (rounds : Nat) → List (Operation schema)
  | 0 => [.insert inst]
  | rounds + 1 => refills inst rounds ++ [.finalize ⟨0, rounds.toUInt32⟩, .insert inst]

/-- One slot, which is filled in some generation. -/
def oneSlot (inst : Instance schema.toClassFamily) (generation : UInt32) :
    Arena schema.toClassFamily :=
  ⟨#[⟨generation, some inst, inst.scriptName⟩], [], 1⟩

section Refills

variable (inst : Instance schema.toClassFamily)

theorem oneSlot_isLive (generation : UInt32) :
    (oneSlot inst generation).isLive ⟨0, generation⟩ = true := by
  simp [oneSlot, Arena.isLive, Arena.liveSlot?, Option.filter_some]

/-- Ending the instance and filling the slot again gives the handle of the next
generation. -/
theorem oneSlot_refill (generation : UInt32) :
    ((oneSlot inst generation).release ⟨0, generation⟩).2.insert inst =
      (⟨0, generation + 1⟩, oneSlot inst (generation + 1)) := by
  have hlive : (oneSlot inst generation).occupant? ⟨0, generation⟩ = some inst := by
    simp [oneSlot, Arena.occupant?, Arena.liveSlot?, Option.filter_some]
  have hempty : ((oneSlot inst generation).release ⟨0, generation⟩).2 =
      ⟨#[⟨generation + 1, none, inst.scriptName⟩], [0], 0⟩ := by
    rw [Arena.release, hlive]
    simp [oneSlot]
  rw [hempty]
  simp [Arena.insert, oneSlot]

variable (world : schema.World)

/-- However often the slot is refilled, it is the only one, and its generation counts
the refills as a word. -/
theorem refills_arena_lent (rounds : Nat) :
    ((new world).after (refills inst rounds)).arena = oneSlot inst rounds.toUInt32 ∧
      lent ((new world).transcript (refills inst rounds)) =
        (List.range (rounds + 1)).map fun round => ⟨0, round.toUInt32⟩ := by
  induction rounds with
  | zero => exact ⟨rfl, rfl⟩
  | succ rounds ih =>
      obtain ⟨harena, hlent⟩ := ih
      have hsucc : (rounds + 1).toUInt32 = rounds.toUInt32 + 1 := UInt32.ofNat_add rounds 1
      have hrefill := oneSlot_refill inst rounds.toUInt32
      rw [← harena, ← finalize_arena] at hrefill
      constructor
      · rw [refills, after_append, hsucc]
        exact congrArg Prod.snd hrefill
      · rw [refills, transcript_append, lent_append, hlent, List.range_succ (n := rounds + 1),
          List.map_append, List.map_singleton, hsucc]
        have hended : (((new world).after (refills inst rounds)).finalize
            ⟨0, rounds.toUInt32⟩).1 = true := by
          rw [finalize_fst, harena, oneSlot_isLive]
        have hinserted := congrArg Prod.fst hrefill
        simp only [transcript, perform, hended, hinserted]
        rfl

theorem refills_eq_append {rounds : Nat} (hpos : 0 < rounds) :
    ∃ later, refills inst rounds = [.insert inst] ++ .finalize ⟨0, 0⟩ :: later := by
  induction rounds with
  | zero => omega
  | succ rounds ih =>
      rcases Nat.eq_zero_or_pos rounds with rfl | hrounds
      · exact ⟨[.insert inst], rfl⟩
      · obtain ⟨later, hlater⟩ := ih hrounds
        exact ⟨later ++ [.finalize ⟨0, rounds.toUInt32⟩, .insert inst], by
          rw [refills, hlater]
          rfl⟩

end Refills

/-- One slot that is ended and filled as often as a word counts: the first handle is
given out again, and refers to an instance although its own was ended. -/
theorem refills_revive_handle :
    let monster : Instance Sample.schema.toClassFamily := ⟨.monster, ({} : Sample.Monster)⟩
    let start : Heap Sample.schema := new .empty
    ¬ (lent (start.transcript (refills monster UInt32.size))).Nodup ∧
      ∃ later, refills monster UInt32.size = [.insert monster] ++ .finalize ⟨0, 0⟩ :: later ∧
        ((start.after [.insert monster]).perform (.finalize ⟨0, 0⟩)).1 = true ∧
        ((start.after (refills monster UInt32.size)).perform (.isLive ⟨0, 0⟩)).1 = true := by
  intro monster start
  have hwrap : UInt32.size.toUInt32 = 0 := by decide
  have hpos : 0 < UInt32.size := by decide
  obtain ⟨harena, hlent⟩ := refills_arena_lent monster .empty UInt32.size
  rw [hwrap] at harena
  constructor
  · intro hnodup
    rw [hlent] at hnodup
    have hsame : (0 : Nat) = UInt32.size :=
      List.inj_on_of_nodup_map hnodup (List.mem_range.mpr (by omega))
        (List.mem_range.mpr (by omega)) (by rw [hwrap]; rfl)
    omega
  · obtain ⟨later, hlater⟩ := refills_eq_append monster hpos
    refine ⟨later, hlater, rfl, ?_⟩
    rw [perform_isLive, harena]
    exact oneSlot_isLive monster 0

end Heap

end NativeBridge
