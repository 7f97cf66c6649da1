import NativeBridge.Proofs.Arena.Refinement

/-!
# What an arena holds for those it lent to

As long as nobody writes to instances, an arena keeps each one as it was lent until it is
ended, and then holds nothing under its handle for good.  So the transcript of a run alone
tells what is behind every handle that the run gave out, if it gave out none twice.
-/

namespace NativeBridge

variable {schema : Schema}

/-- Whether an operation leaves the content of every instance as it is. -/
def Operation.keepsContents : Operation schema → Bool
  | update _ _ _ => false
  | _ => true

/-- The instance that an exchange lent, with its handle. -/
def Exchange.given? : Exchange schema → Option (Handle × Instance schema.toClassFamily)
  | ⟨.insert inst, handle⟩ => some (handle, inst)
  | _ => none

/-- The instances lent in a transcript, in order. -/
def given (transcript : List (Exchange schema)) :
    List (Handle × Instance schema.toClassFamily) :=
  transcript.filterMap Exchange.given?

theorem given_append (first second : List (Exchange schema)) :
    given (first ++ second) = given first ++ given second :=
  List.filterMap_append

theorem lent_eq_given (transcript : List (Exchange schema)) :
    lent transcript = (given transcript).map Prod.fst := by
  rw [lent, given, List.map_filterMap]
  congr 1
  funext exchange
  obtain ⟨operation, answer⟩ := exchange
  cases operation <;> rfl

theorem mem_lent_of_given {transcript : List (Exchange schema)} {handle : Handle}
    {inst : Instance schema.toClassFamily} (hgiven : (handle, inst) ∈ given transcript) :
    handle ∈ lent transcript :=
  lent_eq_given transcript ▸ List.mem_map_of_mem hgiven

namespace Arena

/-- What an arena holds is what the transcript of the past tells. -/
structure Holds (arena : Arena schema.toClassFamily) (past : List (Exchange schema)) : Prop where
  consistent : arena.Consistent
  lent_of_occupant? : ∀ {handle inst}, arena.occupant? handle = some inst → handle ∈ lent past
  lent_of_ended : ∀ {handle}, handle ∈ ended past → handle ∈ lent past
  occupant?_eq : ∀ {handle inst}, (handle, inst) ∈ given past →
    arena.occupant? handle = if handle ∈ ended past then none else some inst

theorem empty_holds : (empty : Arena schema.toClassFamily).Holds [] where
  consistent := empty_consistent
  lent_of_occupant? hoccupant := by simp [occupant?, liveSlot?, empty] at hoccupant
  lent_of_ended hended := nomatch hended
  occupant?_eq hgiven := nomatch hgiven

namespace Holds

variable {arena : Arena schema.toClassFamily} {past : List (Exchange schema)}

theorem insert (hholds : arena.Holds past) (inst : Instance schema.toClassFamily)
    (hfits : arena.place < UInt32.size) (hfresh : (arena.insert inst).1 ∉ lent past) :
    (arena.insert inst).2.Holds (past ++ [⟨.insert inst, (arena.insert inst).1⟩]) := by
  have hlent : lent (past ++ [⟨.insert inst, (arena.insert inst).1⟩]) =
      lent past ++ [(arena.insert inst).1] := lent_append past _
  have hended : ended (past ++ [⟨.insert inst, (arena.insert inst).1⟩]) = ended past :=
    (ended_append past _).trans (List.append_nil _)
  refine ⟨hholds.consistent.insert inst, fun {handle present} hoccupant => ?_,
    fun {handle} hmem => ?_, fun {handle present} hgiven => ?_⟩
  · rw [hlent]
    by_cases hnew : handle = (arena.insert inst).1
    · exact List.mem_append_right _ (List.mem_singleton.mpr hnew)
    · rw [hholds.consistent.occupant?_insert_of_ne inst hnew] at hoccupant
      exact List.mem_append_left _ (hholds.lent_of_occupant? hoccupant)
  · rw [hended] at hmem
    rw [hlent]
    exact List.mem_append_left _ (hholds.lent_of_ended hmem)
  · rw [hended]
    rw [given_append] at hgiven
    rcases List.mem_append.mp hgiven with hold | hnew
    · have hother : handle ≠ (arena.insert inst).1 := fun hsame =>
        hfresh (hsame ▸ mem_lent_of_given hold)
      rw [hholds.consistent.occupant?_insert_of_ne inst hother, hholds.occupant?_eq hold]
    · obtain ⟨rfl, rfl⟩ := Prod.mk.inj (List.mem_singleton.mp hnew)
      have halive : (arena.insert present).1 ∉ ended past := fun hmem =>
        hfresh (hholds.lent_of_ended hmem)
      rw [hholds.consistent.occupant?_insert_self present hfits, if_neg halive]

theorem release (hholds : arena.Holds past) (handle : Handle) :
    (arena.release handle).2.Holds (past ++ [⟨.finalize handle, arena.isLive handle⟩]) := by
  have hlent : lent (past ++ [⟨.finalize handle, arena.isLive handle⟩]) = lent past :=
    (lent_append past _).trans (List.append_nil _)
  have hgiven : given (past ++ [⟨.finalize handle, arena.isLive handle⟩]) = given past :=
    (given_append past _).trans (List.append_nil _)
  cases hoccupant : arena.occupant? handle with
  | none =>
      have hended : ended (past ++ [⟨.finalize handle, arena.isLive handle⟩]) = ended past := by
        rw [ended_append, isLive_eq_isSome_occupant?, hoccupant]
        exact List.append_nil _
      rw [release_of_stale hoccupant]
      refine ⟨hholds.consistent, ?_, ?_, ?_⟩ <;> simp only [hlent, hended, hgiven]
      · exact hholds.lent_of_occupant?
      · exact hholds.lent_of_ended
      · exact hholds.occupant?_eq
  | some inst =>
      have hended : ended (past ++ [⟨.finalize handle, arena.isLive handle⟩]) =
          ended past ++ [handle] := by
        rw [ended_append, isLive_eq_isSome_occupant?, hoccupant]
        rfl
      refine ⟨hholds.consistent.release handle, fun {other present} hpresent => ?_,
        fun {other} hmem => ?_, fun {other present} hmem => ?_⟩
      · rw [occupant?_release] at hpresent
        split at hpresent
        · cases hpresent
        · exact hlent ▸ hholds.lent_of_occupant? hpresent
      · rw [hended] at hmem
        rw [hlent]
        rcases List.mem_append.mp hmem with hold | hnew
        · exact hholds.lent_of_ended hold
        · exact List.mem_singleton.mp hnew ▸ hholds.lent_of_occupant? hoccupant
      · rw [hgiven] at hmem
        rw [occupant?_release, hended, hholds.occupant?_eq hmem]
        by_cases hsame : other = handle <;> simp [hsame]

end Holds

end Arena

namespace Heap

variable {heap : Heap schema} {past : List (Exchange schema)}

theorem perform_holds (hholds : heap.arena.Holds past) {operation : Operation schema}
    (hkeeps : operation.keepsContents = true)
    (hfits : (heap.perform operation).2.arena.slots.size ≤ UInt32.size)
    (hfresh : ∀ handle ∈ lent [⟨operation, (heap.perform operation).1⟩], handle ∉ lent past) :
    (heap.perform operation).2.arena.Holds (past ++ [⟨operation, (heap.perform operation).1⟩]) := by
  cases operation with
  | insert inst =>
      exact hholds.insert inst (heap.place_lt_of_fits inst hholds.consistent hfits)
        (hfresh _ (List.mem_singleton.mpr rfl))
  | finalize handle =>
      rw [perform_finalize, finalize_fst, finalize_arena]
      exact hholds.release handle
  | update => cases hkeeps
  | get | resolve | scriptNameOf | isLive | size =>
      refine ⟨hholds.consistent, fun hoccupant => ?_, fun hmem => ?_, fun hgiven => ?_⟩
      · rw [lent_append]
        exact List.mem_append_left _ (hholds.lent_of_occupant? hoccupant)
      · rw [ended_append] at hmem
        rw [lent_append]
        have hbefore := hholds.lent_of_ended (by simpa [ended, Exchange.ended?] using hmem)
        exact List.mem_append_left _ hbefore
      · rw [given_append] at hgiven
        rw [ended_append]
        have hbefore := hholds.occupant?_eq (by simpa [given, Exchange.given?] using hgiven)
        simpa [ended, Exchange.ended?, perform] using hbefore

/-- Over a run that writes to no instance, keeps to places whose numbers fit in a word and
gives out every handle once, the arena goes on holding what the transcript tells. -/
theorem after_holds (hholds : heap.arena.Holds past) (operations : List (Operation schema))
    (hkeeps : ∀ operation ∈ operations, operation.keepsContents = true)
    (hfits : (heap.after operations).arena.slots.size ≤ UInt32.size)
    (hfresh : (lent past ++ lent (heap.transcript operations)).Nodup) :
    (heap.after operations).arena.Holds (past ++ heap.transcript operations) := by
  induction operations generalizing heap past with
  | nil =>
      rw [transcript, List.append_nil]
      exact hholds
  | cons operation rest ih =>
      rw [transcript, ← List.singleton_append, lent_append, ← List.append_assoc] at hfresh
      have hconsistent := heap.perform_consistent operation hholds.consistent
      have hnow : (lent past ++ lent [⟨operation, (heap.perform operation).1⟩]).Nodup :=
        hfresh.sublist (List.sublist_append_left _ _)
      have hnext := perform_holds hholds (hkeeps operation List.mem_cons_self)
        (Nat.le_trans (size_le_after _ rest hconsistent) hfits)
        (fun handle hlent hpast => List.disjoint_of_nodup_append hnow hpast hlent)
      rw [← lent_append] at hfresh
      have hrest := ih hnext (fun later hlater => hkeeps later (List.mem_cons_of_mem _ hlater))
        hfits hfresh
      rwa [List.append_assoc] at hrest

end Heap

end NativeBridge
