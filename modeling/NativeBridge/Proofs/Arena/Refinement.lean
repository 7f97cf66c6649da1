import NativeBridge.Proofs.Arena.Identity
import NativeBridge.Proofs.Arena.Ledger
import NativeBridge.Proofs.Arena.Occupancy

/-!
# The arena keeps a ledger

Slots are filled, emptied and filled again with instances of other classes, and a
handle is good for one filling only.  Seen through handles all of this is a ledger, as
long as slot numbers and generations fit in their words: every answer in every run is
one that the ledger allows.
-/

namespace NativeBridge

variable {schema : Schema}

namespace Ledger

/-- The ledger that an arena keeps: under the live handles the instances they refer
to. -/
structure Describes (ledger : Ledger schema.toClassFamily) (arena : Arena schema.toClassFamily) :
    Prop where
  consistent : arena.Consistent
  tidy : ledger.Tidy
  find?_eq : ∀ handle, ledger.find? handle =
    (arena.occupant? handle).map fun inst => ⟨handle, inst, inst.scriptName⟩
  length_eq : ledger.entries.length = arena.live

variable {ledger : Ledger schema.toClassFamily} {arena : Arena schema.toClassFamily}

theorem empty_describes : (empty : Ledger schema.toClassFamily).Describes .empty where
  consistent := Arena.empty_consistent
  tidy := empty_tidy
  find?_eq handle := by simp [find?, empty, Arena.occupant?, Arena.liveSlot?, Arena.empty]
  length_eq := rfl

namespace Describes

/-! ## Reading -/

theorem read_eq (hdescribes : ledger.Describes arena) (owner : schema.Class)
    (handle : Handle) : ledger.read owner handle = arena.get owner handle := by
  rw [hdescribes.consistent.get_eq, read, hdescribes.find?_eq]
  cases arena.occupant? handle <;> rfl

theorem resolve_eq (hdescribes : ledger.Describes arena) (owner : schema.Class)
    (value : Value) : ledger.resolve owner value = arena.resolve owner value := by
  cases value with
  | wrapped handle => exact hdescribes.read_eq owner handle
  | nil | bool | int | float | text => rfl

theorem isSome_eq (hdescribes : ledger.Describes arena) (handle : Handle) :
    (ledger.find? handle).isSome = arena.isLive handle := by
  rw [hdescribes.find?_eq, Option.isSome_map, Arena.isLive_eq_isSome_occupant?]

theorem scriptName_eq (hdescribes : ledger.Describes arena) (handle : Handle) :
    (ledger.find? handle).map (·.scriptName) = arena.scriptNameOf? handle := by
  rw [hdescribes.find?_eq, hdescribes.consistent.scriptNameOf?_eq, Option.map_map]
  rfl

/-! ## Changing -/

theorem insert (hdescribes : ledger.Describes arena) (inst : Instance schema.toClassFamily)
    (hfits : arena.place < UInt32.size) (hfresh : (arena.insert inst).1 ∉ ledger.history) :
    (ledger.enter (arena.insert inst).1 inst).Describes (arena.insert inst).2 where
  consistent := hdescribes.consistent.insert inst
  tidy := (Step.insert inst hfresh).tidy hdescribes.tidy
  find?_eq handle := by
    rw [find?_enter]
    split
    · next hsame =>
        rw [hsame, hdescribes.consistent.occupant?_insert_self inst hfits]
        rfl
    · next hother =>
        rw [hdescribes.consistent.occupant?_insert_of_ne inst hother, hdescribes.find?_eq]
  length_eq := by
    rw [Arena.insert_live, ← hdescribes.length_eq]
    rfl

theorem release (hdescribes : ledger.Describes arena) {handle : Handle} {entry}
    (hentry : ledger.find? handle = some entry) :
    (ledger.strike handle).Describes (arena.release handle).2 where
  consistent := hdescribes.consistent.release handle
  tidy := (Step.finalize hentry).tidy hdescribes.tidy
  find?_eq other := by
    rw [find?_strike, Arena.occupant?_release, hdescribes.find?_eq]
    split <;> rfl
  length_eq := by
    have hfound : (ledger.find? handle).isSome = true := by rw [hentry]; rfl
    have hstruck := length_strike hdescribes.tidy.handles_nodup hfound
    have hlive : arena.isLive handle = true := by rw [← hdescribes.isSome_eq, hfound]
    have hreleased := hdescribes.consistent.release_live_add_one hlive
    have hbefore := hdescribes.length_eq
    omega

theorem put (hdescribes : ledger.Describes arena) {owner : schema.Class} {handle : Handle}
    {old : schema.Content owner} (content : schema.Content owner)
    (hget : arena.get owner handle = .ok old) :
    (ledger.amend owner handle content).Describes (arena.put owner handle content) where
  consistent := hdescribes.consistent.put owner handle content
  tidy := by
    have hread : ledger.read owner handle = .ok old := by rw [hdescribes.read_eq, hget]
    exact (Step.update (fun _ => content) hread).tidy hdescribes.tidy
  find?_eq other := by
    rw [find?_amend, Arena.occupant?_put content hget, hdescribes.find?_eq, hdescribes.find?_eq]
    split
    · next hsame =>
        rw [hsame, Arena.get_eq_ok_iff.mp hget]
        rfl
    · rfl
  length_eq := by
    rw [Arena.put_live, ← hdescribes.length_eq]
    exact List.length_map _

/-! ## One operation -/

/-- Every answer is one that the ledger allows, if a handle that is given out is new to
the ledger and names a place that fits in a word. -/
theorem perform {heap : Heap schema} (hdescribes : ledger.Describes heap.arena)
    (operation : Operation schema)
    (hfits : (heap.perform operation).2.arena.slots.size ≤ UInt32.size)
    (hfresh : ∀ handle ∈ lent [⟨operation, (heap.perform operation).1⟩],
      handle ∉ ledger.history) :
    ∃ next, Step ledger ⟨operation, (heap.perform operation).1⟩ next ∧
      next.Describes (heap.perform operation).2.arena ∧
      next.history = ledger.history ++ lent [⟨operation, (heap.perform operation).1⟩] := by
  cases operation with
  | insert inst =>
      have hplace := heap.place_lt_of_fits inst hdescribes.consistent hfits
      have hnew : (heap.arena.insert inst).1 ∉ ledger.history :=
        hfresh _ (List.mem_singleton.mpr rfl)
      exact ⟨_, .insert inst hnew, hdescribes.insert inst hplace hnew, rfl⟩
  | finalize handle =>
      rw [Heap.perform_finalize, Heap.finalize_fst, Heap.finalize_arena, ← hdescribes.isSome_eq]
      cases hentry : ledger.find? handle with
      | none =>
          have hstale : heap.arena.occupant? handle = none := by
            simpa [hdescribes.find?_eq] using hentry
          rw [Arena.release_of_stale hstale]
          exact ⟨_, .finalizeStale hentry, hdescribes, (List.append_nil _).symm⟩
      | some entry =>
          exact ⟨_, .finalize hentry, hdescribes.release hentry, (List.append_nil _).symm⟩
  | update owner handle change =>
      cases hget : heap.arena.get owner handle with
      | error error =>
          have hread : ledger.read owner handle = .error error := by
            rw [hdescribes.read_eq, hget]
          rw [heap.perform_update_of_error handle change hget]
          exact ⟨_, .updateRefused change hread, hdescribes, (List.append_nil _).symm⟩
      | ok old =>
          have hread : ledger.read owner handle = .ok old := by
            rw [hdescribes.read_eq, hget]
          rw [heap.perform_update_arena handle change hget]
          exact ⟨_, .update change hread, hdescribes.put (change old) hget,
            (List.append_nil _).symm⟩
  | get owner handle =>
      have hstep : Step ledger ⟨.get owner handle, _⟩ ledger := .get owner handle
      rw [hdescribes.read_eq] at hstep
      exact ⟨ledger, hstep, hdescribes, (List.append_nil _).symm⟩
  | resolve owner value =>
      have hstep : Step ledger ⟨.resolve owner value, _⟩ ledger := .resolve owner value
      rw [hdescribes.resolve_eq] at hstep
      exact ⟨ledger, hstep, hdescribes, (List.append_nil _).symm⟩
  | scriptNameOf handle =>
      have hstep : Step ledger ⟨.scriptNameOf handle, _⟩ ledger := .scriptNameOf handle
      rw [hdescribes.scriptName_eq] at hstep
      exact ⟨ledger, hstep, hdescribes, (List.append_nil _).symm⟩
  | isLive handle =>
      have hstep : Step ledger ⟨.isLive handle, _⟩ ledger := .isLive handle
      rw [hdescribes.isSome_eq] at hstep
      exact ⟨ledger, hstep, hdescribes, (List.append_nil _).symm⟩
  | size =>
      have hstep : Step ledger ⟨.size, _⟩ ledger := .size
      rw [hdescribes.length_eq] at hstep
      exact ⟨ledger, hstep, hdescribes, (List.append_nil _).symm⟩

/-! ## Whole runs -/

theorem run {heap : Heap schema} (hdescribes : ledger.Describes heap.arena)
    (operations : List (Operation schema))
    (hfits : (heap.after operations).arena.slots.size ≤ UInt32.size)
    (hfresh : (ledger.history ++ lent (heap.transcript operations)).Nodup) :
    ∃ final, Run ledger (heap.transcript operations) final ∧
      final.Describes (heap.after operations).arena := by
  induction operations generalizing heap ledger with
  | nil => exact ⟨ledger, .nil, hdescribes⟩
  | cons operation rest ih =>
      rw [Heap.transcript, ← List.singleton_append, lent_append, ← List.append_assoc] at hfresh
      have hconsistent := heap.perform_consistent operation hdescribes.consistent
      have hnow : (ledger.history ++ lent [⟨operation, (heap.perform operation).1⟩]).Nodup :=
        hfresh.sublist (List.sublist_append_left _ _)
      obtain ⟨next, hstep, hnext, hhistory⟩ := hdescribes.perform operation
        (Nat.le_trans (Heap.size_le_after _ rest hconsistent) hfits)
        (fun handle hlent hpast => List.disjoint_of_nodup_append hnow hpast hlent)
      rw [← hhistory] at hfresh
      obtain ⟨final, hrun, hfinal⟩ := ih hnext hfits hfresh
      exact ⟨final, .cons hstep hrun, hfinal⟩

end Describes

/-- An arena answers like a ledger, about every handle and for every native class. -/
structure Agrees (ledger : Ledger schema.toClassFamily) (arena : Arena schema.toClassFamily) :
    Prop where
  handles_nodup : (ledger.entries.map (·.handle)).Nodup
  /-- Reading succeeds for the class of the entry, with its content. -/
  get_ok : ∀ owner handle content, arena.get owner handle = .ok content ↔
    ∃ entry, ledger.find? handle = some entry ∧ entry.inst = ⟨owner, content⟩
  /-- Classes are told apart as native classes, and named by what the entry says. -/
  get_invalid : ∀ owner handle expected actual,
    arena.get owner handle = .error (.invalidInstance expected actual) ↔
      ∃ entry, ledger.find? handle = some entry ∧ entry.inst.owner ≠ owner ∧
        expected = schema.scriptName owner ∧ actual = entry.scriptName
  get_stale : ∀ owner handle index, arena.get owner handle = .error (.staleInstance index) ↔
    ledger.find? handle = none ∧ index = handle.index
  scriptNameOf : ∀ handle,
    arena.scriptNameOf? handle = (ledger.find? handle).map (·.scriptName)
  isLive : ∀ handle, arena.isLive handle = true ↔ ∃ entry, ledger.find? handle = some entry
  size : arena.size = ledger.entries.length

theorem Describes.agrees (hdescribes : ledger.Describes arena) : ledger.Agrees arena where
  handles_nodup := hdescribes.tidy.handles_nodup
  get_ok owner handle content := by
    rw [Arena.get_eq_ok_iff, hdescribes.find?_eq]
    cases arena.occupant? handle <;> simp
  get_invalid owner handle expected actual := by
    rw [← hdescribes.read_eq, read]
    cases ledger.find? handle with
    | none => simp
    | some entry =>
        cases hcontent : entry.inst.as? owner with
        | none =>
            have hother := Instance.as?_eq_none_iff.mp hcontent
            simp only [hcontent, Option.some.injEq, exists_eq_left', Except.error.injEq,
              ConversionError.invalidInstance.injEq]
            exact ⟨fun hnames => ⟨hother, hnames.1.symm, hnames.2.symm⟩,
              fun hnames => ⟨hnames.2.1.symm, hnames.2.2.symm⟩⟩
        | some content =>
            have hsame : entry.inst.owner = owner :=
              congrArg Instance.owner (Instance.as?_eq_some_iff.mp hcontent)
            simp [hcontent, hsame]
  get_stale owner handle index := by
    rw [← hdescribes.read_eq, read]
    cases ledger.find? handle with
    | none => simp [eq_comm]
    | some entry => cases hcontent : entry.inst.as? owner <;> simp [hcontent]
  scriptNameOf handle := (hdescribes.scriptName_eq handle).symm
  isLive handle := by rw [← hdescribes.isSome_eq, Option.isSome_iff_exists]
  size := hdescribes.length_eq.symm

end Ledger

namespace Heap

/-- A run gives every handle out once if its slots are fewer than a word counts and each
is emptied less often than that. -/
theorem lent_nodup_of_ended {world : schema.World} {operations : List (Operation schema)}
    (hslots : ((new world).after operations).arena.slots.size < UInt32.size)
    (hended : ∀ index,
      (ended ((new world).transcript operations)).countP (·.index = index) < UInt32.size) :
    (lent ((new world).transcript operations)).Nodup := by
  apply lent_nodup_iff.mpr
  refine ⟨Nat.le_of_lt hslots, ?_⟩
  intro index
  calc
    (lent ((new world).transcript operations)).countP (·.index = index)
      ≤ (ended ((new world).transcript operations)).countP (·.index = index) + 1 :=
        countP_lent_le (Nat.le_of_lt hslots) index
    _ ≤ UInt32.size := hended index

/-- In every run that stays below as many slots as a word counts, and that ends no slot
as often, the arena refines a ledger: the answers are those of a run of the ledger, and
afterwards the arena answers every question as the ledger does. -/
theorem refines_ledger (world : schema.World) (operations : List (Operation schema))
    (hslots : ((new world).after operations).arena.slots.size < UInt32.size)
    (hended : ∀ index,
      (ended ((new world).transcript operations)).countP (·.index = index) < UInt32.size) :
    ∃ ledger, Ledger.Run .empty ((new world).transcript operations) ledger ∧
      ledger.Agrees ((new world).after operations).arena := by
  have hdescribes : (Ledger.empty : Ledger schema.toClassFamily).Describes
      (new world).arena := Ledger.empty_describes
  have hnodup := lent_nodup_of_ended hslots hended
  obtain ⟨ledger, hrun, hfinal⟩ := hdescribes.run operations (Nat.le_of_lt hslots) hnodup
  exact ⟨ledger, hrun, hfinal.agrees⟩

/-- A slot that is used again for a class with the same script name. -/
theorem refines_ledger_reused_slot :
    let operations : List (Operation Sample.schema) :=
      [.insert ⟨.monster, ({} : Sample.Monster)⟩, .finalize ⟨0, 0⟩,
        .insert ⟨.twin, ({} : Sample.Twin)⟩, .finalize ⟨0, 0⟩]
    let start : Heap Sample.schema := new .empty
    (start.after operations).arena.slots.size < UInt32.size ∧
      ended (start.transcript operations) = [⟨0, 0⟩] ∧
      (start.after operations).arena.get .monster ⟨0, 1⟩ =
        .error (.invalidInstance "Monster" "Monster") ∧
      ∃ ledger, Ledger.Run .empty (start.transcript operations) ledger ∧
        ledger.Agrees (start.after operations).arena := by
  intro operations start
  have hslots : (start.after operations).arena.slots.size < UInt32.size := by
    have hsize : (start.after operations).arena.slots.size = 1 := rfl
    rw [hsize]
    decide
  have hended : ended (start.transcript operations) = [⟨0, 0⟩] := rfl
  refine ⟨hslots, hended, rfl, refines_ledger _ operations hslots fun index => ?_⟩
  rw [hended]
  exact Nat.lt_of_le_of_lt List.countP_le_length (by decide)

end Heap

end NativeBridge
