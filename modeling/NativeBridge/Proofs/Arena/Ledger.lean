import NativeBridge.Proofs.Arena.Operation

/-!
# The ledger of lent instances

What the arena stands for: a finite map from handles to instances, together with every
handle that was ever in it.  A ledger knows neither slots nor generations.  Its steps
say what each operation may answer.
-/

namespace NativeBridge

/-- What a ledger holds under one handle. -/
structure Entry (family : ClassFamily) where
  handle : Handle
  /-- The instance with its native class. -/
  inst : Instance family
  scriptName : String

/-- The live instances, and the handles of all instances there ever were. -/
structure Ledger (family : ClassFamily) where
  entries : List (Entry family)
  history : List Handle

namespace Ledger

variable {family : ClassFamily}

def empty : Ledger family := ⟨[], []⟩

def find? (ledger : Ledger family) (handle : Handle) : Option (Entry family) :=
  ledger.entries.find? (·.handle = handle)

def enter (ledger : Ledger family) (handle : Handle) (inst : Instance family) : Ledger family where
  entries := ⟨handle, inst, inst.scriptName⟩ :: ledger.entries
  history := ledger.history ++ [handle]

def strike (ledger : Ledger family) (handle : Handle) : Ledger family where
  entries := ledger.entries.filter (·.handle ≠ handle)
  history := ledger.history

def amend (ledger : Ledger family) (owner : family.Class) (handle : Handle)
    (content : family.Content owner) : Ledger family where
  entries := ledger.entries.map fun entry =>
    if entry.handle = handle then { entry with inst := ⟨owner, content⟩ } else entry
  history := ledger.history

/-- The content under a handle, as an instance of `owner`. -/
def read (ledger : Ledger family) (owner : family.Class) (handle : Handle) :
    Except ConversionError (family.Content owner) :=
  match ledger.find? handle with
  | none => .error (.staleInstance handle.index)
  | some entry =>
    match entry.inst.as? owner with
    | some content => .ok content
    | none => .error (.invalidInstance (family.scriptName owner) entry.scriptName)

/-- The content under the handle in a script value, as an instance of `owner`. -/
def resolve (ledger : Ledger family) (owner : family.Class) (value : Value) :
    Except ConversionError (family.Content owner) :=
  match value with
  | .wrapped handle => ledger.read owner handle
  | .nil => .error (.nullInstance (family.scriptName owner))
  | other => .error (.typeMismatch (family.scriptName owner) other.kindName)

/-! ## Steps -/

variable {schema : Schema}

/-- What an operation may answer, and the ledger after it. -/
inductive Step :
    Ledger schema.toClassFamily → Exchange schema → Ledger schema.toClassFamily → Prop
  | insert {ledger handle} (inst : Instance schema.toClassFamily)
      (hfresh : handle ∉ ledger.history) :
      Step ledger ⟨.insert inst, handle⟩ (ledger.enter handle inst)
  | finalize {ledger handle entry} (hentry : ledger.find? handle = some entry) :
      Step ledger ⟨.finalize handle, true⟩ (ledger.strike handle)
  | finalizeStale {ledger handle} (hnone : ledger.find? handle = none) :
      Step ledger ⟨.finalize handle, false⟩ ledger
  | update {ledger handle owner old} (change : schema.Content owner → schema.Content owner)
      (hread : ledger.read owner handle = .ok old) :
      Step ledger ⟨.update owner handle change, .ok (change old)⟩
        (ledger.amend owner handle (change old))
  | updateRefused {ledger handle owner error}
      (change : schema.Content owner → schema.Content owner)
      (hread : ledger.read owner handle = .error error) :
      Step ledger ⟨.update owner handle change, .error error⟩ ledger
  | get {ledger} (owner : schema.Class) (handle : Handle) :
      Step ledger ⟨.get owner handle, ledger.read owner handle⟩ ledger
  | resolve {ledger} (owner : schema.Class) (value : Value) :
      Step ledger ⟨.resolve owner value, ledger.resolve owner value⟩ ledger
  | scriptNameOf {ledger} (handle : Handle) :
      Step ledger ⟨.scriptNameOf handle, (ledger.find? handle).map (·.scriptName)⟩ ledger
  | isLive {ledger} (handle : Handle) :
      Step ledger ⟨.isLive handle, (ledger.find? handle).isSome⟩ ledger
  | size {ledger} : Step ledger ⟨.size, ledger.entries.length⟩ ledger

/-- The answers of a whole run, and the ledger after it. -/
inductive Run :
    Ledger schema.toClassFamily → List (Exchange schema) → Ledger schema.toClassFamily → Prop
  | nil {ledger} : Run ledger [] ledger
  | cons {ledger exchange middle rest final} (hstep : Step ledger exchange middle)
      (hrest : Run middle rest final) : Run ledger (exchange :: rest) final

/-! ## Looking entries up -/

variable {ledger : Ledger family}

theorem find?_enter (handle : Handle) (inst : Instance family) (other : Handle) :
    (ledger.enter handle inst).find? other =
      if other = handle then some ⟨handle, inst, inst.scriptName⟩ else ledger.find? other := by
  by_cases hsame : other = handle
  · subst hsame
    simp [find?, enter]
  · simp [find?, enter, hsame, Ne.symm hsame]

theorem find?_strike (handle other : Handle) :
    (ledger.strike handle).find? other =
      if other = handle then none else ledger.find? other := by
  simp only [find?, strike, List.find?_filter]
  split
  · next hsame =>
      subst hsame
      simp
  · next hother =>
      apply congrArg (List.find? · ledger.entries)
      funext entry
      by_cases hentry : entry.handle = other <;> simp [hentry, hother]

theorem find?_amend (owner : family.Class) (handle : Handle) (content : family.Content owner)
    (other : Handle) :
    (ledger.amend owner handle content).find? other =
      if other = handle then
        (ledger.find? handle).map fun entry => { entry with inst := ⟨owner, content⟩ }
      else ledger.find? other := by
  simp only [find?, amend]
  induction ledger.entries with
  | nil => simp
  | cons entry rest ih =>
      by_cases hentry : entry.handle = handle
      · by_cases hother : other = handle
        · simp [hentry, hother]
        · simpa [hentry, hother, Ne.symm hother] using ih
      · by_cases hother : other = handle
        · simpa [hentry, hother] using ih
        · by_cases hfound : entry.handle = other
          · simp [hother, hfound]
          · simpa [hentry, hother, hfound] using ih

theorem find?_isSome_iff {handle : Handle} :
    (ledger.find? handle).isSome = true ↔ handle ∈ ledger.entries.map (·.handle) := by
  simp [find?, List.find?_isSome]

theorem handles_amend (owner : family.Class) (handle : Handle)
    (content : family.Content owner) :
    (ledger.amend owner handle content).entries.map (·.handle) =
      ledger.entries.map (·.handle) := by
  simp only [amend, List.map_map]
  apply List.map_congr_left
  intro entry _
  simp only [Function.comp_apply]
  split <;> rfl

/-- Striking an entry out of a ledger without duplicates removes one entry. -/
theorem length_strike {handle : Handle} (hnodup : (ledger.entries.map (·.handle)).Nodup)
    (hentry : (ledger.find? handle).isSome = true) :
    (ledger.strike handle).entries.length + 1 = ledger.entries.length := by
  rw [find?_isSome_iff] at hentry
  have hstruck : (ledger.strike handle).entries.length =
      ledger.entries.countP fun entry => ¬ (decide (entry.handle = handle)) = true := by
    rw [List.countP_eq_length_filter]
    simp [strike]
  have hone : ledger.entries.countP (fun entry => decide (entry.handle = handle)) = 1 := by
    have hcount := hnodup.count (a := handle)
    rw [if_pos hentry, List.count, List.countP_map] at hcount
    rw [← hcount]
    exact List.countP_congr fun entry _ => by simp
  have htotal := List.length_eq_countP_add_countP (fun entry => decide (entry.handle = handle))
    (l := ledger.entries)
  omega

/-! ## What a step keeps -/

/-- The entries of a ledger have different handles, all from its history. -/
structure Tidy (ledger : Ledger family) : Prop where
  handles_nodup : (ledger.entries.map (·.handle)).Nodup
  handles_subset : ∀ handle ∈ ledger.entries.map (·.handle), handle ∈ ledger.history

theorem empty_tidy : (empty : Ledger family).Tidy where
  handles_nodup := List.nodup_nil
  handles_subset := by simp [empty]

theorem Step.tidy {exchange : Exchange schema} {ledger next : Ledger schema.toClassFamily}
    (hstep : Step ledger exchange next) (htidy : ledger.Tidy) : next.Tidy := by
  cases hstep with
  | @insert handle inst hfresh =>
      have hnew : handle ∉ ledger.entries.map (·.handle) := by
        intro hentry
        exact hfresh (htidy.handles_subset _ hentry)
      constructor
      · exact List.nodup_cons.mpr ⟨hnew, htidy.handles_nodup⟩
      · intro other hother
        simp only [enter, List.map_cons, List.mem_cons] at hother
        simp only [enter, List.mem_append, List.mem_singleton]
        exact hother.symm.imp_left (htidy.handles_subset other)
  | @finalize handle entry hentry =>
      have hsublist : List.Sublist ((ledger.strike handle).entries.map (·.handle))
          (ledger.entries.map (·.handle)) := List.filter_sublist.map _
      exact ⟨htidy.handles_nodup.sublist hsublist,
        fun other hother => htidy.handles_subset other (hsublist.subset hother)⟩
  | update change hread =>
      constructor
      · rw [handles_amend]
        exact htidy.handles_nodup
      · intro other hother
        rw [handles_amend] at hother
        exact htidy.handles_subset other hother
  | finalizeStale | updateRefused | get | resolve | scriptNameOf | isLive | size => exact htidy

end Ledger

end NativeBridge
