import NativeBridge.Proofs.Call.Intake
import NativeBridge.Proofs.Call.Window
import NativeBridge.Proofs.Parameter.Resolution
import NativeBridge.Proofs.Registry.Rejection

/-!
# Calls with one argument for each parameter

The arguments of a call can be read in three ways: by position, all at once with exactly one
for each parameter, and by a parameter list that says which of them are required.  Each way has
its own error for an argument that is not there.  Where all parameters are required the three
agree, in what they give and in why they fail.  So the allocation that a class starts with is
the one that its default content gives as a constructor.
-/

namespace NativeBridge

/-! ## Positions as words -/

namespace Frame

variable {frame : Frame} {index : Nat}

/-- Where the slots have a word for their number, the sums for an argument are words. -/
theorem valueAt_eq_argument (hslots : frame.slots.length < UInt64.size) {value : Value}
    (hvalue : frame.arguments[index]? = some value) :
    frame.valueAt (.ofNat index) = .ok value := by
  have hposition : frame.offset.toNat + index < frame.slots.length := by
    have hgiven := lt_argumentCount hvalue
    rw [argumentCount] at hgiven
    omega
  have hindex : (UInt64.ofNat index).toNat = index := UInt64.toNat_ofNat_of_lt' (by omega)
  have hsums : frame.Sums (.ofNat index) := by
    rw [Sums, hindex]
    omega
  rw [valueAt_of_sums hsums, hindex, readArgument, argument?_eq, hvalue]
  rfl

end Frame

namespace Arguments

variable {family : ClassFamily} {frame : Frame} {arena : Arena family} {index : Nat}
variable {parameters : List (ParameterType family)}

/-- Reads one argument for each parameter by its position, from `index` on. -/
def readFrom (frame : Frame) (arena : Arena family) (index : Nat) :
    (parameters : List (ParameterType family)) → Except Interrupt (Arguments family parameters)
  | [] => .ok .nil
  | parameter :: rest => do
    let first ← frame.dataAt arena parameter (.ofNat index)
    return .cons first (← readFrom frame arena (index + 1) rest)

/-- Reads the arguments by their positions, if there is one for each parameter. -/
def readEach (frame : Frame) (arena : Arena family) (parameters : List (ParameterType family)) :
    Except Interrupt (Arguments family parameters) :=
  if frame.argumentCount = parameters.length then readFrom frame arena 0 parameters
  else .error (.failed (.argumentCount frame.argumentCount parameters.length parameters.length))

theorem supplied_of_some {value : Value} (hvalue : frame.arguments[index]? = some value) :
    supplied frame index = .ok value := by
  rw [supplied, hvalue]

/-- Where no argument is missing, reading by position is collecting. -/
theorem readFrom_eq_collect (hslots : frame.slots.length < UInt64.size)
    (hgiven : index + parameters.length ≤ frame.argumentCount) :
    readFrom frame arena index parameters =
      (collect arena (supplied frame) index parameters).mapError .failed := by
  induction parameters generalizing index with
  | nil => rfl
  | cons parameter rest ih =>
      rw [List.length_cons] at hgiven
      obtain ⟨value, hvalue⟩ := Frame.exists_argument (show index < frame.argumentCount by omega)
      have hindex : (UInt64.ofNat index).toNat = index := by
        rw [Frame.argumentCount] at hgiven
        exact UInt64.toNat_ofNat_of_lt' (by omega)
      rw [readFrom, collect, Frame.dataAt, Frame.valueAt_eq_argument hslots hvalue,
        supplied_of_some hvalue, hindex, ih (by omega)]
      cases hdecode : parameter.decode arena value with
      | error cause => simp only [bind, Except.bind, Except.mapError, hdecode]
      | ok first =>
          simp only [bind, Except.bind, Except.mapError, hdecode]
          cases collect arena (supplied frame) (index + 1) rest <;> rfl

/-- When there is an argument for each parameter, it does not matter how one that is missing would
be replaced. -/
theorem collect_supplied (hcount : frame.argumentCount = parameters.length)
    {valueAt : Nat → Except CallError Value}
    (hvalueAt : ∀ position value, frame.arguments[position]? = some value →
      valueAt position = .ok value) :
    collect arena valueAt 0 parameters = collect arena (supplied frame) 0 parameters := by
  refine collect_congr fun position hposition => ?_
  rw [Nat.zero_add]
  have hgiven : position < frame.argumentCount := hcount ▸ hposition
  obtain ⟨value, hvalue⟩ := Frame.exists_argument hgiven
  rw [hvalueAt position value hvalue, supplied_of_some hvalue]

theorem readEach_eq_exact (hslots : frame.slots.length < UInt64.size) :
    readEach frame arena parameters = (exact frame arena parameters).mapError .failed := by
  rw [readEach, exact]
  by_cases hcount : frame.argumentCount = parameters.length
  · -- No position is out of range, so that its own error is never given.
    rw [if_pos hcount, if_pos hcount, readFrom_eq_collect hslots (by omega)]
  · rw [if_neg hcount, if_neg hcount]
    rfl

/-- A list of required parameters only takes exactly one argument for each. -/
theorem extract_requiredOnly :
    extract frame arena (.requiredOnly (parameters.map (·.tag))) parameters =
      exact frame arena parameters := by
  have hrequired : (ParameterList.requiredOnly (parameters.map (·.tag))).required =
      parameters.length := List.length_map _
  have harity : (ParameterList.requiredOnly (parameters.map (·.tag))).arity = parameters.length :=
    ParameterList.requiredOnly_fits.arity_eq
  rw [exact]
  by_cases hcount : frame.argumentCount = parameters.length
  · rw [if_pos hcount, extract_of_count (by omega) (by omega)]
    exact collect_supplied hcount fun position value hvalue => suppliedOrDefault_of_some hvalue
  · have hrefused : (ParameterList.requiredOnly (parameters.map (·.tag))).checkCount
        frame.argumentCount =
          .error (.argumentCount frame.argumentCount parameters.length parameters.length) := by
      rw [ParameterList.checkCount, ParameterList.countError, hrequired, harity, if_pos (by omega)]
    rw [if_neg hcount, extract, hrefused]

end Arguments

/-! ## The first allocation of a class -/

variable {schema : Schema} {owner : schema.Class}

/-- The constructor without parameters whose instances start with `initial`. -/
def NativeConstructor.ofDefault (initial : Task schema.World (schema.Content owner)) :
    NativeConstructor schema owner where
  parameters := []
  code _ := initial

/-- As an entry point such a constructor is the allocation that the class starts with. -/
theorem NativeConstructor.ofDefault_entry (initial : Task schema.World (schema.Content owner)) :
    (ofDefault initial).entry (.requiredOnly []) = defaultAllocation owner initial := by
  have harguments (frame : Frame) :
      (Native.arguments frame (.requiredOnly []) [] :
        Native schema (Arguments schema.toClassFamily [])) = Native.exactArguments frame [] := by
    funext state
    have hsame : Arguments.extract frame state.heap.arena (.requiredOnly []) [] =
        Arguments.exact frame state.heap.arena [] := Arguments.extract_requiredOnly
    exact congrArg (Native.ofExcept · state) hsame
  simp only [entry, ofDefault, harguments, defaultAllocation, id, List.map_nil]

section Bind

variable {Vm VmClass : Type} [ScriptHost schema Vm VmClass]

/-- What an accepted constructor puts in place on a class that has none yet. -/
theorem Binding.bindConstructor_of_none {site : BindSite schema Vm VmClass} {list : ParameterList}
    {modes : Option (List ParameterMode)} {code : NativeConstructor schema owner}
    (hdeclare : ParameterList.declare "new" code.parameters (modesFor code.parameters modes) =
      .ok list)
    (hnone : site.record.constructor = none) :
    bindConstructor modes code site = .ok ()
      { vm := ScriptHost.setLifecycle site.vm site.record.vmClass (code.entry list)
          site.record.finalizer
        record := { site.record with
          allocator := code.entry list
          constructor := some
            { name := "new"
              kind := .constructor
              id := code.id
              required := list.required
              greatest := some list.arity
              entry := code.entry list } } } := by
  rw [bindConstructor, hdeclare]
  change (ofExcept (site.record.setConstructor _) >>= fun record =>
    set (⟨ScriptHost.setLifecycle site.vm record.vmClass (code.entry list) record.finalizer,
      record⟩ : BindSite schema Vm VmClass)) site = _
  rw [ClassRecord.setConstructor, hnone]
  rfl

/-- A call gives the same tuple of arguments, or the same error, whether they are extracted by a
list of required parameters, by the list that such a declaration resolves to, all at once, or one
by one, where the number of slots is a word.  So a class whose default content is bound as its
constructor keeps the allocation that it started with. -/
theorem exact_count_agrees (member : String)
    (parameters : List (ParameterType schema.toClassFamily))
    (initial : Task schema.World (schema.Content owner)) :
    (∀ frame arena,
      Arguments.extract frame arena (.requiredOnly (parameters.map (·.tag))) parameters =
        Arguments.exact frame arena parameters) ∧
      (∃ list, ParameterList.declare member parameters
          (List.replicate parameters.length .required) = .ok list ∧
        ∀ frame arena, Arguments.extract frame arena list parameters =
          Arguments.exact frame arena parameters) ∧
      (∀ (frame : Frame) arena, frame.slots.length < UInt64.size →
        Arguments.readEach frame arena parameters =
          (Arguments.exact frame arena parameters).mapError .failed) ∧
      ∀ site : BindSite schema Vm VmClass, site.record.constructor = none →
        ∃ after, (Declaration.constructor none (.ofDefault initial)).bind site = .ok () after ∧
          after.vm = ScriptHost.setLifecycle site.vm site.record.vmClass
            (defaultAllocation owner initial) site.record.finalizer ∧
          after.record.allocator = defaultAllocation owner initial ∧
          ∀ frame state, after.record.allocator.call frame state =
            (defaultAllocation owner initial).call frame state := by
  refine ⟨fun frame arena => Arguments.extract_requiredOnly, ?_, ?_, fun site hnone => ?_⟩
  · exact ⟨_, ParameterList.declare_required member parameters,
      fun frame arena => Arguments.extract_requiredOnly⟩
  · exact fun frame arena hslots => Arguments.readEach_eq_exact hslots
  · have hentry := NativeConstructor.ofDefault_entry initial
    have hdeclare : ParameterList.declare "new" (NativeConstructor.ofDefault initial).parameters
        (Binding.modesFor (NativeConstructor.ofDefault initial).parameters none) =
          .ok (.requiredOnly []) := ParameterList.declare_required "new" []
    have hbind := Binding.bindConstructor_of_none hdeclare hnone
    refine ⟨_, hbind, ?_, hentry, fun frame state => congrArg (·.call frame state) hentry⟩
    exact congrArg (ScriptHost.setLifecycle site.vm site.record.vmClass · site.record.finalizer)
      hentry

section Sample

open Sample

/-- Two arguments behind a receiver are read one by one as they are all at once, and a class that
has no constructor yet keeps its allocation when its default content is bound as one. -/
theorem exact_count_agrees_hero :
    let parameters : List (ParameterType Sample.family) := [⟨.bool, rfl⟩, ⟨.char, rfl⟩]
    let frame : Frame := ⟨[.nil, .bool true, .text "x"], 1⟩
    let initial : Task Sample.schema.World (Sample.schema.Content .hero) := pure ({} : Hero)
    Arguments.readEach frame .empty parameters = .ok (.cons true (.cons 'x' .nil)) ∧
      ∃ record ∈ (Bridge.heroBridge []).registry.records, record.constructor = none ∧
        ∃ after, (Declaration.constructor none (.ofDefault initial) :
            Declaration Sample.schema .hero).bind
            (⟨(Bridge.heroBridge []).vm, record⟩ :
              BindSite Sample.schema (RecordingHost Sample.schema) Nat) = .ok () after ∧
          after.record.allocator = defaultAllocation SampleClass.hero initial := by
  intro parameters frame initial
  obtain ⟨-, -, heach, hbind⟩ := @exact_count_agrees Sample.schema SampleClass.hero
    (RecordingHost Sample.schema) Nat _ "rise" parameters initial
  obtain ⟨record, hrecords, hnone⟩ : ∃ record,
      (Bridge.heroBridge []).registry.records = [record] ∧ record.constructor = none :=
    ⟨_, rfl, rfl⟩
  obtain ⟨after, hafter, -, hallocator, -⟩ := hbind ⟨(Bridge.heroBridge []).vm, record⟩ hnone
  exact ⟨heach frame .empty (by decide), record, by simp [hrecords], hnone, after, hafter,
    hallocator⟩

end Sample

end Bind

end NativeBridge
