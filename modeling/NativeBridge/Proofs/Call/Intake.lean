import NativeBridge.Member.Function
import NativeBridge.Proofs.Call.ExclusiveAccess

/-!
# What stands between a call and native code

The entry points that the bridge makes look at the receiver and convert the arguments
first, and come to native code only if all of this succeeds.  This file states for each
of them what a call gives in terms of these two parts, and which calls come to the code
at all: those for which other code could make a difference.
-/

namespace NativeBridge

variable {schema : Schema} {owner : schema.Class}

/-! ## What a call gives -/

/-- What a call gives whose entry point does `action`. -/
def Native.outcome (action : Native schema Unit) (state : CallState schema) :
    Except CallError Unit × CallState schema :=
  match EStateM.run action state with
  | .ok () after => (.ok (), after)
  | .error (.failed error) after => (.error error, after)
  | .error (.panicked panic) after => (.error (.panic panic.message), after)

theorem EntryPoint.call_eq_outcome (entry : EntryPoint schema) (frame : Frame)
    (state : CallState schema) : entry.call frame state = (entry.body frame).outcome state := rfl

/-- What the code of a method does to what the receiver holds and to the world.  Code that
only reads leaves the receiver. -/
def MethodCode.act {Given Outcome : Type} (code : MethodCode schema owner Given Outcome)
    (content : schema.Content owner) (given : Given) (world : schema.World) :
    EStateM.Result Panic (schema.Content owner × schema.World) Outcome :=
  match code with
  | reads code =>
    match code content given world with
    | .ok outcome world => .ok outcome (content, world)
    | .error panic world => .error panic (content, world)
  | writes code => code given (content, world)

/-- What a call gives after the code of a method has ended: the receiver holds what the
code left there, and the result is encoded. -/
def CallState.afterCode (state : CallState schema) (handle : Handle)
    (result : NativeType schema.Class) :
    EStateM.Result Panic (schema.Content owner × schema.World)
      (result.Data schema.toClassFamily) → Except CallError Unit × CallState schema
  | .error panic (content, world) =>
    (.error (.panic panic.message),
      ⟨state.returned, state.heap.arena.put owner handle content, world⟩)
  | .ok data (content, world) =>
    match encode (state.heap.arena.put owner handle content) result data with
    | .ok (value, arena) => (.ok (), ⟨value, arena, world⟩)
    | .error cause =>
      (.error (.result cause), ⟨state.returned, state.heap.arena.put owner handle content, world⟩)

/-- What a call gives that makes an instance out of its intake and lends it. -/
def CallState.making {Given : Type} (state : CallState schema) (intake : Except CallError Given)
    (code : Given → Task schema.World (schema.Content owner)) :
    Except CallError Unit × CallState schema :=
  match intake with
  | .error error => (.error error, state)
  | .ok given =>
    match code given state.heap.world with
    | .error panic world =>
      (.error (.panic panic.message), ⟨state.returned, state.heap.arena, world⟩)
    | .ok content world =>
      (.ok (), ⟨.wrapped (state.heap.arena.insert ⟨owner, content⟩).1,
        (state.heap.arena.insert ⟨owner, content⟩).2, world⟩)

namespace Frame

variable {family : ClassFamily}

/-- What the code of a method receives in a call: the receiver is unwrapped, then the
arguments are converted. -/
def intake (frame : Frame) (arena : Arena family) (owner : family.Class) (list : ParameterList)
    (parameters : List (ParameterType family)) :
    Except CallError (family.Content owner × Arguments family parameters) :=
  match frame.receiver arena owner with
  | .error error => .error error
  | .ok content =>
    match Arguments.extract frame arena list parameters with
    | .error error => .error error
    | .ok arguments => .ok (content, arguments)

/-- What is copied in a call to a copying entry point: the number of arguments is checked,
then the receiver is unwrapped. -/
def intakeCopy (frame : Frame) (arena : Arena family) (owner : family.Class) :
    Except CallError (family.Content owner) :=
  match Arguments.exact frame arena [] with
  | .error error => .error error
  | .ok .nil => frame.receiver arena owner

variable {frame : Frame} {arena : Arena family} {owner : family.Class}

theorem receiver_eq_ok {content : family.Content owner} :
    frame.receiver arena owner = .ok content ↔
      ∃ handle, frame.receiverHandle = .ok handle ∧ arena.get owner handle = .ok content := by
  rw [receiver]
  cases frame.receiverHandle with
  | error error => simp
  | ok handle => cases hget : arena.get owner handle <;> simp [hget]

variable {list : ParameterList} {parameters : List (ParameterType family)}

theorem intake_eq_ok {content : family.Content owner} {arguments : Arguments family parameters} :
    frame.intake arena owner list parameters = .ok (content, arguments) ↔
      frame.receiver arena owner = .ok content ∧
        Arguments.extract frame arena list parameters = .ok arguments := by
  rw [intake]
  cases frame.receiver arena owner with
  | error error => simp
  | ok content => cases Arguments.extract frame arena list parameters <;> simp

theorem intake_eq_error {error : CallError} :
    frame.intake arena owner list parameters = .error error ↔
      frame.receiver arena owner = .error error ∨
        (∃ content, frame.receiver arena owner = .ok content) ∧
          Arguments.extract frame arena list parameters = .error error := by
  rw [intake]
  cases frame.receiver arena owner with
  | error error => simp
  | ok content => cases Arguments.extract frame arena list parameters <;> simp

/-- A call without parameters is accepted if it has no arguments. -/
theorem exact_nil :
    Arguments.exact frame arena [] =
      if frame.argumentCount = 0 then .ok .nil
      else .error (.argumentCount frame.argumentCount 0 0) := rfl

theorem intakeCopy_eq :
    frame.intakeCopy arena owner =
      if frame.argumentCount = 0 then frame.receiver arena owner
      else .error (.argumentCount frame.argumentCount 0 0) := by
  rw [intakeCopy, exact_nil]
  by_cases hnone : frame.argumentCount = 0 <;> simp [hnone]

theorem intakeCopy_eq_ok {content : family.Content owner} :
    frame.intakeCopy arena owner = .ok content ↔
      frame.argumentCount = 0 ∧ frame.receiver arena owner = .ok content := by
  rw [intakeCopy_eq]
  by_cases hnone : frame.argumentCount = 0 <;> simp [hnone]

end Frame

/-! ### The steps of an entry point -/

namespace Native

variable {Outcome : Type} (frame : Frame) (state : CallState schema)

/-- A check leaves everything as it is. -/
theorem ofExcept_run (checked : Except CallError Outcome) :
    EStateM.run (ofExcept checked) state =
      match checked with
      | .ok value => .ok value state
      | .error error => .error (.failed error) state := by
  cases checked <;> rfl

theorem arguments_run (list : ParameterList)
    (parameters : List (ParameterType schema.toClassFamily)) :
    EStateM.run (arguments frame list parameters) state =
      match Arguments.extract frame state.heap.arena list parameters with
      | .ok arguments => .ok arguments state
      | .error error => .error (.failed error) state := by
  simp only [arguments, EStateM.run_bind, EStateM.run_get, ofExcept_run]
  cases Arguments.extract frame state.heap.arena list parameters <;> rfl

theorem exactArguments_run (parameters : List (ParameterType schema.toClassFamily)) :
    EStateM.run (exactArguments frame parameters) state =
      match Arguments.exact frame state.heap.arena parameters with
      | .ok arguments => .ok arguments state
      | .error error => .error (.failed error) state := by
  simp only [exactArguments, EStateM.run_bind, EStateM.run_get, ofExcept_run]
  cases Arguments.exact frame state.heap.arena parameters <;> rfl

theorem receiver_run (owner : schema.Class) :
    EStateM.run (receiver frame owner) state =
      match frame.receiver state.heap.arena owner with
      | .ok content => .ok content state
      | .error error => .error (.failed error) state := by
  simp only [receiver, EStateM.run_bind, EStateM.run_get, ofExcept_run]
  cases frame.receiver state.heap.arena owner <;> rfl

theorem run_run (task : Task schema.World Outcome) :
    EStateM.run (run task) state =
      match task state.heap.world with
      | .ok value world => .ok value ⟨state.returned, state.heap.arena, world⟩
      | .error panic world => .error (.panicked panic) ⟨state.returned, state.heap.arena, world⟩ :=
  rfl

theorem setReturn_run (type : NativeType schema.Class) (data : type.Data schema.toClassFamily) :
    EStateM.run (setReturn type data) state =
      match encode state.heap.arena type data with
      | .ok (value, arena) => .ok () ⟨value, arena, state.heap.world⟩
      | .error cause => .error (.failed (.result cause)) state := rfl

variable {frame state}

/-- Native code that runs on the receiver leaves its work behind there. -/
theorem runOnReceiver_run {handle : Handle} {content : schema.Content owner}
    (hhandle : frame.receiverHandle = .ok handle)
    (hget : state.heap.arena.get owner handle = .ok content)
    (task : Task (schema.Content owner × schema.World) Outcome) :
    EStateM.run (runOnReceiver frame owner task) state =
      match task (content, state.heap.world) with
      | .ok value (content, world) =>
        .ok value ⟨state.returned, state.heap.arena.put owner handle content, world⟩
      | .error panic (content, world) =>
        .error (.panicked panic)
          ⟨state.returned, state.heap.arena.put owner handle content, world⟩ := by
  have haccess : frame.accessReceiver state.heap.arena owner =
      .ok ⟨content, state.heap.arena.put owner handle⟩ := by
    simp only [Frame.accessReceiver_eq, hhandle, hget]
  rw [EStateM.run, runOnReceiver, haccess]
  cases htask : task (content, state.heap.world) <;> simp only [htask]

end Native

open Native

/-! ### Calls in full -/

/-- The hook of a class whose instances have a default. -/
theorem defaultAllocation_call (owner : schema.Class)
    (initial : Task schema.World (schema.Content owner)) (frame : Frame)
    (state : CallState schema) :
    (defaultAllocation owner initial).call frame state =
      state.making (Arguments.exact frame state.heap.arena []) fun _ => initial := by
  rw [EntryPoint.call_eq_outcome]
  simp only [outcome, defaultAllocation, EStateM.run_bind, exactArguments_run]
  cases Arguments.exact frame state.heap.arena [] with
  | error error => rfl
  | ok arguments =>
      simp only [run_run, CallState.making]
      cases initial state.heap.world <;> rfl

theorem NativeConstructor.entry_call (constructor : NativeConstructor schema owner)
    (list : ParameterList) (frame : Frame) (state : CallState schema) :
    (constructor.entry list).call frame state =
      state.making (Arguments.extract frame state.heap.arena list constructor.parameters)
        constructor.code := by
  rw [EntryPoint.call_eq_outcome]
  simp only [outcome, entry, EStateM.run_bind, arguments_run]
  cases Arguments.extract frame state.heap.arena list constructor.parameters with
  | error error => rfl
  | ok arguments =>
      simp only [run_run, CallState.making]
      cases constructor.code arguments state.heap.world <;> rfl

theorem duplicateEntry_call (owner : schema.Class)
    (duplicate : schema.Content owner → Task schema.World (schema.Content owner))
    (id : Fingerprint) (frame : Frame) (state : CallState schema) :
    (duplicateEntry owner duplicate id).call frame state =
      state.making (frame.intakeCopy state.heap.arena owner) duplicate := by
  rw [EntryPoint.call_eq_outcome]
  simp only [outcome, duplicateEntry, EStateM.run_bind, exactArguments_run, Frame.intakeCopy]
  cases Arguments.exact frame state.heap.arena [] with
  | error error => rfl
  | ok arguments =>
      cases arguments
      simp only [receiver_run]
      cases frame.receiver state.heap.arena owner with
      | error error => rfl
      | ok content =>
          simp only [run_run, CallState.making]
          cases duplicate content state.heap.world <;> rfl

section Method

variable (method : NativeMethod schema owner) (id : Fingerprint) {list : ParameterList}
variable {frame : Frame} {state : CallState schema}

theorem NativeMethod.entry_call_of_error {error : CallError}
    (hintake : frame.intake state.heap.arena owner list method.parameters = .error error) :
    (method.entry id list).call frame state = (.error error, state) := by
  rw [EntryPoint.call_eq_outcome]
  simp only [outcome, entry, EStateM.run_bind, receiver_run]
  rcases Frame.intake_eq_error.mp hintake with hreceiver | ⟨⟨content, hreceiver⟩, hextract⟩
  · rw [hreceiver]
  · simp only [hreceiver, arguments_run, hextract]

/-- A call whose intake succeeds runs the code on it. -/
theorem NativeMethod.entry_call_of_ok {content : schema.Content owner}
    {arguments : Arguments schema.toClassFamily method.parameters}
    (hintake : frame.intake state.heap.arena owner list method.parameters =
      .ok (content, arguments)) :
    ∃ handle, frame.receiverHandle = .ok handle ∧ state.heap.arena.get owner handle = .ok content ∧
      (method.entry id list).call frame state =
        state.afterCode handle method.result
          (method.code.act content arguments state.heap.world) := by
  obtain ⟨hreceiver, hextract⟩ := Frame.intake_eq_ok.mp hintake
  obtain ⟨handle, hhandle, hget⟩ := Frame.receiver_eq_ok.mp hreceiver
  refine ⟨handle, hhandle, hget, ?_⟩
  rw [EntryPoint.call_eq_outcome]
  simp only [outcome, entry, EStateM.run_bind, receiver_run, hreceiver, arguments_run, hextract]
  obtain ⟨parameters, result, code⟩ := method
  cases code with
  | reads code =>
      -- Code that reads writes back what it has read.
      simp only [EStateM.run_bind, run_run, MethodCode.act]
      cases code content arguments state.heap.world with
      | error panic world => simp only [CallState.afterCode, Arena.put_same content hget]
      | ok data world =>
          simp only [CallState.afterCode, Arena.put_same content hget, setReturn_run]
          cases encode state.heap.arena result data <;> rfl
  | writes code =>
      simp only [EStateM.run_bind, runOnReceiver_run hhandle hget, MethodCode.act]
      cases code arguments (content, state.heap.world) with
      | error panic changed => rfl
      | ok data changed =>
          simp only [CallState.afterCode, setReturn_run]
          cases encode (state.heap.arena.put owner handle changed.1) result data <;> rfl

end Method

/-! ## Which calls come to native code -/

/-- A call comes to the code in its entry point if other code there could change what the
call gives. -/
def ReachesCode {Code : Type} (entry : Code → EntryPoint schema) (frame : Frame)
    (state : CallState schema) : Prop :=
  ∃ first second, (entry first).call frame state ≠ (entry second).call frame state

section Reached

variable {list : ParameterList} {state : CallState schema} {frame : Frame}

namespace NativeMethod

/-- The method with other code. -/
def withCode (method : NativeMethod schema owner)
    (code : MethodCode schema owner (Arguments schema.toClassFamily method.parameters)
      (method.result.Data schema.toClassFamily)) : NativeMethod schema owner :=
  { method with code }

/-- The call comes to the code of the method. -/
def Enters (method : NativeMethod schema owner) (id : Fingerprint) (list : ParameterList)
    (state : CallState schema) (frame : Frame) : Prop :=
  ReachesCode (fun code => (method.withCode code).entry id list) frame state

/-- What the code of the method does with `content` and `arguments` is all that matters for
the call. -/
def IsGiven (method : NativeMethod schema owner) (id : Fingerprint) (list : ParameterList)
    (state : CallState schema) (frame : Frame) (content : schema.Content owner)
    (arguments : Arguments schema.toClassFamily method.parameters) : Prop :=
  ∀ first second : MethodCode schema owner (Arguments schema.toClassFamily method.parameters)
      (method.result.Data schema.toClassFamily),
    first.act content arguments state.heap.world = second.act content arguments state.heap.world →
      ((method.withCode first).entry id list).call frame state =
        ((method.withCode second).entry id list).call frame state

variable (method : NativeMethod schema owner) {id : Fingerprint}

theorem panicking_call {received}
    (hintake : frame.intake state.heap.arena owner list method.parameters = .ok received)
    (text : String) :
    (((method.withCode (.reads fun _ _ => throw (.text text))).entry id list).call frame state).1 =
      .error (.panic text) := by
  obtain ⟨handle, -, -, hcall⟩ :=
    entry_call_of_ok (method.withCode (.reads fun _ _ => throw (.text text))) id hintake
  rw [hcall]
  rfl

/-- The calls that come to the code of a method are those whose intake succeeds. -/
theorem enters_iff : method.Enters id list state frame ↔
    ∃ received, frame.intake state.heap.arena owner list method.parameters = .ok received := by
  constructor
  · rintro ⟨first, second, hdiffer⟩
    cases hintake : frame.intake state.heap.arena owner list method.parameters with
    | ok received => exact ⟨received, rfl⟩
    | error error =>
        have hfirst := entry_call_of_error (method.withCode first) id hintake
        have hsecond := entry_call_of_error (method.withCode second) id hintake
        exact absurd (hfirst.trans hsecond.symm) hdiffer
  · rintro ⟨received, hintake⟩
    -- Two panics can be told apart.
    refine ⟨.reads fun _ _ => throw (.text ""), .reads fun _ _ => throw (.text "-"), ?_⟩
    intro hsame
    have hresults := congrArg Prod.fst hsame
    rw [method.panicking_call hintake, method.panicking_call hintake] at hresults
    simp at hresults

/-- The code of a method is given the intake of the call. -/
theorem isGiven_of_intake {content : schema.Content owner}
    {arguments : Arguments schema.toClassFamily method.parameters}
    (hintake : frame.intake state.heap.arena owner list method.parameters =
      .ok (content, arguments)) : method.IsGiven id list state frame content arguments := by
  intro first second hact
  obtain ⟨handle, hhandle, -, hfirst⟩ := entry_call_of_ok (method.withCode first) id hintake
  obtain ⟨other, hother, -, hsecond⟩ := entry_call_of_ok (method.withCode second) id hintake
  obtain rfl := Except.ok.inj (hhandle.symm.trans hother)
  rw [hfirst, hsecond]
  exact congrArg (state.afterCode handle method.result) hact

end NativeMethod

namespace NativeConstructor

/-- The constructor with other code. -/
def withCode (constructor : NativeConstructor schema owner)
    (code : Arguments schema.toClassFamily constructor.parameters →
      Task schema.World (schema.Content owner)) : NativeConstructor schema owner :=
  { constructor with code }

/-- The call comes to the code of the constructor. -/
def Enters (constructor : NativeConstructor schema owner) (list : ParameterList)
    (state : CallState schema) (frame : Frame) : Prop :=
  ReachesCode (fun code => (constructor.withCode code).entry list) frame state

/-- What the code of the constructor does with `arguments` is all that matters for the
call. -/
def IsGiven (constructor : NativeConstructor schema owner) (list : ParameterList)
    (state : CallState schema) (frame : Frame)
    (arguments : Arguments schema.toClassFamily constructor.parameters) : Prop :=
  ∀ first second : Arguments schema.toClassFamily constructor.parameters →
      Task schema.World (schema.Content owner),
    first arguments state.heap.world = second arguments state.heap.world →
      ((constructor.withCode first).entry list).call frame state =
        ((constructor.withCode second).entry list).call frame state

variable (constructor : NativeConstructor schema owner)

theorem enters_iff : constructor.Enters list state frame ↔
    ∃ arguments, Arguments.extract frame state.heap.arena list constructor.parameters =
      .ok arguments := by
  constructor
  · rintro ⟨first, second, hdiffer⟩
    cases hextract : Arguments.extract frame state.heap.arena list constructor.parameters with
    | ok arguments => exact ⟨arguments, rfl⟩
    | error error =>
        rw [entry_call, entry_call] at hdiffer
        simp only [withCode, hextract] at hdiffer
        exact absurd rfl hdiffer
  · rintro ⟨arguments, hextract⟩
    refine ⟨fun _ => throw (.text ""), fun _ => throw (.text "-"), ?_⟩
    intro hsame
    rw [entry_call, entry_call] at hsame
    simp only [withCode, hextract] at hsame
    have hresults : (.error (.panic "") : Except CallError Unit) = .error (.panic "-") :=
      congrArg Prod.fst hsame
    simp at hresults

end NativeConstructor

end Reached

end NativeBridge
