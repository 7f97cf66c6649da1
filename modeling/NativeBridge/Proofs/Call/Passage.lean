import NativeBridge.Proofs.Call.Failure
import NativeBridge.Proofs.Conversion.RoundTrip

/-!
# Values on their way through native code

Native code that does nothing with a value but keep it or give it back is no obstacle to
the value: a script gets back what it gave.  A value may still be refused when it is
decoded, before native code is reached, but what was decoded can always be encoded.
-/

namespace NativeBridge

variable {schema : Schema} {owner : schema.Class}

/-! ## Members that pass a value on -/

/-- The method gives back the argument at `position`. -/
def NativeMethod.PassesOn (method : NativeMethod schema owner) (position : Nat) : Prop :=
  ∀ content arguments world, ∃ data left,
    method.code.act content arguments world = .ok data left ∧
      arguments.toList[position]? = some ⟨method.result, data⟩

/-- The reader gives back what the writer stored last. -/
def Restores (parameter : ParameterType schema.toClassFamily)
    (write : parameter.Data → Task (schema.Content owner × schema.World) Unit)
    (read : schema.Content owner → Task schema.World parameter.Data) : Prop :=
  ∀ data content world, ∃ stored left, write data (content, world) = .ok () (stored, left) ∧
    ∀ later, ∃ after, read stored later = .ok data after

/-- The reader and the writer of a field belong together. -/
theorem Accessor.restores (accessor : Accessor schema.toClassFamily owner)
    (written : accessor.hasSetter = true) :
    Restores (accessor.parameter written)
      (fun data => modify fun (content, world) => (accessor.field.set data content, world))
      (fun content => pure (accessor.field.get content)) := by
  intro data content world
  refine ⟨accessor.field.set data content, world, rfl, fun later => ⟨later, ?_⟩⟩
  exact congrArg (EStateM.Result.ok · later) (accessor.field.get_set content data)

/-! ## Calls to them -/

section Call

variable {frame : Frame} {state : CallState schema} {list : ParameterList}

/-- The call fails with the error of its intake, before native code is reached, and changes
nothing. -/
def EntryPoint.Declines {Given : Type} (entry : EntryPoint schema) (frame : Frame)
    (state : CallState schema) (intake : Except CallError Given) : Prop :=
  ∃ error, intake = .error error ∧ error.isFromCode = false ∧
    entry.call frame state = (.error error, state)

theorem NativeMethod.declines (method : NativeMethod schema owner) (id : Fingerprint)
    {error : CallError}
    (hintake : frame.intake state.heap.arena owner list method.parameters = .error error) :
    (method.entry id list).Declines frame state
      (frame.intake state.heap.arena owner list method.parameters) :=
  ⟨error, hintake, Frame.intake_isFromCode hintake, method.entry_call_of_error id hintake⟩

/-- A method that passes an argument on fails before its code is reached, or returns the
value that it was given. -/
theorem NativeMethod.PassesOn.call {method : NativeMethod schema owner} {position : Nat}
    (hpasses : method.PassesOn position) (id : Fingerprint)
    (hlossless : ∀ value, Arguments.suppliedOrDefault frame list position = .ok value →
      method.result.Lossless value) :
    (method.entry id list).Declines frame state
      (frame.intake state.heap.arena owner list method.parameters) ∨
    ∃ value after, Arguments.suppliedOrDefault frame list position = .ok value ∧
      (method.entry id list).call frame state = (.ok (), after) ∧ after.returned = value := by
  cases hintake : frame.intake state.heap.arena owner list method.parameters with
  | error error => exact .inl (hintake ▸ method.declines id hintake)
  | ok received =>
      obtain ⟨content, arguments⟩ := received
      obtain ⟨handle, -, -, hcall⟩ := method.entry_call_of_ok id hintake
      obtain ⟨data, ⟨left, world⟩, hact, hdatum⟩ :=
        hpasses content arguments state.heap.world
      obtain ⟨-, hextract⟩ := Frame.intake_eq_ok.mp hintake
      obtain ⟨parameter, value, decoded, -, hvalue, hdecode, hsame⟩ :=
        Arguments.collect_toList (Arguments.extract_eq_ok.mp hextract).2 hdatum
      rw [Nat.zero_add] at hvalue
      -- The result has the type of the parameter, so the data of the two can be compared.
      obtain ⟨parameters, result, code⟩ := method
      cases hsame
      refine .inr ⟨value, ⟨value, state.heap.arena.put owner handle left, world⟩, hvalue, ?_, rfl⟩
      rw [hcall, hact, CallState.afterCode, encode_decode (hlossless value hvalue) hdecode]

section Intake

variable {family : ClassFamily} {arena : Arena family} {owner : family.Class}
variable {content : family.Content owner}

theorem Frame.intake_none (hreceiver : frame.receiver arena owner = .ok content)
    (hnone : frame.argumentCount = 0) :
    frame.intake arena owner .empty [] = .ok (content, .nil) := by
  refine intake_eq_ok.mpr ⟨hreceiver, ?_⟩
  rw [Arguments.extract, hnone]
  rfl

/-- The only argument of a call is what the only value was decoded to. -/
theorem Frame.decode_of_intake_single {parameter : ParameterType family} {value : Value}
    {data : parameter.Data} (hvalue : frame.arguments = [value])
    (hintake : frame.intake arena owner list [parameter] = .ok (content, .cons data .nil)) :
    parameter.decode arena value = .ok data := by
  obtain ⟨-, hextract⟩ := intake_eq_ok.mp hintake
  have hparameter : [parameter][0]? = some parameter := rfl
  obtain ⟨given, decoded, hgiven, hdecode, hdatum⟩ :=
    Arguments.collect_converts (Arguments.extract_eq_ok.mp hextract).2 hparameter
  have hfirst : frame.arguments[0 + 0]? = some value := by
    rw [hvalue]
    rfl
  rw [Arguments.suppliedOrDefault_of_some hfirst] at hgiven
  cases hgiven
  cases hdatum
  exact hdecode

/-- A call with a receiver that takes no arguments is refused if there are any. -/
theorem Frame.intake_empty (hreceiver : frame.receiver arena owner = .ok content) :
    frame.intake arena owner .empty [] =
      if frame.argumentCount = 0 then .ok (content, .nil)
      else .error (.argumentCount frame.argumentCount 0 0) := by
  split
  · next hnone => exact intake_none hreceiver hnone
  · next hsome =>
      refine intake_eq_error.mpr (.inr ⟨⟨content, hreceiver⟩, ?_⟩)
      have hcount : frame.argumentCount < ParameterList.empty.required ∨
          ParameterList.empty.arity < frame.argumentCount := .inr (Nat.pos_of_ne_zero hsome)
      rw [Arguments.extract, ParameterList.checkCount, if_pos hcount]
      rfl

/-- A call with a receiver that takes one argument is accepted if there is one and it can be
decoded. -/
theorem Frame.intake_single_eq_ok {parameter : ParameterType family} {data : parameter.Data} :
    frame.intake arena owner (.requiredOnly [parameter.tag]) [parameter] =
        .ok (content, .cons data .nil) ↔
      frame.receiver arena owner = .ok content ∧
        ∃ value, frame.arguments = [value] ∧ parameter.decode arena value = .ok data := by
  constructor
  · intro hintake
    obtain ⟨hreceiver, hextract⟩ := intake_eq_ok.mp hintake
    obtain ⟨hleast, hmost⟩ :=
      ParameterList.checkCount_eq_ok.mp (Arguments.extract_eq_ok.mp hextract).1
    have hlength : frame.arguments.length = 1 :=
      length_arguments.trans (Nat.le_antisymm hmost hleast)
    obtain ⟨value, hvalue⟩ := List.length_eq_one_iff.mp hlength
    exact ⟨hreceiver, value, hvalue, decode_of_intake_single hvalue hintake⟩
  · rintro ⟨hreceiver, value, hvalue, hdecode⟩
    have hcount : frame.argumentCount = 1 := by
      rw [← length_arguments, hvalue]
      rfl
    have hfirst : frame.arguments[0]? = some value := by
      rw [hvalue]
      rfl
    refine intake_eq_ok.mpr ⟨hreceiver, Arguments.extract_eq_ok.mpr ⟨?_, ?_⟩⟩
    · rw [hcount]
      rfl
    · simp only [Arguments.collect, Arguments.suppliedOrDefault_of_some hfirst, hdecode]

end Intake

/-- A getter whose code gives what a value was decoded to returns that value. -/
theorem NativeMethod.getter_call {result : NativeType schema.Class}
    {read : schema.Content owner → Task schema.World (result.Data schema.toClassFamily)}
    (id : Fingerprint) {content : schema.Content owner} {world : schema.World}
    {data : result.Data schema.toClassFamily} {value : Value}
    {other : Arena schema.toClassFamily} {readable : result.readable schema.toClassFamily = true}
    (hintake : frame.intake state.heap.arena owner .empty [] = .ok (content, .nil))
    (hread : read content state.heap.world = .ok data world)
    (hlossless : result.Lossless value) (hdecode : decode other result readable value = .ok data) :
    ((getter result read).entry id .empty).call frame state =
      (.ok (), ⟨value, state.heap.arena, world⟩) := by
  obtain ⟨handle, -, hget, hcall⟩ :=
    (getter result read).entry_call_of_ok id hintake
  have hact : (getter result read).code.act content .nil state.heap.world =
      .ok data (content, world) := by
    simp only [getter, MethodCode.act, hread]
  have hencode : encode state.heap.arena (getter result read).result data =
      .ok (value, state.heap.arena) := encode_decode hlossless hdecode
  -- Code that reads writes back what the receiver holds.
  simp only [hcall, hact, CallState.afterCode, Arena.put_same content hget, hencode]

/-- A getter fails before its code is reached, or returns the value that its code gives. -/
theorem NativeMethod.getter_returns {result : NativeType schema.Class}
    {read : schema.Content owner → Task schema.World (result.Data schema.toClassFamily)}
    (id : Fingerprint) {value : Value} {readable : result.readable schema.toClassFamily = true}
    (hlossless : result.Lossless value)
    (hread : ∀ content, frame.receiver state.heap.arena owner = .ok content →
      ∃ data world, read content state.heap.world = .ok data world ∧
        ∃ other, decode other result readable value = .ok data) :
    ((getter result read).entry id .empty).Declines frame state
      (frame.intake state.heap.arena owner .empty []) ∨
    ∃ world, ((getter result read).entry id .empty).call frame state =
      (.ok (), ⟨value, state.heap.arena, world⟩) := by
  cases hintake : frame.intake state.heap.arena owner .empty [] with
  | error error => exact .inl (hintake ▸ (getter result read).declines id hintake)
  | ok received =>
      obtain ⟨content, _ | _⟩ := received
      obtain ⟨data, world, hdata, other, hdecode⟩ := hread content (Frame.intake_eq_ok.mp hintake).1
      exact .inr ⟨world, getter_call id hintake hdata hlossless hdecode⟩

/-- What a setter is called with goes behind the receiver. -/
theorem NativeMethod.setter_call {parameter : ParameterType schema.toClassFamily}
    {write : parameter.Data → Task (schema.Content owner × schema.World) Unit} (id : Fingerprint)
    {content stored : schema.Content owner} {world : schema.World} {data : parameter.Data}
    (hintake : frame.intake state.heap.arena owner (.requiredOnly [parameter.tag]) [parameter] =
      .ok (content, .cons data .nil))
    (hwrite : write data (content, state.heap.world) = .ok () (stored, world)) :
    ∃ handle, frame.receiverHandle = .ok handle ∧
      state.heap.arena.get owner handle = .ok content ∧
      ((setter parameter write).entry id (.requiredOnly [parameter.tag])).call frame state =
        (.ok (), ⟨.nil, state.heap.arena.put owner handle stored, world⟩) := by
  obtain ⟨handle, hhandle, hget, hcall⟩ :=
    (setter parameter write).entry_call_of_ok id hintake
  have hact : (setter parameter write).code.act content (.cons data .nil) state.heap.world =
      .ok () (stored, world) := hwrite
  refine ⟨handle, hhandle, hget, ?_⟩
  rw [hcall, hact]
  rfl

/-- A setter fails before its code is reached, or the getter of the same property then
returns the value that was set. -/
theorem Restores.call {parameter : ParameterType schema.toClassFamily}
    {write : parameter.Data → Task (schema.Content owner × schema.World) Unit}
    {read : schema.Content owner → Task schema.World parameter.Data}
    (hrestores : Restores parameter write read) (setterId getterId : Fingerprint) {later : Frame}
    {value : Value} (hvalue : frame.arguments = [value]) (hlossless : parameter.type.Lossless value)
    (hreceiver : later.receiverHandle = frame.receiverHandle) (hnone : later.argumentCount = 0)
    (slot : Value) :
    ((NativeMethod.setter parameter write).entry setterId
        (.requiredOnly [parameter.tag])).Declines frame state
      (frame.intake state.heap.arena owner (.requiredOnly [parameter.tag]) [parameter]) ∨
    ∃ after final,
      ((NativeMethod.setter parameter write).entry setterId
        (.requiredOnly [parameter.tag])).call frame state = (.ok (), after) ∧
      ((NativeMethod.getter parameter.type read).entry getterId .empty).call later
        ⟨slot, after.heap⟩ = (.ok (), final) ∧
      final.returned = value ∧ final.heap.arena = after.heap.arena := by
  cases hintake : frame.intake state.heap.arena owner (.requiredOnly [parameter.tag])
      [parameter] with
  | error error =>
      exact .inl (hintake ▸ (NativeMethod.setter parameter write).declines setterId hintake)
  | ok received =>
      obtain ⟨content, _ | ⟨data, _ | _⟩⟩ := received
      have hdecode := Frame.decode_of_intake_single hvalue hintake
      obtain ⟨stored, world, hwrite, hread⟩ := hrestores data content state.heap.world
      obtain ⟨handle, hhandle, hget, hset⟩ := NativeMethod.setter_call setterId hintake hwrite
      obtain ⟨final, hread⟩ := hread world
      have hstored := Arena.get_put stored hget
      have hlater := Frame.receiver_eq_ok.mpr ⟨handle, hreceiver.trans hhandle, hstored⟩
      exact .inr ⟨_, _, hset, NativeMethod.getter_call getterId (Frame.intake_none hlater hnone)
        hread hlossless hdecode, rfl, rfl⟩

end Call

/-- What was decoded without loss is encoded as the value it came from, in any arena and
without a trace there.  So a method that passes an argument on, a getter whose code gives
what the value was decoded to, and a setter followed by the getter of the same property
return the value that they were given, or fail before native code is reached: the result
of the code is never refused. -/
theorem passed_values_return (schema : Schema) :
    (∀ (arena other : Arena schema.toClassFamily) (type : NativeType schema.Class)
      (readable : type.readable schema.toClassFamily = true) (value : Value)
      (data : type.Data schema.toClassFamily), type.Lossless value →
        decode arena type readable value = .ok data →
          encode other type data = .ok (value, other)) ∧
    (∀ (owner : schema.Class) (method : NativeMethod schema owner) (position : Nat),
      method.PassesOn position →
        ∀ (id : Fingerprint) (list : ParameterList) (frame : Frame) (state : CallState schema),
          (∀ value, Arguments.suppliedOrDefault frame list position = .ok value →
            method.result.Lossless value) →
          (method.entry id list).Declines frame state
            (frame.intake state.heap.arena owner list method.parameters) ∨
          ∃ value after, Arguments.suppliedOrDefault frame list position = .ok value ∧
            (method.entry id list).call frame state = (.ok (), after) ∧
            after.returned = value) ∧
    (∀ (owner : schema.Class) (result : NativeType schema.Class)
      (readable : result.readable schema.toClassFamily = true)
      (read : schema.Content owner → Task schema.World (result.Data schema.toClassFamily))
      (id : Fingerprint) (frame : Frame) (state : CallState schema) (value : Value),
        result.Lossless value →
        (∀ content, frame.receiver state.heap.arena owner = .ok content →
          ∃ data world, read content state.heap.world = .ok data world ∧
            ∃ other, decode other result readable value = .ok data) →
        ((NativeMethod.getter result read).entry id .empty).Declines frame state
          (frame.intake state.heap.arena owner .empty []) ∨
        ∃ world, ((NativeMethod.getter result read).entry id .empty).call frame state =
          (.ok (), ⟨value, state.heap.arena, world⟩)) ∧
    ∀ (owner : schema.Class) (parameter : ParameterType schema.toClassFamily)
      (write : parameter.Data → Task (schema.Content owner × schema.World) Unit)
      (read : schema.Content owner → Task schema.World parameter.Data),
      Restores parameter write read →
        ∀ (setterId getterId : Fingerprint) (frame later : Frame) (state : CallState schema)
          (value slot : Value), frame.arguments = [value] → parameter.type.Lossless value →
          later.receiverHandle = frame.receiverHandle → later.argumentCount = 0 →
          ((NativeMethod.setter parameter write).entry setterId
              (.requiredOnly [parameter.tag])).Declines frame state
            (frame.intake state.heap.arena owner (.requiredOnly [parameter.tag]) [parameter]) ∨
          ∃ after final,
            ((NativeMethod.setter parameter write).entry setterId
              (.requiredOnly [parameter.tag])).call frame state = (.ok (), after) ∧
            ((NativeMethod.getter parameter.type read).entry getterId .empty).call later
              ⟨slot, after.heap⟩ = (.ok (), final) ∧
            final.returned = value ∧ final.heap.arena = after.heap.arena := by
  refine ⟨?_, ?_, ?_, ?_⟩
  · intro arena other type readable value data
    exact encode_decode
  · intro owner method position hpasses id list frame state
    exact hpasses.call id
  · intro owner result readable read id frame state value
    exact NativeMethod.getter_returns id
  · intro owner parameter write read hrestores setterId getterId frame later state value slot
      hvalue hlossless hreceiver hnone
    exact hrestores.call setterId getterId hvalue hlossless hreceiver hnone slot

section Sample

open Sample

/-- A number that a gauge may lack, as scripts read and write it. -/
def gaugeOpt : Accessor Sample.schema.toClassFamily SampleClass.gauge where
  name := "opt"
  field := ⟨"opt", .option (.integer .i32), Gauge.opt, fun opt it => { it with opt },
    fun _ _ => rfl⟩
  hasGetter := true
  hasSetter := true
  writable _ := rfl

/-- Gives back the text that it takes. -/
def parrot : NativeMethod Sample.schema .gauge where
  parameters := [⟨.string, rfl⟩]
  result := .string
  code := .reads fun _ (.cons text .nil) => pure text

/-- One gauge. -/
def oneGauge : CallState Sample.schema where
  returned := .text "before"
  heap := ⟨(Arena.empty.insert ⟨SampleClass.gauge, ({} : Gauge)⟩).2, .empty⟩

/-- A script that gives a text to a method gets it back, and a script that sets the number
of a gauge to seven reads seven. -/
theorem passed_values_return_gauge :
    let opt := gaugeOpt.parameter rfl
    let setter : NativeMethod Sample.schema .gauge :=
      .setter opt fun data =>
        modify fun (content, notes) => (gaugeOpt.field.set data content, notes)
    let getter : NativeMethod Sample.schema .gauge :=
      .getter opt.type fun content => pure (gaugeOpt.field.get content)
    (∃ after,
      (parrot.entry (parrot.signature.memberId "parrot")
        (.requiredOnly (parrot.parameters.map (·.tag)))).call
          ⟨[.wrapped ⟨0, 0⟩, .text "hello"], 1⟩ oneGauge = (.ok (), after) ∧
      after.returned = .text "hello") ∧
    ∃ after final,
      (setter.entry (setter.signature.memberId "opt=") (.requiredOnly [opt.tag])).call
        ⟨[.wrapped ⟨0, 0⟩, .int 7], 1⟩ oneGauge = (.ok (), after) ∧
      (getter.entry (getter.signature.memberId "opt") .empty).call ⟨[.wrapped ⟨0, 0⟩], 1⟩
        ⟨.nil, after.heap⟩ = (.ok (), final) ∧
      final.returned = .int 7 := by
  intro opt setter getter
  obtain ⟨-, hmethods, -, hpairs⟩ := passed_values_return Sample.schema
  constructor
  · have hpasses : parrot.PassesOn 0 := by
      rintro content (_ | ⟨text, _ | _⟩) notes
      exact ⟨text, (content, notes), rfl, rfl⟩
    have hlossless : ∀ value, parrot.result.Lossless value := fun _ => ⟨rfl, nofun, nofun⟩
    rcases hmethods .gauge parrot 0 hpasses (parrot.signature.memberId "parrot")
        (.requiredOnly (parrot.parameters.map (·.tag))) ⟨[.wrapped ⟨0, 0⟩, .text "hello"], 1⟩
        oneGauge (fun value _ => hlossless value) with
      ⟨error, hintake, -⟩ | ⟨value, after, hvalue, hcall, hreturned⟩
    · cases hintake
    · cases hvalue
      exact ⟨after, hcall, hreturned⟩
  · have hlossless : opt.type.Lossless (.int 7) := ⟨rfl, nofun, nofun⟩
    rcases hpairs .gauge opt _ _ (gaugeOpt.restores rfl) (setter.signature.memberId "opt=")
        (getter.signature.memberId "opt") ⟨[.wrapped ⟨0, 0⟩, .int 7], 1⟩ ⟨[.wrapped ⟨0, 0⟩], 1⟩
        oneGauge (.int 7) .nil rfl hlossless rfl rfl with
      ⟨error, hintake, -⟩ | ⟨after, final, hset, hget, hreturned, -⟩
    · cases hintake
    · exact ⟨after, final, hset, hget, hreturned⟩

end Sample

end NativeBridge
