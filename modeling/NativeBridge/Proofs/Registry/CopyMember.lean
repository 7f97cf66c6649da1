import NativeBridge.Proofs.Call.Passage
import NativeBridge.Proofs.Call.Verdict
import NativeBridge.Registry.RecordingHost

/-!
# Members that lend copies

A class can lend copies of its instances in two ways: by a copying member, whose entry point is
made for this, and by a method whose code makes the copy.  What is on record about the two is
the same.  Calls to them agree too, but for one order: a copying member counts the arguments
before it looks at the receiver, and a method looks at the receiver first.  A call in which
both are wrong tells the two apart.
-/

namespace NativeBridge

/-! ## What a copying call takes in -/

namespace Frame

variable {family : ClassFamily} {frame : Frame} {arena : Arena family} {owner : family.Class}

/-- A method without parameters takes in its receiver. -/
theorem intake_empty_fst (frame : Frame) :
    (frame.intake arena owner .empty []).map Prod.fst =
      match frame.receiver arena owner with
      | .error error => .error error
      | .ok content =>
        if frame.argumentCount = 0 then .ok content
        else .error (.argumentCount frame.argumentCount 0 0) := by
  cases hreceiver : frame.receiver arena owner with
  | error error => rw [intake_eq_error.mpr (.inl hreceiver), Except.map]
  | ok content =>
      rw [intake_empty hreceiver]
      split <;> rfl

/-- Where at most one thing is wrong, the order of the two checks does not matter. -/
theorem intakeCopy_eq_intake
    (hfine : frame.argumentCount = 0 ∨ ∃ content, frame.HasReceiver arena owner content) :
    frame.intakeCopy arena owner = (frame.intake arena owner .empty []).map Prod.fst := by
  rw [intakeCopy_eq, intake_empty_fst]
  rcases hfine with hnone | ⟨content, hreceiver⟩
  · simp only [hnone, if_true]
    cases frame.receiver arena owner <;> rfl
  · simp only [hreceiver.receiver_eq]

end Frame

variable {schema : Schema} {owner : schema.Class}

/-- The method whose code makes a copy of what its receiver holds. -/
def NativeMethod.copier
    (duplicate : schema.Content owner → Task schema.World (schema.Content owner)) :
    NativeMethod schema owner :=
  .getter (.object owner) duplicate

/-! ## Calls -/

section Call

variable {duplicate : schema.Content owner → Task schema.World (schema.Content owner)}
variable {id : Fingerprint} {frame : Frame} {state : CallState schema}

theorem NativeMethod.copier_call :
    ((copier duplicate).entry id .empty).call frame state =
      state.making ((frame.intake state.heap.arena owner .empty []).map Prod.fst) duplicate := by
  cases hintake : frame.intake state.heap.arena owner .empty [] with
  | error error => exact entry_call_of_error (copier duplicate) id hintake
  | ok received =>
      obtain ⟨content, arguments⟩ := received
      obtain ⟨handle, -, hget, hcall⟩ := (copier duplicate).entry_call_of_ok id hintake
      rw [hcall, Except.map, CallState.making]
      simp only [copier, getter, MethodCode.act]
      -- Code that makes a copy leaves the receiver as it is.
      cases duplicate content state.heap.world with
      | error panic world => simp only [CallState.afterCode, Arena.put_same content hget]
      | ok copy world => simp only [CallState.afterCode, Arena.put_same content hget, encode]

/-- Where both the number of arguments and the receiver are wrong, each way tells of what it
looks at first. -/
theorem copying_calls_of_lacksReceiver {cause : ConversionError}
    (hsome : frame.argumentCount ≠ 0)
    (hlacks : frame.LacksReceiver state.heap.arena owner cause) :
    (duplicateEntry owner duplicate id).call frame state =
        (.error (.argumentCount frame.argumentCount 0 0), state) ∧
      ((NativeMethod.copier duplicate).entry id .empty).call frame state =
        (.error (.receiver cause), state) := by
  constructor
  · rw [duplicateEntry_call, Frame.intakeCopy_eq, if_neg hsome, CallState.making]
  · simp only [NativeMethod.copier_call, Frame.intake_empty_fst, hlacks.receiver_eq,
      CallState.making]

theorem copying_calls_agree_iff :
    (duplicateEntry owner duplicate id).call frame state =
        ((NativeMethod.copier duplicate).entry id .empty).call frame state ↔
      frame.argumentCount = 0 ∨ ∃ content, frame.HasReceiver state.heap.arena owner content := by
  constructor
  · intro hagree
    by_contra hboth
    obtain ⟨hsome, hnone⟩ := not_or.mp hboth
    obtain ⟨cause, hlacks⟩ :=
      (frame.hasReceiver_or_lacksReceiver state.heap.arena owner).resolve_left hnone
    obtain ⟨hcopy, hmethod⟩ := copying_calls_of_lacksReceiver hsome hlacks
    cases hcopy.symm.trans (hagree.trans hmethod)
  · intro hfine
    rw [duplicateEntry_call, NativeMethod.copier_call, Frame.intakeCopy_eq_intake hfine]

end Call

/-! ## What is on record -/

section Record

variable {Vm VmClass : Type} [ScriptHost schema Vm VmClass]

/-- What is on record about a member that lends copies, whichever way it was bound. -/
def copyingMember (owner : schema.Class) (name : String)
    (entry : Fingerprint → EntryPoint schema) : Member schema :=
  let id := (copySignature owner).memberId name
  { name, kind := .method, id, required := 0, greatest := some 0, entry := entry id }

theorem Declaration.bind_copier (name : String)
    (duplicate : schema.Content owner → Task schema.World (schema.Content owner)) :
    ((method name none (.copier duplicate)).bind : Binding schema Vm VmClass Unit) =
      Binding.bindMember (copyingMember owner name fun id =>
        (NativeMethod.copier duplicate).entry id .empty) := by
  have hdeclare : ParameterList.declare name (NativeMethod.copier duplicate).parameters
      (Binding.modesFor (NativeMethod.copier duplicate).parameters none) = .ok .empty :=
    ParameterList.declare_required name []
  rw [bind, Binding.bindMethod, hdeclare]
  rfl

/-- A copying member and a method whose code makes the copy are bound as the same member, but
for their entry points.  Calls to the two end in the same way and leave the same, except where
a call has arguments and no receiver: there the copying member fails over the number of
arguments and the method over the receiver, and nothing else tells them apart. -/
theorem copying_ways_agree_iff (name : String)
    (duplicate : schema.Content owner → Task schema.World (schema.Content owner)) :
    let copying : Fingerprint → EntryPoint schema := duplicateEntry owner duplicate
    let method := fun id => (NativeMethod.copier duplicate).entry id .empty
    (Binding.bindCopy owner name duplicate : Binding schema Vm VmClass Unit) =
        Binding.bindMember (copyingMember owner name copying) ∧
      ((Declaration.method name none (.copier duplicate)).bind : Binding schema Vm VmClass Unit) =
        Binding.bindMember (copyingMember owner name method) ∧
      ∀ (id : Fingerprint) (frame : Frame) (state : CallState schema),
        ((copying id).call frame state = (method id).call frame state ↔
          frame.argumentCount = 0 ∨
            ∃ content, frame.HasReceiver state.heap.arena owner content) ∧
        ∀ cause, frame.argumentCount ≠ 0 →
          frame.LacksReceiver state.heap.arena owner cause →
            (copying id).call frame state =
                (.error (.argumentCount frame.argumentCount 0 0), state) ∧
              (method id).call frame state = (.error (.receiver cause), state) := by
  refine ⟨rfl, Declaration.bind_copier name duplicate, fun id frame state => ?_⟩
  exact ⟨copying_calls_agree_iff, fun cause hsome hlacks =>
    copying_calls_of_lacksReceiver hsome hlacks⟩

end Record

section Sample

open Sample

/-- Nothing was lent yet. -/
def nothingLent : CallState Sample.schema where
  returned := .text "before"
  heap := .new .empty

/-- The copying member and the method that copies agree about a call without a receiver as long
as it has no arguments, here to a handle that was never given out. -/
theorem copying_ways_agree_iff_stale :
    let copying : Fingerprint → EntryPoint Sample.schema := duplicateEntry SampleClass.monster pure
    let copier : NativeMethod Sample.schema .monster := .copier pure
    let alone : Frame := ⟨[.wrapped ⟨0, 0⟩], 1⟩
    let followed : Frame := ⟨[.wrapped ⟨0, 0⟩, .nil], 1⟩
    ∀ id : Fingerprint,
      (copying id).call alone nothingLent = (copier.entry id .empty).call alone nothingLent ∧
      (copying id).call followed nothingLent = (.error (.argumentCount 1 0 0), nothingLent) ∧
      (copier.entry id .empty).call followed nothingLent =
        (.error (.receiver (.staleInstance 0)), nothingLent) := by
  intro copying copier alone followed id
  obtain ⟨-, -, hcalls⟩ :=
    @copying_ways_agree_iff Sample.schema .monster (RecordingHost Sample.schema) Nat _ "dup" pure
  have hlacks : followed.LacksReceiver nothingLent.heap.arena SampleClass.monster
      (.staleInstance 0) :=
    .refused (by decide) rfl (fun _ => by rintro ⟨⟩) (.stale rfl)
  exact ⟨(hcalls id alone nothingLent).1.mpr (.inl rfl),
    (hcalls id followed nothingLent).2 _ (by decide) hlacks⟩

/-- A call on nil with an argument is refused for its argument by the one and for its receiver
by the other. -/
theorem copying_ways_disagree :
    let copying : Fingerprint → EntryPoint Sample.schema := duplicateEntry SampleClass.monster pure
    let copier : NativeMethod Sample.schema .monster := .copier pure
    ¬ ∀ (id : Fingerprint) (frame : Frame) (state : CallState Sample.schema),
      (copying id).call frame state = (copier.entry id .empty).call frame state := by
  intro copying copier hagree
  have hsame := hagree (copier.signature.memberId "dup") ⟨[.nil, .int 1], 1⟩ nothingLent
  have hcopying : Except.error (.argumentCount 1 0 0) =
      ((copying (copier.signature.memberId "dup")).call ⟨[.nil, .int 1], 1⟩ nothingLent).1 := rfl
  have hcopier : ((copier.entry (copier.signature.memberId "dup") .empty).call
      ⟨[.nil, .int 1], 1⟩ nothingLent).1 =
      .error (.receiver (.typeMismatch "instance" "nil")) := rfl
  cases hcopying.trans ((congrArg Prod.fst hsame).trans hcopier)

end Sample

end NativeBridge
