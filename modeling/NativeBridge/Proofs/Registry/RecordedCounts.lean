import NativeBridge.Proofs.Call.Failure
import NativeBridge.Proofs.Call.Safety
import NativeBridge.Proofs.Registry.Provenance

/-!
# Recorded counts of arguments

The record of a member tells how many arguments a call needs at least and takes at most,
and the virtual machine is told the first of these numbers.  The entry point knows nothing
of the record: it counts the arguments of each call by the parameter list that it was made
with, or by none at all.  This file shows that both go by the same numbers, for everything
that the bridge makes.
-/

namespace NativeBridge

/-- What has come of a call is the refusal of its number of arguments exactly if there are
fewer than `required` or more than `greatest`, and then the error tells these numbers. -/
def Frame.Counts (frame : Frame) (required greatest : Nat) {Outcome : Type}
    (outcome : Except CallError Outcome) : Prop :=
  ∀ given least most, outcome = .error (.argumentCount given least most) ↔
    (frame.argumentCount < required ∨ greatest < frame.argumentCount) ∧
      given = frame.argumentCount ∧ least = required ∧ most = greatest

/-! ## The parts of a call -/

namespace Frame

variable {family : ClassFamily} {frame : Frame} {arena : Arena family} {owner : family.Class}
variable {parameters : List (ParameterType family)} {list : ParameterList}
variable {required greatest : Nat} {Outcome : Type} {outcome : Except CallError Outcome}

theorem counts_of_refused
    (hmiscounts : frame.argumentCount < required ∨ greatest < frame.argumentCount) :
    frame.Counts required greatest
      (.error (.argumentCount frame.argumentCount required greatest) :
        Except CallError Outcome) := by
  intro given least most
  simp only [Except.error.injEq, CallError.argumentCount.injEq, hmiscounts, true_and, eq_comm]

/-- A number of arguments that is in order is never what is wrong. -/
theorem counts_of_accepted (hrequired : required ≤ frame.argumentCount)
    (hgreatest : frame.argumentCount ≤ greatest)
    (hother : ∀ given least most, outcome ≠ .error (.argumentCount given least most)) :
    frame.Counts required greatest outcome := by
  intro given least most
  constructor
  · intro herror
    exact absurd herror (hother given least most)
  · rintro ⟨hmiscounts, -⟩
    omega

theorem counts_extract (hfits : list.Fits parameters) :
    frame.Counts list.required list.arity
      (Arguments.extract frame arena list parameters) := by
  by_cases hmiscounts : frame.argumentCount < list.required ∨ list.arity < frame.argumentCount
  · rw [Arguments.extract, ParameterList.checkCount, if_pos hmiscounts]
    exact counts_of_refused hmiscounts
  · have hrequired : list.required ≤ frame.argumentCount := by omega
    have hgreatest : frame.argumentCount ≤ list.arity := by omega
    refine counts_of_accepted hrequired hgreatest fun given least most herror => ?_
    rw [Arguments.extract_of_count hrequired hgreatest] at herror
    obtain ⟨index, parameter, hparameter, hobstructs, -⟩ := Arguments.collect_eq_error herror
    rw [Nat.zero_add] at hobstructs
    cases hobstructs with
    | missing hvalue =>
        -- Every parameter has an argument or a default.
        have hindex : index < list.arity :=
          hfits.arity_eq ▸ (List.getElem?_eq_some_iff.mp hparameter).1
        by_cases hgiven : index < frame.argumentCount
        · obtain ⟨value, hargument⟩ := exists_argument hgiven
          cases (Arguments.suppliedOrDefault_of_some hargument).symm.trans hvalue
        · have homitted := Nat.not_lt.mp hgiven
          obtain ⟨default, hdefault⟩ :=
            hfits.exists_default (Nat.le_trans hrequired homitted) hindex
          cases (Arguments.suppliedOrDefault_of_default homitted hdefault).symm.trans hvalue

/-- What asks for no arguments and fails over nothing else that counts them. -/
theorem counts_of_none {accepted : Except CallError Outcome}
    (hother : ∀ given least most, accepted ≠ .error (.argumentCount given least most)) :
    frame.Counts 0 0 (if frame.argumentCount = 0 then accepted
      else .error (.argumentCount frame.argumentCount 0 0)) := by
  split
  · next hnone => exact counts_of_accepted (Nat.zero_le _) (Nat.le_of_eq hnone) hother
  · next hsome => exact counts_of_refused (.inr (Nat.pos_of_ne_zero hsome))

theorem counts_exact :
    frame.Counts 0 0 (Arguments.exact frame arena ([] : List (ParameterType family))) := by
  rw [exact_nil]
  exact counts_of_none (by simp)

theorem counts_intake {content : family.Content owner}
    (hreceiver : frame.HasReceiver arena owner content) (hfits : list.Fits parameters) :
    frame.Counts list.required list.arity (frame.intake arena owner list parameters) := by
  intro given least most
  rw [intake_eq_error, hreceiver.receiver_eq]
  simpa using counts_extract hfits given least most

theorem counts_intakeCopy {content : family.Content owner}
    (hreceiver : frame.HasReceiver arena owner content) :
    frame.Counts 0 0 (frame.intakeCopy arena owner) := by
  rw [intakeCopy_eq, hreceiver.receiver_eq]
  exact counts_of_none (by simp)

end Frame

/-! ## Calls -/

section Call

variable {schema : Schema} {owner : schema.Class} {frame : Frame} {state : CallState schema}
variable {required greatest : Nat}

/-- What makes an instance of its intake has no further errors about the count. -/
theorem CallState.counts_making {Given : Type} {intake : Except CallError Given}
    {code : Given → Task schema.World (schema.Content owner)}
    (hcounts : frame.Counts required greatest intake) :
    frame.Counts required greatest (state.making intake code).1 := by
  intro given least most
  rw [← hcounts given least most]
  simp only [making]
  cases intake with
  | error error => simp
  | ok received =>
      cases hmade : code received state.heap.world <;> simp [hmade]

theorem NativeConstructor.counts_entry (constructor : NativeConstructor schema owner)
    {list : ParameterList} (hfits : list.Fits constructor.parameters) :
    frame.Counts list.required list.arity ((constructor.entry list).call frame state).1 := by
  rw [entry_call]
  exact CallState.counts_making (Frame.counts_extract hfits)

theorem counts_defaultAllocation (initial : Task schema.World (schema.Content owner)) :
    frame.Counts 0 0 ((defaultAllocation owner initial).call frame state).1 := by
  rw [defaultAllocation_call]
  exact CallState.counts_making Frame.counts_exact

variable {content : schema.Content owner}

theorem counts_duplicateEntry
    (duplicate : schema.Content owner → Task schema.World (schema.Content owner)) (id : Fingerprint)
    (hreceiver : frame.HasReceiver state.heap.arena owner content) :
    frame.Counts 0 0 ((duplicateEntry owner duplicate id).call frame state).1 := by
  rw [duplicateEntry_call]
  exact CallState.counts_making (Frame.counts_intakeCopy hreceiver)

theorem NativeMethod.counts_entry (method : NativeMethod schema owner) (id : Fingerprint)
    {list : ParameterList} (hfits : list.Fits method.parameters)
    (hreceiver : frame.HasReceiver state.heap.arena owner content) :
    frame.Counts list.required list.arity ((method.entry id list).call frame state).1 := by
  intro given least most
  rw [← Frame.counts_intake hreceiver hfits given least most]
  cases hintake : frame.intake state.heap.arena owner list method.parameters with
  | error error => simp [entry_call_of_error method id hintake]
  | ok received =>
      -- From here on a call can only fail over the code of the method or its result.
      obtain ⟨handle, -, -, hcall⟩ := entry_call_of_ok method id hintake
      have hfromCode : ∀ error, ((method.entry id list).call frame state).1 = .error error →
          error.isFromCode = true := by
        intro error herror
        rw [hcall] at herror
        obtain ⟨-, left, hends, -⟩ := CallState.afterCode_failed (Prod.ext herror rfl)
        exact hends.isFromCode
      constructor
      · intro herror
        cases hfromCode _ herror
      · rintro ⟨⟩

end Call

/-! ## Records -/

section Record

variable {schema : Schema} {owner : schema.Class} {member : Member schema}

/-- A member that the bridge made goes by the counts on its record. -/
theorem Member.Made.counts (hmade : member.Made owner) :
    ∃ greatest, member.greatest = some greatest ∧
      ∀ (frame : Frame) (state : CallState schema) (content : schema.Content owner),
        frame.HasReceiver state.heap.arena owner content →
          frame.Counts member.required greatest (member.entry.call frame state).1 := by
  cases hmade with
  | method name kind code id hlist =>
      exact ⟨_, rfl, fun _ _ _ hreceiver => code.counts_entry id hlist.fits hreceiver⟩
  | copy name kind duplicate id =>
      exact ⟨_, rfl, fun _ _ _ hreceiver => counts_duplicateEntry duplicate id hreceiver⟩

theorem Member.MadeConstructor.counts (hmade : member.MadeConstructor owner) :
    ∃ greatest, member.greatest = some greatest ∧
      ∀ (frame : Frame) (state : CallState schema),
        frame.Counts member.required greatest (member.entry.call frame state).1 := by
  cases hmade with
  | of name kind code hlist => exact ⟨_, rfl, fun _ _ => code.counts_entry hlist.fits⟩

end Record

namespace Bridge

variable {schema : Schema} {Vm VmClass : Type} [FaithfulHost schema Vm VmClass]

open FaithfulHost

/-- In every reachable bridge a call to a member on a live receiver, hand-written members
apart, is refused for its number of arguments exactly when this is less than the required
or more than the greatest number on record, and the error then tells these numbers.  The
same holds for the constructor on record, which is also what instances are made with; a
class without one has a hook that takes no arguments or none that makes instances at all.
And after every run of setup steps the machine holds each member with the required number
on record. -/
theorem recorded_counts_enforced :
    (∀ bridge : Bridge schema Vm VmClass, bridge.Reachable →
      ∀ record ∈ bridge.registry.records,
        (∀ member ∈ record.members, member.kind ≠ .raw →
          ∃ greatest, member.greatest = some greatest ∧
            ∀ (frame : Frame) (state : CallState schema) (content : schema.Content record.owner),
              frame.HasReceiver state.heap.arena record.owner content →
                frame.Counts member.required greatest (member.entry.call frame state).1) ∧
        (∀ member, record.constructor = some member →
          record.allocator = member.entry ∧
            ∃ greatest, member.greatest = some greatest ∧
              ∀ (frame : Frame) (state : CallState schema),
                frame.Counts member.required greatest (member.entry.call frame state).1) ∧
        (record.constructor = none →
          (∃ initial, record.allocator = defaultAllocation record.owner initial ∧
            ∀ (frame : Frame) (state : CallState schema),
              frame.Counts 0 0 (record.allocator.call frame state).1) ∨
          ∃ name, record.allocator = refusedAllocation record.owner name)) ∧
    ∀ (vm : Vm) (world : schema.World) (steps : List (SetupStep schema VmClass)),
      let bridge : Bridge schema Vm VmClass := (Bridge.new vm world).setUpAll steps
      bridge.Reachable ∧
      ∀ record ∈ bridge.registry.records, ∃ view, view? bridge.vm record.vmClass = some view ∧
        ∀ member ∈ record.members,
          view.method? member.name = some (member.required, member.entry) := by
  constructor
  · intro bridge hbridge record hrecord
    have hmade := hbridge.made record hrecord
    refine ⟨fun member hmember hkind => (hmade.members member hmember hkind).counts, ?_, ?_⟩
    · intro member hmember
      obtain ⟨hconstructor, hallocator⟩ := hmade.constructor member hmember
      exact ⟨hallocator, hconstructor.counts⟩
    · intro hnone
      have hhook := hmade.hook hnone
      generalize record.allocator = allocator at hhook ⊢
      cases hhook with
      | allocation initial => exact .inl ⟨initial, rfl, fun _ _ => counts_defaultAllocation initial⟩
      | refusal name => exact .inr ⟨name, rfl⟩
  · intro vm world steps bridge
    refine ⟨(Reachable.new vm world).setUpAll steps, fun record hrecord => ?_⟩
    have hcoherent : bridge.Coherent := (new_coherent vm world).setUpAll steps
    obtain ⟨hsound, hview⟩ := hcoherent.agrees record hrecord
    refine ⟨record.view, hview, fun member hmember => ?_⟩
    have hfound : record.member? member.name = some member := hsound.member?_name member hmember
    simp only [ClassRecord.view, hfound, Option.map_some]

section Sample

open Sample

/-- One hero with hit points. -/
def oneHero : CallState Sample.schema where
  returned := .text "before"
  heap := ⟨(Arena.empty.insert ⟨SampleClass.hero, ({ hp := ⟨7, by decide⟩ } : Hero)⟩).2, .empty⟩

/-- The writer of a property takes one argument, and a call that leaves it out is told so. -/
theorem recorded_counts_enforced_setter :
    let frame : Frame := ⟨[.wrapped ⟨0, 0⟩], 1⟩
    (heroBridge [heroHp]).Reachable ∧
      ∃ record ∈ (heroBridge [heroHp]).registry.records, ∃ member ∈ record.members,
        member.name = "hp=" ∧ member.kind = .setter ∧ member.required = 1 ∧
          member.greatest = some 1 ∧
          (member.entry.call frame oneHero).1 = .error (.argumentCount 0 1 1) := by
  intro frame
  obtain ⟨record, member, hrecords, hmember, howner, hname, hkind, hrequired, hgreatest⟩ :
      ∃ record member, (heroBridge [heroHp]).registry.records = [record] ∧
        member ∈ record.members ∧ record.owner = SampleClass.hero ∧ member.name = "hp=" ∧
        member.kind = .setter ∧ member.required = 1 ∧ member.greatest = some 1 :=
    ⟨_, _, rfl, .tail _ (.head _), rfl, rfl, rfl, rfl, rfl⟩
  have hbridge := heroBridge_reachable [heroHp]
  have hrecord : record ∈ (heroBridge [heroHp]).registry.records := by simp [hrecords]
  obtain ⟨content, hreceiver⟩ :
      ∃ content, frame.HasReceiver oneHero.heap.arena record.owner content := by
    rw [howner]
    exact ⟨({ hp := ⟨7, by decide⟩ } : Hero), by decide, _, rfl, rfl⟩
  obtain ⟨hmembers, -⟩ := recorded_counts_enforced.1 (heroBridge [heroHp]) hbridge record hrecord
  obtain ⟨greatest, hfound, hcounts⟩ := hmembers member hmember (by rw [hkind]; decide)
  obtain rfl : 1 = greatest := Option.some.inj (hgreatest.symm.trans hfound)
  rw [hrequired] at hcounts
  exact ⟨hbridge, record, hrecord, member, hmember, hname, hkind, hrequired, hgreatest,
    (hcounts frame oneHero content hreceiver 0 1 1).mpr ⟨.inl (by decide), rfl, rfl, rfl⟩⟩

end Sample

end Bridge

end NativeBridge
