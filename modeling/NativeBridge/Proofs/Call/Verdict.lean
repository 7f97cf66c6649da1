import NativeBridge.Proofs.Call.Safety
import NativeBridge.Proofs.Parameter.Defaults

/-!
# What a call to a method gives

Much may be wrong with a call at once.  What it gives is decided by the first of these: its
receiver, the number of its arguments, the first argument that cannot be converted, a panic
of the native code, and a result that is no script value.  This file states the cases by
what stands in the slots of the call and in the parameter list, and shows that a call gives
what the first case that applies says, and that one case always applies.
-/

namespace NativeBridge

/-! ## What may be wrong with a call -/

namespace Frame

variable {family : ClassFamily} {frame : Frame} {arena : Arena family} {owner : family.Class}
variable {parameters : List (ParameterType family)} {list : ParameterList}

/-- Why a call has no receiver of `owner`: there is no slot for one, the slot holds no handle,
or the handle does not refer to a live instance of `owner`. -/
inductive LacksReceiver (frame : Frame) (arena : Arena family) (owner : family.Class) :
    ConversionError → Prop
  | missing (hslot : frame.offset = 0 ∨ frame.slots[0]? = none) :
      LacksReceiver frame arena owner (.nullInstance "instance")
  | unwrapped {value : Value} (hoffset : frame.offset ≠ 0) (hslot : frame.slots[0]? = some value)
      (hvalue : value.handle? = none) :
      LacksReceiver frame arena owner (.typeMismatch "instance" value.kindName)
  | refused {handle : Handle} {cause : ConversionError} (hoffset : frame.offset ≠ 0)
      (hslot : frame.slots[0]? = some (.wrapped handle)) (hforeign : arena.IsForeign owner handle)
      (hrefuses : arena.Refuses owner handle cause) : LacksReceiver frame arena owner cause

/-- The argument at `index` is the first that cannot be converted for its parameter. -/
structure FirstUnsuited (frame : Frame) (arena : Arena family)
    (parameters : List (ParameterType family)) (index : Nat) (cause : ConversionError) : Prop where
  unsuited : ∃ parameter value, parameters[index]? = some parameter ∧
    frame.arguments[index]? = some value ∧ parameter.decode arena value = .error cause
  earlier : ∀ position < index, ∃ parameter value data, parameters[position]? = some parameter ∧
    frame.arguments[position]? = some value ∧ parameter.decode arena value = .ok data

/-- Native code receives, for each parameter, what the argument of the call was converted to,
or the default, if there is no such argument. -/
def Supplies (frame : Frame) (arena : Arena family) (list : ParameterList)
    (arguments : Arguments family parameters) : Prop :=
  ∀ (index : Nat) (parameter : ParameterType family), parameters[index]? = some parameter →
    ∃ value data,
      (frame.arguments[index]? = some value ∨
        frame.argumentCount ≤ index ∧ list.defaultAt index = some value) ∧
      parameter.decode arena value = .ok data ∧
      arguments.toList[index]? = some ⟨parameter.type, data⟩

/-- A call whose receiver, arguments and their number are in order, and what the code of the
method is then given. -/
structure Admits (frame : Frame) (arena : Arena family) (list : ParameterList) (handle : Handle)
    (content : family.Content owner) (arguments : Arguments family parameters) : Prop where
  offset_ne_zero : frame.offset ≠ 0
  slot : frame.slots[0]? = some (.wrapped handle)
  occupant : arena.occupant? handle = some ⟨owner, content⟩
  required_le : list.required ≤ frame.argumentCount
  le_arity : frame.argumentCount ≤ list.arity
  supplies : frame.Supplies arena list arguments

end Frame

/-! ## The receiver -/

theorem Arena.isForeign_of_get {family : ClassFamily} {arena : Arena family}
    {owner : family.Class} {handle : Handle} {cause : ConversionError}
    (hget : arena.get owner handle = .error cause) : arena.IsForeign owner handle := by
  intro content hoccupant
  cases (get_eq_ok_iff.mpr hoccupant).symm.trans hget

theorem Arena.Refuses.unique {family : ClassFamily} {arena : Arena family} {owner : family.Class}
    {handle : Handle} {cause other : ConversionError} (hcause : arena.Refuses owner handle cause)
    (hother : arena.Refuses owner handle other) : cause = other := by
  cases hcause with
  | stale hstale =>
      cases hother with
      | stale => rfl
      | other hlive => cases hstale.symm.trans hlive
  | other hlive hname =>
      cases hother with
      | stale hstale => cases hstale.symm.trans hlive
      | other _ hsame =>
          obtain rfl := Option.some.inj (hname.symm.trans hsame)
          rfl

namespace Frame

section Receiver

variable {family : ClassFamily} {frame : Frame} {arena : Arena family} {owner : family.Class}
variable {cause : ConversionError}

theorem receiver?_eq_none (hslot : frame.offset = 0 ∨ frame.slots[0]? = none) :
    frame.receiver? = none := by
  rw [receiver?, List.head?_eq_getElem?]
  split
  · rfl
  · next hoffset => exact hslot.resolve_left hoffset

theorem receiver?_eq_slot (hoffset : frame.offset ≠ 0) : frame.receiver? = frame.slots[0]? := by
  rw [receiver?, if_neg hoffset, List.head?_eq_getElem?]

theorem LacksReceiver.receiver_eq (hlacks : frame.LacksReceiver arena owner cause) :
    frame.receiver arena owner = .error (.receiver cause) := by
  cases hlacks with
  | missing hslot => simp only [receiver, receiverHandle, receiver?_eq_none hslot]
  | @unwrapped value hoffset hslot hvalue =>
      have hreceiver : frame.receiver? = some value := (receiver?_eq_slot hoffset).trans hslot
      cases value with
      | wrapped handle => cases hvalue
      | _ => simp only [receiver, receiverHandle, hreceiver, mismatch]
  | refused hoffset hslot hforeign hrefuses =>
      obtain ⟨other, hreceiver, hother⟩ := receiver_of_isForeign hoffset hslot hforeign
      rw [hreceiver, hother.unique hrefuses]

/-- Every call has a receiver or lacks one for some cause. -/
theorem hasReceiver_or_lacksReceiver (frame : Frame) (arena : Arena family)
    (owner : family.Class) :
    (∃ content, frame.HasReceiver arena owner content) ∨
      ∃ cause, frame.LacksReceiver arena owner cause := by
  by_cases hoffset : frame.offset = 0
  · exact .inr ⟨_, .missing (.inl hoffset)⟩
  cases hslot : frame.slots[0]? with
  | none => exact .inr ⟨_, .missing (.inr hslot)⟩
  | some value =>
      cases hvalue : value.handle? with
      | none => exact .inr ⟨_, .unwrapped hoffset hslot hvalue⟩
      | some handle =>
          cases value with
          | wrapped present =>
              cases hget : arena.get owner present with
              | ok content =>
                  exact .inl ⟨content, hoffset, present, hslot, Arena.get_eq_ok_iff.mp hget⟩
              | error cause =>
                  have hforeign := Arena.isForeign_of_get hget
                  obtain ⟨cause, -, hrefuses⟩ := Arena.get_of_isForeign hforeign
                  exact .inr ⟨cause, .refused hoffset hslot hforeign hrefuses⟩
          | _ => cases hvalue

theorem receiver_eq_error_iff {error : CallError} :
    frame.receiver arena owner = .error error ↔
      ∃ cause, frame.LacksReceiver arena owner cause ∧ error = .receiver cause := by
  constructor
  · intro hreceiver
    rcases frame.hasReceiver_or_lacksReceiver arena owner with ⟨content, hhas⟩ | ⟨cause, hlacks⟩
    · cases hhas.receiver_eq.symm.trans hreceiver
    · exact ⟨cause, hlacks, Except.error.inj (hreceiver.symm.trans hlacks.receiver_eq)⟩
  · rintro ⟨cause, hlacks, rfl⟩
    exact hlacks.receiver_eq

end Receiver

end Frame

/-! ## The arguments -/

theorem Arguments.toList_injective {family : ClassFamily}
    {parameters : List (ParameterType family)} {arguments others : Arguments family parameters}
    (hsame : arguments.toList = others.toList) : arguments = others := by
  induction arguments with
  | nil =>
      cases others
      rfl
  | cons first rest ih =>
      cases others with
      | cons other remaining =>
          obtain ⟨hfirst, hrest⟩ := List.cons.inj hsame
          obtain rfl := eq_of_heq (Datum.mk.inj hfirst).2
          rw [ih hrest]

section Arguments

variable {family : ClassFamily} {frame : Frame} {arena : Arena family} {list : ParameterList}
variable {parameters : List (ParameterType family)} {arguments : Arguments family parameters}

/-- Arguments that are collected are those that the call supplies. -/
theorem Arguments.supplies_of_collect
    (hcollect : collect arena (suppliedOrDefault frame list) 0 parameters = .ok arguments) :
    frame.Supplies arena list arguments := by
  intro index parameter hparameter
  obtain ⟨value, data, hvalue, hdecode, hdatum⟩ := collect_converts hcollect hparameter
  rw [Nat.zero_add] at hvalue
  exact ⟨value, data, suppliedOrDefault_eq_ok hvalue, hdecode, hdatum⟩

/-- There is one way to supply the arguments of a call. -/
theorem Frame.Supplies.unique {others : Arguments family parameters}
    (harguments : frame.Supplies arena list arguments)
    (hothers : frame.Supplies arena list others) : arguments = others := by
  apply Arguments.toList_injective
  apply List.ext_getElem?
  intro index
  cases hparameter : parameters[index]? with
  | none =>
      have hlength := List.getElem?_eq_none_iff.mp hparameter
      rw [List.getElem?_eq_none (by rwa [Arguments.length_toList]),
        List.getElem?_eq_none (by rwa [Arguments.length_toList])]
  | some parameter =>
      obtain ⟨value, data, hvalue, hdecode, hdatum⟩ := harguments index parameter hparameter
      obtain ⟨found, other, hfound, hother, hsame⟩ := hothers index parameter hparameter
      -- The number of arguments decides alone whether an argument or a default is taken.
      have hfrom : value = found := by
        rcases hvalue with hslot | ⟨homitted, hdefault⟩ <;>
          rcases hfound with hpresent | ⟨hleft, hpresent⟩
        · exact Option.some.inj (hslot.symm.trans hpresent)
        · exact absurd (lt_argumentCount hslot) (Nat.not_lt.mpr hleft)
        · exact absurd (lt_argumentCount hpresent) (Nat.not_lt.mpr homitted)
        · exact Option.some.inj (hdefault.symm.trans hpresent)
      subst hfrom
      rw [hdatum, hsame, Except.ok.inj (hdecode.symm.trans hother)]

theorem Arguments.extract_eq_ok_iff_supplies :
    extract frame arena list parameters = .ok arguments ↔
      list.required ≤ frame.argumentCount ∧ frame.argumentCount ≤ list.arity ∧
        frame.Supplies arena list arguments := by
  rw [extract_eq_ok, ParameterList.checkCount_eq_ok, and_assoc]
  refine and_congr_right fun _ => and_congr_right fun _ => ⟨supplies_of_collect, ?_⟩
  intro hsupplies
  obtain ⟨collected, hcollect⟩ : ∃ collected,
      collect arena (suppliedOrDefault frame list) 0 parameters = .ok collected := by
    apply collect_of_converts
    intro index parameter hparameter
    obtain ⟨value, data, hvalue, hdecode, -⟩ := hsupplies index parameter hparameter
    rw [Nat.zero_add]
    rcases hvalue with hslot | ⟨homitted, hdefault⟩
    · exact ⟨value, data, suppliedOrDefault_of_some hslot, hdecode⟩
    · exact ⟨value, data, suppliedOrDefault_of_default homitted hdefault, hdecode⟩
  rw [hcollect, (supplies_of_collect hcollect).unique hsupplies]

/-! ### The first that is wrong -/

theorem Frame.FirstUnsuited.le_of_unsuited {index other : Nat} {cause cause' : ConversionError}
    (hindex : frame.FirstUnsuited arena parameters index cause)
    (hother : frame.FirstUnsuited arena parameters other cause') : index ≤ other := by
  refine Nat.le_of_not_lt fun hlt => ?_
  obtain ⟨parameter, value, hparameter, hvalue, hdecode⟩ := hother.unsuited
  obtain ⟨found, present, data, hfound, hpresent, hconverts⟩ := hindex.earlier other hlt
  obtain rfl := Option.some.inj (hparameter.symm.trans hfound)
  obtain rfl := Option.some.inj (hvalue.symm.trans hpresent)
  cases hdecode.symm.trans hconverts

theorem Frame.FirstUnsuited.unique {index other : Nat} {cause cause' : ConversionError}
    (hindex : frame.FirstUnsuited arena parameters index cause)
    (hother : frame.FirstUnsuited arena parameters other cause') :
    index = other ∧ cause = cause' := by
  obtain rfl := Nat.le_antisymm (hindex.le_of_unsuited hother) (hother.le_of_unsuited hindex)
  obtain ⟨parameter, value, hparameter, hvalue, hdecode⟩ := hindex.unsuited
  obtain ⟨found, present, hfound, hpresent, hfails⟩ := hother.unsuited
  obtain rfl := Option.some.inj (hparameter.symm.trans hfound)
  obtain rfl := Option.some.inj (hvalue.symm.trans hpresent)
  exact ⟨rfl, Except.error.inj (hdecode.symm.trans hfails)⟩

variable {member : String} {modes : List ParameterMode}

/-- Defaults always convert, so what keeps arguments of an accepted number from being
converted is the first unsuited one among those that the call gives. -/
theorem Arguments.firstUnsuited_of_collect
    (hdeclare : ParameterList.declare member parameters modes = .ok list)
    (hrequired : list.required ≤ frame.argumentCount) {error : CallError}
    (hcollect : collect arena (suppliedOrDefault frame list) 0 parameters = .error error) :
    ∃ index cause, frame.FirstUnsuited arena parameters index cause ∧
      error = .argument index cause := by
  obtain ⟨index, parameter, hparameter, hobstructs, hearlier⟩ := collect_eq_error hcollect
  simp only [Nat.zero_add] at hobstructs hearlier
  obtain ⟨value, cause, hvalue, hdecode, rfl⟩ :=
    obstructs_given hdeclare hrequired hparameter hobstructs
  refine ⟨index, cause, ⟨⟨parameter, value, hparameter, hvalue, hdecode⟩, ?_⟩, rfl⟩
  intro position hposition
  have hlength := (List.getElem?_eq_some_iff.mp hparameter).1
  have hother : parameters[position]? = some parameters[position] :=
    List.getElem?_eq_getElem (Nat.lt_trans hposition hlength)
  obtain ⟨given, hgiven⟩ :=
    Frame.exists_argument (Nat.lt_trans hposition (Frame.lt_argumentCount hvalue))
  obtain ⟨found, data, hfound, hconverts⟩ := hearlier position _ hposition hother
  rw [suppliedOrDefault_of_some hgiven] at hfound
  exact ⟨_, given, data, hother, hgiven, Except.ok.inj hfound ▸ hconverts⟩

theorem Arguments.extract_eq_error_iff
    (hdeclare : ParameterList.declare member parameters modes = .ok list) {error : CallError} :
    extract frame arena list parameters = .error error ↔
      (frame.argumentCount < list.required ∨ list.arity < frame.argumentCount) ∧
          error = .argumentCount frame.argumentCount list.required list.arity ∨
        list.required ≤ frame.argumentCount ∧ frame.argumentCount ≤ list.arity ∧
          ∃ index cause, frame.FirstUnsuited arena parameters index cause ∧
            error = .argument index cause := by
  by_cases hcount : frame.argumentCount < list.required ∨ list.arity < frame.argumentCount
  · have hrange : ¬ (list.required ≤ frame.argumentCount ∧ frame.argumentCount ≤ list.arity) := by
      omega
    rw [extract, ParameterList.checkCount, if_pos hcount]
    simp only [hcount, true_and, ← and_assoc, hrange, false_and, or_false, Except.error.injEq,
      ParameterList.countError, eq_comm]
  · have hrequired : list.required ≤ frame.argumentCount := by omega
    have hgreatest : frame.argumentCount ≤ list.arity := by omega
    simp only [hcount, false_and, false_or, hrequired, hgreatest, true_and]
    rw [extract_of_count hrequired hgreatest]
    constructor
    · exact firstUnsuited_of_collect hdeclare hrequired
    · -- The first unsuited argument is unique, so it is the one that ends the collection.
      rintro ⟨index, cause, hunsuited, rfl⟩
      cases hcollect : collect arena (suppliedOrDefault frame list) 0 parameters with
      | error error =>
          obtain ⟨other, cause', hother, rfl⟩ :=
            firstUnsuited_of_collect hdeclare hrequired hcollect
          obtain ⟨rfl, rfl⟩ := hunsuited.unique hother
          rfl
      | ok arguments =>
          obtain ⟨parameter, value, hparameter, hvalue, hdecode⟩ := hunsuited.unsuited
          have hslot : suppliedOrDefault frame list (0 + index) = .ok value := by
            rw [Nat.zero_add, suppliedOrDefault_of_some hvalue]
          exact absurd hcollect (collect_ne_ok hparameter hslot hdecode arguments)

end Arguments

/-! ## The call -/

section Call

variable {schema : Schema} {owner : schema.Class} {list : ParameterList}
variable {frame : Frame} {state : CallState schema}

/-- What a call to a method gives, by the first of these cases that applies.  Until native
code is reached nothing changes. -/
inductive NativeMethod.Gives (method : NativeMethod schema owner) (list : ParameterList)
    (frame : Frame) (state : CallState schema) : Except CallError Unit × CallState schema → Prop
  | receiver {cause : ConversionError}
      (hlacks : frame.LacksReceiver state.heap.arena owner cause) :
      Gives method list frame state (.error (.receiver cause), state)
  | count {content : schema.Content owner}
      (hreceiver : frame.HasReceiver state.heap.arena owner content)
      (hcount : frame.argumentCount < list.required ∨ list.arity < frame.argumentCount) :
      Gives method list frame state
        (.error (.argumentCount frame.argumentCount list.required list.arity), state)
  | argument {content : schema.Content owner} {index : Nat} {cause : ConversionError}
      (hreceiver : frame.HasReceiver state.heap.arena owner content)
      (hrequired : list.required ≤ frame.argumentCount)
      (hgreatest : frame.argumentCount ≤ list.arity)
      (hunsuited : frame.FirstUnsuited state.heap.arena method.parameters index cause) :
      Gives method list frame state (.error (.argument index cause), state)
  | panic {handle : Handle} {content left : schema.Content owner}
      {arguments : Arguments schema.toClassFamily method.parameters} {payload : Panic}
      {world : schema.World}
      (hadmits : frame.Admits state.heap.arena list handle content arguments)
      (hact : method.code.act content arguments state.heap.world = .error payload (left, world)) :
      Gives method list frame state (.error (.panic payload.message),
        ⟨state.returned, state.heap.arena.put owner handle left, world⟩)
  | result {handle : Handle} {content left : schema.Content owner}
      {arguments : Arguments schema.toClassFamily method.parameters}
      {data : method.result.Data schema.toClassFamily} {world : schema.World}
      {cause : ConversionError}
      (hadmits : frame.Admits state.heap.arena list handle content arguments)
      (hact : method.code.act content arguments state.heap.world = .ok data (left, world))
      (hencode : encode (state.heap.arena.put owner handle left) method.result data =
        .error cause) :
      Gives method list frame state (.error (.result cause),
        ⟨state.returned, state.heap.arena.put owner handle left, world⟩)
  | returned {handle : Handle} {content left : schema.Content owner}
      {arguments : Arguments schema.toClassFamily method.parameters}
      {data : method.result.Data schema.toClassFamily} {world : schema.World} {value : Value}
      {arena : Arena schema.toClassFamily}
      (hadmits : frame.Admits state.heap.arena list handle content arguments)
      (hact : method.code.act content arguments state.heap.world = .ok data (left, world))
      (hencode : encode (state.heap.arena.put owner handle left) method.result data =
        .ok (value, arena)) :
      Gives method list frame state (.ok (), ⟨value, arena, world⟩)

theorem Frame.admits_iff {family : ClassFamily} {arena : Arena family} {owner : family.Class}
    {parameters : List (ParameterType family)} {handle : Handle} {content : family.Content owner}
    {arguments : Arguments family parameters} :
    frame.Admits arena list handle content arguments ↔
      frame.receiverHandle = .ok handle ∧
        frame.intake arena owner list parameters = .ok (content, arguments) := by
  rw [intake_eq_ok, Arguments.extract_eq_ok_iff_supplies]
  constructor
  · rintro ⟨hoffset, hslot, hoccupant, hrequired, hgreatest, hsupplies⟩
    have hreceiver : frame.HasReceiver arena owner content := ⟨hoffset, handle, hslot, hoccupant⟩
    exact ⟨receiverHandle_eq_ok.mpr ⟨hoffset, hslot⟩, hreceiver.receiver_eq, hrequired,
      hgreatest, hsupplies⟩
  · rintro ⟨hhandle, hreceiver, hrequired, hgreatest, hsupplies⟩
    obtain ⟨hoffset, hslot⟩ := receiverHandle_eq_ok.mp hhandle
    obtain ⟨-, present, hpresent, hoccupant⟩ := receiver_hasReceiver hreceiver
    obtain rfl := Value.wrapped.inj (Option.some.inj (hpresent.symm.trans hslot))
    exact ⟨hoffset, hslot, hoccupant, hrequired, hgreatest, hsupplies⟩

namespace NativeMethod

variable {method : NativeMethod schema owner}

theorem entry_call_of_admits {handle : Handle} {content : schema.Content owner}
    {arguments : Arguments schema.toClassFamily method.parameters}
    (hadmits : frame.Admits state.heap.arena list handle content arguments) (id : Fingerprint) :
    (method.entry id list).call frame state =
      state.afterCode handle method.result
        (method.code.act content arguments state.heap.world) := by
  obtain ⟨hhandle, hintake⟩ := Frame.admits_iff.mp hadmits
  obtain ⟨other, hother, -, hcall⟩ := method.entry_call_of_ok id hintake
  obtain rfl := Except.ok.inj (hhandle.symm.trans hother)
  exact hcall

/-- One of the cases always applies. -/
theorem gives_call (hbound : list.Bound method.parameters) (id : Fingerprint) (frame : Frame)
    (state : CallState schema) :
    method.Gives list frame state ((method.entry id list).call frame state) := by
  obtain ⟨member, modes, hdeclare⟩ := hbound.exists_declare
  cases hintake : frame.intake state.heap.arena owner list method.parameters with
  | error error =>
      rw [entry_call_of_error method id hintake]
      rcases Frame.intake_eq_error.mp hintake with hreceiver | ⟨⟨content, hcontent⟩, hextract⟩
      · obtain ⟨cause, hlacks, rfl⟩ := Frame.receiver_eq_error_iff.mp hreceiver
        exact .receiver hlacks
      · have hreceiver := Frame.receiver_hasReceiver hcontent
        rcases (Arguments.extract_eq_error_iff hdeclare).mp hextract with
          ⟨hcount, rfl⟩ | ⟨hrequired, hgreatest, index, cause, hunsuited, rfl⟩
        · exact .count hreceiver hcount
        · exact .argument hreceiver hrequired hgreatest hunsuited
  | ok received =>
      obtain ⟨content, arguments⟩ := received
      obtain ⟨handle, hhandle, -, hcall⟩ := method.entry_call_of_ok id hintake
      have hadmits := Frame.admits_iff.mpr ⟨hhandle, hintake⟩
      rw [hcall]
      rcases hact : method.code.act content arguments state.heap.world with
        ⟨data, left, world⟩ | ⟨payload, left, world⟩
      · rw [CallState.afterCode]
        split
        · next hencode => exact .returned hadmits hact hencode
        · next hencode => exact .result hadmits hact hencode
      · exact .panic hadmits hact

/-- A call to a method, a getter, a setter or the method of an overload set gives exactly what
the first case that applies says: a call without a receiver fails over the receiver, one with
too few or too many arguments over their number, whatever they are, and any other over the
first argument that cannot be converted.  If nothing of this is wrong, the code of the method
is given the receiver and the arguments, with the defaults for those that are left out; the
call fails if the code panics or its result is no script value, and else returns the result. -/
theorem call_eq_iff_gives (hbound : list.Bound method.parameters) (id : Fingerprint)
    (frame : Frame) (state : CallState schema)
    (outcome : Except CallError Unit × CallState schema) :
    (method.entry id list).call frame state = outcome ↔
      method.Gives list frame state outcome := by
  constructor
  · rintro rfl
    exact gives_call hbound id frame state
  · obtain ⟨member, modes, hdeclare⟩ := hbound.exists_declare
    intro hgives
    cases hgives with
    | receiver hlacks =>
        exact entry_call_of_error method id (Frame.intake_eq_error.mpr (.inl hlacks.receiver_eq))
    | count hreceiver hcount =>
        have hextract : Arguments.extract frame state.heap.arena list method.parameters =
            .error (.argumentCount frame.argumentCount list.required list.arity) :=
          (Arguments.extract_eq_error_iff hdeclare).mpr (.inl ⟨hcount, rfl⟩)
        exact entry_call_of_error method id
          (Frame.intake_eq_error.mpr (.inr ⟨⟨_, hreceiver.receiver_eq⟩, hextract⟩))
    | argument hreceiver hrequired hgreatest hunsuited =>
        have hextract := (Arguments.extract_eq_error_iff hdeclare).mpr
          (.inr ⟨hrequired, hgreatest, _, _, hunsuited, rfl⟩)
        exact entry_call_of_error method id
          (Frame.intake_eq_error.mpr (.inr ⟨⟨_, hreceiver.receiver_eq⟩, hextract⟩))
    | panic hadmits hact => rw [entry_call_of_admits hadmits id, hact, CallState.afterCode]
    | result hadmits hact hencode =>
        rw [entry_call_of_admits hadmits id, hact]
        simp only [CallState.afterCode, hencode]
    | returned hadmits hact hencode =>
        rw [entry_call_of_admits hadmits id, hact]
        simp only [CallState.afterCode, hencode]

end NativeMethod

end Call

section Sample

open Sample

/-- Takes the hit points of a monster, if told to, and gives back a letter. -/
def roar : NativeMethod Sample.schema .monster where
  parameters := [⟨.bool, rfl⟩, ⟨.char, rfl⟩]
  result := .char
  code := .writes fun (.cons loud (.cons letter .nil)) => do
    if loud then modify fun (monster, notes) => ({ monster with hp := default }, notes)
    return letter

/-- One monster with hit points. -/
def lonelyMonster : CallState Sample.schema where
  returned := .nil
  heap := ⟨(Arena.empty.insert ⟨SampleClass.monster, ({ hp := ⟨6, by decide⟩ } : Monster)⟩).2,
    .empty⟩

/-- Three calls: everything is wrong with the first, both arguments are with the second, and
nothing with the third, which leaves the letter out. -/
theorem call_eq_iff_gives_roar :
    let id := roar.signature.memberId "roar"
    ∃ list, ParameterList.declare "roar" roar.parameters [.required, .optional (.char 'r')] =
        .ok list ∧
      (roar.entry id list).call ⟨[.nil, .nil, .nil, .nil], 1⟩ lonelyMonster =
        (.error (.receiver (.typeMismatch "instance" "nil")), lonelyMonster) ∧
      (roar.entry id list).call ⟨[.wrapped ⟨0, 0⟩, .nil, .nil], 1⟩ lonelyMonster =
        (.error (.argument 0 (.typeMismatch "bool" "nil")), lonelyMonster) ∧
      ∃ after, (roar.entry id list).call ⟨[.wrapped ⟨0, 0⟩, .bool true], 1⟩ lonelyMonster =
          (.ok (), after) ∧
        after.returned = .text "r" ∧
        after.heap.arena.occupant? ⟨0, 0⟩ = some ⟨.monster, ({} : Monster)⟩ := by
  intro id
  have hdeclare : ParameterList.declare "roar" roar.parameters
      [.required, .optional (.char 'r')] = .ok _ := rfl
  have hgives := roar.call_eq_iff_gives (.declared hdeclare) id
  have hlacks : Frame.LacksReceiver ⟨[.nil, .nil, .nil, .nil], 1⟩ lonelyMonster.heap.arena
      SampleClass.monster (.typeMismatch "instance" Value.nil.kindName) :=
    .unwrapped (by decide) rfl rfl
  have hreceiver : Frame.HasReceiver ⟨[.wrapped ⟨0, 0⟩, .nil, .nil], 1⟩
      lonelyMonster.heap.arena .monster ({ hp := ⟨6, by decide⟩ } : Monster) :=
    ⟨by decide, _, rfl, rfl⟩
  have hunsuited : Frame.FirstUnsuited ⟨[.wrapped ⟨0, 0⟩, .nil, .nil], 1⟩
      lonelyMonster.heap.arena roar.parameters 0 (.typeMismatch "bool" "nil") :=
    ⟨⟨_, _, rfl, rfl, rfl⟩, fun _ hlt => absurd hlt (Nat.not_lt_zero _)⟩
  exact ⟨_, hdeclare, (hgives _ _ _).mpr (.receiver hlacks),
    (hgives _ _ _).mpr (.argument hreceiver (by decide) (by decide) hunsuited),
    _, rfl, rfl, rfl⟩

end Sample

end NativeBridge
