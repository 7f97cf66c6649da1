import NativeBridge.Proofs.Call.Extraction
import NativeBridge.Proofs.Member.Bound
import NativeBridge.Sample.World

/-!
# Defaults in calls

The defaults of a member are tried out once, when the member is bound, against an arena
without instances.  Calls convert them again, against whatever the arena holds by then.
The one trial is enough: only instances are looked up in the arena, and no parameter that
takes an instance can have a default.
-/

namespace NativeBridge

section Declared

variable {family : ClassFamily} {member : String} {parameters : List (ParameterType family)}
variable {modes : List ParameterMode} {list : ParameterList} {index : Nat}
variable {parameter : ParameterType family}

/-- A default converts to the same data whatever the arena holds. -/
theorem ParameterList.default_decode
    (hdeclare : ParameterList.declare member parameters modes = .ok list) {default : Value}
    (hparameter : parameters[index]? = some parameter)
    (hdefault : list.defaultAt index = some default) :
    ∃ data, ∀ arena : Arena family, parameter.decode arena default = .ok data := by
  obtain ⟨-, -, hcheck⟩ := of_declare hdeclare
  have hheld : parameter.type.held? = none := by
    cases hheld : parameter.type.held? with
    | none => rfl
    | some owner =>
        cases ((Bound.declared hdeclare).defaultAt_eq_none hparameter hheld).symm.trans hdefault
  rw [← Nat.zero_add index] at hdefault
  obtain ⟨data, hdecode⟩ := checkDefaultsFrom_decode hcheck hparameter hdefault
  exact ⟨data, fun arena => (decode_eq_of_held?_eq_none hheld Arena.empty).trans hdecode⟩

namespace Arguments

variable {arena : Arena family} {frame : Frame}

/-- A call that is not too short gets a default for every argument it leaves out. -/
theorem omitted_default (hdeclare : ParameterList.declare member parameters modes = .ok list)
    (hrequired : list.required ≤ frame.argumentCount)
    (hparameter : parameters[index]? = some parameter) (homitted : frame.argumentCount ≤ index) :
    ∃ default data, list.defaultAt index = some default ∧
      suppliedOrDefault frame list index = .ok default ∧
      ∀ arena : Arena family, parameter.decode arena default = .ok data := by
  have hfits := ParameterList.fits_of_declare hdeclare
  have hindex : index < list.arity := hfits.arity_eq ▸ (List.getElem?_eq_some_iff.mp hparameter).1
  obtain ⟨default, hdefault⟩ := hfits.exists_default (Nat.le_trans hrequired homitted) hindex
  obtain ⟨data, hdecode⟩ := ParameterList.default_decode hdeclare hparameter hdefault
  exact ⟨default, data, hdefault, suppliedOrDefault_of_default homitted hdefault, hdecode⟩

/-- The parameter that keeps a call from getting its arguments is one of those that were
given. -/
theorem obstructs_given (hdeclare : ParameterList.declare member parameters modes = .ok list)
    (hrequired : list.required ≤ frame.argumentCount)
    (hparameter : parameters[index]? = some parameter) {error : CallError}
    (hobstructs : Obstructs arena (suppliedOrDefault frame list) index parameter error) :
    ∃ value cause, frame.arguments[index]? = some value ∧
      parameter.decode arena value = .error cause ∧ error = .argument index cause := by
  by_cases hgiven : index < frame.argumentCount
  · obtain ⟨argument, hargument⟩ := Frame.exists_argument hgiven
    have hsupplied : suppliedOrDefault frame list index = .ok argument :=
      suppliedOrDefault_of_some hargument
    cases hobstructs with
    | missing hvalue => cases hvalue.symm.trans hsupplied
    | unsuited hvalue hdecode =>
        obtain rfl := Except.ok.inj (hsupplied.symm.trans hvalue)
        exact ⟨argument, _, hargument, hdecode, rfl⟩
  · obtain ⟨default, data, -, hvalue, hdecode⟩ :=
      omitted_default hdeclare hrequired hparameter (Nat.not_lt.mp hgiven)
    exact absurd ⟨default, data, hvalue, hdecode arena⟩ hobstructs.not_converts

end Arguments

/-- All values that the call gives convert for their parameters. -/
def Frame.GivenConvert (frame : Frame) (arena : Arena family)
    (parameters : List (ParameterType family)) : Prop :=
  ∀ (index : Nat) (parameter : ParameterType family) (value : Value),
    parameters[index]? = some parameter → frame.arguments[index]? = some value →
      ∃ data, parameter.decode arena value = .ok data

section Call

variable {arena : Arena family} {frame : Frame}

theorem Arguments.extract_ok_iff
    (hdeclare : ParameterList.declare member parameters modes = .ok list)
    (hrequired : list.required ≤ frame.argumentCount)
    (hgreatest : frame.argumentCount ≤ list.arity) :
    (∃ arguments, extract frame arena list parameters = .ok arguments) ↔
      frame.GivenConvert arena parameters := by
  rw [extract_of_count hrequired hgreatest]
  constructor
  · rintro ⟨arguments, hcollect⟩ index parameter value hparameter hgiven
    obtain ⟨found, data, hfound, hdecode, -⟩ := collect_converts hcollect hparameter
    rw [Nat.zero_add, suppliedOrDefault_of_some hgiven] at hfound
    exact ⟨data, Except.ok.inj hfound ▸ hdecode⟩
  · intro hgiven
    apply collect_of_converts
    intro index parameter hparameter
    rw [Nat.zero_add]
    by_cases hindex : index < frame.argumentCount
    · obtain ⟨value, hvalue⟩ := Frame.exists_argument hindex
      obtain ⟨data, hdecode⟩ := hgiven index parameter value hparameter hvalue
      exact ⟨value, data, suppliedOrDefault_of_some hvalue, hdecode⟩
    · obtain ⟨default, data, -, hvalue, hdecode⟩ :=
        omitted_default hdeclare hrequired hparameter (Nat.not_lt.mp hindex)
      exact ⟨default, data, hvalue, hdecode arena⟩

/-- A parameter that a call leaves out gets the data of its default. -/
theorem Arguments.extract_omitted
    (hdeclare : ParameterList.declare member parameters modes = .ok list)
    {arguments : Arguments family parameters}
    (hextract : extract frame arena list parameters = .ok arguments)
    (hparameter : parameters[index]? = some parameter) (homitted : frame.argumentCount ≤ index) :
    ∃ default data, list.defaultAt index = some default ∧
      (∀ other : Arena family, parameter.decode other default = .ok data) ∧
      arguments.toList[index]? = some ⟨parameter.type, data⟩ := by
  obtain ⟨hcount, hcollect⟩ := extract_eq_ok.mp hextract
  obtain ⟨hrequired, -⟩ := ParameterList.checkCount_eq_ok.mp hcount
  obtain ⟨found, data, hfound, hdecode, hdatum⟩ := collect_converts hcollect hparameter
  obtain ⟨default, converted, hdefault, hvalue, hconverted⟩ :=
    omitted_default hdeclare hrequired hparameter homitted
  rw [Nat.zero_add, hvalue] at hfound
  obtain rfl := Except.ok.inj hfound
  obtain rfl := Except.ok.inj ((hconverted arena).symm.trans hdecode)
  exact ⟨default, converted, hdefault, hconverted, hdatum⟩

/-- When a call with an accepted number of arguments does not get them, the error tells of a
value that it gives. -/
theorem Arguments.extract_error
    (hdeclare : ParameterList.declare member parameters modes = .ok list)
    (hrequired : list.required ≤ frame.argumentCount)
    (hgreatest : frame.argumentCount ≤ list.arity) {error : CallError}
    (hextract : extract frame arena list parameters = .error error) :
    ∃ index parameter value cause, index < frame.argumentCount ∧
      parameters[index]? = some parameter ∧ frame.arguments[index]? = some value ∧
      parameter.decode arena value = .error cause ∧ error = .argument index cause := by
  rw [extract_of_count hrequired hgreatest] at hextract
  obtain ⟨index, parameter, hparameter, hobstructs, -⟩ := collect_eq_error hextract
  rw [Nat.zero_add] at hobstructs
  obtain ⟨value, cause, hvalue, hdecode, rfl⟩ :=
    obstructs_given hdeclare hrequired hparameter hobstructs
  exact ⟨index, parameter, value, cause, Frame.lt_argumentCount hvalue, hparameter, hvalue,
    hdecode, rfl⟩

end Call

/-- No accepted default makes a call fail.  Every default converts to the same data in every
arena.  A call with an accepted number of arguments gets its arguments just if all values
that it gives convert, and the parameters that it leaves out get the data of their
defaults.  Otherwise the error tells of a value that it gives. -/
theorem declared_defaults_suffice
    (hdeclare : ParameterList.declare member parameters modes = .ok list) :
    (∀ (index : Nat) (parameter : ParameterType family) (default : Value),
      parameters[index]? = some parameter → list.defaultAt index = some default →
        ∃ data, ∀ arena : Arena family, parameter.decode arena default = .ok data) ∧
    ∀ (arena : Arena family) (frame : Frame),
      list.required ≤ frame.argumentCount → frame.argumentCount ≤ list.arity →
        ((∃ arguments, Arguments.extract frame arena list parameters = .ok arguments) ↔
          frame.GivenConvert arena parameters) ∧
        (∀ (arguments : Arguments family parameters) (index : Nat)
          (parameter : ParameterType family),
          Arguments.extract frame arena list parameters = .ok arguments →
            parameters[index]? = some parameter → frame.argumentCount ≤ index →
              ∃ default data, list.defaultAt index = some default ∧
                (∀ other : Arena family, parameter.decode other default = .ok data) ∧
                arguments.toList[index]? = some ⟨parameter.type, data⟩) ∧
        ∀ error, Arguments.extract frame arena list parameters = .error error →
          ∃ index parameter value cause, index < frame.argumentCount ∧
            parameters[index]? = some parameter ∧ frame.arguments[index]? = some value ∧
            parameter.decode arena value = .error cause ∧ error = .argument index cause := by
  refine ⟨fun _ _ _ => ParameterList.default_decode hdeclare, ?_⟩
  intro arena frame hrequired hgreatest
  refine ⟨Arguments.extract_ok_iff hdeclare hrequired hgreatest, ?_, ?_⟩
  · intro arguments index parameter
    exact Arguments.extract_omitted hdeclare
  · intro error
    exact Arguments.extract_error hdeclare hrequired hgreatest

end Declared

section Sample

open Sample

/-- A monster is required; a text and an optional number may be left out. -/
def growlParameters : List (ParameterType Sample.family) :=
  [⟨.object .monster, rfl⟩, ⟨.string, rfl⟩, ⟨.option (.integer .i32), rfl⟩]

def growlModes : List ParameterMode :=
  [.required, .optional (.text "grr"), .optional .nil]

/-- The defaults stand in for the text and the number although the arena is not the empty
one that they were tried out against. -/
theorem declared_defaults_suffice_growl :
    let monsters : Arena Sample.family :=
      (Arena.empty.insert ⟨SampleClass.monster, ({} : Monster)⟩).2
    let frame : Frame := ⟨[.wrapped ⟨0, 0⟩], 0⟩
    ∃ list, ParameterList.declare "growl" growlParameters growlModes = .ok list ∧
      list.required ≤ frame.argumentCount ∧ frame.argumentCount ≤ list.arity ∧
      ∃ arguments, Arguments.extract frame monsters list growlParameters = .ok arguments ∧
        ∃ data, arguments.toList[1]? = some ⟨.string, data⟩ ∧
          ∀ other : Arena Sample.family, decode other .string rfl (.text "grr") = .ok data := by
  intro monsters frame
  refine ⟨_, rfl, by decide, by decide, ?_⟩
  obtain ⟨-, hcalls⟩ := declared_defaults_suffice
    (show ParameterList.declare "growl" growlParameters growlModes = .ok _ from rfl)
  obtain ⟨hextract, homitted, -⟩ := hcalls monsters frame (by decide) (by decide)
  have hgiven : frame.GivenConvert monsters growlParameters := by
    intro index parameter value hparameter hvalue
    have hindex : index < 1 := Frame.lt_argumentCount hvalue
    obtain rfl : index = 0 := by omega
    obtain rfl := Option.some.inj hparameter
    obtain rfl := Option.some.inj hvalue
    exact ⟨_, rfl⟩
  obtain ⟨arguments, harguments⟩ := hextract.mpr hgiven
  obtain ⟨default, data, hdefault, hdecode, hdatum⟩ :=
    homitted arguments 1 _ harguments rfl (by decide)
  obtain rfl := Option.some.inj hdefault
  exact ⟨arguments, harguments, data, hdatum, hdecode⟩

end Sample

end NativeBridge
