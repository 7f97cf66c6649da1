import NativeBridge.Proofs.Conversion.Instances

/-!
# How the arguments of a call are collected

One value is found and converted for each parameter, in order, and the first failure ends
this.  So an error tells of one position, and everything before that position converts.
This file states which position that is, and when no position fails.
-/

namespace NativeBridge

namespace Frame

variable {frame : Frame} {index : Nat} {value : Value}

theorem length_arguments : frame.arguments.length = frame.argumentCount :=
  List.length_drop

theorem lt_argumentCount (hvalue : frame.arguments[index]? = some value) :
    index < frame.argumentCount :=
  length_arguments ▸ (List.getElem?_eq_some_iff.mp hvalue).1

theorem exists_argument (hgiven : index < frame.argumentCount) :
    ∃ value, frame.arguments[index]? = some value :=
  ⟨_, List.getElem?_eq_getElem (length_arguments ▸ hgiven)⟩

end Frame

theorem ParameterList.checkCount_eq_ok {list : ParameterList} {given : Nat} :
    list.checkCount given = .ok () ↔ list.required ≤ given ∧ given ≤ list.arity := by
  rw [checkCount]
  split
  · next hcount =>
      simp only [reduceCtorEq, false_iff]
      omega
  · next hcount =>
      simp only [true_iff]
      omega

namespace Arguments

variable {family : ClassFamily} {arena : Arena family} {frame : Frame} {list : ParameterList}
variable {parameters : List (ParameterType family)} {arguments : Arguments family parameters}

/-! ## The value for a parameter -/

section Supplied

variable {index : Nat} {value : Value}

theorem suppliedOrDefault_of_some (hvalue : frame.arguments[index]? = some value) :
    suppliedOrDefault frame list index = .ok value := by
  simp only [suppliedOrDefault, if_pos (Frame.lt_argumentCount hvalue), hvalue]

theorem suppliedOrDefault_of_default (homitted : frame.argumentCount ≤ index)
    (hdefault : list.defaultAt index = some value) :
    suppliedOrDefault frame list index = .ok value := by
  simp only [suppliedOrDefault, if_neg (Nat.not_lt.mpr homitted), hdefault]

/-- The value for a parameter is the argument of the call if there is one, and else the
default. -/
theorem suppliedOrDefault_eq_ok (hvalue : suppliedOrDefault frame list index = .ok value) :
    frame.arguments[index]? = some value ∨
      frame.argumentCount ≤ index ∧ list.defaultAt index = some value := by
  by_cases hgiven : index < frame.argumentCount
  · obtain ⟨argument, hargument⟩ := Frame.exists_argument hgiven
    rw [suppliedOrDefault_of_some hargument] at hvalue
    exact .inl (Except.ok.inj hvalue ▸ hargument)
  · refine .inr ⟨Nat.not_lt.mp hgiven, ?_⟩
    cases hdefault : list.defaultAt index with
    | none => simp [suppliedOrDefault, hgiven, hdefault] at hvalue
    | some default =>
        rw [suppliedOrDefault_of_default (Nat.not_lt.mp hgiven) hdefault] at hvalue
        rw [Except.ok.inj hvalue]

end Supplied

/-! ## The first failure -/

section Collect

variable {valueAt otherAt : Nat → Except CallError Value} {start : Nat} {error : CallError}

/-- The value for a parameter is there and can be converted. -/
def Converts (arena : Arena family) (valueAt : Nat → Except CallError Value) (index : Nat)
    (parameter : ParameterType family) : Prop :=
  ∃ value data, valueAt index = .ok value ∧ parameter.decode arena value = .ok data

/-- Why a parameter keeps the arguments from being collected: there is no value for it, or
the value cannot be converted. -/
inductive Obstructs (arena : Arena family) (valueAt : Nat → Except CallError Value) (index : Nat)
    (parameter : ParameterType family) : CallError → Prop
  | missing {error : CallError} (hvalue : valueAt index = .error error) :
      Obstructs arena valueAt index parameter error
  | unsuited {value : Value} {cause : ConversionError} (hvalue : valueAt index = .ok value)
      (hdecode : parameter.decode arena value = .error cause) :
      Obstructs arena valueAt index parameter (.argument index cause)

theorem Obstructs.not_converts {index : Nat} {parameter : ParameterType family}
    (hobstructs : Obstructs arena valueAt index parameter error) :
    ¬ Converts arena valueAt index parameter := by
  rintro ⟨value, data, hvalue, hdecode⟩
  cases hobstructs with
  | missing herror => cases herror.symm.trans hvalue
  | unsuited hother hcause =>
      obtain rfl := Except.ok.inj (hother.symm.trans hvalue)
      cases hcause.symm.trans hdecode

/-- The error tells of the first parameter that fails. -/
theorem collect_eq_error (hcollect : collect arena valueAt start parameters = .error error) :
    ∃ position parameter, parameters[position]? = some parameter ∧
      Obstructs arena valueAt (start + position) parameter error ∧
      ∀ earlier other, earlier < position → parameters[earlier]? = some other →
        Converts arena valueAt (start + earlier) other := by
  induction parameters generalizing start with
  | nil => cases hcollect
  | cons first rest ih =>
      rw [collect] at hcollect
      split at hcollect
      · next herror =>
          obtain rfl := Except.error.inj hcollect
          exact ⟨0, first, rfl, .missing herror, fun _ _ hlt => absurd hlt (Nat.not_lt_zero _)⟩
      · next value hvalue =>
          split at hcollect
          · next cause hdecode =>
              obtain rfl := Except.error.inj hcollect
              exact ⟨0, first, rfl, .unsuited hvalue hdecode,
                fun _ _ hlt => absurd hlt (Nat.not_lt_zero _)⟩
          · next data hdecode =>
              split at hcollect
              · next herror =>
                  obtain rfl := Except.error.inj hcollect
                  obtain ⟨position, parameter, hparameter, hobstructs, hearlier⟩ := ih herror
                  refine ⟨position + 1, parameter, hparameter, ?_, ?_⟩
                  · rwa [Nat.add_right_comm] at hobstructs
                  · intro earlier other hlt hother
                    cases earlier with
                    | zero =>
                        obtain rfl := Option.some.inj hother
                        exact ⟨value, data, hvalue, hdecode⟩
                    | succ earlier =>
                        have hconverts := hearlier earlier other (Nat.lt_of_succ_lt_succ hlt) hother
                        rwa [Nat.add_right_comm] at hconverts
              · cases hcollect

/-- The arguments are collected if every parameter gets a value that converts. -/
theorem collect_of_converts
    (hconverts : ∀ position parameter, parameters[position]? = some parameter →
      Converts arena valueAt (start + position) parameter) :
    ∃ arguments, collect arena valueAt start parameters = .ok arguments := by
  cases hcollect : collect arena valueAt start parameters with
  | ok arguments => exact ⟨arguments, rfl⟩
  | error error =>
      obtain ⟨position, parameter, hparameter, hobstructs, -⟩ := collect_eq_error hcollect
      exact absurd (hconverts position parameter hparameter) hobstructs.not_converts

theorem length_toList {parameters : List (ParameterType family)}
    (arguments : Arguments family parameters) : arguments.toList.length = parameters.length := by
  induction arguments with
  | nil => rfl
  | cons first others ih => exact congrArg Nat.succ ih

/-- Collected arguments are what the values for the parameters were converted to. -/
theorem collect_converts {arguments : Arguments family parameters} {index : Nat}
    {parameter : ParameterType family}
    (hcollect : collect arena valueAt start parameters = .ok arguments)
    (hparameter : parameters[index]? = some parameter) :
    ∃ value data, valueAt (start + index) = .ok value ∧ parameter.decode arena value = .ok data ∧
      arguments.toList[index]? = some ⟨parameter.type, data⟩ := by
  have hindex : index < arguments.toList.length :=
    length_toList arguments ▸ (List.getElem?_eq_some_iff.mp hparameter).1
  obtain ⟨other, value, data, hother, hvalue, hdecode, hdatum⟩ :=
    collect_toList hcollect (List.getElem?_eq_getElem hindex)
  obtain rfl := Option.some.inj (hparameter.symm.trans hother)
  exact ⟨value, data, hvalue, hdecode, hdatum ▸ List.getElem?_eq_getElem hindex⟩

theorem collect_congr
    (hsame : ∀ position < parameters.length,
      valueAt (start + position) = otherAt (start + position)) :
    collect arena valueAt start parameters = collect arena otherAt start parameters := by
  induction parameters generalizing start with
  | nil => rfl
  | cons first rest ih =>
      have hfirst : valueAt start = otherAt start := hsame 0 (Nat.succ_pos _)
      have hrest : collect arena valueAt (start + 1) rest =
          collect arena otherAt (start + 1) rest :=
        ih fun position hposition => by
          have hnext := hsame (position + 1) (Nat.succ_lt_succ hposition)
          rwa [← Nat.succ_add_eq_add_succ] at hnext
      rw [collect, collect, hfirst, hrest]

end Collect

/-! ## The arguments of a call -/

theorem extract_eq_ok :
    extract frame arena list parameters = .ok arguments ↔
      list.checkCount frame.argumentCount = .ok () ∧
        collect arena (suppliedOrDefault frame list) 0 parameters = .ok arguments := by
  rw [extract]
  cases list.checkCount frame.argumentCount <;> simp

theorem extract_of_count (hrequired : list.required ≤ frame.argumentCount)
    (hgreatest : frame.argumentCount ≤ list.arity) :
    extract frame arena list parameters =
      collect arena (suppliedOrDefault frame list) 0 parameters := by
  rw [extract, ParameterList.checkCount_eq_ok.mpr ⟨hrequired, hgreatest⟩]

end Arguments

end NativeBridge
