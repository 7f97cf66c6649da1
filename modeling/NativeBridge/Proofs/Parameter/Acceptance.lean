import NativeBridge.Proofs.Call.Extraction
import NativeBridge.Proofs.Parameter.Resolution
import NativeBridge.Sample.World

/-!
# Which parameter declarations are accepted

The modes of the parameters are read twice.  First every mode is matched with the type of its
parameter, and then every default is tried out.  Much may be wrong with a declaration, and
each reading stops at the first parameter where it finds something.  This file says what a
well-formed declaration is, that exactly the well-formed ones are accepted, what is recorded
of them, and which error every other declaration gets.
-/

namespace NativeBridge

/-! ## Defaults without a value -/

/-- Why a default has no value: it is an unsigned number beyond the script integers, or a
fraction over zero. -/
inductive Default.Unevaluable : Default → DefaultFault → Prop
  | unsigned (number : IntegerType.Number .u64)
      (hbeyond : IntegerType.greatest .i64 < number.val) :
      Unevaluable (.unsigned number) (.exceedsScriptInteger number.val.toNat)
  | ratio (numerator : Int64) : Unevaluable (.ratio numerator 0) .zeroDenominator

theorem Default.evaluate_eq_error {default : Default} {fault : DefaultFault} :
    default.evaluate = .error fault ↔ default.Unevaluable fault := by
  constructor
  · intro hevaluate
    cases default with
    | unsigned number =>
        rw [evaluate] at hevaluate
        split at hevaluate
        · cases hevaluate
        · next hbeyond =>
            obtain rfl := Except.error.inj hevaluate
            exact .unsigned number (Int.not_le.mp hbeyond)
    | ratio numerator denominator =>
        rw [evaluate] at hevaluate
        split at hevaluate
        · next hzero =>
            obtain rfl := Except.error.inj hevaluate
            exact hzero ▸ .ratio numerator
        · cases hevaluate
    | _ => cases hevaluate
  · intro hunevaluable
    cases hunevaluable with
    | unsigned number hbeyond => exact if_neg (Int.not_le.mpr hbeyond)
    | ratio numerator => rfl

namespace ParameterMode

def isRequired : ParameterMode → Bool
  | required => true
  | optional _ => false

/-- The value of the default that is declared, if there is one and it has a value. -/
def value? : ParameterMode → Option Value
  | required => none
  | optional default => default.evaluate.toOption

theorem value?_eq_some {mode : ParameterMode} {value : Value} :
    mode.value? = some value ↔
      ∃ default, mode = .optional default ∧ default.evaluate = .ok value := by
  cases mode with
  | required => simp [value?]
  | optional default =>
      cases hevaluate : default.evaluate <;> simp [value?, hevaluate, Except.toOption]

end ParameterMode

/-! ## The first fault -/

/-- The error is the one at the least position at fault. -/
def FirstFault (faultAt : Nat → BindError → Prop) (error : BindError) : Prop :=
  ∃ position, faultAt position error ∧ ∀ earlier < position, ∀ other, ¬ faultAt earlier other

section FirstFault

variable {faultAt otherAt : Nat → BindError → Prop} {error cause : BindError}

theorem firstFault_of_head (hhead : faultAt 0 cause) :
    FirstFault faultAt error ↔ faultAt 0 error := by
  constructor
  · rintro ⟨position, hfault, hearlier⟩
    cases position with
    | zero => exact hfault
    | succ position => exact absurd hhead (hearlier 0 (Nat.succ_pos _) cause)
  · intro hfault
    exact ⟨0, hfault, fun earlier hlt => absurd hlt (Nat.not_lt_zero _)⟩

theorem firstFault_congr
    (hsame : ∀ position other, faultAt position other ↔ otherAt position other) :
    FirstFault faultAt error ↔ FirstFault otherAt error := by
  simp only [FirstFault, hsame]

/-- What is in order at the head may be left out. -/
theorem firstFault_of_not_head (hhead : ∀ other, ¬ faultAt 0 other)
    (hnext : ∀ position other, faultAt (position + 1) other ↔ otherAt position other) :
    FirstFault faultAt error ↔ FirstFault otherAt error := by
  constructor
  · rintro ⟨position, hfault, hearlier⟩
    cases position with
    | zero => exact absurd hfault (hhead error)
    | succ position =>
        refine ⟨position, (hnext position error).mp hfault, fun earlier hlt other hother => ?_⟩
        exact hearlier (earlier + 1) (Nat.succ_lt_succ hlt) other ((hnext earlier other).mpr hother)
  · rintro ⟨position, hfault, hearlier⟩
    refine ⟨position + 1, (hnext position error).mpr hfault, fun earlier hlt other hother => ?_⟩
    cases earlier with
    | zero => exact hhead other hother
    | succ earlier =>
        exact hearlier earlier (Nat.lt_of_succ_lt_succ hlt) other ((hnext earlier other).mp hother)

theorem not_firstFault_of_none (hnone : ∀ position other, ¬ faultAt position other) :
    ¬ FirstFault faultAt error := by
  rintro ⟨position, hfault, -⟩
  exact hnone position error hfault

/-- Where there is a fault at all, there is a first one. -/
theorem exists_firstFault {position : Nat} (hfault : faultAt position cause) :
    ∃ error, FirstFault faultAt error := by
  induction position using Nat.strongRecOn generalizing cause with
  | ind position ih =>
      by_cases hearlier : ∃ earlier < position, ∃ other, faultAt earlier other
      · obtain ⟨earlier, hlt, other, hother⟩ := hearlier
        exact ih earlier hlt hother
      · refine ⟨cause, position, hfault, fun earlier hlt other hother => ?_⟩
        exact hearlier ⟨earlier, hlt, other, hother⟩

end FirstFault

/-! ## What may be wrong with a declaration -/

section Faults

variable {family : ClassFamily}

/-- An optional parameter was declared before the parameter at `index`. -/
def OptionalBefore (modes : List ParameterMode) (index : Nat) : Prop :=
  ∃ earlier < index, ∃ default, modes[earlier]? = some (.optional default)

/-- What is wrong with the mode of the parameter at `index`: it is required although an
optional one came before it, or it has a default although it takes an instance, or its default
has no value. -/
inductive ModeFault (member : String) (index : Nat) (late : Prop) (tag : TypeTag) :
    ParameterMode → BindError → Prop
  | misplaced (hlate : late) :
      ModeFault member index late tag .required (.requiredAfterOptional member index)
  | onInstance {default : Default} (hkind : tag.kind = .wrapped) :
      ModeFault member index late tag (.optional default)
        (.defaultForInstance tag.name member index)
  | unevaluable {default : Default} {fault : DefaultFault} (hkind : tag.kind ≠ .wrapped)
      (hfault : default.Unevaluable fault) :
      ModeFault member index late tag (.optional default) (.invalidDefault member index fault)

/-- The declaration is at fault at `index`, whatever values its defaults have. -/
def Misdeclared (member : String) (types : List (ParameterType family))
    (modes : List ParameterMode) (index : Nat) (error : BindError) : Prop :=
  ∃ parameter mode, types[index]? = some parameter ∧ modes[index]? = some mode ∧
    ModeFault member index (OptionalBefore modes index) parameter.tag mode error

/-- The default of the parameter at `index` has a value that cannot be converted for it. -/
inductive Unsuited (member : String) (types : List (ParameterType family))
    (modes : List ParameterMode) (index : Nat) : BindError → Prop
  | intro {parameter : ParameterType family} {default : Default} {value : Value}
      {cause : ConversionError} (hparameter : types[index]? = some parameter)
      (hmode : modes[index]? = some (.optional default)) (hvalue : default.evaluate = .ok value)
      (hdecode : parameter.decode Arena.empty value = .error cause) :
      Unsuited member types modes index (.invalidDefault member index (.conversion cause))

/-- Why a declaration is rejected.  That a default cannot be converted matters only when no
mode is at fault, also none of a later parameter. -/
inductive Rejects (member : String) (types : List (ParameterType family))
    (modes : List ParameterMode) : BindError → Prop
  | count (hlength : modes.length ≠ types.length) :
      Rejects member types modes (.parameterCount member modes.length types.length)
  | misdeclared {error : BindError} (hlength : modes.length = types.length)
      (hfirst : FirstFault (Misdeclared member types modes) error) :
      Rejects member types modes error
  | unsuited {error : BindError} (hlength : modes.length = types.length)
      (hmodes : ∀ index other, ¬ Misdeclared member types modes index other)
      (hfirst : FirstFault (Unsuited member types modes) error) :
      Rejects member types modes error

/-- A default that a parameter can have: the parameter takes no instance, and the default has a
value that converts for it. -/
structure ParameterType.Takes (parameter : ParameterType family) (default : Default) : Prop where
  noInstance : parameter.tag.kind ≠ .wrapped
  evaluable : ∀ fault, ¬ default.Unevaluable fault
  suited : ∀ value, default.evaluate = .ok value →
    ∃ data, parameter.decode Arena.empty value = .ok data

/-- There is a mode for each parameter, the required ones come first, and every parameter can
have its default. -/
structure WellFormed (types : List (ParameterType family)) (modes : List ParameterMode) :
    Prop where
  length_eq : modes.length = types.length
  required_first : ∀ index, modes[index]? = some .required → ¬ OptionalBefore modes index
  takes : ∀ (index : Nat) (parameter : ParameterType family) (default : Default),
    types[index]? = some parameter → modes[index]? = some (.optional default) →
      parameter.Takes default

end Faults

namespace ParameterList

variable {family : ClassFamily} {member : String} {index required : Nat} {list : ParameterList}
variable {tag : TypeTag} {tags : List TypeTag} {mode : ParameterMode} {modes : List ParameterMode}
variable {error : BindError}

/-! ## The first reading -/

theorem defaultFor_eq_error :
    defaultFor member index required tag mode = .error error ↔
      ModeFault member index (required < index) tag mode error := by
  constructor
  · intro hdefault
    cases mode with
    | required =>
        rw [defaultFor] at hdefault
        split at hdefault
        · next hlate =>
            obtain rfl := Except.error.inj hdefault
            exact .misplaced hlate
        · cases hdefault
    | optional default =>
        rw [defaultFor] at hdefault
        split at hdefault
        · next hkind =>
            obtain rfl := Except.error.inj hdefault
            exact .onInstance hkind
        · next hkind =>
            split at hdefault
            · cases hdefault
            · next fault hevaluate =>
                obtain rfl := Except.error.inj hdefault
                exact .unevaluable hkind (Default.evaluate_eq_error.mp hevaluate)
  · intro hfault
    cases hfault with
    | misplaced hlate => exact if_pos hlate
    | onInstance hkind => exact if_pos hkind
    | unevaluable hkind hfault =>
        rw [defaultFor, if_neg hkind, Default.evaluate_eq_error.mpr hfault]

/-- An accepted mode gives the value of its default, which only a required mode lacks. -/
theorem defaultFor_eq_ok {default : Option Value}
    (hdefault : defaultFor member index required tag mode = .ok default) :
    default = mode.value? ∧ default.isNone = mode.isRequired := by
  cases mode with
  | required =>
      rw [defaultFor] at hdefault
      split at hdefault
      · cases hdefault
      · obtain rfl := Except.ok.inj hdefault
        exact ⟨rfl, rfl⟩
  | optional given =>
      rw [defaultFor] at hdefault
      split at hdefault
      · cases hdefault
      · split at hdefault
        · next value hevaluate =>
            obtain rfl := Except.ok.inj hdefault
            rw [ParameterMode.value?, hevaluate]
            exact ⟨rfl, rfl⟩
        · cases hdefault

/-- The fault that is found at a position when reading starts at the parameter at `index`,
with `required` required ones before it. -/
def FaultAt (member : String) (index required : Nat) (tags : List TypeTag)
    (modes : List ParameterMode) (position : Nat) (error : BindError) : Prop :=
  ∃ tag mode, tags[position]? = some tag ∧ modes[position]? = some mode ∧
    ModeFault member (index + position) (required < index ∨ OptionalBefore modes position) tag mode
      error

theorem optionalBefore_succ {position : Nat} :
    OptionalBefore (mode :: modes) (position + 1) ↔
      mode.isRequired = false ∨ OptionalBefore modes position := by
  constructor
  · rintro ⟨earlier, hlt, default, hmode⟩
    cases earlier with
    | zero =>
        obtain rfl := Option.some.inj hmode
        exact .inl rfl
    | succ earlier => exact .inr ⟨earlier, Nat.lt_of_succ_lt_succ hlt, default, hmode⟩
  · rintro (hoptional | ⟨earlier, hlt, default, hmode⟩)
    · cases mode with
      | required => cases hoptional
      | optional default => exact ⟨0, Nat.succ_pos _, default, rfl⟩
    · exact ⟨earlier + 1, Nat.succ_lt_succ hlt, default, hmode⟩

theorem faultAt_head :
    FaultAt member index required (tag :: tags) (mode :: modes) 0 error ↔
      defaultFor member index required tag mode = .error error := by
  have hlate : (required < index ∨ OptionalBefore (mode :: modes) 0) = (required < index) := by
    simp [OptionalBefore]
  simp only [FaultAt, List.getElem?_cons_zero, Option.some.injEq, hlate, Nat.add_zero,
    defaultFor_eq_error, exists_eq_left', exists_and_left]

/-- Once the first mode is accepted, reading goes on with the count it leaves. -/
theorem faultAt_succ {default : Option Value} {position : Nat} (hrequired : required ≤ index)
    (hdefault : defaultFor member index required tag mode = .ok default) :
    FaultAt member index required (tag :: tags) (mode :: modes) (position + 1) error ↔
      FaultAt member (index + 1) (if default.isNone then required + 1 else required) tags modes
        position error := by
  have hlate : (required < index ∨ OptionalBefore (mode :: modes) (position + 1)) ↔
      ((if default.isNone then required + 1 else required) < index + 1 ∨
        OptionalBefore modes position) := by
    rw [optionalBefore_succ, (defaultFor_eq_ok hdefault).2, ← or_assoc]
    cases mode with
    | required => simp [ParameterMode.isRequired]
    | optional given => simp [ParameterMode.isRequired, Nat.lt_succ_of_le hrequired]
  simp only [FaultAt, List.getElem?_cons_succ, hlate, Nat.add_assoc, Nat.add_comm 1]

theorem resolveFrom_cons_eq_error {default : Option Value}
    (hdefault : defaultFor member index required tag mode = .ok default) :
    resolveFrom member index required (tag :: tags) (mode :: modes) = .error error ↔
      resolveFrom member (index + 1) (if default.isNone then required + 1 else required) tags
        modes = .error error := by
  rw [resolveFrom, hdefault]
  dsimp only
  cases resolveFrom member (index + 1) (if default.isNone then required + 1 else required) tags
    modes <;> simp

/-- The first reading fails over the first mode at fault. -/
theorem resolveFrom_eq_error (hrequired : required ≤ index) :
    resolveFrom member index required tags modes = .error error ↔
      FirstFault (FaultAt member index required tags modes) error := by
  induction tags generalizing index required modes with
  | nil => exact iff_of_false nofun (not_firstFault_of_none fun position other => by simp [FaultAt])
  | cons tag tags ih =>
      cases modes with
      | nil =>
          exact iff_of_false nofun (not_firstFault_of_none fun position other => by simp [FaultAt])
      | cons mode modes =>
          cases hdefault : defaultFor member index required tag mode with
          | error cause =>
              rw [firstFault_of_head (faultAt_head.mpr hdefault), faultAt_head, resolveFrom]
              simp only [hdefault, Except.error.injEq]
          | ok default =>
              have hhead : ∀ other,
                  ¬ FaultAt member index required (tag :: tags) (mode :: modes) 0 other := by
                intro other hfault
                cases (faultAt_head.mp hfault).symm.trans hdefault
              have hnext : (if default.isNone then required + 1 else required) ≤ index + 1 := by
                split <;> omega
              rw [resolveFrom_cons_eq_error hdefault, ih hnext]
              exact (firstFault_of_not_head hhead fun position other =>
                faultAt_succ hrequired hdefault).symm

/-- An accepted list has the values of the defaults that were declared. -/
theorem resolveFrom_defaultAt_eq (hlength : modes.length = tags.length)
    (hresolve : resolveFrom member index required tags modes = .ok list) (position : Nat) :
    list.defaultAt position = modes[position]?.bind (·.value?) := by
  induction tags generalizing index required modes list position with
  | nil =>
      obtain rfl := List.eq_nil_of_length_eq_zero hlength
      obtain rfl := Except.ok.inj hresolve
      rfl
  | cons tag tags ih =>
      cases modes with
      | nil => cases hlength
      | cons mode modes =>
          obtain ⟨default, rest, hdefault, hrest, rfl⟩ := resolveFrom_cons hresolve
          cases position with
          | zero => exact (defaultFor_eq_ok hdefault).1
          | succ position => exact ih (Nat.succ.inj hlength) hrest position

/-- As long as all parameters so far are required, the count goes on with the required ones
that come next. -/
theorem resolveFrom_required_eq (hlength : modes.length = tags.length)
    (hresolve : resolveFrom member index index tags modes = .ok list) :
    list.required = index + (modes.takeWhile (·.isRequired)).length := by
  induction tags generalizing index modes list with
  | nil =>
      obtain rfl := List.eq_nil_of_length_eq_zero hlength
      obtain rfl := Except.ok.inj hresolve
      rfl
  | cons tag tags ih =>
      cases modes with
      | nil => cases hlength
      | cons mode modes =>
          obtain ⟨default, rest, hdefault, hrest, rfl⟩ := resolveFrom_cons hresolve
          rw [(defaultFor_eq_ok hdefault).2] at hrest
          cases mode with
          | required =>
              have hcount := ih (Nat.succ.inj hlength) hrest
              simp only [hcount, List.takeWhile_cons, ParameterMode.isRequired, if_true,
                List.length_cons]
              omega
          | optional given =>
              -- No required parameter is accepted behind an optional one.
              exact (resolveFrom_resolvedFrom (Nat.le_succ index) hrest).required_eq
                (Nat.lt_succ_self index)

/-! ## The second reading -/

/-- The default of a parameter cannot be converted when the trial starts at the parameter at
`index`. -/
def TrialFault (member : String) (list : ParameterList) (index : Nat)
    (parameters : List (ParameterType family)) (position : Nat) (error : BindError) : Prop :=
  ∃ parameter default cause, parameters[position]? = some parameter ∧
    list.defaultAt (index + position) = some default ∧
    parameter.decode Arena.empty default = .error cause ∧
    error = .invalidDefault member (index + position) (.conversion cause)

section Trial

variable {parameter : ParameterType family} {parameters : List (ParameterType family)}

theorem trialFault_succ {position : Nat} :
    TrialFault member list index (parameter :: parameters) (position + 1) error ↔
      TrialFault member list (index + 1) parameters position error := by
  simp only [TrialFault, List.getElem?_cons_succ, Nat.add_assoc, Nat.add_comm 1]

/-- The second reading fails over the first default that cannot be converted. -/
theorem checkDefaultsFrom_eq_error :
    checkDefaultsFrom member list index parameters = .error error ↔
      FirstFault (TrialFault member list index parameters) error := by
  induction parameters generalizing index with
  | nil =>
      exact iff_of_false nofun (not_firstFault_of_none fun position other => by simp [TrialFault])
  | cons parameter rest ih =>
      rw [checkDefaultsFrom]
      cases hdefault : list.defaultAt index with
      | none =>
          have hhead : ∀ other, ¬ TrialFault member list index (parameter :: rest) 0 other := by
            simp [TrialFault, hdefault]
          exact ih.trans (firstFault_of_not_head hhead fun _ _ => trialFault_succ).symm
      | some default =>
          cases hdecode : parameter.decode Arena.empty default with
          | ok data =>
              have hhead : ∀ other, ¬ TrialFault member list index (parameter :: rest) 0 other := by
                simp [TrialFault, hdefault, hdecode]
              simp only [hdecode]
              exact ih.trans (firstFault_of_not_head hhead fun _ _ => trialFault_succ).symm
          | error cause =>
              have hhead : TrialFault member list index (parameter :: rest) 0
                  (.invalidDefault member index (.conversion cause)) :=
                ⟨parameter, default, cause, rfl, hdefault, hdecode, rfl⟩
              rw [firstFault_of_head hhead]
              simp [TrialFault, hdefault, hdecode, eq_comm]

end Trial

end ParameterList

/-! ## Both readings -/

namespace ParameterList

section Declared

variable {family : ClassFamily} {member : String} {types : List (ParameterType family)}
variable {modes : List ParameterMode} {list : ParameterList} {index : Nat} {error : BindError}

theorem faultAt_zero_iff :
    FaultAt member 0 0 (types.map (·.tag)) modes index error ↔
      Misdeclared member types modes index error := by
  simp only [FaultAt, Misdeclared, List.getElem?_map, Option.map_eq_some_iff, Nat.zero_add,
    Nat.lt_irrefl, false_or]
  constructor
  · rintro ⟨_, mode, ⟨parameter, hparameter, rfl⟩, hmode, hfault⟩
    exact ⟨parameter, mode, hparameter, hmode, hfault⟩
  · rintro ⟨parameter, mode, hparameter, hmode, hfault⟩
    exact ⟨_, mode, ⟨parameter, hparameter, rfl⟩, hmode, hfault⟩

/-- Once there is a mode for each parameter, a declaration fails in one of the two readings. -/
theorem declare_eq_error_of_length (hlength : modes.length = types.length) :
    declare member types modes = .error error ↔
      resolveFrom member 0 0 (types.map (·.tag)) modes = .error error ∨
        ∃ list, resolveFrom member 0 0 (types.map (·.tag)) modes = .ok list ∧
          checkDefaultsFrom member list 0 types = .error error := by
  rw [declare, resolve, List.length_map, if_pos hlength]
  cases resolveFrom member 0 0 (types.map (·.tag)) modes with
  | error cause => simp
  | ok list => cases hcheck : checkDefaultsFrom member list 0 types <;> simp [hcheck]

theorem resolveFrom_types_eq_error :
    resolveFrom member 0 0 (types.map (·.tag)) modes = .error error ↔
      FirstFault (Misdeclared member types modes) error :=
  (resolveFrom_eq_error (Nat.le_refl 0)).trans (firstFault_congr fun _ _ => faultAt_zero_iff)

theorem not_misdeclared_of_resolveFrom
    (hresolve : resolveFrom member 0 0 (types.map (·.tag)) modes = .ok list) (index : Nat)
    (error : BindError) : ¬ Misdeclared member types modes index error := by
  intro hfault
  obtain ⟨first, hfirst⟩ := exists_firstFault hfault
  cases (resolveFrom_types_eq_error.mpr hfirst).symm.trans hresolve

/-- The defaults on an accepted list are the values of those that were declared. -/
theorem defaultAt_eq_some (hlength : modes.length = types.length)
    (hresolve : resolveFrom member 0 0 (types.map (·.tag)) modes = .ok list) {value : Value} :
    list.defaultAt index = some value ↔
      ∃ default, modes[index]? = some (.optional default) ∧ default.evaluate = .ok value := by
  rw [resolveFrom_defaultAt_eq (by rw [hlength, List.length_map]) hresolve]
  simp only [Option.bind_eq_some_iff, ParameterMode.value?_eq_some]
  constructor
  · rintro ⟨mode, hmode, default, rfl, hevaluate⟩
    exact ⟨default, hmode, hevaluate⟩
  · rintro ⟨default, hmode, hevaluate⟩
    exact ⟨_, hmode, default, rfl, hevaluate⟩

theorem trialFault_iff (hlength : modes.length = types.length)
    (hresolve : resolveFrom member 0 0 (types.map (·.tag)) modes = .ok list) :
    TrialFault member list 0 types index error ↔ Unsuited member types modes index error := by
  simp only [TrialFault, Nat.zero_add, defaultAt_eq_some hlength hresolve]
  constructor
  · rintro ⟨parameter, value, cause, hparameter, ⟨default, hmode, hvalue⟩, hdecode, rfl⟩
    exact .intro hparameter hmode hvalue hdecode
  · rintro ⟨hparameter, hmode, hvalue, hdecode⟩
    exact ⟨_, _, _, hparameter, ⟨_, hmode, hvalue⟩, hdecode, rfl⟩

/-- A declaration is rejected for the reasons that are listed and for no other. -/
theorem declare_eq_error :
    declare member types modes = .error error ↔ Rejects member types modes error := by
  by_cases hlength : modes.length = types.length
  · rw [declare_eq_error_of_length hlength]
    constructor
    · rintro (hresolve | ⟨list, hresolve, hcheck⟩)
      · exact .misdeclared hlength (resolveFrom_types_eq_error.mp hresolve)
      · refine .unsuited hlength (not_misdeclared_of_resolveFrom hresolve) ?_
        exact (firstFault_congr fun _ _ => trialFault_iff hlength hresolve).mp
          (checkDefaultsFrom_eq_error.mp hcheck)
    · intro hrejects
      cases hrejects with
      | count hother => exact absurd hlength hother
      | misdeclared _ hfirst => exact .inl (resolveFrom_types_eq_error.mpr hfirst)
      | unsuited _ hmodes hfirst =>
          cases hresolve : resolveFrom member 0 0 (types.map (·.tag)) modes with
          | error cause =>
              have hfault := resolveFrom_types_eq_error.mp hresolve
              exact absurd hfault (not_firstFault_of_none hmodes)
          | ok list =>
              refine .inr ⟨list, rfl, checkDefaultsFrom_eq_error.mpr ?_⟩
              exact (firstFault_congr fun _ _ => trialFault_iff hlength hresolve).mpr hfirst
  · have hcount : declare member types modes =
        .error (.parameterCount member modes.length types.length) := by
      rw [declare, resolve, List.length_map, if_neg hlength]
    rw [hcount, Except.error.injEq]
    constructor
    · rintro rfl
      exact .count hlength
    · intro hrejects
      cases hrejects with
      | count => rfl
      | misdeclared hother | unsuited hother => exact absurd hother hlength

end Declared

end ParameterList

/-! ## Well-formed declarations -/

section WellFormed

variable {family : ClassFamily} {types : List (ParameterType family)} {modes : List ParameterMode}
variable {member : String} {index : Nat} {error : BindError}

theorem WellFormed.not_misdeclared (hformed : WellFormed types modes) :
    ¬ Misdeclared member types modes index error := by
  rintro ⟨parameter, mode, hparameter, hmode, hfault⟩
  cases hfault with
  | misplaced hlate => exact hformed.required_first index hmode hlate
  | onInstance hkind => exact (hformed.takes index parameter _ hparameter hmode).noInstance hkind
  | unevaluable _ hfault =>
      exact (hformed.takes index parameter _ hparameter hmode).evaluable _ hfault

theorem WellFormed.not_unsuited (hformed : WellFormed types modes) :
    ¬ Unsuited member types modes index error := by
  rintro ⟨hparameter, hmode, hvalue, hdecode⟩
  obtain ⟨data, hconverts⟩ := (hformed.takes index _ _ hparameter hmode).suited _ hvalue
  cases hdecode.symm.trans hconverts

/-- Nothing more is asked of a declaration than that none of the listed reasons speaks against
it. -/
theorem wellFormed_of_not_rejects (member : String)
    (hnone : ∀ error, ¬ Rejects member types modes error) :
    WellFormed types modes := by
  have hlength : modes.length = types.length :=
    Decidable.not_not.mp fun hlength => hnone _ (.count hlength)
  have hmodes : ∀ index error, ¬ Misdeclared member types modes index error := by
    intro index error hfault
    obtain ⟨first, hfirst⟩ := exists_firstFault hfault
    exact hnone first (.misdeclared hlength hfirst)
  have hsuited : ∀ index error, ¬ Unsuited member types modes index error := by
    intro index error hfault
    obtain ⟨first, hfirst⟩ := exists_firstFault hfault
    exact hnone first (.unsuited hlength hmodes hfirst)
  refine ⟨hlength, fun index hmode hlate => ?_, fun index parameter default hparameter hmode => ?_⟩
  · have hindex : index < types.length := hlength ▸ (List.getElem?_eq_some_iff.mp hmode).1
    exact hmodes index _ ⟨types[index], _, List.getElem?_eq_getElem hindex, hmode, .misplaced hlate⟩
  · have hkind : parameter.tag.kind ≠ .wrapped := fun hkind =>
      hmodes index _ ⟨parameter, _, hparameter, hmode, .onInstance hkind⟩
    refine ⟨hkind, fun fault hfault => ?_, fun value hvalue => ?_⟩
    · exact hmodes index _ ⟨parameter, _, hparameter, hmode, .unevaluable hkind hfault⟩
    · cases hdecode : parameter.decode Arena.empty value with
      | ok data => exact ⟨data, rfl⟩
      | error cause => exact absurd (.intro hparameter hmode hvalue hdecode) (hsuited index _)

namespace ParameterList

theorem exists_declare_iff :
    (∃ list, declare member types modes = .ok list) ↔ WellFormed types modes := by
  constructor
  · rintro ⟨list, hdeclare⟩
    refine wellFormed_of_not_rejects member fun error hrejects => ?_
    cases (declare_eq_error.mpr hrejects).symm.trans hdeclare
  · intro hformed
    cases hdeclare : declare member types modes with
    | ok list => exact ⟨list, rfl⟩
    | error error =>
        cases declare_eq_error.mp hdeclare with
        | count hlength => exact absurd hformed.length_eq hlength
        | misdeclared _ hfirst =>
            exact absurd hfirst (not_firstFault_of_none fun _ _ => hformed.not_misdeclared)
        | unsuited _ _ hfirst =>
            exact absurd hfirst (not_firstFault_of_none fun _ _ => hformed.not_unsuited)

/-- What is on record about the parameters of a declaration: one for each type, of which those
in front that were declared required have no default, and the others have the values of the
defaults they were declared with. -/
structure Records (list : ParameterList) (types : List (ParameterType family))
    (modes : List ParameterMode) : Prop where
  tags_eq : list.parameters.map (·.tag) = types.map (·.tag)
  arity_eq : list.arity = types.length
  required_eq : list.required = (modes.takeWhile (·.isRequired)).length
  default_eq : ∀ index, list.required ≤ index → index < list.arity →
    ∃ default value, modes[index]? = some (.optional default) ∧ default.evaluate = .ok value ∧
      list.defaultAt index = some value
  default_none : ∀ index, index < list.required ∨ list.arity ≤ index →
    list.defaultAt index = none

theorem records_of_declare {list : ParameterList}
    (hdeclare : declare member types modes = .ok list) : list.Records types modes := by
  have hfits := fits_of_declare hdeclare
  obtain ⟨hlength, hresolve, -⟩ := of_declare hdeclare
  have htags : modes.length = (types.map (·.tag)).length := by rw [hlength, List.length_map]
  refine ⟨resolveFrom_tags htags hresolve, hfits.arity_eq, ?_, fun index hge hlt => ?_, ?_⟩
  · rw [resolveFrom_required_eq htags hresolve, Nat.zero_add]
  · obtain ⟨value, hvalue⟩ := hfits.exists_default hge hlt
    obtain ⟨default, hmode, hevaluate⟩ := (defaultAt_eq_some hlength hresolve).mp hvalue
    exact ⟨default, value, hmode, hevaluate, hvalue⟩
  · intro index hout
    rw [← Option.not_isSome_iff_eq_none]
    intro hsome
    rcases Nat.lt_or_ge index list.arity with hlt | hge
    · have hge := (hfits.isSome_defaultAt index hlt).mp hsome
      omega
    · rw [defaultAt, List.getElem?_eq_none hge] at hsome
      cases hsome

/-- Exactly the well-formed declarations are accepted.  An accepted list records what was
declared and takes as many arguments as it has parameters, or fewer down to the required ones.
A declaration that is not well formed is rejected over the number of its modes, or else over
the first parameter whose mode is at fault, or else, if there is none, over the first default
that cannot be converted. -/
theorem declared_iff_wellFormed (member : String) (types : List (ParameterType family))
    (modes : List ParameterMode) :
    ((∃ list, declare member types modes = .ok list) ↔ WellFormed types modes) ∧
      (∀ list, declare member types modes = .ok list → list.Records types modes ∧
        ∀ given, list.checkCount given = .ok () ↔
          list.required ≤ given ∧ given ≤ list.arity) ∧
      ∀ error, declare member types modes = .error error ↔ Rejects member types modes error := by
  refine ⟨exists_declare_iff, fun list hdeclare => ?_, fun error => declare_eq_error⟩
  exact ⟨records_of_declare hdeclare, fun given => checkCount_eq_ok⟩

/-- The first default cannot be converted, but the second one has no value. -/
example :
    declare "scale" ([⟨.integer .u8, rfl⟩, ⟨.double, rfl⟩] : List (ParameterType Sample.family))
        [.optional (.int 300), .optional (.ratio 1 0)] =
      .error (.invalidDefault "scale" 1 .zeroDenominator) := rfl

end ParameterList

end WellFormed

end NativeBridge
