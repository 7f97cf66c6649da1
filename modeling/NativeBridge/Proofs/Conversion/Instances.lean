import NativeBridge.Call.Arguments
import NativeBridge.Proofs.Arena.Lookup

/-!
# Class instances among native data

Native code receives an instance of a class in two ways: as the argument of a parameter
that has the class as its type, and inside an option.  In both cases it is a copy of what
a live handle refers to.  This file follows a handle through the decoder and through the
list of arguments, and says why a handle is refused.
-/

namespace NativeBridge

variable {family : ClassFamily}

namespace NativeType

/-- The class of a type that is a class, or an option that may hold one. -/
def held? {Class : Type} : NativeType Class → Option Class
  | object owner => some owner
  | option inner => inner.held?
  | _ => none

/-- The instance that native data is or holds. -/
def instance? (family : ClassFamily) :
    (type : NativeType family.Class) → type.Data family → Option (Instance family)
  | object owner => fun content => some ⟨owner, content⟩
  | option inner => fun data => data.bind (inner.instance? family)
  | _ => fun _ => none

theorem held?_of_instance? {inst : Instance family} {type : NativeType family.Class}
    {data : type.Data family} (hinst : type.instance? family data = some inst) :
    type.held? = some inst.owner := by
  induction type with
  | object owner =>
      obtain rfl := Option.some.inj hinst
      rfl
  | option inner ih =>
      obtain ⟨held, -, hheld⟩ := Option.bind_eq_some_iff.mp hinst
      exact ih hheld
  | _ => cases hinst

/-- A type that holds a class has the kind of instances. -/
theorem kind_of_held? {Class : Type} {owner : Class} {type : NativeType Class}
    (hheld : type.held? = some owner) : type.kind = .wrapped := by
  induction type with
  | object other => rfl
  | option inner ih => exact ih hheld
  | _ => cases hheld

end NativeType

/-! ## Handles that are refused -/

namespace Arena

variable {arena : Arena family} {owner : family.Class} {handle : Handle} {cause : ConversionError}

/-- The handle does not refer to a live instance of `owner`. -/
def IsForeign (arena : Arena family) (owner : family.Class) (handle : Handle) : Prop :=
  ∀ content, arena.occupant? handle ≠ some ⟨owner, content⟩

/-- Why a handle is not taken for an instance of `owner`: it is not live, or it is and
refers to an instance of another class. -/
inductive Refuses (arena : Arena family) (owner : family.Class) (handle : Handle) :
    ConversionError → Prop
  | stale (hstale : arena.isLive handle = false) :
      Refuses arena owner handle (.staleInstance handle.index)
  | other {actual : String} (hlive : arena.isLive handle = true)
      (hname : arena.scriptNameOf? handle = some actual) :
      Refuses arena owner handle (.invalidInstance (family.scriptName owner) actual)

theorem Refuses.isAboutInstance (hrefuses : arena.Refuses owner handle cause) :
    cause.isAboutInstance = true := by
  cases hrefuses <;> rfl

theorem get_of_isForeign (hforeign : arena.IsForeign owner handle) :
    ∃ cause, arena.get owner handle = .error cause ∧ arena.Refuses owner handle cause := by
  cases hget : arena.get owner handle with
  | ok content => exact absurd (get_eq_ok_iff.mp hget) (hforeign content)
  | error cause =>
      refine ⟨cause, rfl, ?_⟩
      rw [get] at hget
      split at hget
      · next hnone =>
          obtain rfl := Except.error.inj hget
          exact .stale (by rw [isLive, hnone]; rfl)
      · next slot hslot =>
          split at hget
          · cases hget
          · obtain rfl := Except.error.inj hget
            exact .other (by rw [isLive, hslot]; rfl) (by rw [scriptNameOf?, hslot]; rfl)

end Arena

/-! ## Instances in the decoder -/

section Decode

variable {arena : Arena family} {type : NativeType family.Class}
variable {readable : type.readable family = true}

theorem decode_option {inner : NativeType family.Class}
    {readable : inner.option.readable family = true} {value : Value} (hvalue : value ≠ .nil) :
    decode arena (.option inner) readable value = (decode arena inner readable value).map some := by
  cases value with
  | nil => exact absurd rfl hvalue
  | _ => rfl

/-- An option is empty just if the value is nil. -/
theorem decode_option_eq_ok {inner : NativeType family.Class}
    {readable : inner.option.readable family = true} {value : Value}
    {data : Option (inner.Data family)} :
    decode arena (.option inner) readable value = .ok data ↔
      value = .nil ∧ data = none ∨
        value ≠ .nil ∧ ∃ payload, decode arena inner readable value = .ok payload ∧
          data = some payload := by
  by_cases hnil : value = .nil
  · subst hnil
    simp [decode, eq_comm]
  · rw [decode_option hnil]
    cases decode arena inner readable value <;> simp [hnil, Except.map, eq_comm]

/-- A type that holds no class is decoded without a look into the arena. -/
theorem decode_eq_of_held?_eq_none {value : Value} (hheld : type.held? = none)
    (other : Arena family) :
    decode arena type readable value = decode other type readable value := by
  induction type with
  | void | staticText => cases readable
  | object owner => cases hheld
  | option inner ih =>
      by_cases hnil : value = .nil
      · subst hnil
        rfl
      · rw [decode_option hnil, decode_option hnil]
        exact congrArg (Except.map some) (ih hheld)
  | _ => rfl

/-- Decoded data holds an instance only if the value is the handle of a live instance, and
then it holds a copy of that. -/
theorem decode_instance? {value : Value} {data : type.Data family} {inst : Instance family}
    (hdecode : decode arena type readable value = .ok data)
    (hinst : type.instance? family data = some inst) :
    ∃ handle, value = .wrapped handle ∧ arena.occupant? handle = some inst := by
  induction type with
  | object owner =>
      obtain rfl := Option.some.inj hinst
      rw [decode] at hdecode
      cases value with
      | wrapped handle => exact ⟨handle, rfl, Arena.get_eq_ok_iff.mp hdecode⟩
      | _ => cases hdecode
  | option inner ih =>
      obtain ⟨held, rfl, hheld⟩ := Option.bind_eq_some_iff.mp hinst
      rcases decode_option_eq_ok.mp hdecode with ⟨-, hnone⟩ | ⟨-, payload, hinner, hsome⟩
      · cases hnone
      · obtain rfl := Option.some.inj hsome
        exact ih hinner hheld
  | _ => cases hinst

end Decode

/-! ## Values in the list of arguments -/

namespace Arguments

variable {arena : Arena family} {valueAt otherAt : Nat → Except CallError Value}
variable {parameters : List (ParameterType family)} {start index : Nat}

/-- Every argument is what the value for its parameter was decoded to. -/
theorem collect_toList {arguments : Arguments family parameters} {datum : Datum family}
    (hcollect : collect arena valueAt start parameters = .ok arguments)
    (hdatum : arguments.toList[index]? = some datum) :
    ∃ parameter value data, parameters[index]? = some parameter ∧
      valueAt (start + index) = .ok value ∧ parameter.decode arena value = .ok data ∧
      datum = ⟨parameter.type, data⟩ := by
  induction parameters generalizing start index with
  | nil =>
      cases arguments
      cases hdatum
  | cons parameter rest ih =>
      rw [collect] at hcollect
      split at hcollect
      · cases hcollect
      · next value hvalue =>
          split at hcollect
          · cases hcollect
          · next first hfirst =>
              split at hcollect
              · cases hcollect
              · next others hothers =>
                  obtain rfl := Except.ok.inj hcollect
                  cases index with
                  | zero =>
                      obtain rfl := Option.some.inj hdatum
                      exact ⟨parameter, value, first, rfl, hvalue, hfirst, rfl⟩
                  | succ index =>
                      have hrest := ih hothers hdatum
                      rwa [Nat.add_right_comm] at hrest

/-- If all arguments could be converted with another value for one parameter, but the
value that is there cannot, then this is what the error tells. -/
theorem collect_error_at {arguments : Arguments family parameters}
    {parameter : ParameterType family} {value : Value} {cause : ConversionError}
    (hother : collect arena otherAt start parameters = .ok arguments)
    (hsame : ∀ position, position ≠ start + index → valueAt position = otherAt position)
    (hparameter : parameters[index]? = some parameter)
    (hvalue : valueAt (start + index) = .ok value)
    (hdecode : parameter.decode arena value = .error cause) :
    collect arena valueAt start parameters = .error (.argument (start + index) cause) := by
  induction parameters generalizing start index with
  | nil => cases hparameter
  | cons first rest ih =>
      cases index with
      | zero =>
          obtain rfl := Option.some.inj hparameter
          rw [Nat.add_zero] at hvalue
          rw [collect, hvalue]
          simp only [hdecode, Nat.add_zero]
      | succ index =>
          rw [collect, ← hsame start (by omega)] at hother
          rw [collect]
          split at hother
          · cases hother
          · next found hfound =>
              split at hother
              · cases hother
              · next data hdata =>
                  split at hother
                  · cases hother
                  · next others hothers =>
                      have hposition : start + 1 + index = start + (index + 1) := by omega
                      have hrest := ih hothers (fun position hne => hsame position (by omega))
                        hparameter (hposition ▸ hvalue)
                      rw [hrest, hposition]

/-- A value that cannot be converted keeps the list from being converted. -/
theorem collect_ne_ok {parameter : ParameterType family} {value : Value} {cause : ConversionError}
    (hparameter : parameters[index]? = some parameter)
    (hvalue : valueAt (start + index) = .ok value)
    (hdecode : parameter.decode arena value = .error cause)
    (arguments : Arguments family parameters) :
    collect arena valueAt start parameters ≠ .ok arguments := by
  intro hcollect
  have herror := collect_error_at hcollect (fun _ _ => rfl) hparameter hvalue hdecode
  rw [hcollect] at herror
  cases herror

end Arguments

end NativeBridge
