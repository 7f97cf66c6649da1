import NativeBridge.Parameter.List

/-!
# Resolved parameter lists

A declaration is resolved one parameter at a time.  Once a parameter is optional no later
one may be required, so in every list that resolution accepts the required parameters come
first and all others have defaults.  This file proves that shape, and says what the trial
conversion of the defaults has established when it accepts them.
-/

namespace NativeBridge

namespace ParameterList

variable {family : ClassFamily} {member : String} {index required : Nat} {list : ParameterList}

/-! ## One parameter -/

theorem defaultFor_wrapped {tag : TypeTag} {mode : ParameterMode} {default : Option Value}
    (hdefault : defaultFor member index required tag mode = .ok default)
    (hkind : tag.kind = .wrapped) : default = none := by
  cases mode with
  | required =>
      rw [defaultFor] at hdefault
      split at hdefault
      · cases hdefault
      · exact (Except.ok.inj hdefault).symm
  | optional given =>
      rw [defaultFor, if_pos hkind] at hdefault
      cases hdefault

/-- A parameter without a default is accepted only while all before it are required. -/
theorem le_of_defaultFor_none {tag : TypeTag} {mode : ParameterMode}
    (hdefault : defaultFor member index required tag mode = .ok none) : index ≤ required := by
  cases mode with
  | required =>
      rw [defaultFor] at hdefault
      split at hdefault
      · cases hdefault
      · omega
  | optional given =>
      rw [defaultFor] at hdefault
      split at hdefault
      · cases hdefault
      · split at hdefault
        · cases hdefault
        · cases hdefault

/-! ## All parameters -/

/-- An accepted resolution resolves the first parameter, and then the others with the
first one counted if it is required. -/
theorem resolveFrom_cons {tag : TypeTag} {tags : List TypeTag} {mode : ParameterMode}
    {modes : List ParameterMode}
    (hresolve : resolveFrom member index required (tag :: tags) (mode :: modes) = .ok list) :
    ∃ default rest, defaultFor member index required tag mode = .ok default ∧
      resolveFrom member (index + 1) (if default.isNone then required + 1 else required)
        tags modes = .ok rest ∧
      list = { rest with parameters := ⟨tag, default⟩ :: rest.parameters } := by
  rw [resolveFrom] at hresolve
  split at hresolve
  · cases hresolve
  · next default hdefault =>
      dsimp only at hresolve
      split at hresolve
      · cases hresolve
      · next rest hrest => exact ⟨default, rest, hdefault, hrest, (Except.ok.inj hresolve).symm⟩

theorem resolveFrom_tags {tags : List TypeTag} {modes : List ParameterMode}
    (hlength : modes.length = tags.length)
    (hresolve : resolveFrom member index required tags modes = .ok list) :
    list.parameters.map (·.tag) = tags := by
  induction tags generalizing index required modes list with
  | nil =>
      obtain rfl := Except.ok.inj hresolve
      rfl
  | cons tag tags ih =>
      cases modes with
      | nil => cases hlength
      | cons mode modes =>
          obtain ⟨default, rest, -, hrest, rfl⟩ := resolveFrom_cons hresolve
          exact congrArg (tag :: ·) (ih (Nat.succ.inj hlength) hrest)

/-- Instances have no defaults. -/
theorem resolveFrom_defaultAt {tags : List TypeTag} {modes : List ParameterMode}
    (hresolve : resolveFrom member index required tags modes = .ok list) {position : Nat}
    {tag : TypeTag} (htag : tags[position]? = some tag) (hkind : tag.kind = .wrapped) :
    list.defaultAt position = none := by
  induction tags generalizing index required modes list position with
  | nil => cases htag
  | cons first tags ih =>
      cases modes with
      | nil =>
          obtain rfl := Except.ok.inj hresolve
          rfl
      | cons mode modes =>
          obtain ⟨default, rest, hdefault, hrest, rfl⟩ := resolveFrom_cons hresolve
          cases position with
          | zero =>
              obtain rfl := Option.some.inj htag
              exact defaultFor_wrapped hdefault hkind
          | succ position => exact ih hrest htag

/-- What is resolved from the parameter at `index` on, with `required` required ones before
it: required parameters, and then optional ones.  There are no more required ones when an
optional one came before. -/
structure ResolvedFrom (index required : Nat) (list : ParameterList) : Prop where
  required_le : required ≤ list.required
  required_le_end : list.required ≤ index + list.arity
  required_eq : required < index → list.required = required
  isSome_defaultAt : ∀ position < list.arity,
    (list.defaultAt position).isSome = true ↔ list.required ≤ index + position

namespace ResolvedFrom

theorem nothing (hrequired : required ≤ index) : ResolvedFrom index required ⟨[], required⟩ where
  required_le := Nat.le_refl required
  required_le_end := hrequired
  required_eq _ := rfl
  isSome_defaultAt := nofun

variable {rest : ParameterList}

theorem isSome_succ (hrest : rest.ResolvedFrom (index + 1) required) {position : Nat}
    (hposition : position + 1 < rest.arity + 1) :
    (rest.defaultAt position).isSome = true ↔ rest.required ≤ index + (position + 1) := by
  have hdefault := hrest.isSome_defaultAt position (Nat.lt_of_succ_lt_succ hposition)
  rwa [Nat.add_right_comm] at hdefault

theorem consRequired (tag : TypeTag) (hfirst : index ≤ required)
    (hrest : rest.ResolvedFrom (index + 1) (required + 1)) :
    ResolvedFrom index required { rest with parameters := ⟨tag, none⟩ :: rest.parameters } where
  required_le := Nat.le_of_succ_le hrest.required_le
  required_le_end := by
    have hend := hrest.required_le_end
    simp only [arity, List.length_cons] at hend ⊢
    omega
  required_eq hlt := absurd hlt (Nat.not_lt.mpr hfirst)
  isSome_defaultAt
    | 0, _ => by
        have hpast : ¬ rest.required ≤ index + 0 := by
          have hle := hrest.required_le
          omega
        exact iff_of_false Bool.false_ne_true hpast
    | _ + 1, hposition => hrest.isSome_succ hposition

theorem consOptional (tag : TypeTag) (default : Value) (hrequired : required ≤ index)
    (hrest : rest.ResolvedFrom (index + 1) required) :
    ResolvedFrom index required
      { rest with parameters := ⟨tag, some default⟩ :: rest.parameters } where
  required_le := hrest.required_le
  required_le_end := by
    have heq := hrest.required_eq (Nat.lt_succ_of_le hrequired)
    simp only [heq]
    omega
  required_eq _ := hrest.required_eq (Nat.lt_succ_of_le hrequired)
  isSome_defaultAt
    | 0, _ => by
        have heq := hrest.required_eq (Nat.lt_succ_of_le hrequired)
        exact iff_of_true rfl (heq ▸ hrequired)
    | _ + 1, hposition => hrest.isSome_succ hposition

end ResolvedFrom

/-- The count of required parameters never runs ahead of the index, and stands still from the
first optional parameter on. -/
theorem resolveFrom_resolvedFrom {tags : List TypeTag} {modes : List ParameterMode}
    (hrequired : required ≤ index)
    (hresolve : resolveFrom member index required tags modes = .ok list) :
    list.ResolvedFrom index required := by
  induction tags generalizing index required modes list with
  | nil =>
      obtain rfl := Except.ok.inj hresolve
      exact .nothing hrequired
  | cons tag tags ih =>
      cases modes with
      | nil =>
          obtain rfl := Except.ok.inj hresolve
          exact .nothing hrequired
      | cons mode modes =>
          obtain ⟨default, rest, hdefault, hrest, rfl⟩ := resolveFrom_cons hresolve
          cases default with
          | none =>
              -- A required parameter was accepted, so there was no optional one before it.
              exact .consRequired tag (le_of_defaultFor_none hdefault)
                (ih (Nat.succ_le_succ hrequired) hrest)
          | some default =>
              exact .consOptional tag default hrequired (ih (Nat.le_succ_of_le hrequired) hrest)

/-! ## The trial conversion -/

theorem checkDefaultsFrom_cons {first : ParameterType family} {rest : List (ParameterType family)}
    (hcheck : checkDefaultsFrom member list index (first :: rest) = .ok ()) :
    (∀ default, list.defaultAt index = some default →
        ∃ data, first.decode Arena.empty default = .ok data) ∧
      checkDefaultsFrom member list (index + 1) rest = .ok () := by
  rw [checkDefaultsFrom] at hcheck
  split at hcheck
  · next hnone => exact ⟨fun default hdefault => (nomatch hnone.symm.trans hdefault), hcheck⟩
  · next present hpresent =>
      split at hcheck
      · next data hdecode =>
          refine ⟨fun default hdefault => ?_, hcheck⟩
          obtain rfl := Option.some.inj (hpresent.symm.trans hdefault)
          exact ⟨data, hdecode⟩
      · cases hcheck

/-- The trial has converted every default, in an arena without instances. -/
theorem checkDefaultsFrom_decode {parameters : List (ParameterType family)} {position : Nat}
    {parameter : ParameterType family} {default : Value}
    (hcheck : checkDefaultsFrom member list index parameters = .ok ())
    (hparameter : parameters[position]? = some parameter)
    (hdefault : list.defaultAt (index + position) = some default) :
    ∃ data, parameter.decode Arena.empty default = .ok data := by
  induction parameters generalizing index position with
  | nil => cases hparameter
  | cons first rest ih =>
      obtain ⟨hfirst, hrest⟩ := checkDefaultsFrom_cons hcheck
      cases position with
      | zero =>
          obtain rfl := Option.some.inj hparameter
          exact hfirst default hdefault
      | succ position =>
          rw [← Nat.succ_add_eq_add_succ] at hdefault
          exact ih hrest hparameter hdefault

/-! ## Accepted lists -/

section Accepted

variable {parameters : List (ParameterType family)} {modes : List ParameterMode}

/-- An accepted list was resolved, one mode for each parameter, and its defaults were tried
out. -/
theorem of_declare (hdeclare : declare member parameters modes = .ok list) :
    modes.length = parameters.length ∧
      resolveFrom member 0 0 (parameters.map (·.tag)) modes = .ok list ∧
      checkDefaultsFrom member list 0 parameters = .ok () := by
  rw [declare] at hdeclare
  split at hdeclare
  · cases hdeclare
  · next resolved hresolve =>
      split at hdeclare
      · cases hdeclare
      · next hcheck =>
          obtain rfl := Except.ok.inj hdeclare
          rw [resolve, List.length_map] at hresolve
          split at hresolve
          · next hlength => exact ⟨hlength, hresolve, hcheck⟩
          · cases hresolve

/-- The list has an entry for each parameter.  The required ones come first, and exactly the
others have a default. -/
structure Fits (list : ParameterList) (parameters : List (ParameterType family)) : Prop where
  arity_eq : list.arity = parameters.length
  required_le : list.required ≤ list.arity
  isSome_defaultAt : ∀ index < list.arity,
    (list.defaultAt index).isSome = true ↔ list.required ≤ index

theorem Fits.exists_default (hfits : list.Fits parameters) (hrequired : list.required ≤ index)
    (hindex : index < list.arity) : ∃ default, list.defaultAt index = some default :=
  Option.isSome_iff_exists.mp ((hfits.isSome_defaultAt index hindex).mpr hrequired)

theorem fits_of_declare (hdeclare : declare member parameters modes = .ok list) :
    list.Fits parameters := by
  obtain ⟨hlength, hresolve, -⟩ := of_declare hdeclare
  obtain ⟨-, hend, -, hdefaults⟩ := resolveFrom_resolvedFrom (Nat.le_refl 0) hresolve
  simp only [Nat.zero_add] at hend hdefaults
  have htags := resolveFrom_tags (by rw [hlength, List.length_map]) hresolve
  refine ⟨?_, hend, hdefaults⟩
  rw [arity, ← List.length_map (·.tag), htags, List.length_map]

/-- Parameters that are all required resolve to the list in which they are. -/
theorem resolveFrom_required (tags : List TypeTag) :
    resolveFrom member index index tags (List.replicate tags.length .required) =
      .ok ⟨tags.map fun tag => ⟨tag, none⟩, index + tags.length⟩ := by
  induction tags generalizing index with
  | nil => rfl
  | cons tag tags ih =>
      have hfirst : defaultFor member index index tag .required = .ok none :=
        if_neg (Nat.lt_irrefl index)
      simp only [List.length_cons, List.replicate_succ, resolveFrom, hfirst, Option.isNone_none,
        if_true, ih, List.map_cons, Nat.add_right_comm, Nat.add_assoc]

/-- A list without defaults has none to be tried out. -/
theorem checkDefaultsFrom_of_none (hnone : ∀ position, list.defaultAt position = none) :
    checkDefaultsFrom member list index parameters = .ok () := by
  induction parameters generalizing index with
  | nil => rfl
  | cons parameter rest ih =>
      rw [checkDefaultsFrom, hnone]
      exact ih

theorem defaultAt_requiredOnly (tags : List TypeTag) (position : Nat) :
    (requiredOnly tags).defaultAt position = none := by
  simp only [defaultAt, requiredOnly, List.getElem?_map]
  cases tags[position]? <;> rfl

/-- To declare that all parameters are required is always accepted. -/
theorem declare_required (member : String) (parameters : List (ParameterType family)) :
    declare member parameters (List.replicate parameters.length .required) =
      .ok (requiredOnly (parameters.map (·.tag))) := by
  have hresolve : resolve member (parameters.map (·.tag))
      (List.replicate parameters.length .required) =
      .ok (requiredOnly (parameters.map (·.tag))) := by
    have hfrom : resolveFrom member 0 0 (parameters.map (·.tag))
        (List.replicate (parameters.map (·.tag)).length .required) = .ok ⟨_, _⟩ :=
      resolveFrom_required _
    rw [List.length_map, Nat.zero_add] at hfrom
    rw [resolve, List.length_map, List.length_replicate, if_pos rfl, hfrom]
    simp only [requiredOnly, List.length_map]
  rw [declare, hresolve]
  simp only [checkDefaultsFrom_of_none (defaultAt_requiredOnly _)]

theorem requiredOnly_fits : (requiredOnly (parameters.map (·.tag))).Fits parameters where
  arity_eq := by simp [arity, requiredOnly]
  required_le := by simp [arity, requiredOnly]
  isSome_defaultAt index hindex := by
    have hlt : index < parameters.length := by simpa [arity, requiredOnly] using hindex
    simp [defaultAt, requiredOnly, hlt]

end Accepted

end ParameterList

end NativeBridge
