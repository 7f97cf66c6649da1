import NativeBridge.Proofs.Registry.Rejection
import NativeBridge.Proofs.Registry.StructFields

/-!
# What it means to bind an overload set

An overload set is bound by a name and perhaps a signature, and it loses the types of its
methods on the way.  Nothing depends on that: if the signature names one method, the set is
bound as this method alone would be, with the same checks and the same entry point.  If it
names none or several, the set is rejected and nothing is bound.
-/

namespace NativeBridge

variable {schema : Schema} {owner : schema.Class} {Vm VmClass : Type}

/-! ## The methods that are meant -/

namespace OverloadSet

variable {set : OverloadSet schema owner} {wanted : Option Signature}
variable {candidate : NativeMethod schema owner}

/-- The candidates with the wanted signature, if there is a wanted one. -/
def named (set : OverloadSet schema owner) (wanted : Option Signature) :
    List (NativeMethod schema owner) :=
  set.candidates.filter fun candidate => ∀ signature ∈ wanted, candidate.signature = signature

theorem matching_eq_named (set : OverloadSet schema owner) (wanted : Option Signature) :
    set.matching wanted = set.named wanted := by
  cases wanted <;> simp [matching, named]

theorem select_of_named_nil (hnone : set.named wanted = []) :
    set.select wanted = .error (.noMatchingOverload set.name (wanted.map (·.describe))) := by
  rw [select, matching_eq_named, hnone]

theorem select_of_named_several (hseveral : 1 < (set.named wanted).length) :
    set.select wanted = .error (.ambiguousOverload set.name (set.named wanted).length) := by
  rw [select, matching_eq_named]
  cases hnamed : set.named wanted with
  | nil => simp [hnamed] at hseveral
  | cons first rest =>
      cases rest with
      | nil => simp [hnamed] at hseveral
      | cons second rest => rfl

theorem select_of_named_single (hsingle : set.named wanted = [candidate]) :
    set.select wanted = .ok candidate := by
  rw [select, matching_eq_named, hsingle]

end OverloadSet

/-! ## Binding -/

namespace Declaration

variable [ScriptHost schema Vm VmClass]
variable {set : OverloadSet schema owner} {wanted : Option Signature}
variable {modes : List ParameterMode} {candidate : NativeMethod schema owner}

theorem bind_overload_of_error {error : BindError} (hselect : set.select wanted = .error error) :
    ((overload set wanted modes).bind : Binding schema Vm VmClass Unit) = throw error := by
  simp only [bind, Binding.bindOverload, hselect]
  rfl

/-- What is left of a method without its types is enough to bind it. -/
theorem bind_overload_of_ok (hselect : set.select wanted = .ok candidate) :
    ((overload set wanted modes).bind : Binding schema Vm VmClass Unit) =
      (method set.name (some modes) candidate).bind := by
  simp only [bind, Binding.bindOverload, hselect]
  rfl

/-- Declarations that do the same can stand for one another in a list. -/
theorem bindAll_replace {first second : Declaration schema owner}
    (hsame : (first.bind : Binding schema Vm VmClass Unit) = second.bind)
    (before after : List (Declaration schema owner)) (site : BindSite schema Vm VmClass) :
    bindAll (before ++ first :: after) site = bindAll (before ++ second :: after) site := by
  induction before generalizing site with
  | nil => rw [List.nil_append, List.nil_append, bindAll, bindAll, hsame]
  | cons declaration rest ih =>
      simp only [List.cons_append, bindAll]
      cases declaration.bind site with
      | ok value next => simp only [ih]
      | error error next => rfl

end Declaration

namespace Bridge

variable [ScriptHost schema Vm VmClass]

/-- Declarations that do the same bind the same, with the same report. -/
theorem bind_replace {first second : Declaration schema owner}
    (hsame : (first.bind : Binding schema Vm VmClass Unit) = second.bind)
    (before after : List (Declaration schema owner)) (bridge : Bridge schema Vm VmClass) :
    Bridge.bind owner (before ++ first :: after) bridge =
      Bridge.bind owner (before ++ second :: after) bridge := by
  simp only [bind_apply, Declaration.bindAll_replace hsame]

/-- A declaration that is rejected at once leaves the bridge as it was. -/
theorem Reachable.bind_throw {bridge : Bridge schema Vm VmClass} (hbridge : bridge.Reachable)
    (hregistered : bridge.registry.contains owner = true) {declaration : Declaration schema owner}
    {error : BindError}
    (hthrows : (declaration.bind : Binding schema Vm VmClass Unit) = throw error) :
    Bridge.bind owner [declaration] bridge = .ok ⟨0, some error⟩ bridge := by
  obtain ⟨record, hrecord⟩ := Option.isSome_iff_exists.mp hregistered
  have hmem := (Registry.record?_eq_some hrecord).1
  have hrejected :
      Declaration.bindAll [declaration] (⟨bridge.vm, record⟩ : BindSite schema Vm VmClass) =
        (⟨0, some error⟩, ⟨bridge.vm, record⟩) := by
    rw [Declaration.bindAll, hthrows]
    rfl
  have hsame : { bridge with registry := bridge.registry.replace record } = bridge :=
    (hbridge.withSite_eq_iff hmem rfl fun _ => rfl).mpr rfl
  rw [bind_apply, hrecord]
  simp only [hrejected, hsame]

/-- An overload set is bound as the one method that is meant.  If none or several are, it is
rejected, with their number, and nothing changes.  If one is, then binding the set gives what
binding this method under the name of the set gives, among any other declarations and in any
state; and once it is accepted, the entry point on record is that of the method. -/
theorem overload_bound_as_method {bridge : Bridge schema Vm VmClass} (hbridge : bridge.Reachable)
    (set : OverloadSet schema owner) (wanted : Option Signature) (modes : List ParameterMode) :
    let overload := Declaration.overload set wanted modes
    let named := set.named wanted
    (named = [] → bridge.registry.contains owner = true →
      Bridge.bind owner [overload] bridge =
        .ok ⟨0, some (.noMatchingOverload set.name (wanted.map (·.describe)))⟩ bridge) ∧
    (1 < named.length → bridge.registry.contains owner = true →
      Bridge.bind owner [overload] bridge =
        .ok ⟨0, some (.ambiguousOverload set.name named.length)⟩ bridge) ∧
    ∀ candidate, named = [candidate] →
      (∀ before after, Bridge.bind owner (before ++ overload :: after) bridge =
        Bridge.bind owner (before ++ .method set.name (some modes) candidate :: after) bridge) ∧
      ∀ site after : BindSite schema Vm VmClass, site.record.owner = owner →
        overload.bind site = .ok () after →
          ∃ list, ParameterList.declare set.name candidate.parameters modes = .ok list ∧
            after.record.member? set.name = some (candidate.member set.name .method list) := by
  intro overload named
  refine ⟨fun hnone hregistered => ?_, fun hseveral hregistered => ?_, fun candidate hsingle => ?_⟩
  · exact hbridge.bind_throw hregistered
      (Declaration.bind_overload_of_error (OverloadSet.select_of_named_nil hnone))
  · exact hbridge.bind_throw hregistered
      (Declaration.bind_overload_of_error (OverloadSet.select_of_named_several hseveral))
  · have hbind : (overload.bind : Binding schema Vm VmClass Unit) = _ :=
      Declaration.bind_overload_of_ok (OverloadSet.select_of_named_single hsingle)
    refine ⟨fun before after => bind_replace hbind before after bridge, ?_⟩
    intro site after howner haccepted
    rw [hbind] at haccepted
    obtain ⟨list, hdeclare, hentry⟩ := Binding.ofExcept_bind_eq_ok haccepted
    exact ⟨list, hdeclare,
      Binding.bindMethodEntry_member?_eq (.declared hdeclare) howner hentry⟩

section Sample

open Sample

/-- Takes the hit points of a hero and gives a number that is no script integer. -/
def boast : NativeMethod Sample.schema .hero where
  parameters := []
  result := .integer .u64
  code := .writes fun _ => do
    modify fun (hero, notes) => ({ hero with hp := default }, notes)
    return ⟨9223372036854775808, by decide⟩

/-- Reads the hit points of a hero. -/
def muster : NativeMethod Sample.schema .hero where
  parameters := []
  result := .integer .u32
  code := .reads fun hero _ => pure hero.hp

/-- Two ways to boast, the second of them twice. -/
def boasts : OverloadSet Sample.schema .hero :=
  ⟨"boast", [boast, muster, muster]⟩

/-- The signature of one method tells it apart from another that is there twice. -/
theorem overload_bound_as_method_boasts :
    (heroBridge []).Reachable ∧
    bindHero [.overload boasts (some boast.signature) []] (heroBridge []) =
      bindHero [.method "boast" (some []) boast] (heroBridge []) ∧
    bindHero [.overload boasts (some muster.signature) []] (heroBridge []) =
      .ok ⟨0, some (.ambiguousOverload "boast" 2)⟩ (heroBridge []) ∧
    bindHero [.overload ⟨"boast", []⟩ none []] (heroBridge []) =
      .ok ⟨0, some (.noMatchingOverload "boast" none)⟩ (heroBridge []) := by
  have hbridge := heroBridge_reachable []
  have hother : boast.signature ≠ muster.signature := fun hsame => by
    cases congrArg Signature.exclusive hsame
  obtain ⟨-, -, hsingle⟩ :=
    overload_bound_as_method hbridge boasts (some boast.signature) []
  obtain ⟨-, hseveral, -⟩ :=
    overload_bound_as_method hbridge boasts (some muster.signature) []
  obtain ⟨hnone, -, -⟩ :=
    overload_bound_as_method hbridge ⟨"boast", []⟩ none []
  refine ⟨hbridge, (hsingle boast ?_).1 [] [], ?_, hnone rfl rfl⟩
  · simp [OverloadSet.named, boasts, hother.symm]
  · have hnamed : boasts.named (some muster.signature) = [muster, muster] := by
      simp [OverloadSet.named, boasts, hother]
    rw [hnamed] at hseveral
    exact hseveral (by decide) rfl

end Sample

end Bridge

end NativeBridge
