import Mathlib.Data.List.Nodup
import NativeBridge.Bridge
import NativeBridge.Proofs.Registry.Atomicity
import NativeBridge.Registry.RecordingHost
import NativeBridge.Sample.World

/-!
# Rejected registrations

A bridge tells the program that a class or a member could not be bound.  This file says
when a rejection leaves the registry and the virtual machine as they were: always,
except that a property or a list of fields may be rejected after some of its entry
points were bound.
-/

namespace NativeBridge

variable {schema : Schema} {Vm VmClass : Type}

namespace Registry

variable {registry : Registry schema VmClass} {record after : ClassRecord schema VmClass}

def Distinct (registry : Registry schema VmClass) : Prop :=
  (registry.records.map (·.owner)).Nodup

theorem record?_eq_some {owner : schema.Class}
    (hrecord : registry.record? owner = some record) :
    record ∈ registry.records ∧ record.owner = owner := by
  rw [record?] at hrecord
  exact ⟨List.mem_of_find?_eq_some hrecord, by simpa using List.find?_some hrecord⟩

theorem add_distinct (hdistinct : registry.Distinct)
    (hfree : registry.contains record.owner = false) : (registry.add record).Distinct := by
  rw [Distinct, add, List.map_append, List.map_singleton, List.nodup_append]
  refine ⟨hdistinct, List.nodup_singleton _, ?_⟩
  intro owner howner last hlast hsame
  obtain ⟨present, hpresent, rfl⟩ := List.mem_map.mp howner
  rw [List.mem_singleton.mp hlast] at hsame
  have hfound : (registry.record? record.owner).isSome = true := by
    rw [record?]
    exact List.find?_isSome.mpr ⟨present, hpresent, by simpa using hsame⟩
  simp [contains, hfound] at hfree

theorem replace_distinct (hdistinct : registry.Distinct) (record : ClassRecord schema VmClass) :
    (registry.replace record).Distinct := by
  have howners : (registry.replace record).records.map (·.owner) =
      registry.records.map (·.owner) := by
    rw [replace, List.map_map]
    apply List.map_congr_left
    intro present _
    simp only [Function.comp_apply]
    split
    · next hsame => exact hsame.symm
    · rfl
  rw [Distinct, howners]
  exact hdistinct

/-- Putting a record in its place changes the registry exactly when the record is
another one. -/
theorem replace_eq_self_iff (hdistinct : registry.Distinct) (hrecord : record ∈ registry.records)
    (howner : after.owner = record.owner) : registry.replace after = registry ↔ after = record := by
  constructor
  · intro hsame
    have hmap : registry.records.map (fun present =>
        if present.owner = after.owner then after else present) = registry.records.map id := by
      rw [List.map_id]
      exact congrArg Registry.records hsame
    have hat := List.map_inj_left.mp hmap record hrecord
    rwa [if_pos howner.symm] at hat
  · rintro rfl
    have hmap : registry.records.map (fun present =>
        if present.owner = after.owner then after else present) = registry.records.map id := by
      apply List.map_congr_left
      intro present hpresent
      split
      · next hsame => exact List.inj_on_of_nodup_map hdistinct hrecord hpresent hsame.symm
      · rfl
    rw [List.map_id] at hmap
    rw [replace, hmap]

end Registry

/-- The bridge that a setup step leaves, also when it is rejected. -/
def Setup.left {Outcome : Type} (setup : Setup schema Vm VmClass Outcome)
    (bridge : Bridge schema Vm VmClass) : Bridge schema Vm VmClass :=
  match setup bridge with
  | .ok _ after | .error _ after => after

namespace Bridge

variable [ScriptHost schema Vm VmClass]

/-! ## One setup step -/

theorem addClass_apply (owner : schema.Class) (name : String) (scope : Option VmClass)
    (allocator : EntryPoint schema) (bridge : Bridge schema Vm VmClass) :
    (bridge.registry.contains owner = true →
      addClass owner name scope allocator bridge = .error (.duplicateType name) bridge) ∧
    (bridge.registry.contains owner = false →
      ∃ vm record, record.owner = owner ∧ addClass owner name scope allocator bridge =
        .ok () { bridge with vm, registry := bridge.registry.add record }) := by
  have hget : (get : Setup schema Vm VmClass _) bridge = .ok bridge bridge := rfl
  rw [addClass]
  constructor
  · intro htaken
    simp only [Bind.bind, EStateM.bind, hget, htaken, if_true]
    rfl
  · intro hfree
    simp only [Bind.bind, EStateM.bind, hget, hfree]
    exact ⟨_, _, rfl, rfl⟩

/-- A class that is registered already is rejected, and nothing else. -/
theorem addClass_rejected {owner : schema.Class} {name : String} {scope : Option VmClass}
    {allocator : EntryPoint schema} {bridge after : Bridge schema Vm VmClass} {error : BindError}
    (hrejected : addClass owner name scope allocator bridge = .error error after) :
    after = bridge := by
  obtain ⟨htaken, hfree⟩ := addClass_apply owner name scope allocator bridge
  cases hcontains : bridge.registry.contains owner with
  | true =>
      rw [htaken hcontains] at hrejected
      cases hrejected
      rfl
  | false =>
      obtain ⟨vm, record, -, hadded⟩ := hfree hcontains
      rw [hadded] at hrejected
      cases hrejected

theorem bind_apply (owner : schema.Class) (declarations : List (Declaration schema owner))
    (bridge : Bridge schema Vm VmClass) :
    Bridge.bind owner declarations bridge =
      match bridge.registry.record? owner with
      | none => .error (.typeNotFound (schema.nativeName owner)) bridge
      | some record =>
        .ok (Declaration.bindAll declarations ⟨bridge.vm, record⟩).1
          { bridge with
            vm := (Declaration.bindAll declarations ⟨bridge.vm, record⟩).2.vm
            registry := bridge.registry.replace
              (Declaration.bindAll declarations ⟨bridge.vm, record⟩).2.record } := by
  have hget : (get : Setup schema Vm VmClass _) bridge = .ok bridge bridge := rfl
  cases hrecord : bridge.registry.record? owner <;>
    simp only [Bridge.bind, Bind.bind, EStateM.bind, hget, classRecord, Registry.lookup,
      hrecord] <;> rfl

/-- A class that is not registered is rejected, and nothing else. -/
theorem bind_rejected {owner : schema.Class} {declarations : List (Declaration schema owner)}
    {bridge after : Bridge schema Vm VmClass} {error : BindError}
    (hrejected : Bridge.bind owner declarations bridge = .error error after) :
    after = bridge := by
  rw [bind_apply] at hrejected
  split at hrejected
  · cases hrejected
    rfl
  · cases hrejected

/-- What a rejected declaration leaves of the bridge, in terms of the bind site of its
class. -/
theorem bind_singleton_rejected {owner : schema.Class} {declaration : Declaration schema owner}
    {bridge after : Bridge schema Vm VmClass} {report : BindReport} {error : BindError}
    (hbind : Bridge.bind owner [declaration] bridge = .ok report after)
    (hreport : report.rejection = some error) :
    ∃ record, ∃ site : BindSite schema Vm VmClass,
      bridge.registry.record? owner = some record ∧
      declaration.bind ⟨bridge.vm, record⟩ = .error error site ∧
      after = { bridge with vm := site.vm, registry := bridge.registry.replace site.record } := by
  rw [bind_apply] at hbind
  cases hrecord : bridge.registry.record? owner with
  | none =>
      rw [hrecord] at hbind
      cases hbind
  | some record =>
      rw [hrecord] at hbind
      cases hdeclared : declaration.bind (⟨bridge.vm, record⟩ : BindSite schema Vm VmClass) with
      | ok value site =>
          simp only [Declaration.bindAll, hdeclared] at hbind
          cases hbind
          cases hreport
      | error cause site =>
          simp only [Declaration.bindAll, hdeclared] at hbind
          cases hbind
          cases hreport
          exact ⟨record, site, rfl, hdeclared, rfl⟩

/-! ## Reachable bridges -/

/-- The states of a bridge.  Whatever else happens, to instances and in the virtual
machine, does not touch the registry. -/
inductive Reachable : Bridge schema Vm VmClass → Prop
  | new (vm : Vm) (world : schema.World) : Reachable (Bridge.new vm world)
  | register {bridge} (hbridge : Reachable bridge) (owner : schema.Class) (name : String)
      (scope : Option VmClass) (initial : Task schema.World (schema.Content owner)) :
      Reachable (Setup.left (Bridge.register owner name scope initial) bridge)
  | declare {bridge} (hbridge : Reachable bridge) (owner : schema.Class) (name : String)
      (scope : Option VmClass) : Reachable (Setup.left (Bridge.declare owner name scope) bridge)
  | bind {bridge} (hbridge : Reachable bridge) (owner : schema.Class)
      (declarations : List (Declaration schema owner)) :
      Reachable (Setup.left (Bridge.bind owner declarations) bridge)
  | elsewhere {bridge after} (hbridge : Reachable bridge)
      (hregistry : after.registry = bridge.registry) : Reachable after

theorem addClass_distinct {bridge : Bridge schema Vm VmClass} (hdistinct : bridge.registry.Distinct)
    (owner : schema.Class) (name : String) (scope : Option VmClass)
    (allocator : EntryPoint schema) :
    (Setup.left (addClass owner name scope allocator) bridge).registry.Distinct := by
  obtain ⟨htaken, hfree⟩ := addClass_apply owner name scope allocator bridge
  rw [Setup.left]
  cases hcontains : bridge.registry.contains owner with
  | true =>
      rw [htaken hcontains]
      exact hdistinct
  | false =>
      obtain ⟨vm, record, howner, hadded⟩ := hfree hcontains
      rw [hadded]
      exact Registry.add_distinct hdistinct (howner ▸ hcontains)

/-- In a reachable bridge no native class has two records. -/
theorem Reachable.distinct {bridge : Bridge schema Vm VmClass} (hbridge : bridge.Reachable) :
    bridge.registry.Distinct := by
  induction hbridge with
  | new => exact List.nodup_nil
  | register _ owner name scope initial ih => exact addClass_distinct ih _ _ _ _
  | declare _ owner name scope ih => exact addClass_distinct ih _ _ _ _
  | @bind bridge _ owner declarations ih =>
      rw [Setup.left, bind_apply]
      cases bridge.registry.record? owner with
      | none => exact ih
      | some record => exact Registry.replace_distinct ih _
  | elsewhere _ hregistry ih => rwa [hregistry]

/-! ## When a rejection changes nothing -/

/-- The registry tells whether a record changed, and the record whether anything did. -/
theorem Reachable.withSite_eq_iff {bridge : Bridge schema Vm VmClass} (hbridge : bridge.Reachable)
    {record : ClassRecord schema VmClass} {site : BindSite schema Vm VmClass}
    (hmem : record ∈ bridge.registry.records) (howner : site.record.owner = record.owner)
    (hsite : site.record = record → site = ⟨bridge.vm, record⟩) :
    { bridge with vm := site.vm, registry := bridge.registry.replace site.record } = bridge ↔
      site = ⟨bridge.vm, record⟩ := by
  constructor
  · intro hsame
    have hregistry := congrArg Bridge.registry hsame
    exact hsite ((Registry.replace_eq_self_iff hbridge.distinct hmem howner).mp hregistry)
  · rintro rfl
    have hregistry : bridge.registry.replace record = bridge.registry :=
      (Registry.replace_eq_self_iff hbridge.distinct hmem rfl).mpr rfl
    simp only [hregistry]

/-- In every reachable state a rejected registration changes neither the registry nor
the virtual machine, and the same holds for a declaration of a single entry point.  A
property or a list of fields changes nothing exactly when its first entry point was the
rejected one. -/
theorem rejection_unchanged_iff {bridge : Bridge schema Vm VmClass} (hbridge : bridge.Reachable)
    (owner : schema.Class) :
    (∀ name scope initial error after,
      Bridge.register owner name scope initial bridge = .error error after → after = bridge) ∧
    (∀ name scope error after,
      Bridge.declare owner name scope bridge = .error error after → after = bridge) ∧
    (∀ declarations error after,
      Bridge.bind owner declarations bridge = .error error after → after = bridge) ∧
    ∀ (declaration : Declaration schema owner) report error after,
      Bridge.bind owner [declaration] bridge = .ok report after →
      report.rejection = some error →
        (declaration.isSingle = true → after = bridge) ∧
        (after = bridge ↔ ∃ record first rest cause,
          bridge.registry.record? owner = some record ∧ declaration.parts = first :: rest ∧
          first.bind (⟨bridge.vm, record⟩ : BindSite schema Vm VmClass) =
            .error cause ⟨bridge.vm, record⟩) := by
  refine ⟨fun _ _ _ _ _ hrejected => addClass_rejected hrejected,
    fun _ _ _ _ hrejected => addClass_rejected hrejected,
    fun _ _ _ hrejected => bind_rejected hrejected, ?_⟩
  intro declaration report error after hbind hreport
  obtain ⟨record, site, hrecord, hrejected, rfl⟩ := bind_singleton_rejected hbind hreport
  obtain ⟨howner, hsite, hfirst⟩ := Declaration.rejected_unchanged_iff hrejected
  have hmem := (Registry.record?_eq_some hrecord).1
  rw [hbridge.withSite_eq_iff hmem howner hsite]
  refine ⟨fun hsingle => (Declaration.bind_atomic hsingle).rejected hrejected, ?_⟩
  rw [hfirst]
  constructor
  · rintro ⟨first, rest, cause, hparts, hcause⟩
    exact ⟨record, first, rest, cause, hrecord, hparts, hcause⟩
  · rintro ⟨present, first, rest, cause, hpresent, hparts, hcause⟩
    rw [hrecord, Option.some.injEq] at hpresent
    subst hpresent
    exact ⟨first, rest, cause, hparts, hcause⟩

section Sample

open Sample

/-- The hit points of a hero as a property. -/
def heroHp : Declaration Sample.schema .hero :=
  .property "hp" ⟨.integer .u32, rfl⟩ (fun hero => pure hero.hp) fun hp =>
    modify fun (hero, notes) => ({ hero with hp }, notes)

/-- A writer for the hit points of a hero. -/
def heroSetter : Declaration Sample.schema .hero :=
  .setter "hp" ⟨.integer .u32, rfl⟩ fun hp =>
    modify fun (hero, notes) => ({ hero with hp }, notes)

def bindHero (declarations : List (Declaration Sample.schema .hero)) :
    Setup Sample.schema (RecordingHost Sample.schema) Nat BindReport :=
  Bridge.bind .hero declarations

/-- A bridge that has registered heroes and carried out declarations on them. -/
def heroBridge (declarations : List (Declaration Sample.schema .hero)) :
    Bridge Sample.schema (RecordingHost Sample.schema) Nat :=
  Setup.left (bindHero declarations)
    (Setup.left (Bridge.register .hero "Hero" none (pure ({} : Hero)))
      (Bridge.new (.new none) .empty))

theorem heroBridge_reachable (declarations : List (Declaration Sample.schema .hero)) :
    (heroBridge declarations).Reachable :=
  .bind (.register (.new _ _) _ _ _ _) _ declarations

/-- A property whose reader is the rejected one changes nothing. -/
theorem rejection_unchanged_repeated :
    (heroBridge [heroHp]).Reachable ∧
      ∃ report after, bindHero [heroHp] (heroBridge [heroHp]) = .ok report after ∧
        report.rejection = some (.duplicateMember "hp" .getter) ∧
        after = heroBridge [heroHp] := by
  refine ⟨heroBridge_reachable _, _, _, rfl, rfl, ?_⟩
  have hkeeps := (rejection_unchanged_iff (heroBridge_reachable [heroHp]) .hero).2.2.2
    heroHp _ _ _ rfl rfl
  exact hkeeps.2.mpr ⟨_, _, _, _, rfl, rfl, rfl⟩

/-- A property whose writer is rejected leaves its reader bound, in the registry and in
the virtual machine. -/
theorem rejected_property_leaves_getter :
    ∃ report after, bindHero [heroHp] (heroBridge [heroSetter]) = .ok report after ∧
      report.rejection = some (.duplicateMember "hp=" .setter) ∧
      ((heroBridge [heroSetter]).vm.method? 0 "hp").isSome = false ∧
      (after.vm.method? 0 "hp").isSome = true ∧
      ((heroBridge [heroSetter]).registry.records.map (·.members.length)) = [1] ∧
      (after.registry.records.map (·.members.length)) = [2] := by
  exact ⟨_, _, rfl, rfl, rfl, rfl, rfl, rfl⟩

end Sample

end Bridge

end NativeBridge
