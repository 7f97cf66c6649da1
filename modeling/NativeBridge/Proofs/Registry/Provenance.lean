import NativeBridge.Proofs.Registry.Agreement

/-!
# Where the entry points of a class come from

What a registered class hands to the virtual machine was made by the bridge itself, for
this class: its hook for new instances, its constructor, and all its members except for
the hand-written ones.  So what is known about calls to such entry points holds of every
class that was set up, however that was done.
-/

namespace NativeBridge

variable {schema : Schema} {Vm VmClass : Type}

/-- The hooks for new instances that registrations make for a class. -/
inductive EntryPoint.Hook (owner : schema.Class) : EntryPoint schema → Prop
  | allocation (initial : Task schema.World (schema.Content owner)) :
      Hook owner (defaultAllocation owner initial)
  | refusal (className : String) : Hook owner (refusedAllocation owner className)

theorem EntryPoint.Hook.boundFor {owner : schema.Class} {entry : EntryPoint schema}
    (hhook : entry.Hook owner) : entry.BoundFor owner := by
  cases hhook with
  | allocation initial => exact ⟨.allocation owner initial, trivial, rfl, rfl⟩
  | refusal className => exact ⟨.refusal owner className, trivial, rfl, rfl⟩

namespace ClassRecord

variable {record after : ClassRecord schema VmClass} {member : Member schema}

/-- The bridge made what is on record for the class of the record, hand-written members
apart.  Instances are made by the constructor, and by a hook as long as there is none. -/
structure Made (record : ClassRecord schema VmClass) : Prop where
  members : ∀ member ∈ record.members, member.kind ≠ .raw → member.Made record.owner
  constructor : ∀ member, record.constructor = some member →
    member.MadeConstructor record.owner ∧ record.allocator = member.entry
  hook : record.constructor = none → record.allocator.Hook record.owner

theorem Made.addMember (hmade : record.Made) (hadd : record.addMember member = .ok after)
    (hmember : member.kind ≠ .raw → member.Made record.owner) : after.Made := by
  obtain ⟨-, rfl⟩ := addMember_eq_ok hadd
  refine ⟨fun present hpresent => ?_, hmade.constructor, hmade.hook⟩
  rcases List.mem_append.mp hpresent with hold | hnew
  · exact hmade.members present hold
  · rwa [List.mem_singleton.mp hnew]

theorem Made.setConstructor (hmade : record.Made)
    (hset : record.setConstructor member = .ok after)
    (hmember : member.MadeConstructor record.owner) : after.Made := by
  obtain ⟨-, rfl⟩ := setConstructor_eq_ok hset
  refine ⟨hmade.members, ?_, fun hnone => nomatch hnone⟩
  rintro present ⟨⟩
  exact ⟨hmember, rfl⟩

/-- A class offers an entry point to scripts: as its hook for new instances, as its constructor or
as a member that is not hand-written. -/
inductive Offers (record : ClassRecord schema VmClass) : EntryPoint schema → Prop
  | allocator : Offers record record.allocator
  | constructor {member : Member schema} (hconstructor : record.constructor = some member) :
      Offers record member.entry
  | member {member : Member schema} (hmember : member ∈ record.members)
      (hkind : member.kind ≠ .raw) : Offers record member.entry

theorem Made.boundFor {entry : EntryPoint schema} (hmade : record.Made)
    (hoffers : record.Offers entry) : entry.BoundFor record.owner := by
  cases hoffers with
  | constructor hconstructor => exact (hmade.constructor _ hconstructor).1.boundFor
  | member hmember hkind => exact (hmade.members _ hmember hkind).boundFor
  | allocator =>
      cases hconstructor : record.constructor with
      | none => exact (hmade.hook hconstructor).boundFor
      | some member =>
          obtain ⟨hmember, hallocator⟩ := hmade.constructor member hconstructor
          exact hallocator ▸ hmember.boundFor

end ClassRecord

variable [ScriptHost schema Vm VmClass]

theorem BindSite.Becomes.made {first site : BindSite schema Vm VmClass}
    {entries : List (EntryPoint schema)} (hbecomes : first.Becomes entries site)
    (hfirst : first.record.Made) : site.record.Made := by
  induction hbecomes with
  | refl => exact hfirst
  | member _ htakes ih => exact ih.addMember htakes.record_eq htakes.made
  | constructor _ htakes ih => exact ih.setConstructor htakes.record_eq htakes.made

namespace Bridge

variable {bridge : Bridge schema Vm VmClass}

/-- The bridge made what is on record for its classes. -/
def Made (bridge : Bridge schema Vm VmClass) : Prop :=
  ∀ record ∈ bridge.registry.records, record.Made

theorem Made.addClass (hmade : bridge.Made) (owner : schema.Class) (name : String)
    (scope : Option VmClass) {allocator : EntryPoint schema} (hallocator : allocator.Hook owner) :
    (Setup.left (Bridge.addClass owner name scope allocator) bridge).Made := by
  cases hcontains : bridge.registry.contains owner with
  | true =>
      rw [Setup.left, (addClass_apply owner name scope allocator bridge).1 hcontains]
      exact hmade
  | false =>
      rw [Setup.left, addClass_of_free hcontains]
      intro record hrecord
      rcases List.mem_append.mp hrecord with hold | hnew
      · exact hmade record hold
      · rw [List.mem_singleton.mp hnew]
        exact ⟨by rintro _ ⟨⟩, by rintro _ ⟨⟩, fun _ => hallocator⟩

theorem Made.bind (hmade : bridge.Made) (owner : schema.Class)
    (declarations : List (Declaration schema owner)) :
    (Setup.left (Bridge.bind owner declarations) bridge).Made := by
  rw [Setup.left, bind_apply]
  cases hfound : bridge.registry.record? owner with
  | none => exact hmade
  | some record =>
      obtain ⟨hrecord, howner⟩ := Registry.record?_eq_some hfound
      have hpath := Declaration.bindAll_becomes declarations
        (⟨bridge.vm, record⟩ : BindSite _ _ _) howner
      have hchanged := hpath.made (hmade record hrecord)
      intro later hlater
      obtain ⟨present, hpresent, rfl⟩ := List.mem_map.mp hlater
      split
      · exact hchanged
      · exact hmade present hpresent

theorem Reachable.made (hbridge : bridge.Reachable) : bridge.Made := by
  induction hbridge with
  | new => rintro _ ⟨⟩
  | register _ owner name scope initial ih =>
      exact ih.addClass owner name scope (.allocation initial)
  | declare _ owner name scope ih => exact ih.addClass owner name scope (.refusal name)
  | bind _ owner declarations ih => exact ih.bind owner declarations
  | elsewhere _ hregistry ih =>
      rw [Made, hregistry]
      exact ih

theorem Reachable.setUp (hbridge : bridge.Reachable) (step : SetupStep schema VmClass) :
    (bridge.setUp step).Reachable := by
  cases step with
  | defineModule name scope => exact .elsewhere hbridge rfl
  | register owner name scope initial => exact hbridge.register owner name scope initial
  | declare owner name scope => exact hbridge.declare owner name scope
  | bind owner declarations => exact hbridge.bind owner declarations

theorem Reachable.setUpAll (hbridge : bridge.Reachable) (steps : List (SetupStep schema VmClass)) :
    (bridge.setUpAll steps).Reachable := by
  induction steps generalizing bridge with
  | nil => exact hbridge
  | cons step rest ih => exact ih (hbridge.setUp step)

/-- In every reachable bridge what a class offers was bound for it by the bridge itself. -/
theorem Reachable.boundFor (hbridge : bridge.Reachable) {record : ClassRecord schema VmClass}
    (hrecord : record ∈ bridge.registry.records) {entry : EntryPoint schema}
    (hoffers : record.Offers entry) : entry.BoundFor record.owner :=
  (hbridge.made record hrecord).boundFor hoffers

end Bridge

end NativeBridge
