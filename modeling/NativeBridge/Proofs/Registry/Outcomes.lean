import NativeBridge.Proofs.Call.Effect
import NativeBridge.Proofs.Call.Failure
import NativeBridge.Proofs.Registry.OverloadBinding
import NativeBridge.Proofs.Registry.RecordedCounts

/-!
# Calls to what classes offer

What a registered class offers to scripts was made by the bridge, hand-written members apart.
Each such entry point has an origin: the native code that was bound, with its parameter list.
What a call leaves is told by its origin.  If it fails, everything stays, but for what the code
of a method that may write left of its receiver; if it succeeds, that code and at most one new
instance are all that changes the arena.
-/

namespace NativeBridge

namespace Bridge

variable {schema : Schema} {Vm VmClass : Type} [ScriptHost schema Vm VmClass]

/-- A call to an entry point that the bridge made, if it fails, leaves the return slot and the
arena as they were: handles are as live as before, with the same class and script name, and
nothing entered the arena or left it.  The one exception is the content of the receiver of a
method that may write to it, and only if the code of the method ran; there stands what this code
left.  In every reachable bridge all that a class offers was made in this way for the class. -/
theorem failed_call_leaves :
    (∀ (origin : Origin schema) (frame : Frame) (before after : CallState schema)
      (error : CallError), origin.entry.call frame before = (.error error, after) →
        origin.FailedCall frame before error after) ∧
    ∀ bridge : Bridge schema Vm VmClass, bridge.Reachable →
      ∀ record ∈ bridge.registry.records, ∀ entry, record.Offers entry →
        entry.BoundFor record.owner :=
  ⟨fun origin _ _ _ _ hfails => origin.failed_call hfails,
    fun _ hbridge _ hrecord _ hoffers => hbridge.boundFor hrecord hoffers⟩

section Failed

open Sample

/-- The result of a method on offer is refused after its code has changed the receiver. -/
theorem failed_call_leaves_boast :
    let origin : Origin Sample.schema := .method boast (boast.signature.memberId "boast") .empty
    let bridge := heroBridge [.method "boast" none boast]
    let frame : Frame := ⟨[.wrapped ⟨0, 0⟩], 1⟩
    bridge.Reachable ∧
      (∃ record ∈ bridge.registry.records, record.Offers origin.entry ∧
        origin.entry.BoundFor record.owner) ∧
      ∃ after, origin.entry.call frame oneHero =
          (.error (.result (.unsignedOverflow 9223372036854775808)), after) ∧
        origin.FailedCall frame oneHero (.result (.unsignedOverflow 9223372036854775808)) after ∧
        after.heap.arena.occupant? ⟨0, 0⟩ = some ⟨.hero, ({} : Hero)⟩ := by
  intro origin bridge frame
  obtain ⟨hfailed, hoffered⟩ :=
    @failed_call_leaves Sample.schema (RecordingHost Sample.schema) Nat _
  obtain ⟨record, hrecords, hmembers⟩ : ∃ record, bridge.registry.records = [record] ∧
      record.members = [boast.member "boast" .method .empty] := ⟨_, rfl, rfl⟩
  have hbridge : bridge.Reachable := heroBridge_reachable _
  have hrecord : record ∈ bridge.registry.records := by simp [hrecords]
  have hmember : boast.member "boast" .method .empty ∈ record.members := by simp [hmembers]
  have hoffers : record.Offers origin.entry := .member hmember nofun
  exact ⟨hbridge, ⟨record, hrecord, hoffers, hoffered bridge hbridge record hrecord _ hoffers⟩,
    _, rfl, hfailed origin frame oneHero _ _ rfl, rfl⟩

end Failed

/-- A call that succeeds changes the arena only by what native code did: a method that writes
has new content behind its receiver, and what is made or returned as an instance is lent once,
behind the handle that is returned, which was not live.  Native code is given copies of what
stood in the arena before the call, also where an argument is the receiver.  Everything else
stays: no instance is ended, every live handle keeps its class and its name, and each but that
of the receiver its content.  In every reachable bridge all that a class offers was bound for
the class in such a way. -/
theorem successful_call_changes :
    (∀ (origin : Origin schema) (frame : Frame) (before after : CallState schema),
      origin.Bound → before.heap.arena.Reached → before.heap.arena.slots.size < UInt32.size →
        origin.entry.call frame before = (.ok (), after) →
          ∃ written made, origin.Succeeds frame before.heap written made after.heap.world ∧
            before.heap.arena.Changes written made after.returned after.heap.arena) ∧
    ∀ bridge : Bridge schema Vm VmClass, bridge.Reachable →
      ∀ record ∈ bridge.registry.records, ∀ entry, record.Offers entry →
        entry.BoundFor record.owner :=
  ⟨fun _ _ _ _ hbound hreached hsize hcall =>
      Origin.successful_call hbound hreached.consistent hsize hcall,
    fun _ hbridge _ hrecord _ hoffers => hbridge.boundFor hrecord hoffers⟩

section Succeeded

open Sample

/-- Lets a monster eat another, which is returned as it was; the eater is left without hit
points. -/
def devour : NativeMethod Sample.schema .monster where
  parameters := [⟨.object SampleClass.monster, rfl⟩]
  result := .option (.object SampleClass.monster)
  code := .writes fun (.cons eaten .nil) => do
    modify fun (monster, notes) => ({ monster with hp := default }, notes)
    return some eaten

/-- One monster with hit points, beside a slot that was emptied. -/
def hungryMonster : CallState Sample.schema where
  returned := .nil
  heap := (Heap.new Notes.empty).afterAll
    [.direct (.insert ⟨SampleClass.monster, ({} : Monster)⟩),
      .direct (.insert ⟨SampleClass.monster, ({ hp := ⟨4, by decide⟩ } : Monster)⟩),
      .direct (.finalize ⟨0, 0⟩)]

/-- A bridge on which monsters can devour each other. -/
def monsterBridge : Bridge Sample.schema (RecordingHost Sample.schema) Nat :=
  Setup.left (Bridge.bind .monster [.method "devour" none devour])
    (Setup.left (Bridge.register .monster "Monster" none (pure ({} : Monster)))
      (Bridge.new (.new none) .empty))

/-- A monster that eats itself is returned with the hit points it had, in the emptied slot,
and is left without them. -/
theorem successful_call_changes_devour :
    let list := ParameterList.requiredOnly (devour.parameters.map (·.tag))
    let origin : Origin Sample.schema := .method devour (devour.signature.memberId "devour") list
    let frame : Frame := ⟨[.wrapped ⟨1, 0⟩, .wrapped ⟨1, 0⟩], 1⟩
    let eaten : Instance Sample.family :=
      ⟨SampleClass.monster, ({ hp := ⟨4, by decide⟩ } : Monster)⟩
    (∃ record ∈ monsterBridge.registry.records, record.Offers origin.entry ∧
      origin.entry.BoundFor record.owner) ∧
    ∃ after, origin.entry.call frame hungryMonster = (.ok (), after) ∧
      (∃ written made, origin.Succeeds frame hungryMonster.heap written made after.heap.world ∧
        hungryMonster.heap.arena.Changes written made after.returned after.heap.arena) ∧
      after.returned = .wrapped ⟨0, 1⟩ ∧ after.heap.arena.occupant? ⟨0, 1⟩ = some eaten ∧
      after.heap.arena.occupant? ⟨1, 0⟩ = some ⟨SampleClass.monster, ({} : Monster)⟩ := by
  intro list origin frame eaten
  obtain ⟨hsucceeded, hoffered⟩ :=
    @successful_call_changes Sample.schema (RecordingHost Sample.schema) Nat _
  obtain ⟨record, hrecords, hmembers⟩ : ∃ record, monsterBridge.registry.records = [record] ∧
      record.members = [devour.member "devour" .method list] := ⟨_, rfl, rfl⟩
  have hbridge : monsterBridge.Reachable := .bind (.register (.new _ _) _ _ _ _) _ _
  have hrecord : record ∈ monsterBridge.registry.records := by simp [hrecords]
  have hmember : devour.member "devour" .method list ∈ record.members := by simp [hmembers]
  have hoffers : record.Offers (devour.member "devour" .method list).entry :=
    .member hmember nofun
  have hbound : origin.Bound := ParameterList.Bound.required
  have hreached : hungryMonster.heap.arena.Reached := ⟨_, _, rfl⟩
  have hcall : origin.entry.call frame hungryMonster =
      (.ok (), (origin.entry.call frame hungryMonster).2) := rfl
  exact ⟨⟨record, hrecord, hoffers, hoffered monsterBridge hbridge record hrecord _ hoffers⟩,
    _, hcall, hsucceeded origin frame _ _ hbound hreached (by decide) hcall, rfl, rfl, rfl⟩

end Succeeded

end Bridge

end NativeBridge
