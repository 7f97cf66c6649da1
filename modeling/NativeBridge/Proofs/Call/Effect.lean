import NativeBridge.Proofs.Arena.Outline
import NativeBridge.Proofs.Call.Conservation
import NativeBridge.Proofs.Call.Verdict
import NativeBridge.Proofs.Conversion.Encoding

/-!
# What a successful call does to the arena

A call that succeeds does at most two things to the arena.  A method that writes leaves new
content behind the handle of its receiver, and after that one new instance may be lent, whose
handle is returned.  Native code works on what stood in the arena before the call, so that a
receiver that is passed as an argument too is seen as it was.  This file states both parts
together with what stays as it is, for every kind of entry point that the bridge makes.
-/

namespace NativeBridge

/-! ## Storing and lending -/

namespace Arena

variable {family : ClassFamily} {arena next : Arena family}
variable {written : Option (Handle × Instance family)} {made : Option (Instance family)}
variable {returned : Value}

/-- The arena with new content behind a handle, if any is written. -/
def stored (arena : Arena family) : Option (Handle × Instance family) → Arena family
  | none => arena
  | some (handle, inst) => arena.put inst.owner handle inst.content

/-- The arena with one instance more, if one is made. -/
def lending (arena : Arena family) : Option (Instance family) → Arena family
  | none => arena
  | some inst => (arena.insert inst).2

/-- New content is written behind a handle and then one instance is lent, or only one of these
or none, and nothing else about the arena changes. -/
structure Changes (arena : Arena family) (written : Option (Handle × Instance family))
    (made : Option (Instance family)) (returned : Value) (next : Arena family) : Prop where
  eq_lending : next = (arena.stored written).lending made
  /-- What is written takes the place of the content of a live instance of the same class. -/
  holds_written : ∀ handle inst, written = some (handle, inst) →
    (arena.occupant? handle).map (·.owner) = some inst.owner ∧ next.occupant? handle = some inst
  /-- What is made stands behind the handle that is returned, which was not live. -/
  holds_made : ∀ inst, made = some inst → ∃ handle, returned = .wrapped handle ∧
    arena.isLive handle = false ∧ next.occupant? handle = some inst
  /-- No instance is ended, and none but the one that is made becomes live. -/
  live_iff : ∀ handle, next.isLive handle = true ↔
    arena.isLive handle = true ∨ made.isSome = true ∧ returned = .wrapped handle
  keeps_class : ∀ handle, arena.isLive handle = true →
    (next.occupant? handle).map (·.owner) = (arena.occupant? handle).map (·.owner)
  keeps_name : ∀ handle, arena.isLive handle = true →
    next.scriptNameOf? handle = arena.scriptNameOf? handle
  keeps_content : ∀ handle, arena.isLive handle = true →
    (∀ inst, written ≠ some (handle, inst)) → next.occupant? handle = arena.occupant? handle
  size_eq : next.size = arena.size + if made.isSome = true then 1 else 0

theorem stored_sameOutline (arena : Arena family) (written : Option (Handle × Instance family)) :
    arena.SameOutline (arena.stored written) := by
  cases written with
  | none => exact .refl arena
  | some write => exact arena.put_sameOutline write.2.owner write.1 write.2.content

theorem Consistent.stored (hconsistent : arena.Consistent)
    (written : Option (Handle × Instance family)) : (arena.stored written).Consistent := by
  cases written with
  | none => exact hconsistent
  | some write => exact hconsistent.put write.2.owner write.1 write.2.content

theorem stored_size (arena : Arena family) (written : Option (Handle × Instance family)) :
    (arena.stored written).slots.size = arena.slots.size := by
  cases written with
  | none => rfl
  | some write => exact arena.put_size write.2.owner write.1 write.2.content

/-- What is written goes behind the handle of a live instance of the same class. -/
def Overwrites (arena : Arena family) (written : Option (Handle × Instance family)) : Prop :=
  ∀ handle inst, written = some (handle, inst) → ∃ old, arena.get inst.owner handle = .ok old

theorem changes_stored (hwritten : arena.Overwrites written) (returned : Value) :
    arena.Changes written none returned (arena.stored written) where
  eq_lending := rfl
  holds_written := by
    rintro handle inst rfl
    obtain ⟨old, hget⟩ := hwritten handle inst rfl
    refine ⟨?_, ?_⟩
    · rw [get_eq_ok_iff.mp hget, Option.map_some]
    · rw [stored, occupant?_put inst.content hget, if_pos rfl]
  holds_made := by rintro inst ⟨⟩
  live_iff handle := by
    rw [← (arena.stored_sameOutline written).isLive_eq]
    simp
  keeps_class handle _ := ((arena.stored_sameOutline written).owner_eq handle).symm
  keeps_name handle _ := ((arena.stored_sameOutline written).scriptNameOf?_eq handle).symm
  keeps_content handle _ hother := by
    cases written with
    | none => rfl
    | some write =>
        obtain ⟨target, inst⟩ := write
        obtain ⟨old, hget⟩ := hwritten target inst rfl
        have htarget : handle ≠ target := by
          rintro rfl
          exact hother inst rfl
        rw [stored, occupant?_put inst.content hget, if_neg htarget]
  size_eq := (arena.stored_sameOutline written).live.symm

/-- A new instance comes to what was changed before, behind a handle of its own. -/
theorem Changes.lend (hchanges : arena.Changes written none returned next)
    (hconsistent : next.Consistent) (hfits : next.place < UInt32.size) (inst : Instance family) :
    arena.Changes written (some inst) (.wrapped (next.insert inst).1) (next.insert inst).2 := by
  obtain ⟨hfresh, hholds, hkeeps, hsize⟩ := hconsistent.insert_gains hfits inst
  have hlive : ∀ handle, next.isLive handle = arena.isLive handle := fun handle =>
    Bool.eq_iff_iff.mpr (by simpa using hchanges.live_iff handle)
  -- The new handle was not live, so no live handle is disturbed by it.
  have hother : ∀ handle, arena.isLive handle = true →
      (next.insert inst).2.occupant? handle = next.occupant? handle := fun handle hpresent => by
    apply hkeeps handle
    rintro rfl
    cases hfresh.symm.trans ((hlive _).trans hpresent)
  exact {
    eq_lending := by rw [lending, ← show next = arena.stored written from hchanges.eq_lending]
    holds_written := by
      intro handle present hwritten
      obtain ⟨howner, hpresent⟩ := hchanges.holds_written handle present hwritten
      have hbefore : arena.isLive handle = true := by
        rw [isLive_eq_isSome_occupant?, ← Option.isSome_map, howner, Option.isSome_some]
      exact ⟨howner, (hother handle hbefore).trans hpresent⟩
    holds_made := by
      rintro _ ⟨⟩
      exact ⟨_, rfl, (hlive _).symm.trans hfresh, hholds⟩
    live_iff := by
      intro handle
      rw [isLive_eq_isSome_occupant?, Value.wrapped.injEq, ← hlive]
      by_cases hsame : handle = (next.insert inst).1
      · simp [hsame, hholds]
      · simp [hkeeps handle hsame, isLive_eq_isSome_occupant?, Ne.symm hsame]
    keeps_class := fun handle hpresent => by
      rw [hother handle hpresent, hchanges.keeps_class handle hpresent]
    keeps_name := fun handle hpresent => by
      rw [(hconsistent.insert inst).scriptNameOf?_eq, hother handle hpresent,
        ← hconsistent.scriptNameOf?_eq, hchanges.keeps_name handle hpresent]
    keeps_content := fun handle hpresent hunwritten => by
      rw [hother handle hpresent, hchanges.keeps_content handle hpresent hunwritten]
    size_eq := by rw [hsize, hchanges.size_eq]; rfl }

/-- What is made is returned by its handle. -/
def Returns (arena : Arena family) (made : Option (Instance family)) (returned : Value) : Prop :=
  ∀ inst, made = some inst → returned = .wrapped (arena.insert inst).1

theorem Consistent.changes (hconsistent : arena.Consistent)
    (hsize : arena.slots.size < UInt32.size) (hwritten : arena.Overwrites written)
    (hreturned : (arena.stored written).Returns made returned) :
    arena.Changes written made returned ((arena.stored written).lending made) := by
  have hchanges := changes_stored hwritten returned
  have hstored := hconsistent.stored written
  cases made with
  | none => exact hchanges
  | some inst =>
      obtain rfl := hreturned inst rfl
      refine hchanges.lend hstored (Nat.lt_of_le_of_lt hstored.place_le ?_) inst
      rwa [stored_size]

end Arena

/-! ## What native code does in a call -/

variable {schema : Schema}

/-- Wherever a handle is passed as an argument, native code is given a copy of `inst`. -/
def Frame.Shows {family : ClassFamily} (frame : Frame) (handle : Handle) (inst : Instance family)
    {parameters : List (ParameterType family)} (arguments : Arguments family parameters) : Prop :=
  ∀ (index : Nat) (datum : Datum family) (given : Instance family),
    frame.arguments[index]? = some (.wrapped handle) → arguments.toList[index]? = some datum →
      datum.type.instance? family datum.data = some given → given = inst

/-- How a call succeeds: what native code was given from the heap before the call, what it
wrote behind the handle of its receiver, which instance it made, and how it left its world.
Only the code of a method that writes changes its receiver, and all that it leaves there is its
own. -/
inductive Origin.Succeeds (frame : Frame) (before : Heap schema) :
    Origin schema → Option (Handle × Instance schema.toClassFamily) →
      Option (Instance schema.toClassFamily) → schema.World → Prop
  | allocation {owner : schema.Class} {initial : Task schema.World (schema.Content owner)}
      {content : schema.Content owner} {world : schema.World}
      (hcount : frame.argumentCount = 0) (hcode : initial before.world = .ok content world) :
      Succeeds frame before (.allocation owner initial) none (some ⟨owner, content⟩) world
  | constructor {owner : schema.Class} {constructor : NativeConstructor schema owner}
      {list : ParameterList} {arguments : Arguments schema.toClassFamily constructor.parameters}
      {content : schema.Content owner} {world : schema.World}
      (hsupplies : frame.Supplies before.arena list arguments)
      (hcopies : frame.Copies before.arena arguments)
      (hcode : constructor.code arguments before.world = .ok content world) :
      Succeeds frame before (.constructor constructor list) none (some ⟨owner, content⟩) world
  | copy {owner : schema.Class}
      {duplicate : schema.Content owner → Task schema.World (schema.Content owner)}
      {id : Fingerprint} {content copy : schema.Content owner} {world : schema.World}
      (hcount : frame.argumentCount = 0)
      (hreceiver : frame.HasReceiver before.arena owner content)
      (hcode : duplicate content before.world = .ok copy world) :
      Succeeds frame before (.copy owner duplicate id) none (some ⟨owner, copy⟩) world
  | reads {owner : schema.Class} {parameters : List (ParameterType schema.toClassFamily)}
      {result : NativeType schema.Class} {id : Fingerprint} {list : ParameterList}
      {code : schema.Content owner → Arguments schema.toClassFamily parameters →
        Task schema.World (result.Data schema.toClassFamily)}
      {handle : Handle} {content : schema.Content owner}
      {arguments : Arguments schema.toClassFamily parameters}
      {data : result.Data schema.toClassFamily} {world : schema.World}
      (hadmits : frame.Admits before.arena list handle content arguments)
      (hcopies : frame.Copies before.arena arguments)
      (hcode : code content arguments before.world = .ok data world) :
      Succeeds frame before (.method ⟨parameters, result, .reads code⟩ id list)
        none (result.instance? schema.toClassFamily data) world
  | writes {owner : schema.Class} {parameters : List (ParameterType schema.toClassFamily)}
      {result : NativeType schema.Class} {id : Fingerprint} {list : ParameterList}
      {code : Arguments schema.toClassFamily parameters →
        Task (schema.Content owner × schema.World) (result.Data schema.toClassFamily)}
      {handle : Handle} {content left : schema.Content owner}
      {arguments : Arguments schema.toClassFamily parameters}
      {data : result.Data schema.toClassFamily} {world : schema.World}
      (hadmits : frame.Admits before.arena list handle content arguments)
      (hcopies : frame.Copies before.arena arguments)
      (hshows : frame.Shows handle ⟨owner, content⟩ arguments)
      (hcode : code arguments (content, before.world) = .ok data (left, world)) :
      Succeeds frame before (.method ⟨parameters, result, .writes code⟩ id list)
        (some (handle, ⟨owner, left⟩)) (result.instance? schema.toClassFamily data) world

/-! ## What native code is given -/

section Given

variable {family : ClassFamily} {frame : Frame} {arena : Arena family} {owner : family.Class}
variable {list : ParameterList} {handle : Handle} {content : family.Content owner}
variable {parameters : List (ParameterType family)} {arguments : Arguments family parameters}

theorem Frame.Admits.get_eq (hadmits : frame.Admits arena list handle content arguments) :
    arena.get owner handle = .ok content :=
  Arena.get_eq_ok_iff.mpr hadmits.occupant

theorem Frame.Admits.copies (hadmits : frame.Admits arena list handle content arguments)
    (hlist : list.Bound parameters) : frame.Copies arena arguments := by
  obtain ⟨-, hintake⟩ := Frame.admits_iff.mp hadmits
  exact Arguments.extract_copies hlist (Frame.intake_eq_ok.mp hintake).2

/-- Native code sees its receiver among the arguments as it was before the call. -/
theorem Frame.Admits.shows (hadmits : frame.Admits arena list handle content arguments)
    (hcopies : frame.Copies arena arguments) : frame.Shows handle ⟨owner, content⟩ arguments := by
  intro index datum given hslot hdatum hgiven
  obtain ⟨-, present, hpresent, hoccupant⟩ := hcopies index datum given hdatum hgiven
  obtain rfl := Value.wrapped.inj (Option.some.inj (hslot.symm.trans hpresent))
  exact Option.some.inj (hoccupant.symm.trans hadmits.occupant)

theorem Arguments.count_of_exact (hexact : exact frame arena parameters = .ok arguments) :
    frame.argumentCount = parameters.length := by
  rw [exact] at hexact
  split at hexact
  · assumption
  · cases hexact

/-- Encoded data is lent if it is or holds an instance, and leaves the arena alone if not. -/
theorem encode_lending {next : Arena family} {type : NativeType family.Class}
    {data : type.Data family} {value : Value}
    (hencode : encode arena type data = .ok (value, next)) :
    next = arena.lending (type.instance? family data) ∧
      arena.Returns (type.instance? family data) value := by
  rcases encode_instance? hencode with ⟨hnone, rfl⟩ | ⟨inst, hinst, rfl, rfl⟩
  · rw [hnone]
    exact ⟨rfl, by rintro _ ⟨⟩⟩
  · rw [hinst]
    exact ⟨rfl, by rintro _ ⟨⟩; rfl⟩

end Given

/-! ## What a successful call leaves -/

section Calls

variable {owner : schema.Class} {frame : Frame} {before after : CallState schema}

theorem CallState.making_changes {Given : Type} {intake : Except CallError Given}
    {code : Given → Task schema.World (schema.Content owner)}
    (hconsistent : before.heap.arena.Consistent)
    (hsize : before.heap.arena.slots.size < UInt32.size)
    (hmaking : before.making intake code = (.ok (), after)) :
    ∃ given content, intake = .ok given ∧
      code given before.heap.world = .ok content after.heap.world ∧
      before.heap.arena.Changes none (some ⟨owner, content⟩) after.returned after.heap.arena := by
  cases intake with
  | error error => cases congrArg Prod.fst hmaking
  | ok given =>
      rw [making] at hmaking
      split at hmaking
      · cases congrArg Prod.fst hmaking
      · next content world hcode =>
          obtain rfl := congrArg Prod.snd hmaking
          refine ⟨given, content, rfl, hcode, hconsistent.changes hsize ?_ ?_⟩
          · rintro _ _ ⟨⟩
          · rintro _ ⟨⟩
            rfl

/-- The code of a method was run on what the call admits, and its result was encoded. -/
theorem NativeMethod.Gives.eq_ok {method : NativeMethod schema owner} {list : ParameterList}
    (hgives : method.Gives list frame before (.ok (), after)) :
    ∃ handle content left data, ∃ arguments : Arguments schema.toClassFamily method.parameters,
      frame.Admits before.heap.arena list handle content arguments ∧
      method.code.act content arguments before.heap.world = .ok data (left, after.heap.world) ∧
      encode (before.heap.arena.put owner handle left) method.result data =
        .ok (after.returned, after.heap.arena) := by
  cases hgives with
  | returned hadmits hact hencode => exact ⟨_, _, _, _, _, hadmits, hact, hencode⟩

theorem NativeMethod.call_changes {method : NativeMethod schema owner} {id : Fingerprint}
    {list : ParameterList} (hlist : list.Bound method.parameters)
    (hconsistent : before.heap.arena.Consistent)
    (hsize : before.heap.arena.slots.size < UInt32.size)
    (hcall : (method.entry id list).call frame before = (.ok (), after)) :
    ∃ written made,
      (Origin.method method id list).Succeeds frame before.heap written made after.heap.world ∧
        before.heap.arena.Changes written made after.returned after.heap.arena := by
  have hgives := method.gives_call hlist id frame before
  rw [hcall] at hgives
  obtain ⟨handle, content, left, data, arguments, hadmits, hact, hencode⟩ := hgives.eq_ok
  obtain ⟨hlending, hreturns⟩ := encode_lending hencode
  have hcopies := hadmits.copies hlist
  obtain ⟨parameters, result, code⟩ := method
  cases code with
  | reads code =>
      -- Code that reads leaves the content that it was given.
      rw [MethodCode.act] at hact
      split at hact
      · next outcome world hcode =>
          cases hact
          rw [Arena.put_same _ hadmits.get_eq] at hlending hreturns
          refine ⟨none, _, .reads hadmits hcopies hcode, ?_⟩
          rw [hlending]
          exact hconsistent.changes hsize (by rintro _ _ ⟨⟩) hreturns
      · cases hact
  | writes code =>
      refine ⟨some (handle, ⟨owner, left⟩), _,
        .writes hadmits hcopies (hadmits.shows hcopies) hact, ?_⟩
      rw [hlending]
      refine hconsistent.changes hsize ?_ hreturns
      rintro _ _ ⟨⟩
      exact ⟨content, hadmits.get_eq⟩

/-- A call that succeeds changes the arena only by what native code did: a method that writes
has new content behind its receiver, and what is made or returned as an instance is lent once. -/
theorem Origin.successful_call {origin : Origin schema} (hbound : origin.Bound)
    (hconsistent : before.heap.arena.Consistent)
    (hsize : before.heap.arena.slots.size < UInt32.size)
    (hcall : origin.entry.call frame before = (.ok (), after)) :
    ∃ written made, origin.Succeeds frame before.heap written made after.heap.world ∧
      before.heap.arena.Changes written made after.returned after.heap.arena := by
  cases origin with
  | allocation owner initial =>
      rw [entry, defaultAllocation_call] at hcall
      obtain ⟨given, content, hintake, hcode, hchanges⟩ :=
        CallState.making_changes hconsistent hsize hcall
      exact ⟨_, _, .allocation (Arguments.count_of_exact hintake) hcode, hchanges⟩
  | refusal owner className => cases congrArg Prod.fst hcall
  | constructor code list =>
      rw [entry, NativeConstructor.entry_call] at hcall
      obtain ⟨arguments, content, hextract, hcode, hchanges⟩ :=
        CallState.making_changes hconsistent hsize hcall
      have hsupplies := (Arguments.extract_eq_ok_iff_supplies.mp hextract).2.2
      have hcopies := Arguments.extract_copies hbound hextract
      exact ⟨_, _, .constructor hsupplies hcopies hcode, hchanges⟩
  | method code id list => exact NativeMethod.call_changes hbound hconsistent hsize hcall
  | copy owner duplicate id =>
      rw [entry, duplicateEntry_call] at hcall
      obtain ⟨content, copy, hintake, hcode, hchanges⟩ :=
        CallState.making_changes hconsistent hsize hcall
      obtain ⟨hcount, hreceiver⟩ := Frame.intakeCopy_eq_ok.mp hintake
      exact ⟨_, _, .copy hcount (Frame.receiver_hasReceiver hreceiver) hcode, hchanges⟩

end Calls

end NativeBridge
