import NativeBridge.Proofs.Arena.Outline
import NativeBridge.Proofs.Call.Extraction
import NativeBridge.Proofs.Call.Intake
import NativeBridge.Proofs.Call.Program

/-!
# What a failed call leaves

A call that fails leaves the return slot and the arena as they were.  No instance enters
the arena or leaves it.  Only a method that may write to its receiver can have changed
something, and only the content of its receiver, and only if its code ran: what the code
left there stays.
-/

namespace NativeBridge

variable {schema : Schema} {owner : schema.Class}

/-! ## Errors before native code -/

/-- The errors of native code that was entered: it panicked, or its result is no script
value. -/
def CallError.isFromCode : CallError → Bool
  | result _ | panic _ => true
  | _ => false

section Errors

variable {family : ClassFamily} {frame : Frame} {arena : Arena family} {error : CallError}

theorem Frame.receiver_error {owner : family.Class}
    (hreceiver : frame.receiver arena owner = .error error) : ∃ cause, error = .receiver cause := by
  rw [receiver] at hreceiver
  split at hreceiver
  · next first hhandle =>
      cases hreceiver
      rw [receiverHandle] at hhandle
      split at hhandle
      · cases hhandle
      · exact ⟨_, (Except.error.inj hhandle).symm⟩
      · exact ⟨_, (Except.error.inj hhandle).symm⟩
  · split at hreceiver
    · cases hreceiver
    · exact ⟨_, (Except.error.inj hreceiver).symm⟩

namespace Arguments

variable {parameters : List (ParameterType family)}

theorem extract_isFromCode {list : ParameterList}
    (hextract : extract frame arena list parameters = .error error) :
    error.isFromCode = false := by
  rw [extract, ParameterList.checkCount] at hextract
  split at hextract
  · next first hcount =>
      split at hcount
      · rw [← Except.error.inj hextract, ← Except.error.inj hcount]
        rfl
      · cases hcount
  · obtain ⟨index, parameter, -, hobstructs, -⟩ := collect_eq_error hextract
    cases hobstructs with
    | missing hvalue =>
        simp only [suppliedOrDefault] at hvalue
        split at hvalue
        · cases hvalue
        · rw [← Except.error.inj hvalue]
          rfl
    | unsuited hvalue hdecode => rfl

end Arguments

theorem Frame.intake_isFromCode {owner : family.Class} {list : ParameterList}
    {parameters : List (ParameterType family)}
    (hintake : frame.intake arena owner list parameters = .error error) :
    error.isFromCode = false := by
  rcases intake_eq_error.mp hintake with hreceiver | ⟨-, hextract⟩
  · obtain ⟨cause, rfl⟩ := receiver_error hreceiver
    rfl
  · exact Arguments.extract_isFromCode hextract

end Errors

/-! ## Failures after native code -/

section Ended

variable {state after : CallState schema} {error : CallError}

/-- An instance is lent at the very end of a call that makes it. -/
theorem CallState.making_failed {Given : Type} {intake : Except CallError Given}
    {code : Given → Task schema.World (schema.Content owner)}
    (hfails : state.making intake code = (.error error, after)) :
    after.returned = state.returned ∧ after.heap.arena = state.heap.arena := by
  simp only [making] at hfails
  split at hfails
  · obtain rfl := congrArg Prod.snd hfails
    exact ⟨rfl, rfl⟩
  · split at hfails
    · obtain rfl := congrArg Prod.snd hfails
      exact ⟨rfl, rfl⟩
    · cases congrArg Prod.fst hfails

/-- The error of a call whose code has ended comes from the code: it panicked, or gave what is
no script value. -/
inductive CallState.EndsBadly (state : CallState schema) (handle : Handle)
    (result : NativeType schema.Class) :
    EStateM.Result Panic (schema.Content owner × schema.World)
      (result.Data schema.toClassFamily) → CallError → schema.Content owner → Prop
  | panicked {payload : Panic} {left : schema.Content owner} {world : schema.World} :
      EndsBadly state handle result (.error payload (left, world)) (.panic payload.message) left
  | refused {data : result.Data schema.toClassFamily} {left : schema.Content owner}
      {world : schema.World} {cause : ConversionError}
      (hencode : encode (state.heap.arena.put owner handle left) result data = .error cause) :
      EndsBadly state handle result (.ok data (left, world)) (.result cause) left

theorem CallState.EndsBadly.isFromCode {handle : Handle} {result : NativeType schema.Class}
    {ended : EStateM.Result Panic (schema.Content owner × schema.World)
      (result.Data schema.toClassFamily)} {left : schema.Content owner}
    (hends : state.EndsBadly handle result ended error left) : error.isFromCode = true := by
  cases hends <;> rfl

/-- When the code of a method panics, or gives what is no script value, the receiver keeps
what the code left there. -/
theorem CallState.afterCode_failed {handle : Handle} {result : NativeType schema.Class}
    {ended : EStateM.Result Panic (schema.Content owner × schema.World)
      (result.Data schema.toClassFamily)}
    (hfails : state.afterCode handle result ended = (.error error, after)) :
    after.returned = state.returned ∧ ∃ left, state.EndsBadly handle result ended error left ∧
      after.heap.arena = state.heap.arena.put owner handle left := by
  rcases ended with ⟨data, left, world⟩ | ⟨payload, left, world⟩
  · rw [afterCode] at hfails
    split at hfails
    · cases congrArg Prod.fst hfails
    · next cause hencode =>
        obtain rfl := congrArg Prod.snd hfails
        obtain rfl := Except.error.inj (congrArg Prod.fst hfails)
        exact ⟨rfl, left, .refused hencode, rfl⟩
  · obtain rfl := congrArg Prod.snd hfails
    obtain rfl := Except.error.inj (congrArg Prod.fst hfails)
    exact ⟨rfl, left, .panicked, rfl⟩

end Ended

/-- Code that only reads leaves what the receiver holds. -/
theorem CallState.EndsBadly.of_reads {state : CallState schema} {handle : Handle}
    {result : NativeType schema.Class} {Given : Type}
    {code : MethodCode schema owner Given (result.Data schema.toClassFamily)} {given : Given}
    {content left : schema.Content owner} {world : schema.World} {error : CallError}
    (hreads : code.exclusive = false)
    (hends : state.EndsBadly handle result (code.act content given world) error left) :
    left = content := by
  cases code with
  | writes code => cases hreads
  | reads code =>
      rw [MethodCode.act] at hends
      cases hcode : code content given world with
      | ok data changed =>
          rw [hcode] at hends
          cases hends
          rfl
      | error payload changed =>
          rw [hcode] at hends
          cases hends
          rfl

/-! ## Failed calls -/

/-- A method that may write to its receiver was entered and failed in its code, which left `inst`
behind the handle of the receiver. -/
inductive Origin.FailsWriting (frame : Frame) (before : CallState schema) :
    Origin schema → CallError → Handle → Instance schema.toClassFamily → Prop
  | method {owner : schema.Class} {method : NativeMethod schema owner} {id : Fingerprint}
      {list : ParameterList} {handle : Handle} {content left : schema.Content owner}
      {arguments : Arguments schema.toClassFamily method.parameters} {error : CallError}
      (hexclusive : method.code.exclusive = true)
      (hhandle : frame.receiverHandle = .ok handle)
      (hget : before.heap.arena.get owner handle = .ok content)
      (henters : method.Enters id list before frame)
      (hgiven : method.IsGiven id list before frame content arguments)
      (hends : before.EndsBadly handle method.result
        (method.code.act content arguments before.heap.world) error left) :
      FailsWriting frame before (.method method id list) error handle ⟨owner, left⟩

/-- What a failed call leaves: everything but what the code of a method that may write left of its
receiver. -/
structure Origin.FailedCall (origin : Origin schema) (frame : Frame) (before : CallState schema)
    (error : CallError) (after : CallState schema) : Prop where
  returned_eq : after.returned = before.returned
  /-- Only methods that may write change the arena. -/
  keeps_arena : origin.exclusive = false → after.heap.arena = before.heap.arena
  /-- No instance entered the arena or left it. -/
  outline : before.heap.arena.SameOutline after.heap.arena
  handles : ∀ handle, after.heap.arena.isLive handle = before.heap.arena.isLive handle ∧
    after.heap.arena.scriptNameOf? handle = before.heap.arena.scriptNameOf? handle ∧
    (after.heap.arena.occupant? handle).map (·.owner) =
      (before.heap.arena.occupant? handle).map (·.owner)
  slots : ∀ position : Nat, after.heap.arena.slots[position]? = before.heap.arena.slots[position]? ∨
    ∃ receiver inst, origin.FailsWriting frame before error receiver inst ∧
      position = receiver.index.toNat
  contents : ∀ handle, after.heap.arena.occupant? handle = before.heap.arena.occupant? handle ∨
    ∃ inst, origin.FailsWriting frame before error handle inst ∧
      after.heap.arena.occupant? handle = some inst
  /-- A method that failed has run its code just if it panicked or gave what is no script value. -/
  enters_iff : ∀ (owner : schema.Class) (method : NativeMethod schema owner) (id : Fingerprint)
    (list : ParameterList), origin.entry = method.entry id list →
      (method.Enters id list before frame ↔ error.isFromCode = true)

section Failed

variable {frame : Frame} {before after : CallState schema} {error : CallError}

/-- A method fails before its code is reached, and then it does nothing, or after it. -/
theorem NativeMethod.failed_call {method : NativeMethod schema owner} {id : Fingerprint}
    {list : ParameterList}
    (hfails : (method.entry id list).call frame before = (.error error, after)) :
    after = before ∧ error.isFromCode = false ∧ ¬ method.Enters id list before frame ∨
      after.returned = before.returned ∧ method.Enters id list before frame ∧
        ∃ handle content left arguments, frame.receiverHandle = .ok handle ∧
          before.heap.arena.get owner handle = .ok content ∧
          method.IsGiven id list before frame content arguments ∧
          before.EndsBadly handle method.result
            (method.code.act content arguments before.heap.world) error left ∧
          after.heap.arena = before.heap.arena.put owner handle left := by
  cases hintake : frame.intake before.heap.arena owner list method.parameters with
  | error first =>
      rw [entry_call_of_error method id hintake] at hfails
      cases hfails
      refine .inl ⟨rfl, Frame.intake_isFromCode hintake, ?_⟩
      rw [enters_iff]
      rintro ⟨received, hreceived⟩
      cases hintake.symm.trans hreceived
  | ok received =>
      obtain ⟨content, arguments⟩ := received
      obtain ⟨handle, hhandle, hget, hcall⟩ := entry_call_of_ok method id hintake
      rw [hcall] at hfails
      obtain ⟨hreturned, left, hends, harena⟩ := CallState.afterCode_failed hfails
      exact .inr ⟨hreturned, method.enters_iff.mpr ⟨_, hintake⟩, handle, content, left, arguments,
        hhandle, hget, method.isGiven_of_intake hintake, hends, harena⟩

theorem NativeMethod.enters_iff_isFromCode {method : NativeMethod schema owner}
    {id : Fingerprint} {list : ParameterList}
    (hfails : (method.entry id list).call frame before = (.error error, after)) :
    method.Enters id list before frame ↔ error.isFromCode = true := by
  rcases failed_call hfails with ⟨-, herror, henters⟩ | ⟨-, henters, _, _, _, _, -, -, -, hends, -⟩
  · simp [herror, henters]
  · simp [hends.isFromCode, henters]

/-- What a failed call did to the arena is at most one write behind the receiver. -/
theorem Origin.failed_call_arena {origin : Origin schema}
    (hfails : origin.entry.call frame before = (.error error, after)) :
    after.returned = before.returned ∧
      (after.heap.arena = before.heap.arena ∨
        origin.exclusive = true ∧ ∃ receiver inst old,
          origin.FailsWriting frame before error receiver inst ∧
          before.heap.arena.get inst.owner receiver = .ok old ∧
          after.heap.arena = before.heap.arena.put inst.owner receiver inst.content) := by
  cases origin with
  | allocation owner initial =>
      rw [entry, defaultAllocation_call] at hfails
      exact (CallState.making_failed hfails).imp_right .inl
  | refusal owner className =>
      cases hfails
      exact ⟨rfl, .inl rfl⟩
  | constructor code list =>
      rw [entry, NativeConstructor.entry_call] at hfails
      exact (CallState.making_failed hfails).imp_right .inl
  | @method owner method id list =>
      rcases method.failed_call hfails with ⟨rfl, -⟩ | ⟨hreturned, henters, handle, content, left,
        arguments, hhandle, hget, hgiven, hends, harena⟩
      · exact ⟨rfl, .inl rfl⟩
      · refine ⟨hreturned, ?_⟩
        cases hexclusive : method.code.exclusive with
        | false =>
            obtain rfl := hends.of_reads hexclusive
            exact .inl (harena.trans (Arena.put_same left hget))
        | true =>
            exact .inr ⟨hexclusive, handle, ⟨owner, left⟩, content,
              .method hexclusive hhandle hget henters hgiven hends, hget, harena⟩
  | copy owner duplicate id =>
      rw [entry, duplicateEntry_call] at hfails
      exact (CallState.making_failed hfails).imp_right .inl

/-- A call to an entry point that the bridge made, if it fails, leaves the return slot and
the arena as they were.  The one exception is the content of the receiver of a method that may
write to it, and only if the code of the method ran. -/
theorem Origin.failed_call (origin : Origin schema)
    (hfails : origin.entry.call frame before = (.error error, after)) :
    origin.FailedCall frame before error after := by
  obtain ⟨hreturned, harena⟩ := origin.failed_call_arena hfails
  have houtline : before.heap.arena.SameOutline after.heap.arena := by
    rcases harena with hsame | ⟨-, receiver, inst, old, -, -, hput⟩
    · rw [hsame]
      exact .refl _
    · rw [hput]
      exact before.heap.arena.put_sameOutline inst.owner receiver inst.content
  exact {
    returned_eq := hreturned
    keeps_arena := fun hreads => by
      rcases harena with hsame | ⟨hexclusive, -⟩
      · exact hsame
      · cases hreads.symm.trans hexclusive
    outline := houtline
    handles := fun handle => ⟨(houtline.isLive_eq handle).symm,
      (houtline.scriptNameOf?_eq handle).symm, (houtline.owner_eq handle).symm⟩
    slots := fun position => by
      rcases harena with hsame | ⟨-, receiver, inst, old, hwrites, -, hput⟩
      · exact .inl (by rw [hsame])
      · by_cases hposition : position = receiver.index.toNat
        · exact .inr ⟨receiver, inst, hwrites, hposition⟩
        · exact .inl (by rw [hput, Arena.put_slots_of_ne inst.content hposition])
    contents := fun handle => by
      rcases harena with hsame | ⟨-, receiver, inst, old, hwrites, hget, hput⟩
      · exact .inl (by rw [hsame])
      · rw [hput, Arena.occupant?_put inst.content hget]
        by_cases hhandle : handle = receiver
        · subst hhandle
          exact .inr ⟨inst, hwrites, if_pos rfl⟩
        · exact .inl (if_neg hhandle)
    enters_iff := fun owner method id list hentry => by
      rw [hentry] at hfails
      exact NativeMethod.enters_iff_isFromCode hfails }

end Failed

end NativeBridge
