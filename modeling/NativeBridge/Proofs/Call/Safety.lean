import NativeBridge.Proofs.Call.Extraction
import NativeBridge.Proofs.Call.Intake
import NativeBridge.Proofs.Member.Bound
import NativeBridge.Sample.World

/-!
# Calls respect the classes of instances

A script may pass any handle anywhere.  Native code still works only on live instances of
the classes that it was written for: classes are told apart by themselves, not by their
names, and a slot that was given to another instance does not take its old handles.
-/

namespace NativeBridge

/-! ## The slots of a call -/

namespace Frame

variable {frame : Frame} {position index : Nat} {value : Value}

theorem receiverHandle_eq_ok {handle : Handle} :
    frame.receiverHandle = .ok handle ↔
      frame.offset ≠ 0 ∧ frame.slots[0]? = some (.wrapped handle) := by
  rw [receiverHandle, receiver?, ← List.head?_eq_getElem?]
  by_cases hoffset : frame.offset = 0
  · simp [hoffset]
  · rw [if_neg hoffset]
    cases frame.slots.head? with
    | none => simp
    | some value => cases value <;> simp [hoffset]

variable {family : ClassFamily} {arena : Arena family} {owner : family.Class} {handle : Handle}

/-- The first slot of the call is the handle of a live instance of `owner`, which holds
`content`. -/
def HasReceiver (frame : Frame) (arena : Arena family) (owner : family.Class)
    (content : family.Content owner) : Prop :=
  frame.offset ≠ 0 ∧ ∃ handle, frame.slots[0]? = some (.wrapped handle) ∧
    arena.occupant? handle = some ⟨owner, content⟩

/-- Every instance among the arguments is a copy of a live one, which the slot of the
argument refers to, and belongs to the class that the parameter has. -/
def Copies (frame : Frame) (arena : Arena family) {parameters : List (ParameterType family)}
    (arguments : Arguments family parameters) : Prop :=
  ∀ (index : Nat) (datum : Datum family) (inst : Instance family),
    arguments.toList[index]? = some datum → datum.type.instance? family datum.data = some inst →
      datum.type.held? = some inst.owner ∧
        ∃ handle, frame.arguments[index]? = some (.wrapped handle) ∧
          arena.occupant? handle = some inst

theorem receiver_hasReceiver {content : family.Content owner}
    (hreceiver : frame.receiver arena owner = .ok content) :
    frame.HasReceiver arena owner content := by
  obtain ⟨handle, hhandle, hget⟩ := receiver_eq_ok.mp hreceiver
  obtain ⟨hoffset, hslot⟩ := receiverHandle_eq_ok.mp hhandle
  exact ⟨hoffset, handle, hslot, Arena.get_eq_ok_iff.mp hget⟩

theorem HasReceiver.receiver_eq {content : family.Content owner}
    (hreceiver : frame.HasReceiver arena owner content) :
    frame.receiver arena owner = .ok content := by
  obtain ⟨hoffset, handle, hslot, hoccupant⟩ := hreceiver
  exact receiver_eq_ok.mpr
    ⟨handle, receiverHandle_eq_ok.mpr ⟨hoffset, hslot⟩, Arena.get_eq_ok_iff.mpr hoccupant⟩

theorem receiver_of_isForeign (hoffset : frame.offset ≠ 0)
    (hslot : frame.slots[0]? = some (.wrapped handle)) (hforeign : arena.IsForeign owner handle) :
    ∃ cause, frame.receiver arena owner = .error (.receiver cause) ∧
      arena.Refuses owner handle cause := by
  obtain ⟨cause, hget, hrefuses⟩ := Arena.get_of_isForeign hforeign
  refine ⟨cause, ?_, hrefuses⟩
  rw [receiver, receiverHandle_eq_ok.mpr ⟨hoffset, hslot⟩]
  simp only [hget]

end Frame

/-! ## Converting the arguments -/

namespace Arguments

variable {family : ClassFamily} {arena : Arena family} {frame : Frame} {list : ParameterList}
variable {parameters : List (ParameterType family)} {arguments : Arguments family parameters}

theorem extract_copies (hbound : list.Bound parameters)
    (hextract : extract frame arena list parameters = .ok arguments) :
    frame.Copies arena arguments := by
  intro index datum inst hdatum hinst
  obtain ⟨parameter, value, data, hparameter, hvalue, hdecode, rfl⟩ :=
    collect_toList (extract_eq_ok.mp hextract).2 hdatum
  obtain ⟨handle, rfl, hoccupant⟩ := decode_instance? hdecode hinst
  have hheld := NativeType.held?_of_instance? hinst
  refine ⟨hheld, handle, ?_, hoccupant⟩
  -- The value is no default, since no instance has one.
  rw [Nat.zero_add] at hvalue
  rcases suppliedOrDefault_eq_ok hvalue with hslot | ⟨-, hdefault⟩
  · exact hslot
  · cases (hbound.defaultAt_eq_none hparameter hheld).symm.trans hdefault

section Foreign

variable {index : Nat} {parameter : ParameterType family} {owner : family.Class} {handle : Handle}

end Foreign

end Arguments

/-! ## Calls with foreign handles -/

section Refusal

variable {schema : Schema}

variable {owner : schema.Class} {state : CallState schema}

namespace NativeMethod

variable (method : NativeMethod schema owner) (id : Fingerprint) (list : ParameterList)

end NativeMethod

namespace NativeConstructor

variable (constructor : NativeConstructor schema owner) (list : ParameterList)

end NativeConstructor

/-! ### Copies -/

end Refusal

section Sample

open Sample

/-- A hero strikes a monster, or nobody. -/
def strike : NativeMethod Sample.schema .hero where
  parameters := [⟨.option (.object .monster), rfl⟩]
  result := .void
  code := .writes fun _ => pure ()

end Sample

end NativeBridge
