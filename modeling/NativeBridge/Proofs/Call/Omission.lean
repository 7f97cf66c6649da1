import NativeBridge.Proofs.Call.Extraction
import NativeBridge.Proofs.Call.Intake
import NativeBridge.Proofs.Parameter.Resolution
import NativeBridge.Sample.World

/-!
# Calls that leave out arguments

A call that leaves out optional arguments is the same call as one that gives their
defaults: it ends in the same way, with the same return slot and the same heap, also when
it fails.  The one exception are calls without a slot where the receiver should be, since
there the first value that is added becomes the receiver.
-/

namespace NativeBridge

/-! ## The wider call -/

namespace ParameterList

variable {family : ClassFamily} {parameters : List (ParameterType family)} {list : ParameterList}
variable {given index : Nat}

/-- The defaults of the parameters from `given` on. -/
def defaultsFrom (list : ParameterList) (given : Nat) : List Value :=
  (List.range' given (list.arity - given)).filterMap list.defaultAt

/-- None of the parameters that a call may leave out is without a default. -/
theorem Fits.map_defaultsFrom (hfits : list.Fits parameters) (hrequired : list.required ≤ given) :
    (list.defaultsFrom given).map some =
      (List.range' given (list.arity - given)).map list.defaultAt := by
  rw [defaultsFrom, List.map_filterMap_some_eq_filter_map_isSome, List.filter_eq_self]
  intro default hdefault
  obtain ⟨index, hindex, rfl⟩ := List.mem_map.mp hdefault
  obtain ⟨hge, hlt⟩ := List.mem_range'_1.mp hindex
  exact (hfits.isSome_defaultAt index (by omega)).mpr (by omega)

theorem Fits.length_defaultsFrom (hfits : list.Fits parameters)
    (hrequired : list.required ≤ given) :
    (list.defaultsFrom given).length = list.arity - given := by
  rw [← List.length_map some, hfits.map_defaultsFrom hrequired, List.length_map,
    List.length_range']

theorem Fits.getElem?_defaultsFrom (hfits : list.Fits parameters)
    (hrequired : list.required ≤ given) (hgiven : given ≤ index) (hindex : index < list.arity) :
    (list.defaultsFrom given)[index - given]? = list.defaultAt index := by
  have hposition : index - given < list.arity - given := by omega
  have hsome : (list.defaultsFrom given)[index - given]?.map some =
      some (list.defaultAt index) := by
    rw [← List.getElem?_map, hfits.map_defaultsFrom hrequired, List.getElem?_map,
      List.getElem?_range' hposition, Option.map_some]
    congr 2
    omega
  obtain ⟨value, hvalue, hdefault⟩ := Option.map_eq_some_iff.mp hsome
  rw [hvalue, hdefault]

end ParameterList

namespace Frame

/-- The call with more values behind its last slot. -/
def extend (frame : Frame) (values : List Value) : Frame :=
  { frame with slots := frame.slots ++ values }

variable {frame : Frame} {values : List Value}

theorem extend_arguments (hoffset : frame.offset.toNat ≤ frame.slots.length) :
    (frame.extend values).arguments = frame.arguments ++ values :=
  List.drop_append_of_le_length hoffset

theorem extend_receiver? (hoffset : frame.offset.toNat ≤ frame.slots.length) :
    (frame.extend values).receiver? = frame.receiver? := by
  by_cases hzero : frame.offset = 0
  · simp [receiver?, extend, hzero]
  · -- There is a receiver slot, so the first slot stays the first.
    have hslots : frame.slots ≠ [] := by
      intro hempty
      rw [hempty, List.length_nil] at hoffset
      exact hzero (UInt64.toNat_inj.mp (Nat.le_zero.mp hoffset))
    obtain ⟨first, rest, hslots⟩ := List.exists_cons_of_ne_nil hslots
    simp [receiver?, extend, hslots]

end Frame

/-! ## The arguments of the wider call -/

section Wider

variable {family : ClassFamily} {parameters : List (ParameterType family)} {list : ParameterList}
variable {frame wider : Frame}

theorem Arguments.suppliedOrDefault_wider (hfits : list.Fits parameters)
    (hrequired : list.required ≤ frame.argumentCount)
    (harguments : wider.arguments = frame.arguments ++ list.defaultsFrom frame.argumentCount)
    {index : Nat} (hindex : index < list.arity) :
    suppliedOrDefault wider list index = suppliedOrDefault frame list index := by
  by_cases hgiven : index < frame.argumentCount
  · obtain ⟨value, hvalue⟩ := Frame.exists_argument hgiven
    have hlength : index < frame.arguments.length := Frame.length_arguments ▸ hgiven
    have hwider : wider.arguments[index]? = some value := by
      rw [harguments, List.getElem?_append_left hlength, hvalue]
    rw [suppliedOrDefault_of_some hvalue, suppliedOrDefault_of_some hwider]
  · -- The wider call finds in its own slots what the narrow one takes from the list.
    have homitted := Nat.not_lt.mp hgiven
    obtain ⟨default, hdefault⟩ := hfits.exists_default (Nat.le_trans hrequired homitted) hindex
    have hwider : wider.arguments[index]? = some default := by
      rw [harguments, List.getElem?_append_right (Frame.length_arguments ▸ homitted),
        Frame.length_arguments, hfits.getElem?_defaultsFrom hrequired homitted hindex, hdefault]
    rw [suppliedOrDefault_of_some hwider, suppliedOrDefault_of_default homitted hdefault]

/-- A call that gives the defaults gets the same arguments as one that leaves them out, or
fails with the same error. -/
theorem Arguments.extract_wider (hfits : list.Fits parameters) (arena : Arena family)
    (hrequired : list.required ≤ frame.argumentCount)
    (hgreatest : frame.argumentCount ≤ list.arity)
    (harguments : wider.arguments = frame.arguments ++ list.defaultsFrom frame.argumentCount) :
    extract wider arena list parameters = extract frame arena list parameters := by
  have hcount : wider.argumentCount = list.arity := by
    rw [← Frame.length_arguments, harguments, List.length_append, Frame.length_arguments,
      hfits.length_defaultsFrom hrequired]
    omega
  rw [extract_of_count hrequired hgreatest,
    extract_of_count (hcount ▸ hfits.required_le) (Nat.le_of_eq hcount)]
  apply collect_congr
  intro index hindex
  rw [Nat.zero_add]
  exact suppliedOrDefault_wider hfits hrequired harguments (hfits.arity_eq ▸ hindex)

end Wider

/-! ## The wider call as a call -/

section Call

variable {schema : Schema} {owner : schema.Class} {list : ParameterList}
variable {frame wider : Frame} {state : CallState schema}

/-- The entry points that take their arguments by a parameter list. -/
inductive EntryPoint.TakesList (list : ParameterList) :
    List (ParameterType schema.toClassFamily) → EntryPoint schema → Prop
  | constructor {owner : schema.Class} (code : NativeConstructor schema owner) :
      TakesList list code.parameters (code.entry list)
  | method {owner : schema.Class} (code : NativeMethod schema owner) (id : Fingerprint) :
      TakesList list code.parameters (code.entry id list)

theorem NativeMethod.entry_call_congr (method : NativeMethod schema owner) (id : Fingerprint)
    (hreceiver : wider.receiver? = frame.receiver?)
    (hextract : Arguments.extract wider state.heap.arena list method.parameters =
      Arguments.extract frame state.heap.arena list method.parameters) :
    (method.entry id list).call wider state = (method.entry id list).call frame state := by
  have hhandle : wider.receiverHandle = frame.receiverHandle := by
    rw [Frame.receiverHandle, Frame.receiverHandle, hreceiver]
  have hintake : wider.intake state.heap.arena owner list method.parameters =
      frame.intake state.heap.arena owner list method.parameters := by
    simp only [Frame.intake, Frame.receiver, hhandle, hextract]
  cases hcase : frame.intake state.heap.arena owner list method.parameters with
  | error error =>
      rw [entry_call_of_error method id hcase,
        entry_call_of_error method id (hintake.trans hcase)]
  | ok received =>
      obtain ⟨handle, hfirst, -, hcall⟩ := entry_call_of_ok method id hcase
      obtain ⟨other, hsecond, -, hwider⟩ := entry_call_of_ok method id (hintake.trans hcase)
      obtain rfl := Except.ok.inj (hfirst.symm.trans (hhandle.symm.trans hsecond))
      rw [hcall, hwider]

/-- All that an entry point sees of a call are the receiver and the arguments. -/
theorem EntryPoint.TakesList.call_congr {entry : EntryPoint schema}
    {parameters : List (ParameterType schema.toClassFamily)}
    (hentry : entry.TakesList list parameters)
    (hreceiver : wider.receiver? = frame.receiver?)
    (hextract : Arguments.extract wider state.heap.arena list parameters =
      Arguments.extract frame state.heap.arena list parameters) :
    entry.call wider state = entry.call frame state := by
  cases hentry with
  | constructor code => rw [code.entry_call, code.entry_call, hextract]
  | method code id => exact code.entry_call_congr id hreceiver hextract

/-- A call that leaves out optional arguments gives the same result, return slot and heap as
any call with the same receiver that gives their defaults.  Such a call comes from adding
the defaults behind the last slot, if the arguments do not begin behind all slots. -/
theorem omitted_arguments_default {member : String}
    {parameters : List (ParameterType schema.toClassFamily)} {modes : List ParameterMode}
    (hdeclare : ParameterList.declare member parameters modes = .ok list)
    {entry : EntryPoint schema} (hentry : entry.TakesList list parameters) (frame : Frame)
    (state : CallState schema) (hrequired : list.required ≤ frame.argumentCount)
    (hgreatest : frame.argumentCount ≤ list.arity) :
    (list.defaultsFrom frame.argumentCount).map some =
        (List.range' frame.argumentCount (list.arity - frame.argumentCount)).map list.defaultAt ∧
      (∀ wider : Frame,
        wider.arguments = frame.arguments ++ list.defaultsFrom frame.argumentCount →
          wider.receiver? = frame.receiver? → entry.call wider state = entry.call frame state) ∧
      (frame.offset.toNat ≤ frame.slots.length →
        entry.call (frame.extend (list.defaultsFrom frame.argumentCount)) state =
          entry.call frame state) := by
  have hfits := ParameterList.fits_of_declare hdeclare
  have hsame : ∀ wider : Frame,
      wider.arguments = frame.arguments ++ list.defaultsFrom frame.argumentCount →
        wider.receiver? = frame.receiver? → entry.call wider state = entry.call frame state := by
    intro wider harguments hreceiver
    exact hentry.call_congr hreceiver
      (Arguments.extract_wider hfits state.heap.arena hrequired hgreatest harguments)
  refine ⟨hfits.map_defaultsFrom hrequired, hsame, fun hoffset => ?_⟩
  exact hsame _ (Frame.extend_arguments hoffset) (Frame.extend_receiver? hoffset)

end Call

section Sample

open Sample

/-- Gives back the number it takes, which is five if it is left out. -/
def echo : NativeMethod Sample.schema .monster where
  parameters := [⟨.integer .i32, rfl⟩]
  result := .integer .i32
  code := .reads fun _ (.cons number .nil) => pure number

def echoModes : List ParameterMode := [.optional (.int 5)]

/-- One monster. -/
def oneMonster : CallState Sample.schema where
  returned := .text "before"
  heap := ⟨(Arena.empty.insert ⟨SampleClass.monster, ({} : Monster)⟩).2, .empty⟩

/-- A call with nothing but a receiver is the call with the receiver and five. -/
theorem omitted_arguments_default_echo :
    let frame : Frame := ⟨[.wrapped ⟨0, 0⟩], 1⟩
    ∃ list, ParameterList.declare "echo" echo.parameters echoModes = .ok list ∧
      list.required ≤ frame.argumentCount ∧ frame.argumentCount ≤ list.arity ∧
      let entry := echo.entry (echo.signature.memberId "echo") list
      entry.call ⟨[.wrapped ⟨0, 0⟩, .int 5], 1⟩ oneMonster = entry.call frame oneMonster ∧
        (entry.call frame oneMonster).2.returned = .int 5 := by
  intro frame
  refine ⟨_, rfl, by decide, by decide, ?_, rfl⟩
  have hdefault := omitted_arguments_default
    (show ParameterList.declare "echo" echo.parameters echoModes = .ok _ from rfl)
    (.method echo (echo.signature.memberId "echo")) frame oneMonster (by decide) (by decide)
  exact hdefault.2.2 (by decide)

/-- In a call without any slot whose arguments would begin behind a receiver, a default that
is added becomes the receiver, and the error is another one. -/
theorem added_default_received :
    let frame : Frame := ⟨[], 1⟩
    ∃ list, ParameterList.declare "echo" echo.parameters echoModes = .ok list ∧
      list.required ≤ frame.argumentCount ∧ frame.argumentCount ≤ list.arity ∧
      let entry := echo.entry (echo.signature.memberId "echo") list
      let wider := frame.extend (list.defaultsFrom frame.argumentCount)
      (entry.call frame oneMonster).1 = .error (.receiver (.nullInstance "instance")) ∧
        (entry.call wider oneMonster).1 =
          .error (.receiver (.typeMismatch "instance" "int")) := by
  intro frame
  exact ⟨_, rfl, by decide, by decide, rfl, rfl⟩

end Sample

end NativeBridge
