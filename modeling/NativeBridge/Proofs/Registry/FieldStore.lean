import NativeBridge.Proofs.Registry.StructFields

/-!
# Structs as stores of fields

To scripts a struct is a store with one cell for each field of each live instance: a setter
fills one cell, and a getter looks into one.  This file follows calls of accessors, of any
classes on any receivers, however they end: a cell holds what was written to it last, and
nothing but the setter of its field ever changes it.
-/

namespace NativeBridge

variable {schema : Schema}
variable {structs : (owner : schema.Class) → Struct schema.toClassFamily owner}

/-! ## Calls of accessors -/

/-- A field of one of the classes. -/
structure FieldRef (structs : (owner : schema.Class) → Struct schema.toClassFamily owner) where
  owner : schema.Class
  position : Fin (structs owner).fields.length
deriving DecidableEq

namespace FieldRef

def declared (target : FieldRef structs) : StructField schema.toClassFamily target.owner :=
  (structs target.owner).fields[target.position]

abbrev Data (target : FieldRef structs) : Type :=
  target.declared.field.type.Data schema.toClassFamily

end FieldRef

/-- The getter or the setter of a field that scripts may read or write. -/
inductive FieldAccess (structs : (owner : schema.Class) → Struct schema.toClassFamily owner) where
  | read (target : FieldRef structs) (exposed : target.declared.options.getter = true)
  | write (target : FieldRef structs) (exposed : target.declared.options.setter = true)

def FieldAccess.entry (access : FieldAccess structs) (id : Fingerprint) : EntryPoint schema :=
  match access with
  | read target _ => target.declared.getter.entry id .empty
  | write target exposed =>
    (StructField.setter exposed).entry id
      (.requiredOnly [(target.declared.accessor.parameter exposed).tag])

structure FieldCall (structs : (owner : schema.Class) → Struct schema.toClassFamily owner) where
  access : FieldAccess structs
  id : Fingerprint
  frame : Frame
  /-- What the return slot holds before. -/
  returned : Value

def FieldCall.perform (call : FieldCall structs) (heap : Heap schema) :
    Except CallError Unit × CallState schema :=
  (call.access.entry call.id).call call.frame ⟨call.returned, heap⟩

/-- The native data that a call wrote to a field of an instance: what its argument was decoded
to, if it is a call of the setter of the field on the instance, and succeeded. -/
def FieldCall.written? (call : FieldCall structs) (heap : Heap schema) (handle : Handle)
    (target : FieldRef structs) : Option target.Data :=
  match call.access, (call.perform heap).1, call.frame.receiverHandle, call.frame.arguments with
  | .write other exposed, .ok (), .ok receiver, [value] =>
    if same : other = target ∧ receiver = handle then
      (decode heap.arena target.declared.field.type
        (target.declared.writable (same.1 ▸ exposed)) value).toOption
    else none
  | _, _, _, _ => none

namespace Heap

/-- The heap after calls one after the other. -/
def afterFieldCalls (heap : Heap schema) : List (FieldCall structs) → Heap schema
  | [] => heap
  | call :: rest => (call.perform heap).2.heap.afterFieldCalls rest

/-- What calls wrote to a field of an instance, in order. -/
def written (heap : Heap schema) (handle : Handle) (target : FieldRef structs) :
    List (FieldCall structs) → List target.Data
  | [] => []
  | call :: rest =>
    (call.written? heap handle target).toList ++
      (call.perform heap).2.heap.written handle target rest

end Heap

/-! ## The cells of an arena -/

namespace Arena

variable {arena next : Arena schema.toClassFamily} {handle : Handle} {target : FieldRef structs}

/-- What a field of the live instance behind a handle holds. -/
def fieldAt? (arena : Arena schema.toClassFamily) (handle : Handle) (target : FieldRef structs) :
    Option target.Data :=
  (arena.occupant? handle).bind fun inst =>
    (inst.as? target.owner).map target.declared.field.get

theorem fieldAt?_eq_some {data : target.Data} :
    arena.fieldAt? handle target = some data ↔
      ∃ content, arena.get target.owner handle = .ok content ∧
        target.declared.field.get content = data := by
  simp only [fieldAt?, Option.bind_eq_some_iff, Option.map_eq_some_iff, get_eq_ok_iff,
    Instance.as?_eq_some_iff]
  constructor
  · rintro ⟨inst, hlive, content, rfl, hdata⟩
    exact ⟨content, hlive, hdata⟩
  · rintro ⟨content, hlive, hdata⟩
    exact ⟨_, hlive, content, rfl, hdata⟩

theorem fieldAt?_congr (hsame : arena.occupant? handle = next.occupant? handle) :
    arena.fieldAt? handle target = next.fieldAt? handle target := by
  rw [fieldAt?, fieldAt?, hsame]

section Put

variable {receiver : Handle} {content : schema.Content target.owner}

theorem fieldAt?_put_self (hget : arena.get target.owner receiver = .ok content)
    (data : target.Data) :
    (arena.put target.owner receiver (target.declared.field.set data content)).fieldAt? receiver
      target = some data :=
  fieldAt?_eq_some.mpr ⟨_, get_put _ hget, target.declared.field.get_set content data⟩

/-- Writing a field leaves the other fields of the instance. -/
theorem fieldAt?_put_of_field_ne (hget : arena.get target.owner receiver = .ok content)
    (data : target.Data) {other : FieldRef structs} (hother : other ≠ target) :
    (arena.put target.owner receiver (target.declared.field.set data content)).fieldAt? receiver
      other = arena.fieldAt? receiver other := by
  rw [fieldAt?, fieldAt?, occupant?_put _ hget, if_pos rfl, get_eq_ok_iff.mp hget,
    Option.bind_some, Option.bind_some]
  obtain ⟨wanted, position⟩ := other
  by_cases howner : target.owner = wanted
  · subst howner
    have hposition : position ≠ target.position := fun hsame => hother (hsame ▸ rfl)
    have hapart := Struct.apart_of_ne hposition
    have hsame : ∀ held, (⟨target.owner, held⟩ : Instance schema.toClassFamily).as? target.owner =
        some held := fun _ => Instance.as?_eq_some_iff.mpr rfl
    rw [hsame, hsame]
    exact congrArg some (hapart.get_set_right data content)
  · have hnone : ∀ held, (⟨target.owner, held⟩ : Instance schema.toClassFamily).as? wanted = none :=
      fun _ => Instance.as?_eq_none_iff.mpr howner
    rw [hnone, hnone]

/-- Writing a field leaves all other instances. -/
theorem fieldAt?_put_of_handle_ne (hget : arena.get target.owner receiver = .ok content)
    (left : schema.Content target.owner) (other : FieldRef structs) (hhandle : handle ≠ receiver) :
    (arena.put target.owner receiver left).fieldAt? handle other = arena.fieldAt? handle other :=
  fieldAt?_congr (by rw [occupant?_put _ hget, if_neg hhandle])

/-- A field of the instance behind a handle now holds `data`, and nothing else changed: no
other field of the instance, no other instance, and no handle is more or less live. -/
structure FieldChanged (arena next : Arena schema.toClassFamily) (handle : Handle)
    (target : FieldRef structs) (data : target.Data) : Prop where
  holds : next.fieldAt? handle target = some data
  keeps_fields : ∀ other : FieldRef structs, other ≠ target →
    next.fieldAt? handle other = arena.fieldAt? handle other
  keeps_instances : ∀ other, other ≠ handle → next.occupant? other = arena.occupant? other
  keeps_live : ∀ other, next.isLive other = arena.isLive other
  outline : arena.SameOutline next

theorem put_fieldChanged (hget : arena.get target.owner receiver = .ok content)
    (data : target.Data) :
    arena.FieldChanged (arena.put target.owner receiver (target.declared.field.set data content))
      receiver target data where
  holds := fieldAt?_put_self hget data
  keeps_fields _ hother := fieldAt?_put_of_field_ne hget data hother
  keeps_instances other hother := by rw [occupant?_put _ hget, if_neg hother]
  keeps_live other := ((arena.put_sameOutline target.owner receiver _).isLive_eq other).symm
  outline := arena.put_sameOutline target.owner receiver _

end Put

end Arena

/-! ## What one call does -/

namespace FieldCall

variable {call : FieldCall structs} {heap : Heap schema}

/-- The ways that a call can go. -/
inductive Course (call : FieldCall structs) (heap : Heap schema) : Prop
  | failed {error : CallError}
      (hcall : call.perform heap = (.error error, ⟨call.returned, heap⟩))
  | read {target : FieldRef structs} {exposed : target.declared.options.getter = true}
      {receiver : Handle} {content : schema.Content target.owner} {value : Value}
      {arena : Arena schema.toClassFamily} (haccess : call.access = .read target exposed)
      (hreceiver : call.frame.receiverHandle = .ok receiver)
      (hget : heap.arena.get target.owner receiver = .ok content)
      (hencode : encode heap.arena target.declared.field.type
        (target.declared.field.get content) = .ok (value, arena))
      (hcall : call.perform heap = (.ok (), ⟨value, arena, heap.world⟩))
  | wrote {target : FieldRef structs} {exposed : target.declared.options.setter = true}
      {receiver : Handle} {content : schema.Content target.owner} {value : Value}
      {data : target.Data} (haccess : call.access = .write target exposed)
      (hreceiver : call.frame.receiverHandle = .ok receiver)
      (hget : heap.arena.get target.owner receiver = .ok content)
      (harguments : call.frame.arguments = [value])
      (hdecode : decode heap.arena target.declared.field.type (target.declared.writable exposed)
        value = .ok data)
      (hcall : call.perform heap = (.ok (), ⟨.nil, heap.arena.put target.owner receiver
        (target.declared.field.set data content), heap.world⟩))

theorem course (call : FieldCall structs) (heap : Heap schema) : call.Course heap := by
  obtain ⟨access, id, frame, returned⟩ := call
  cases access with
  | read target exposed =>
      cases hintake : frame.intake heap.arena target.owner .empty [] with
      | error error =>
          exact .failed (target.declared.getter.entry_call_of_error id hintake)
      | ok received =>
          obtain ⟨content, _ | _⟩ := received
          obtain ⟨receiver, hreceiver, hget⟩ :=
            Frame.receiver_eq_ok.mp (Frame.intake_eq_ok.mp hintake).1
          -- The getter is reached, but what the field holds may be no script value.
          have hcall := target.declared.getter_call ⟨returned, heap⟩ id hintake
          cases hencode : encode heap.arena target.declared.field.type
              (target.declared.field.get content) with
          | error cause =>
              rw [hencode] at hcall
              exact .failed hcall
          | ok written =>
              rw [hencode] at hcall
              exact .read rfl hreceiver hget hencode hcall
  | write target exposed =>
      cases hintake : frame.intake heap.arena target.owner
          (.requiredOnly [(target.declared.accessor.parameter exposed).tag])
          [target.declared.accessor.parameter exposed] with
      | error error =>
          exact .failed ((StructField.setter exposed).entry_call_of_error id hintake)
      | ok received =>
          obtain ⟨content, _ | ⟨data, _ | _⟩⟩ := received
          obtain ⟨-, value, harguments, hdecode⟩ := Frame.intake_single_eq_ok.mp hintake
          obtain ⟨receiver, hreceiver, hget, hcall⟩ :=
            StructField.setter_call ⟨returned, heap⟩ exposed id hintake
          exact .wrote rfl hreceiver hget harguments hdecode hcall

/-- A call that fails leaves everything as it was. -/
theorem perform_of_error {error : CallError} (hfails : (call.perform heap).1 = .error error) :
    (call.perform heap).2 = ⟨call.returned, heap⟩ := by
  cases call.course heap with
  | failed hcall => rw [hcall]
  | read _ _ _ _ hcall | wrote _ _ _ _ _ hcall =>
      rw [hcall] at hfails
      cases hfails

theorem perform_consistent (hconsistent : heap.arena.Consistent) :
    (call.perform heap).2.heap.arena.Consistent := by
  cases call.course heap with
  | failed hcall => rwa [hcall]
  | read _ _ _ hencode hcall =>
      rw [hcall]
      exact (encode_keeps hconsistent hencode).1
  | wrote _ _ _ _ _ hcall =>
      rw [hcall]
      exact hconsistent.put _ _ _

section Written

variable {handle : Handle} {target : FieldRef structs}

theorem written?_of_error {error : CallError} (hfails : (call.perform heap).1 = .error error) :
    call.written? heap handle target = none := by
  rw [written?, hfails]
  cases call.access <;> rfl

theorem written?_of_read {other : FieldRef structs}
    {exposed : other.declared.options.getter = true} (haccess : call.access = .read other exposed) :
    call.written? heap handle target = none := by
  rw [written?, haccess]

variable {other : FieldRef structs} {exposed : other.declared.options.setter = true}
variable {receiver : Handle} {value : Value}

theorem written?_of_write (haccess : call.access = .write other exposed)
    (hok : (call.perform heap).1 = .ok ()) (hreceiver : call.frame.receiverHandle = .ok receiver)
    (harguments : call.frame.arguments = [value]) :
    call.written? heap handle target =
      if same : other = target ∧ receiver = handle then
        (decode heap.arena target.declared.field.type
          (target.declared.writable (same.1 ▸ exposed)) value).toOption
      else none := by
  rw [written?, haccess, hok, hreceiver, harguments]

/-- What is written was read from a script value. -/
theorem decode_of_written? {data : target.Data}
    (hwritten : call.written? heap handle target = some data) :
    ∃ readable value, decode heap.arena target.declared.field.type readable value = .ok data := by
  cases call.course heap with
  | failed hcall => cases (written?_of_error (by rw [hcall])).symm.trans hwritten
  | read haccess => cases (written?_of_read haccess).symm.trans hwritten
  | @wrote other exposed receiver content value stored haccess hreceiver hget harguments hdecode
      hcall =>
      rw [written?_of_write haccess (by rw [hcall]) hreceiver harguments] at hwritten
      split at hwritten
      · next hsame =>
          obtain ⟨rfl, rfl⟩ := hsame
          rw [hdecode] at hwritten
          obtain rfl := Option.some.inj hwritten
          exact ⟨_, _, hdecode⟩
      · cases hwritten

/-- After a call a cell of a live instance holds what the call wrote there, or else what it
held before. -/
theorem fieldAt?_perform (hconsistent : heap.arena.Consistent) {data : target.Data}
    (hbefore : heap.arena.fieldAt? handle target = some data) :
    (call.perform heap).2.heap.arena.fieldAt? handle target =
      some ((call.written? heap handle target).getD data) := by
  cases call.course heap with
  | failed hcall =>
      rw [written?_of_error (by rw [hcall]), hcall]
      exact hbefore
  | read haccess hreceiver hget hencode hcall =>
      rw [written?_of_read haccess, hcall]
      -- The getter may have lent a new instance, but not in the place of a live one.
      obtain ⟨content, hlive, hdata⟩ := Arena.fieldAt?_eq_some.mp hbefore
      have hkept := (encode_keeps hconsistent hencode).2 handle _ (Arena.get_eq_ok_iff.mp hlive)
      exact Arena.fieldAt?_eq_some.mpr ⟨content, Arena.get_eq_ok_iff.mpr hkept, hdata⟩
  | @wrote other exposed receiver content value stored haccess hreceiver hget harguments hdecode
      hcall =>
      rw [written?_of_write haccess (by rw [hcall]) hreceiver harguments, hcall]
      split
      · next hsame =>
          obtain ⟨rfl, rfl⟩ := hsame
          rw [hdecode]
          exact Arena.fieldAt?_put_self hget stored
      · next hother =>
          refine Eq.trans ?_ hbefore
          by_cases hhandle : handle = receiver
          · subst hhandle
            have hfield : target ≠ other := fun hsame => hother ⟨hsame.symm, rfl⟩
            exact Arena.fieldAt?_put_of_field_ne hget stored hfield
          · exact Arena.fieldAt?_put_of_handle_ne hget _ target hhandle

end Written

section Access

variable {target : FieldRef structs} {receiver : Handle}

/-- A getter on a live receiver writes what the field holds as a script value; only arguments
keep it from doing so. -/
theorem perform_read {exposed : target.declared.options.getter = true}
    (haccess : call.access = .read target exposed)
    (hreceiver : call.frame.receiverHandle = .ok receiver) {data : target.Data}
    (hdata : heap.arena.fieldAt? receiver target = some data) :
    call.perform heap =
      if call.frame.argumentCount = 0 then
        match encode heap.arena target.declared.field.type data with
        | .ok (value, arena) => (.ok (), ⟨value, arena, heap.world⟩)
        | .error cause => (.error (.result cause), ⟨call.returned, heap⟩)
      else (.error (.argumentCount call.frame.argumentCount 0 0), ⟨call.returned, heap⟩) := by
  obtain ⟨content, hget, rfl⟩ := Arena.fieldAt?_eq_some.mp hdata
  have hintake := Frame.intake_empty (Frame.receiver_eq_ok.mpr ⟨receiver, hreceiver, hget⟩)
  rw [perform, haccess]
  split
  · next hnone =>
      rw [if_pos hnone] at hintake
      exact target.declared.getter_call ⟨call.returned, heap⟩ call.id hintake
  · next hsome =>
      rw [if_neg hsome] at hintake
      exact target.declared.getter.entry_call_of_error call.id hintake

/-- Data that is a script value is never refused. -/
theorem perform_read_ne_result {exposed : target.declared.options.getter = true}
    (haccess : call.access = .read target exposed)
    (hreceiver : call.frame.receiverHandle = .ok receiver) {data : target.Data}
    (hdata : heap.arena.fieldAt? receiver target = some data)
    (hwritable : ∀ cause, ¬ Unwritable schema.toClassFamily target.declared.field.type data cause)
    (cause : ConversionError) : (call.perform heap).1 ≠ .error (.result cause) := by
  intro hrefused
  rw [perform_read haccess hreceiver hdata] at hrefused
  split at hrefused
  · cases hencode : encode heap.arena target.declared.field.type data with
    | ok written =>
        rw [hencode] at hrefused
        cases hrefused
    | error other => exact hwritable other (encode_eq_error.mp hencode)
  · cases hrefused

variable {exposed : target.declared.options.setter = true}

/-- A setter succeeds exactly if its receiver is a live instance of its class and it has one
argument, which can be decoded. -/
theorem perform_write_ok_iff (haccess : call.access = .write target exposed) :
    (call.perform heap).1 = .ok () ↔
      ∃ receiver value data, call.frame.receiverHandle = .ok receiver ∧
        (heap.arena.fieldAt? receiver target).isSome = true ∧ call.frame.arguments = [value] ∧
        decode heap.arena target.declared.field.type (target.declared.writable exposed) value =
          .ok data := by
  constructor
  · intro hok
    cases call.course heap with
    | failed hcall =>
        rw [hcall] at hok
        cases hok
    | read hread => cases hread.symm.trans haccess
    | wrote hwrite hreceiver hget harguments hdecode =>
        cases hwrite.symm.trans haccess
        have hlive := Arena.fieldAt?_eq_some.mpr ⟨_, hget, rfl⟩
        exact ⟨_, _, _, hreceiver, Option.isSome_of_eq_some hlive, harguments, hdecode⟩
  · rintro ⟨receiver, value, data, hreceiver, hlive, harguments, hdecode⟩
    obtain ⟨held, hheld⟩ := Option.isSome_iff_exists.mp hlive
    obtain ⟨content, hget, -⟩ := Arena.fieldAt?_eq_some.mp hheld
    have hcontent := Frame.receiver_eq_ok.mpr ⟨receiver, hreceiver, hget⟩
    have hargument : (target.declared.accessor.parameter exposed).decode heap.arena value =
        .ok data := hdecode
    have hintake := Frame.intake_single_eq_ok.mpr ⟨hcontent, value, harguments, hargument⟩
    obtain ⟨_, -, -, hcall⟩ :=
      StructField.setter_call ⟨call.returned, heap⟩ exposed call.id hintake
    rw [perform, haccess]
    exact congrArg Prod.fst hcall

/-- A setter that succeeds returns nil and changes one field of its receiver. -/
theorem perform_write_ok (haccess : call.access = .write target exposed)
    (hreceiver : call.frame.receiverHandle = .ok receiver)
    (hok : (call.perform heap).1 = .ok ()) :
    (call.perform heap).2.returned = .nil ∧ (call.perform heap).2.heap.world = heap.world ∧
      ∃ data, call.written? heap receiver target = some data ∧
        heap.arena.FieldChanged (call.perform heap).2.heap.arena receiver target data := by
  cases call.course heap with
  | failed hcall =>
      rw [hcall] at hok
      cases hok
  | read hread => cases hread.symm.trans haccess
  | @wrote _ _ _ _ _ data hwrite hother hget harguments hdecode hcall =>
      cases hwrite.symm.trans haccess
      cases hother.symm.trans hreceiver
      refine ⟨by rw [hcall], by rw [hcall], data, ?_, ?_⟩
      · rw [written?_of_write haccess hok hreceiver harguments, dif_pos ⟨rfl, rfl⟩, hdecode]
        rfl
      · rw [hcall]
        exact Arena.put_fieldChanged hget _

end Access

end FieldCall

/-! ## Runs of calls -/

namespace Heap

variable {heap : Heap schema} {handle : Handle} {target : FieldRef structs}

theorem afterFieldCalls_consistent (hconsistent : heap.arena.Consistent)
    (past : List (FieldCall structs)) : (heap.afterFieldCalls past).arena.Consistent := by
  induction past generalizing heap with
  | nil => exact hconsistent
  | cons call rest ih => exact ih (call.perform_consistent hconsistent)

/-- After any calls a cell of an instance that was live holds what was written there last, or
what it held at the start. -/
theorem fieldAt?_afterFieldCalls (hconsistent : heap.arena.Consistent) {initial : target.Data}
    (hstart : heap.arena.fieldAt? handle target = some initial) (past : List (FieldCall structs)) :
    (heap.afterFieldCalls past).arena.fieldAt? handle target =
      some ((heap.written handle target past).getLast?.getD initial) := by
  induction past generalizing heap initial with
  | nil => exact hstart
  | cons call rest ih =>
      -- What the first call leaves in the cell is what the rest of the run starts from.
      have hstep := call.fieldAt?_perform hconsistent hstart
      rw [afterFieldCalls, ih (call.perform_consistent hconsistent) hstep, written,
        List.getLast?_append]
      cases call.written? heap handle target <;>
        cases ((call.perform heap).2.heap.written handle target rest).getLast? <;> rfl

theorem writable_of_mem_written {past : List (FieldCall structs)} {data : target.Data}
    (hdata : data ∈ heap.written handle target past) (cause : ConversionError) :
    ¬ Unwritable schema.toClassFamily target.declared.field.type data cause := by
  induction past generalizing heap with
  | nil => cases hdata
  | cons call rest ih =>
      rcases List.mem_append.mp hdata with hfirst | hlater
      · obtain ⟨readable, value, hdecode⟩ :=
          FieldCall.decode_of_written? (Option.mem_toList.mp hfirst)
        exact writable_of_decode hdecode
      · exact ih hlater

theorem last_written_writable {past : List (FieldCall structs)}
    (hwritten : heap.written handle target past ≠ []) (initial : target.Data)
    (cause : ConversionError) :
    ¬ Unwritable schema.toClassFamily target.declared.field.type
      ((heap.written handle target past).getLast?.getD initial) cause := by
  rw [List.getLast?_eq_getLast_of_ne_nil hwritten, Option.getD_some]
  exact writable_of_mem_written (List.getLast_mem hwritten) cause

end Heap

/-- The accessors that deriving plans for structs, once their fields are bound, make a store
of fields out of the live instances.  From any point of a run of such calls on at which an
instance is live, a getter on it without arguments writes as a script value what the last
successful setter of the field on this instance decoded, or what the field held at that point,
and its result is not refused if there was such a setter.  A setter that succeeds returns nil
and changes one field of its receiver, and a call that fails changes nothing. -/
theorem accessors_store_fields
    (structs : (owner : schema.Class) → Struct schema.toClassFamily owner) :
    (∀ (owner : schema.Class) (item : Derive.Item) (plan : Derive.Plan),
      item.derive = .ok plan → item.body = .struct ((structs owner).fields.map (·.item)) →
        plan.accessors = (structs owner).fields.flatMap (·.plans)) ∧
    (∀ (Vm VmClass : Type) [ScriptHost schema Vm VmClass] (owner : schema.Class)
      (site after : BindSite schema Vm VmClass), site.record.owner = owner →
        (Declaration.fields (structs owner).accessors).bind site = .ok () after →
          ∀ declared ∈ (structs owner).fields,
            (declared.options.getter = true →
              after.record.member? declared.scriptName =
                some (declared.getter.member declared.scriptName .getter .empty)) ∧
            ∀ exposed : declared.options.setter = true, ∃ vm : Vm,
              let name := ScriptHost.setterName vm declared.scriptName
              after.record.member? name = some ((StructField.setter exposed).member name .setter
                (.requiredOnly [(declared.accessor.parameter exposed).tag]))) ∧
    ∀ start : Heap schema, start.arena.Reached →
      ∀ (earlier past : List (FieldCall structs)) (call : FieldCall structs),
        let origin := start.afterFieldCalls earlier
        let heap := origin.afterFieldCalls past
        (∀ error, (call.perform heap).1 = .error error →
          (call.perform heap).2 = ⟨call.returned, heap⟩) ∧
        (∀ target exposed, call.access = .write target exposed →
          ((call.perform heap).1 = .ok () ↔
            ∃ receiver value data, call.frame.receiverHandle = .ok receiver ∧
              (heap.arena.fieldAt? receiver target).isSome = true ∧
              call.frame.arguments = [value] ∧
              decode heap.arena target.declared.field.type (target.declared.writable exposed)
                value = .ok data) ∧
          ∀ receiver, call.frame.receiverHandle = .ok receiver → (call.perform heap).1 = .ok () →
            (call.perform heap).2.returned = .nil ∧ (call.perform heap).2.heap.world = heap.world ∧
              ∃ data, call.written? heap receiver target = some data ∧
                heap.arena.FieldChanged (call.perform heap).2.heap.arena receiver target data) ∧
        ∀ handle target initial, origin.arena.fieldAt? handle target = some initial →
          let data := (origin.written handle target past).getLast?.getD initial
          heap.arena.fieldAt? handle target = some data ∧
          ∀ exposed, call.access = .read target exposed →
            call.frame.receiverHandle = .ok handle →
              (call.perform heap =
                if call.frame.argumentCount = 0 then
                  match encode heap.arena target.declared.field.type data with
                  | .ok (value, arena) => (.ok (), ⟨value, arena, heap.world⟩)
                  | .error cause => (.error (.result cause), ⟨call.returned, heap⟩)
                else
                  (.error (.argumentCount call.frame.argumentCount 0 0),
                    ⟨call.returned, heap⟩)) ∧
              (origin.written handle target past ≠ [] →
                ∀ cause, (call.perform heap).1 ≠ .error (.result cause)) := by
  refine ⟨fun owner item plan => (structs owner).derive_accessors, ?_, ?_⟩
  · intro Vm VmClass _ owner site after howner haccepted declared hdeclared
    exact ⟨Struct.getter_bound howner haccepted hdeclared,
      Struct.setter_bound howner haccepted hdeclared⟩
  · intro start hreached earlier past call origin heap
    refine ⟨fun error => FieldCall.perform_of_error, ?_, ?_⟩
    · intro target exposed haccess
      exact ⟨FieldCall.perform_write_ok_iff haccess, fun receiver hreceiver =>
        FieldCall.perform_write_ok haccess hreceiver⟩
    · intro handle target initial hstart data
      have hdata : heap.arena.fieldAt? handle target = some data :=
        Heap.fieldAt?_afterFieldCalls
          (Heap.afterFieldCalls_consistent hreached.consistent earlier) hstart past
      refine ⟨hdata, fun exposed haccess hreceiver => ?_⟩
      refine ⟨FieldCall.perform_read haccess hreceiver hdata, fun hwritten cause => ?_⟩
      exact FieldCall.perform_read_ne_result haccess hreceiver hdata
        (Heap.last_written_writable hwritten initial) cause

section Sample

open Sample

/-- Attributes of a field that scripts may read and write, under another name or its own. -/
def exposedAs (name : Option String) : List Derive.Attribute :=
  let rename := (name.map fun name => (⟨"name", some (.text name)⟩ : Derive.Key)).toList
  [⟨"script", some ([⟨"get", none⟩, ⟨"set", none⟩] ++ rename)⟩]

def monsterHp : StructField Sample.schema.toClassFamily SampleClass.monster where
  item := ⟨some "hp", "u32", exposedAs none⟩
  options := { getter := true, setter := true }
  field := ⟨"hp", .integer .u32, Monster.hp, fun hp it => { it with hp }, fun _ _ => rfl⟩
  ident_eq := rfl
  options_eq := rfl
  writable _ := rfl

def gaugePal : StructField Sample.schema.toClassFamily SampleClass.gauge where
  item := ⟨some "pal", "Monster", exposedAs none⟩
  options := { getter := true, setter := true }
  field := ⟨"pal", .object .monster, Gauge.pal, fun pal it => { it with pal }, fun _ _ => rfl⟩
  ident_eq := rfl
  options_eq := rfl
  writable _ := rfl

def gaugeMaybe : StructField Sample.schema.toClassFamily SampleClass.gauge where
  item := ⟨some "maybe_pal", "Option<Monster>", exposedAs (some "maybe")⟩
  options := { getter := true, setter := true, name := some "maybe" }
  field := ⟨"maybe_pal", .option (.object .monster), Gauge.maybePal,
    fun maybePal it => { it with maybePal }, fun _ _ => rfl⟩
  ident_eq := rfl
  options_eq := rfl
  writable _ := rfl

def sampleStructs : (owner : Sample.schema.Class) → Struct Sample.schema.toClassFamily owner
  | SampleClass.monster => ⟨[monsterHp], List.pairwise_singleton _ _⟩
  | SampleClass.gauge => ⟨[gaugePal, gaugeMaybe],
      List.pairwise_pair.mpr ⟨fun _ _ => rfl, fun _ _ => rfl⟩⟩
  | _ => ⟨[], .nil⟩

/-- A gauge and a monster. -/
def zoo : Heap Sample.schema :=
  (Heap.new Notes.empty).afterAll
    [.direct (.insert ⟨SampleClass.gauge, ({} : Gauge)⟩),
      .direct (.insert ⟨SampleClass.monster, ({ hp := ⟨5, by decide⟩ } : Monster)⟩)]

def palOf : FieldRef sampleStructs := ⟨SampleClass.gauge, (0 : Fin 2)⟩

def hpOf : FieldRef sampleStructs := ⟨SampleClass.monster, (0 : Fin 1)⟩

/-- The monster becomes the pal of the gauge, and then it is hit. -/
def palThenHit : List (FieldCall sampleStructs) :=
  [⟨.write palOf rfl, palOf.declared.getter.signature.memberId "pal=",
      ⟨[.wrapped ⟨0, 0⟩, .wrapped ⟨1, 0⟩], 1⟩, .nil⟩,
    ⟨.write hpOf rfl, hpOf.declared.getter.signature.memberId "hp=",
      ⟨[.wrapped ⟨1, 0⟩, .int 3], 1⟩, .nil⟩]

def readPal : FieldCall sampleStructs :=
  ⟨.read palOf rfl, palOf.declared.getter.signature.memberId "pal", ⟨[.wrapped ⟨0, 0⟩], 1⟩, .nil⟩

/-- The gauge keeps the monster as it was when it was given to the gauge, and gives it out as
a new instance. -/
theorem accessors_store_fields_pal :
    let heap := zoo.afterFieldCalls palThenHit
    let pal : Monster := { hp := ⟨5, by decide⟩ }
    zoo.arena.fieldAt? ⟨0, 0⟩ palOf = some ({} : Monster) ∧
      zoo.written ⟨0, 0⟩ palOf palThenHit = [pal] ∧
      heap.arena.fieldAt? ⟨0, 0⟩ palOf = some pal ∧
      readPal.perform heap =
        (.ok (), ⟨.wrapped ⟨2, 0⟩, (heap.arena.insert ⟨.monster, pal⟩).2, heap.world⟩) ∧
      ∀ cause, (readPal.perform heap).1 ≠ .error (.result cause) := by
  intro heap pal
  have hreached : zoo.arena.Reached := ⟨Notes.empty, _, rfl⟩
  have hstart : zoo.arena.fieldAt? ⟨0, 0⟩ palOf = some ({} : Monster) := rfl
  have hwritten : zoo.written ⟨0, 0⟩ palOf palThenHit = [pal] := rfl
  obtain ⟨-, -, hruns⟩ := accessors_store_fields sampleStructs
  obtain ⟨-, -, hcells⟩ := hruns zoo hreached [] palThenHit readPal
  obtain ⟨hpal, hreads⟩ := hcells ⟨0, 0⟩ palOf ({} : Monster) hstart
  obtain ⟨hread, hnever⟩ := hreads rfl rfl rfl
  have hsome : zoo.written ⟨0, 0⟩ palOf palThenHit ≠ [] := hwritten ▸ List.cons_ne_nil _ _
  exact ⟨hstart, hwritten, hpal, hread, hnever hsome⟩

end Sample

end NativeBridge
