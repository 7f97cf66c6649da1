import NativeBridge.Member.Function
import NativeBridge.Proofs.Arena.Operation
import NativeBridge.Proofs.Call.ExclusiveAccess

/-!
# Native code as programs

A hand-written entry point may do anything, but it reaches the arena only through its
operations.  A program is native code in this form: a tree of what it does to the
bridge, in which every branch depends on what was seen before.  The entry points that
the bridge itself makes are programs too.
-/

namespace NativeBridge

variable {schema : Schema} {Outcome Next : Type}

/-- Native code by what it does to the bridge. -/
inductive Program (schema : Schema) (Outcome : Type) where
  | finish (outcome : Outcome)
  /-- Reports an error or panics. -/
  | stop (interrupt : Interrupt)
  /-- Reads the heap and the return slot. -/
  | look (next : CallState schema → Program schema Outcome)
  | work (world : schema.World) (next : Program schema Outcome)
  | fill (value : Value) (next : Program schema Outcome)
  | use (operation : Operation schema) (next : operation.Answer → Program schema Outcome)

/-- What native code leaves behind, however it ends. -/
def Native.left (action : Native schema Outcome) (state : CallState schema) :
    CallState schema :=
  match action state with
  | .ok _ left | .error _ left => left

theorem EntryPoint.call_snd (entry : EntryPoint schema) (frame : Frame)
    (state : CallState schema) :
    (entry.call frame state).2 = (entry.body frame).left state := by
  rw [EntryPoint.call, Native.left]
  rcases entry.body frame state with _ | ⟨_ | _⟩ <;> rfl

namespace Program

def run : Program schema Outcome → Native schema Outcome
  | finish outcome => pure outcome
  | stop interrupt => throw interrupt
  | look next => fun state => (next state).run state
  | work world next => fun state => next.run { state with heap := { state.heap with world } }
  | fill value next => fun state => next.run { state with returned := value }
  | use operation next => fun state =>
    (next (state.heap.perform operation).1).run
      { state with heap := (state.heap.perform operation).2 }

def exchanges : Program schema Outcome → CallState schema → List (Exchange schema)
  | finish _, _ | stop _, _ => []
  | look next, state => (next state).exchanges state
  | work world next, state => next.exchanges { state with heap := { state.heap with world } }
  | fill value next, state => next.exchanges { state with returned := value }
  | use operation next, state =>
    ⟨operation, (state.heap.perform operation).1⟩ ::
      (next (state.heap.perform operation).1).exchanges
        { state with heap := (state.heap.perform operation).2 }

def bind : Program schema Outcome → (Outcome → Program schema Next) → Program schema Next
  | finish outcome, rest => rest outcome
  | stop interrupt, _ => stop interrupt
  | look next, rest => look fun state => (next state).bind rest
  | work world next, rest => work world (next.bind rest)
  | fill value next, rest => fill value (next.bind rest)
  | use operation next, rest => use operation fun answer => (next answer).bind rest

theorem run_bind (program : Program schema Outcome) (rest : Outcome → Program schema Next) :
    (program.bind rest).run = program.run >>= fun outcome => (rest outcome).run := by
  induction program with
  | finish | stop => rfl
  | look next ih =>
      funext state
      exact congrFun (ih state) state
  | work world next ih =>
      funext state
      exact congrFun ih { state with heap := { state.heap with world } }
  | fill value next ih =>
      funext state
      exact congrFun ih { state with returned := value }
  | use operation next ih =>
      funext state
      exact congrFun (ih (state.heap.perform operation).1)
        { state with heap := (state.heap.perform operation).2 }

/-- However a program ends, what it did to the arena is what it exchanged with it. -/
theorem run_follows (program : Program schema Outcome) (state : CallState schema) :
    state.heap.Follows (program.run.left state).heap (program.exchanges state) := by
  induction program generalizing state with
  | finish | stop => exact Heap.Follows.none rfl
  | look next ih => exact ih state state
  | work world next ih =>
      have hworld : state.heap.Follows { state.heap with world } [] := Heap.Follows.none rfl
      exact hworld.trans (ih { state with heap := { state.heap with world } })
  | fill value next ih => exact ih { state with returned := value }
  | use operation next ih =>
      exact (Heap.Follows.perform state.heap operation).trans
        (ih (state.heap.perform operation).1
          { state with heap := (state.heap.perform operation).2 })

end Program

/-! ## The native code of the bridge -/

/-- What native code does is what some program does. -/
def Native.IsProgram (action : Native schema Outcome) : Prop :=
  ∃ program : Program schema Outcome, program.run = action

/-- An instance enters the arena only as a whole: encoding inserts one instance, whose
handle is the encoded value, or leaves the arena alone. -/
theorem encode_arena {family : ClassFamily} {arena next : Arena family} {value : Value} :
    (type : NativeType family.Class) → (data : type.Data family) →
      encode arena type data = .ok (value, next) →
        next = arena ∨ ∃ inst, value = .wrapped (arena.insert inst).1 ∧ next = (arena.insert inst).2
  | .void, _, hencode | .bool, _, hencode | .single, _, hencode | .double, _, hencode
  | .char, _, hencode | .string, _, hencode | .staticText, _, hencode | .value, _, hencode
  | .option _, none, hencode => by
      simp only [encode, Except.ok.injEq, Prod.mk.injEq] at hencode
      exact .inl hencode.2.symm
  | .integer _, number, hencode => by
      simp only [encode] at hencode
      cases hscript : scriptInteger number.val <;> simp_all [Except.map]
  | .cstring, content, hencode => by
      simp only [encode] at hencode
      cases htext : textOfBytes content.bytes <;> simp_all [Except.map]
  | .object owner, content, hencode => by
      simp only [encode, Except.ok.injEq, Prod.mk.injEq] at hencode
      exact .inr ⟨⟨owner, content⟩, hencode.1.symm, hencode.2.symm⟩
  | .option inner, some data, hencode => encode_arena inner data hencode

namespace Native

theorem IsProgram.bind {action : Native schema Outcome} {next : Outcome → Native schema Next}
    (haction : action.IsProgram) (hnext : ∀ outcome, (next outcome).IsProgram) :
    (action >>= next).IsProgram := by
  obtain ⟨program, rfl⟩ := haction
  refine ⟨program.bind fun outcome => (hnext outcome).choose, ?_⟩
  rw [Program.run_bind]
  congr 1
  funext outcome
  exact (hnext outcome).choose_spec

/-- Native code may decide what to do by all that it can see. -/
theorem isProgram_of_look {action : Native schema Outcome}
    (hlook : ∀ state, ∃ program : Program schema Outcome, program.run state = action state) :
    action.IsProgram := by
  refine ⟨.look fun state => (hlook state).choose, ?_⟩
  funext state
  exact (hlook state).choose_spec

theorem ofExcept_isProgram (outcome : Except CallError Outcome) :
    (ofExcept outcome : Native schema Outcome).IsProgram := by
  cases outcome with
  | ok value => exact ⟨.finish value, rfl⟩
  | error error => exact ⟨.stop (.failed error), rfl⟩

theorem get_isProgram : (get : Native schema (CallState schema)).IsProgram :=
  ⟨.look .finish, rfl⟩

theorem run_isProgram (task : Task schema.World Outcome) :
    (run task : Native schema Outcome).IsProgram := by
  apply isProgram_of_look
  intro state
  cases htask : task state.heap.world with
  | ok value world =>
      refine ⟨.work world (.finish value), ?_⟩
      simp only [Native.run, htask, Program.run]
      rfl
  | error panic world =>
      refine ⟨.work world (.stop (.panicked panic)), ?_⟩
      simp only [Native.run, htask, Program.run]
      rfl

theorem arguments_isProgram (frame : Frame) (list : ParameterList)
    (parameters : List (ParameterType schema.toClassFamily)) :
    (arguments frame list parameters : Native schema _).IsProgram :=
  get_isProgram.bind fun _ => ofExcept_isProgram _

theorem exactArguments_isProgram (frame : Frame)
    (parameters : List (ParameterType schema.toClassFamily)) :
    (exactArguments frame parameters : Native schema _).IsProgram :=
  get_isProgram.bind fun _ => ofExcept_isProgram _

theorem receiver_isProgram (frame : Frame) (owner : schema.Class) :
    (receiver frame owner : Native schema _).IsProgram :=
  get_isProgram.bind fun _ => ofExcept_isProgram _

theorem lend_isProgram (inst : Instance schema.toClassFamily) :
    (lend inst : Native schema Value).IsProgram :=
  ⟨.use (.insert inst) fun handle => .finish (.wrapped handle), rfl⟩

theorem setReturnValue_isProgram (value : Value) :
    (setReturnValue value : Native schema Unit).IsProgram :=
  ⟨.fill value (.finish ()), rfl⟩

/-- A write to the receiver is a write through its handle. -/
theorem perform_put (heap : Heap schema) (owner : schema.Class) (handle : Handle)
    (content : schema.Content owner) :
    (heap.perform (.update owner handle fun _ => content)).2 =
      { heap with arena := heap.arena.put owner handle content } := by
  cases hget : heap.arena.get owner handle with
  | ok old => rw [heap.perform_update_arena handle _ hget]
  | error error => rw [heap.perform_update_of_error handle _ hget, Arena.put_of_error hget]

theorem runOnReceiver_isProgram (frame : Frame) (owner : schema.Class)
    (task : Task (schema.Content owner × schema.World) Outcome) :
    (runOnReceiver frame owner task : Native schema Outcome).IsProgram := by
  apply isProgram_of_look
  intro state
  have haccess := frame.accessReceiver_eq state.heap.arena owner
  cases hhandle : frame.receiverHandle with
  | error error =>
      simp only [hhandle] at haccess
      exact ⟨.stop (.failed error), by rw [runOnReceiver, haccess]; rfl⟩
  | ok handle =>
      cases hget : state.heap.arena.get owner handle with
      | error cause =>
          simp only [hhandle, hget] at haccess
          exact ⟨.stop (.failed (.receiver cause)), by rw [runOnReceiver, haccess]; rfl⟩
      | ok content =>
          simp only [hhandle, hget] at haccess
          rw [runOnReceiver, haccess]
          cases htask : task (content, state.heap.world) with
          | ok value changed =>
              refine ⟨.use (.update owner handle fun _ => changed.1) fun _ =>
                .work changed.2 (.finish value), ?_⟩
              simp only [htask, Program.run, perform_put]
              rfl
          | error panic changed =>
              refine ⟨.use (.update owner handle fun _ => changed.1) fun _ =>
                .work changed.2 (.stop (.panicked panic)), ?_⟩
              simp only [htask, Program.run, perform_put]
              rfl

theorem setReturn_isProgram (type : NativeType schema.Class)
    (data : type.Data schema.toClassFamily) :
    (setReturn type data : Native schema Unit).IsProgram := by
  apply isProgram_of_look
  intro state
  cases hencode : encode state.heap.arena type data with
  | error cause =>
      refine ⟨.stop (.failed (.result cause)), ?_⟩
      simp only [setReturn, hencode]
      rfl
  | ok encoded =>
      obtain ⟨value, arena⟩ := encoded
      simp only [setReturn, hencode]
      rcases encode_arena type data hencode with hsame | ⟨inst, hvalue, hinsert⟩
      · exact ⟨.fill value (.finish ()), by rw [hsame]; rfl⟩
      · exact ⟨.use (.insert inst) fun handle => .fill (.wrapped handle) (.finish ()), by
          rw [hvalue, hinsert]; rfl⟩

end Native

/-! ## The entry points of the bridge -/

/-- What the bridge makes an entry point from: how a class starts to make instances, or does not,
a constructor, a method, or code that makes copies. -/
inductive Origin (schema : Schema) where
  | allocation (owner : schema.Class) (initial : Task schema.World (schema.Content owner))
  | refusal (owner : schema.Class) (className : String)
  | constructor {owner : schema.Class} (code : NativeConstructor schema owner)
      (list : ParameterList)
  | method {owner : schema.Class} (code : NativeMethod schema owner) (id : Fingerprint)
      (list : ParameterList)
  | copy (owner : schema.Class)
      (duplicate : schema.Content owner → Task schema.World (schema.Content owner))
      (id : Fingerprint)

namespace Origin

def owner : Origin schema → schema.Class
  | allocation owner _ | refusal owner _ | copy owner _ _ => owner
  | @constructor _ owner _ _ | @method _ owner _ _ _ => owner

/-- What is made of it may write to its receiver. -/
def exclusive : Origin schema → Bool
  | method code _ _ => code.code.exclusive
  | _ => false

def entry : Origin schema → EntryPoint schema
  | allocation owner initial => defaultAllocation owner initial
  | refusal owner className => refusedAllocation owner className
  | constructor code list => code.entry list
  | method code id list => code.entry id list
  | copy owner duplicate id => duplicateEntry owner duplicate id

end Origin

/-- The entry points that the bridge makes: for the allocation of instances, for bound
constructors and methods, and for copies. -/
def EntryPoint.Synthesized (entry : EntryPoint schema) : Prop :=
  ∃ origin : Origin schema, origin.entry = entry

open Native in
/-- The bridge's own entry points reach the arena like hand-written code, through its
operations only. -/
theorem Origin.body_isProgram (origin : Origin schema) (frame : Frame) :
    (origin.entry.body frame).IsProgram := by
  cases origin with
  | allocation owner initial =>
      exact (exactArguments_isProgram frame []).bind fun _ =>
        (run_isProgram initial).bind fun content =>
          (lend_isProgram ⟨owner, content⟩).bind fun value => setReturnValue_isProgram value
  | refusal owner className => exact ⟨.stop (.failed (.noConstructor className)), rfl⟩
  | constructor code list =>
      exact (arguments_isProgram frame list code.parameters).bind fun arguments =>
        (run_isProgram (code.code arguments)).bind fun content =>
          (lend_isProgram ⟨_, content⟩).bind fun value => setReturnValue_isProgram value
  | @method owner code id list =>
      apply (receiver_isProgram frame owner).bind
      intro content
      apply (arguments_isProgram frame list code.parameters).bind
      intro arguments
      obtain ⟨parameters, result, body⟩ := code
      cases body with
      | reads body =>
          exact (run_isProgram (body content arguments)).bind fun data =>
            setReturn_isProgram result data
      | writes body =>
          exact (runOnReceiver_isProgram frame owner (body arguments)).bind fun data =>
            setReturn_isProgram result data
  | copy owner duplicate id =>
      exact (exactArguments_isProgram frame []).bind fun _ =>
        (receiver_isProgram frame owner).bind fun content =>
          (run_isProgram (duplicate content)).bind fun copy =>
            (lend_isProgram ⟨owner, copy⟩).bind fun value => setReturnValue_isProgram value

end NativeBridge
