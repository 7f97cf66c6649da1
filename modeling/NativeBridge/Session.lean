import NativeBridge.Bridge
import NativeBridge.Registry.RecordingHost

/-!
# Sessions

A session is the life of one bridge: the embedding program declares classes and works
with instances, and the virtual machine, here the recording one, calls what was
declared and collects what died.  It is told step by step, and every step has a
reply.
-/

namespace NativeBridge

/-- A bridge that serves a recording host. -/
abbrev Session (schema : Schema) : Type :=
  Bridge schema (RecordingHost schema) Nat

/-- One step of a session.  Calls come with what the return slot holds before. -/
inductive Step (schema : Schema) where
  /-- The machine declares a class of its own. -/
  | defineModule (name : String) (scope : Option Nat)
  /-- Registers a class, with the content its instances start with if scripts may make
  some, and carries out declarations on it. -/
  | register (owner : schema.Class) (name : String) (scope : Option Nat)
      (initial : Option (Task schema.World (schema.Content owner)))
      (declarations : List (Declaration schema owner))
  | bind (owner : schema.Class) (declarations : List (Declaration schema owner))
  | bindRaw (owner : schema.Class) (name : String) (required : Nat)
      (body : Frame → Native schema Unit)
  | allocate (vmClass : Nat) (arguments : List Value) (slot : Value)
  | callMethod (vmClass : Nat) (receiver : Value) (name : String) (arguments : List Value)
      (slot : Value)
  /-- The embedding program runs the allocator or a member from the record of a class. -/
  | callRecorded (owner : schema.Class) (name : Option String) (slots : List Value)
      (slot : Value)
  /-- The machine throws an object of a class away. -/
  | collect (vmClass : Nat) (value : Value)
  /-- The machine throws the object in a variable away. -/
  | collectVariable (object : Value) (name : String)
  | setVariable (owner : schema.Class) (object : Value) (name : String)
      (content : schema.Content owner)
  | readVariable (owner : schema.Class) (object : Value) (name : String)
  | insert (inst : Instance schema.toClassFamily)
  | read (owner : schema.Class) (handle : Handle)
  | update (owner : schema.Class) (handle : Handle)
      (change : schema.Content owner → schema.Content owner)
  | unwrap (owner : schema.Class) (value : Value)
  | updateUnwrapped (owner : schema.Class) (value : Value)
      (change : schema.Content owner → schema.Content owner)
  | finalize (handle : Handle)
  | decode (parameter : ParameterType schema.toClassFamily) (value : Value)
  | encode (datum : Datum schema.toClassFamily)

inductive Reply (schema : Schema) where
  | done
  | number (number : Nat)
  | truth (truth : Bool)
  | value (value : Value)
  | datum (datum : Datum schema.toClassFamily)
  /-- Declarations were carried out, all or some, on the class with this record. -/
  | bound (report : BindReport) (record : ClassRecord schema Nat)
  /-- An entry point ran, and left this in the return slot. -/
  | called (outcome : Except CallError Unit) (slot : Value)
  | rejected (error : BindError)
  | unconverted (error : ConversionError)
  | noMethod (name : String)
  | noAllocator

namespace Reply

variable {schema : Schema}

/-- The value that a step gives to later steps; nil if it gives none. -/
def returned : Reply schema → Value
  | .value given => given
  | .called (.ok ()) slot => slot
  | _ => .nil

def ofContent {owner : schema.Class} :
    Except ConversionError (schema.Content owner) → Reply schema
  | .ok content => datum ⟨.object owner, content⟩
  | .error error => unconverted error

end Reply

namespace Session

variable {schema : Schema}

/-- The reply to a setup step, and the session after it. -/
def replyTo {Outcome : Type} (encode : Outcome → Session schema → Reply schema) :
    EStateM.Result BindError (Session schema) Outcome → Reply schema × Session schema
  | .ok outcome session => (encode outcome session, session)
  | .error error session => (.rejected error, session)

def bindAll (session : Session schema) (owner : schema.Class)
    (declarations : List (Declaration schema owner)) : Reply schema × Session schema :=
  replyTo (fun report session =>
    match session.classRecord owner with
    | .ok record => .bound report record
    | .error error => .rejected error) (Bridge.bind owner declarations session)

def run (session : Session schema) (entry : EntryPoint schema) (frame : Frame) (slot : Value) :
    Reply schema × Session schema :=
  let (outcome, slot, session) := session.call entry frame slot
  (.called outcome slot, session)

/-- Runs the finalizer of a class on the instance that a value wraps.  Other values
have nothing to end. -/
def collect (session : Session schema) (vmClass : Nat) (value : Value) :
    Reply schema × Session schema :=
  match session.vm.classes[vmClass]?.bind (·.lifecycle), value.handle? with
  | some (_, finalizer), some handle =>
    let (ended, heap) := finalizer session.heap handle
    (.truth ended, { session with heap })
  | _, _ => (.truth false, session)

/-- The content after a change, or why there is none. -/
def updated {owner : schema.Class} (session : Session schema) :
    Except ConversionError (schema.Content owner × Session schema) →
      Reply schema × Session schema
  | .ok (content, session) => (.datum ⟨.object owner, content⟩, session)
  | .error error => (.unconverted error, session)

def perform (session : Session schema) : Step schema → Reply schema × Session schema
  | .defineModule name scope =>
    let (vmClass, vm) := session.vm.defineClass name scope
    (.number vmClass, { session with vm })
  | .register owner name scope initial declarations =>
    let setup : Setup schema (RecordingHost schema) Nat Unit :=
      match initial with
      | some initial => Bridge.register owner name scope initial
      | none => Bridge.declare owner name scope
    match setup session with
    | .error error session => (.rejected error, session)
    | .ok () session => Session.bindAll session owner declarations
  | .bind owner declarations => session.bindAll owner declarations
  | .bindRaw owner name required body =>
    replyTo (fun report _ =>
      match report.rejection with
      | some error => .rejected error
      | none => .done) (Bridge.bind owner [.raw name required body] session)
  | .allocate vmClass arguments slot =>
    match session.vm.classes[vmClass]?.bind (·.lifecycle) with
    | some (allocator, _) => session.run allocator ⟨arguments, 0⟩ slot
    | none => (.noAllocator, session)
  | .callMethod vmClass receiver name arguments slot =>
    match session.vm.method? vmClass name with
    | some method => session.run method.entry ⟨receiver :: arguments, 1⟩ slot
    | none => (.noMethod name, session)
  | .callRecorded owner name slots slot =>
    match session.classRecord owner, name with
    | .error error, _ => (.rejected error, session)
    | .ok record, none => session.run record.allocator ⟨slots, 0⟩ slot
    | .ok record, some name =>
      match record.member? name with
      | some member => session.run member.entry ⟨slots, 1⟩ slot
      | none => (.noMethod name, session)
  | .collect vmClass value => session.collect vmClass value
  | .collectVariable object name =>
    match session.vm.variableOf? object name with
    | some stored => session.collect stored.vmClass stored.value
    | none => (.truth false, session)
  | .setVariable owner object name content =>
    replyTo (fun value _ => .value value) (Bridge.setVariable owner object name content session)
  | .readVariable owner object name =>
    (.ofContent (Bridge.readVariable session owner object name), session)
  | .insert inst =>
    let (handle, arena) := session.heap.arena.insert inst
    (.value (.wrapped handle), { session with heap := { session.heap with arena } })
  | .read owner handle => (.ofContent (session.heap.arena.get owner handle), session)
  | .update owner handle change => session.updated (session.updateInstance owner handle change)
  | .unwrap owner value => (.ofContent (Bridge.unwrap session owner value), session)
  | .updateUnwrapped owner value change =>
    session.updated (Bridge.updateUnwrapped session owner value change)
  | .finalize handle =>
    let (ended, session) := Bridge.finalize session handle
    (.truth ended, session)
  | .decode parameter value =>
    match parameter.decode session.heap.arena value with
    | .ok data => (.datum ⟨parameter.type, data⟩, session)
    | .error error => (.unconverted error, session)
  | .encode datum =>
    match NativeBridge.encode session.heap.arena datum.type datum.data with
    | .ok (value, arena) => (.value value, { session with heap := { session.heap with arena } })
    | .error error => (.unconverted error, session)

end Session

end NativeBridge
