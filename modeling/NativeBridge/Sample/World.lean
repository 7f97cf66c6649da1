import NativeBridge.Sample.Classes

/-!
# What sample code leaves behind

Sample code has one effect outside the bridge: it notes what it saw.  A function body
notes its arguments, and a script notes the outcome of each of its steps.
-/

namespace NativeBridge.Sample

/-- What one step of a script gave. -/
inductive Outcome where
  | nothing
  | count (number : Nat)
  | truth (truth : Bool)
  | text (content : String)
  | value (value : Value)
  /-- A slot that may be missing. -/
  | slot (value : Option Value)
  /-- The kind of a slot that may be missing. -/
  | kind (kind : Option ValueKind)
  | datum (datum : Datum family)
  | data (data : List (Datum family))

inductive Note where
  /-- A function body ended; these were its arguments. -/
  | arguments (data : List (Datum family))
  | done (outcome : Outcome)
  | failed (error : CallError)

/-- The notes taken so far, the oldest first. -/
structure Notes where
  entries : List Note

def Notes.empty : Notes := ⟨[]⟩

def Notes.add (notes : Notes) (note : Note) : Notes :=
  ⟨notes.entries ++ [note]⟩

/-- Throwing away a fragile instance breaks off; other contents just go. -/
def discard : (owner : SampleClass) → owner.Content → Task Notes Unit
  | .fragile, _ => throw (.text "fragile instance dropped")
  | _, _ => pure ()

/-- The native side made of the sample classes and their notes. -/
@[reducible]
def schema : Schema where
  toClassFamily := family
  World := Notes
  discard := discard

end NativeBridge.Sample
