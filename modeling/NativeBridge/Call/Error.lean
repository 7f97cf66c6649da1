import NativeBridge.Conversion.Error
import NativeBridge.Native.Schema

/-!
# Call errors

Why a bound native function did not return to the script that called it.
-/

namespace NativeBridge

/-- The failure of one call. -/
inductive CallError where
  | argumentCount (given required greatest : Nat)
  | argument (index : Nat) (cause : ConversionError)
  /-- The receiver is no instance of the class. -/
  | receiver (cause : ConversionError)
  /-- What the native function returned is no script value. -/
  | result (cause : ConversionError)
  /-- The class has no way to make instances. -/
  | noConstructor (className : String)
  /-- The native function broke off; the failure was contained. -/
  | panic (text : String)
  /-- A hand-written entry point reported a failure of its own. -/
  | other (text : String)

/-- How native code ends without a result: with an error that it reports, or with a
panic. -/
inductive Interrupt where
  | failed (error : CallError)
  | panicked (panic : Panic)

/-- The script-level class of a call error. -/
inductive CallErrorKind where
  | argumentCount
  | typeMismatch
  | invalidInstance
  | native
deriving DecidableEq

def CallErrorKind.name : CallErrorKind → String
  | argumentCount => "ArgumentCount"
  | typeMismatch => "TypeMismatch"
  | invalidInstance => "InvalidInstance"
  | native => "Native"

namespace CallError

def name : CallError → String
  | argumentCount .. => "ArgumentCount"
  | argument .. => "Argument"
  | receiver .. => "Receiver"
  | result .. => "Return"
  | noConstructor .. => "NoConstructor"
  | panic .. => "Panic"
  | other .. => "Other"

/-- The argument counts a member accepts: one number, or a range. -/
def expectedCounts (required greatest : Nat) : String :=
  if required = greatest then toString required
  else toString required ++ ".." ++ toString greatest

def message : CallError → String
  | argumentCount given required greatest =>
    "wrong number of arguments (given " ++ toString given ++ ", expected "
      ++ expectedCounts required greatest ++ ")"
  | argument index cause => "argument " ++ toString index ++ ": " ++ cause.message
  | receiver cause => "invalid receiver: " ++ cause.message
  | result cause => "return value: " ++ cause.message
  | noConstructor className => "class " ++ className ++ " has no constructor bound"
  | panic text => "native function panicked: " ++ text
  | other text => text

def cause? : CallError → Option ConversionError
  | argument _ cause | receiver cause | result cause => some cause
  | _ => none

/-- The class under which a script sees the error. -/
def kind : CallError → CallErrorKind
  | argumentCount .. => .argumentCount
  | argument _ cause | result cause =>
    if cause.isAboutInstance then .invalidInstance else .typeMismatch
  | receiver _ => .invalidInstance
  | noConstructor _ | panic _ | other _ => .native

end CallError

end NativeBridge
