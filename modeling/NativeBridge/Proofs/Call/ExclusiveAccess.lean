import NativeBridge.Call.Entry
import NativeBridge.Proofs.Arena.Lookup

/-!
# Exclusive access to the receiver

A call takes its receiver to read it or to write to it.  Both look for the same handle among the
slots of the call and for the same content behind it.
-/

namespace NativeBridge

namespace Frame

variable {family : ClassFamily}

/-- Exclusive access to the receiver is had where the receiver can be read, with what is read;
what is left there is put behind the handle of the receiver. -/
theorem accessReceiver_eq (frame : Frame) (arena : Arena family) (owner : family.Class) :
    frame.accessReceiver arena owner =
      match frame.receiverHandle with
      | .error error => .error error
      | .ok handle =>
        match arena.get owner handle with
        | .ok content => .ok ⟨content, arena.put owner handle⟩
        | .error cause => .error (.receiver cause) := by
  rw [accessReceiver]
  cases frame.receiverHandle with
  | error error => rfl
  | ok handle =>
      simp only [Arena.access_eq]
      cases arena.get owner handle <;> rfl

end Frame

end NativeBridge
