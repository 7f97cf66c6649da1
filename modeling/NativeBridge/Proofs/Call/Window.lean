import NativeBridge.Proofs.Call.Extraction

/-!
# The window of arguments

The arguments of a call are a window on its slots: those from the offset on.  An accessor takes
an index and looks at the slot that lies so far behind the offset.  As long as the sum of the two
is a word, the slot is that of the argument or there is none.  The accessors that need a value also
form the number that comes after the index, whether there is a value or not.  A sum that is no word
ends the accessor with a panic, so that it never looks at what stands before the arguments.
-/

namespace NativeBridge

/-! ## Sums of positions -/

section Sum

variable {left right : UInt64}

theorem addPositions_of_lt (hsum : left.toNat + right.toNat < UInt64.size) :
    addPositions left right = .ok (left + right) :=
  if_pos hsum

theorem addPositions_of_not_lt (hsum : ¬ left.toNat + right.toNat < UInt64.size) :
    addPositions left right = .error .overflow :=
  if_neg hsum

theorem toNat_add_of_lt (hsum : left.toNat + right.toNat < UInt64.size) :
    (left + right).toNat = left.toNat + right.toNat := by
  rw [UInt64.toNat_add]
  exact Nat.mod_eq_of_lt hsum

end Sum

namespace Frame

variable {frame : Frame} {index : UInt64}

/-! ## Where an accessor looks -/

/-- The value that lies `position` behind the offset, if there are so many arguments. -/
def argument? (frame : Frame) (position : Nat) : Option Value :=
  if position < frame.argumentCount then frame.slots[frame.offset.toNat + position]? else none

theorem argument?_eq (frame : Frame) (position : Nat) :
    frame.argument? position = frame.arguments[position]? := by
  rw [argument?]
  split
  · rw [arguments, List.getElem?_drop]
  · next hmissing =>
      rw [List.getElem?_eq_none (length_arguments ▸ Nat.not_lt.mp hmissing)]

/-- Where the offset and the index add up to a word, it leads to the argument. -/
theorem slotAt_of_lt (hsum : frame.offset.toNat + index.toNat < UInt64.size) :
    frame.slotAt index = .ok (frame.argument? index.toNat) := by
  rw [slotAt, addPositions_of_lt hsum, Except.map, toNat_add_of_lt hsum, argument?_eq, arguments,
    List.getElem?_drop]

theorem slotAt_of_not_lt (hsum : ¬ frame.offset.toNat + index.toNat < UInt64.size) :
    frame.slotAt index = .error .overflow := by
  rw [slotAt, addPositions_of_not_lt hsum, Except.map]

/-- The offset and the index add up to a word, and so do the index and one. -/
def Sums (frame : Frame) (index : UInt64) : Prop :=
  frame.offset.toNat + index.toNat < UInt64.size ∧ index.toNat + 1 < UInt64.size

/-! ## What the accessors make of it -/

/-- What there is to tell about the argument at a position that is read by `read`.  Without it the
call has too few arguments. -/
def readArgument {Data : Type} (frame : Frame) (position : Nat)
    (read : Value → Except ConversionError Data) : Except CallError Data :=
  match frame.argument? position with
  | none => .error (.argumentCount frame.argumentCount (position + 1) (position + 1))
  | some value =>
    match read value with
    | .ok data => .ok data
    | .error cause => .error (.argument position cause)

theorem valueAt_of_sums (hsums : frame.Sums index) :
    frame.valueAt index = (frame.readArgument index.toNat .ok).mapError .failed := by
  obtain ⟨hsum, hnext⟩ := hsums
  have hwanted : (index + 1).toNat = index.toNat + 1 := toNat_add_of_lt hnext
  rw [valueAt, slotAt_of_lt hsum, addPositions_of_lt hnext, readArgument]
  cases frame.argument? index.toNat with
  | none =>
      rw [← hwanted]
      rfl
  | some value => rfl

/-- Whichever of the two sums is no word, and whether there is a value or not. -/
theorem valueAt_of_not_sums (hsums : ¬ frame.Sums index) :
    frame.valueAt index = .error (.panicked .overflow) := by
  by_cases hsum : frame.offset.toNat + index.toNat < UInt64.size
  · have hnext : ¬ index.toNat + 1 < UInt64.size := fun hnext => hsums ⟨hsum, hnext⟩
    rw [valueAt, slotAt_of_lt hsum, addPositions_of_not_lt hnext]
    rfl
  · rw [valueAt, slotAt_of_not_lt hsum]
    rfl

theorem textAt_of_sums (hsums : frame.Sums index) :
    frame.textAt index = (frame.readArgument index.toNat decodeString).mapError .failed := by
  rw [textAt, valueAt_of_sums hsums, readArgument, readArgument]
  cases frame.argument? index.toNat with
  | none => rfl
  | some value => cases value <;> rfl

theorem textAt_of_not_sums (hsums : ¬ frame.Sums index) :
    frame.textAt index = .error (.panicked .overflow) := by
  rw [textAt, valueAt_of_not_sums hsums]
  rfl

section Data

variable {family : ClassFamily} (arena : Arena family) (parameter : ParameterType family)

theorem dataAt_of_sums (hsums : frame.Sums index) :
    frame.dataAt arena parameter index =
      (frame.readArgument index.toNat (parameter.decode arena)).mapError .failed := by
  rw [dataAt, valueAt_of_sums hsums, readArgument, readArgument]
  cases frame.argument? index.toNat with
  | none => rfl
  | some value =>
      dsimp only [Except.mapError, bind, Except.bind]
      cases parameter.decode arena value <;> rfl

theorem dataAt_of_not_sums (hsums : ¬ frame.Sums index) :
    frame.dataAt arena parameter index = .error (.panicked .overflow) := by
  rw [dataAt, valueAt_of_not_sums hsums]
  rfl

end Data

/-! ## Which indices keep to the window -/

/-- The accessors at an index keep to the arguments: what they look at is the argument, and a call
without it should have had one more than the index.  None of them panics. -/
structure KeepsWindow (frame : Frame) (index : UInt64) : Prop where
  slot : frame.slotAt index = .ok (frame.argument? index.toNat)
  kind : frame.kindAt index = .ok ((frame.argument? index.toNat).map (·.kind))
  text : frame.textAt index = (frame.readArgument index.toNat decodeString).mapError .failed
  data : ∀ (family : ClassFamily) (arena : Arena family) (parameter : ParameterType family),
    frame.dataAt arena parameter index =
      (frame.readArgument index.toNat (parameter.decode arena)).mapError .failed

theorem mapError_failed_ne_panicked {Data : Type} {read : Except CallError Data} {panic : Panic} :
    read.mapError Interrupt.failed ≠ .error (.panicked panic) := by
  cases read <;> rintro ⟨⟩

theorem keepsWindow_iff : frame.KeepsWindow index ↔ frame.Sums index := by
  constructor
  · intro hkeeps
    refine Classical.byContradiction fun hsums => ?_
    exact mapError_failed_ne_panicked (hkeeps.text.symm.trans (textAt_of_not_sums hsums))
  · intro hsums
    have hslot := slotAt_of_lt hsums.1
    exact ⟨hslot, by rw [kindAt, hslot, Except.map], textAt_of_sums hsums,
      fun family arena parameter => dataAt_of_sums arena parameter hsums⟩

/-- The accessors keep to the arguments of a call exactly as long as the sums that they form are
words: that of the offset and the index, and for those that need a value that of the index and one.
Over any other sum they panic.  So they give what is the argument, or tell that there is none, and
never what stands in another slot. -/
theorem accessors_keep_window_iff (frame : Frame) (index : UInt64) :
    (frame.KeepsWindow index ↔
      frame.offset.toNat + index.toNat < UInt64.size ∧ index.toNat + 1 < UInt64.size) ∧
    frame.slotAt index =
      (if frame.offset.toNat + index.toNat < UInt64.size then .ok (frame.argument? index.toNat)
      else .error .overflow) ∧
    frame.kindAt index =
      (if frame.offset.toNat + index.toNat < UInt64.size then
        .ok ((frame.argument? index.toNat).map (·.kind))
      else .error .overflow) ∧
    (frame.KeepsWindow index ∨
      frame.textAt index = .error (.panicked .overflow) ∧
        ∀ (family : ClassFamily) (arena : Arena family) (parameter : ParameterType family),
          frame.dataAt arena parameter index = .error (.panicked .overflow)) := by
  refine ⟨keepsWindow_iff, ?_, ?_, ?_⟩
  · split
    · next hsum => exact slotAt_of_lt hsum
    · next hsum => exact slotAt_of_not_lt hsum
  · split
    · next hsum => rw [kindAt, slotAt_of_lt hsum, Except.map]
    · next hsum => rw [kindAt, slotAt_of_not_lt hsum, Except.map]
  · rw [keepsWindow_iff]
    refine (Classical.em (frame.Sums index)).imp_right fun hsums => ?_
    exact ⟨textAt_of_not_sums hsums, fun family arena parameter =>
      dataAt_of_not_sums arena parameter hsums⟩

/-- At the last index of all there is no argument.  To a method any accessor panics there, although
its receiver and its argument are in place; to a function those do that need a value. -/
theorem last_index_leaves_window :
    let method : Frame := ⟨[.wrapped ⟨0, 0⟩, .int 7], 1⟩
    let function : Frame := ⟨[.int 7], 0⟩
    method.argument? (UInt64.size - 1) = none ∧
      method.slotAt (-1) = .error .overflow ∧ method.kindAt (-1) = .error .overflow ∧
      function.argument? (UInt64.size - 1) = none ∧
      function.slotAt (-1) = .ok none ∧ function.textAt (-1) = .error (.panicked .overflow) ∧
      ¬ method.KeepsWindow (-1) ∧ ¬ function.KeepsWindow (-1) := by
  refine ⟨if_neg (by decide), rfl, rfl, if_neg (by decide), rfl, rfl, fun hkeeps => ?_,
    fun hkeeps => ?_⟩
  · exact absurd (keepsWindow_iff.mp hkeeps).1 (by decide)
  · exact absurd (keepsWindow_iff.mp hkeeps).2 (by decide)

end Frame

end NativeBridge
