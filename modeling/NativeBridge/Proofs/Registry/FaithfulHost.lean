import Mathlib.Logic.Function.Basic
import NativeBridge.Registry.RecordingHost

/-!
# Faithful hosts

A virtual machine is faithful if it gives every class that it declares a handle of its
own, and remembers for each class what it was told last and nothing else.  The bridge
relies on no more than this.  The recording host is faithful.
-/

namespace NativeBridge

variable {schema : Schema}

/-- What a virtual machine holds for one of its classes. -/
structure ClassView (schema : Schema) where
  lifecycle : Option (EntryPoint schema × Finalizer schema)
  /-- The method under a name, with the least number of its arguments. -/
  method? : String → Option (Nat × EntryPoint schema)

namespace ClassView

/-- A class that was just declared. -/
def blank : ClassView schema := ⟨none, fun _ => none⟩

def withLifecycle (view : ClassView schema) (allocator : EntryPoint schema)
    (finalizer : Finalizer schema) : ClassView schema :=
  { view with lifecycle := some (allocator, finalizer) }

def withMethod (view : ClassView schema) (name : String) (required : Nat)
    (entry : EntryPoint schema) : ClassView schema :=
  { view with method? := Function.update view.method? name (some (required, entry)) }

end ClassView

/-- A virtual machine that can be asked what it holds for a class.  It holds something for
a class from the declaration of the class on. -/
class FaithfulHost (schema : outParam Schema) (Vm : Type) (VmClass : outParam Type)
    extends ScriptHost schema Vm VmClass where
  view? : Vm → VmClass → Option (ClassView schema)
  /-- No class was declared before under the handle of a new class. -/
  view?_defineClass_fresh : ∀ vm name scope, view? vm (defineClass vm name scope).1 = none
  view?_defineClass_self : ∀ vm name scope,
    view? (defineClass vm name scope).2 (defineClass vm name scope).1 = some .blank
  view?_defineClass_of_ne : ∀ vm name scope other, other ≠ (defineClass vm name scope).1 →
    view? (defineClass vm name scope).2 other = view? vm other
  view?_setLifecycle_self : ∀ vm vmClass allocator finalizer,
    view? (setLifecycle vm vmClass allocator finalizer) vmClass =
      (view? vm vmClass).map (·.withLifecycle allocator finalizer)
  view?_setLifecycle_of_ne : ∀ vm vmClass allocator finalizer other, other ≠ vmClass →
    view? (setLifecycle vm vmClass allocator finalizer) other = view? vm other
  view?_defineMethod_self : ∀ vm vmClass name required entry,
    view? (defineMethod vm vmClass name required entry) vmClass =
      (view? vm vmClass).map (·.withMethod name required entry)
  view?_defineMethod_of_ne : ∀ vm vmClass name required entry other, other ≠ vmClass →
    view? (defineMethod vm vmClass name required entry) other = view? vm other

/-! ## The recording host -/

def RecordedClass.view (record : RecordedClass schema) : ClassView schema where
  lifecycle := record.lifecycle
  method? name := (record.methods.find? (·.name == name)).map fun method =>
    (method.required, method.entry)

namespace RecordingHost

variable (host : RecordingHost schema) (vmClass : Nat)

def view? : Option (ClassView schema) :=
  host.classes[vmClass]?.map (·.view)

/-- A method takes the place of the one its class had under the name, and of no other. -/
theorem view_defineMethod (record : RecordedClass schema) (name : String) (required : Nat)
    (entry : EntryPoint schema) :
    ({ record with
        methods := record.methods.filter (·.name != name) ++ [⟨name, required, entry⟩] } :
      RecordedClass schema).view = record.view.withMethod name required entry := by
  simp only [RecordedClass.view, ClassView.withMethod, ClassView.mk.injEq, true_and]
  funext other
  by_cases hname : other = name
  · subst hname
    have hgone : (record.methods.filter (·.name != other)).find? (·.name == other) = none := by
      simp
    simp [List.find?_append, hgone]
  · have hkept : (record.methods.filter (·.name != name)).find? (·.name == other) =
        record.methods.find? (·.name == other) := by
      rw [List.find?_filter]
      congr 1
      funext method
      by_cases hmethod : method.name = other <;> simp [hmethod, hname]
    have hlast : ([⟨name, required, entry⟩] : List (RecordedMethod schema)).find?
        (·.name == other) = none := by
      simp [Ne.symm hname]
    rw [List.find?_append, hkept, hlast, Option.or_none, Function.update_of_ne hname]

theorem view?_modify_self {change : RecordedClass schema → RecordedClass schema}
    {changed : ClassView schema → ClassView schema}
    (hchange : ∀ record, (change record).view = changed record.view) :
    ({ host with classes := host.classes.modify vmClass change } : RecordingHost schema).view?
        vmClass = (host.view? vmClass).map changed := by
  simp [view?, Function.comp_def, hchange]

theorem view?_modify_of_ne (change : RecordedClass schema → RecordedClass schema) {other : Nat}
    (hother : other ≠ vmClass) :
    ({ host with classes := host.classes.modify vmClass change } : RecordingHost schema).view?
        other = host.view? other := by
  simp [view?, Ne.symm hother]

instance : FaithfulHost schema (RecordingHost schema) Nat where
  view? := view?
  view?_defineClass_fresh host name scope := by
    simp [view?, ScriptHost.defineClass, defineClass]
  view?_defineClass_self host name scope := by
    simp [view?, ScriptHost.defineClass, defineClass, RecordedClass.view, ClassView.blank]
  view?_defineClass_of_ne host name scope other hother := by
    simp only [ScriptHost.defineClass, defineClass] at hother
    simp only [view?, ScriptHost.defineClass, defineClass]
    rcases Nat.lt_or_gt_of_ne hother with hlt | hgt
    · rw [List.getElem?_append_left hlt]
    · rw [List.getElem?_eq_none (by simpa using Nat.succ_le_of_lt hgt),
        List.getElem?_eq_none (Nat.le_of_lt hgt)]
  view?_setLifecycle_self host vmClass _ _ := view?_modify_self host vmClass fun _ => rfl
  view?_setLifecycle_of_ne host vmClass _ _ _ hother := view?_modify_of_ne host vmClass _ hother
  view?_defineMethod_self host vmClass name required entry :=
    view?_modify_self host vmClass fun record => view_defineMethod record name required entry
  view?_defineMethod_of_ne host vmClass _ _ _ _ hother :=
    view?_modify_of_ne host vmClass _ hother

end RecordingHost

end NativeBridge
