import Mathlib.Logic.Basic
import NativeBridge.Registry.RecordingHost

/-!
# Hosts that keep variables

A virtual machine keeps variables if it stores what it is given for an instance and a name
until something else is stored there.  Objects that wrap no instance have no variables,
and declarations of classes and methods do not touch any.  The recording host keeps
variables.
-/

namespace NativeBridge

variable {schema : Schema}

/-- A virtual machine that can be asked what it has stored in the variables of an instance:
a value, and the class under which it was stored. -/
class VariableHost (schema : outParam Schema) (Vm : Type) (VmClass : outParam Type)
    extends ScriptHost schema Vm VmClass where
  kept? : Vm → Handle → String → Option (VmClass × Value)
  kept?_setVariable : ∀ vm object name vmClass value handle key,
    kept? (setVariable vm object name vmClass value) handle key =
      if object.handle? = some handle ∧ name = key then some (vmClass, value)
      else kept? vm handle key
  /-- A variable that is not there reads as nil. -/
  readVariable_eq : ∀ vm object name, readVariable vm object name =
    match object.handle?.bind fun handle => kept? vm handle name with
    | some (_, value) => value
    | none => .nil
  kept?_defineClass : ∀ vm name scope,
    kept? (defineClass vm name scope).2 = kept? vm
  kept?_setLifecycle : ∀ vm vmClass allocator finalizer,
    kept? (setLifecycle vm vmClass allocator finalizer) = kept? vm
  kept?_defineMethod : ∀ vm vmClass name required entry,
    kept? (defineMethod vm vmClass name required entry) = kept? vm

namespace RecordingHost

def kept? (host : RecordingHost schema) (handle : Handle) (name : String) :
    Option (Nat × Value) :=
  (host.storedVariables.find? fun stored => stored.object = handle && stored.name == name).map
    fun stored => (stored.vmClass, stored.value)

theorem kept?_setVariable (host : RecordingHost schema) (object : Value) (name : String)
    (vmClass : Nat) (value : Value) (handle : Handle) (key : String) :
    (host.setVariable object name vmClass value).kept? handle key =
      if object.handle? = some handle ∧ name = key then some (vmClass, value)
      else host.kept? handle key := by
  rw [setVariable]
  cases hobject : object.handle? with
  | none => simp
  | some target =>
      simp only [kept?, Option.some.injEq, List.find?_append]
      by_cases hsame : target = handle ∧ name = key
      · -- Nothing else is left under this name.
        obtain ⟨rfl, rfl⟩ := hsame
        have hgone : (host.storedVariables.filter fun stored =>
            !(stored.object = target && stored.name == name)).find?
              (fun stored => stored.object = target && stored.name == name) = none :=
          List.find?_eq_none.mpr fun stored hstored => by
            simpa [-not_and, not_and_or] using (List.mem_filter.mp hstored).2
        rw [hgone]
        simp
      · have hkept : (host.storedVariables.filter fun stored =>
            !(stored.object = target && stored.name == name)).find?
              (fun stored => stored.object = handle && stored.name == key) =
            host.storedVariables.find?
              fun stored => stored.object = handle && stored.name == key := by
          rw [List.find?_filter]
          congr 1
          funext stored
          by_cases hstored : stored.object = handle ∧ stored.name = key
          · have hother : ¬ (stored.object = target ∧ stored.name = name) := fun htarget =>
              hsame ⟨htarget.1.symm.trans hstored.1, htarget.2.symm.trans hstored.2⟩
            simp only [hstored.1, hstored.2] at hother ⊢
            simpa using not_and_or.mp hother
          · have hother : (decide (stored.object = handle) && stored.name == key) = false := by
              simpa using hstored
            simp only [hother, Bool.false_eq_true, and_false, decide_false]
        have hlast : (decide (target = handle) && name == key) = false := by
          simpa using hsame
        rw [hkept, if_neg hsame, List.find?_singleton, hlast]
        simp

instance : VariableHost schema (RecordingHost schema) Nat where
  kept? := kept?
  kept?_setVariable := kept?_setVariable
  readVariable_eq host object name := by
    simp only [ScriptHost.readVariable, readVariable, variableOf?, kept?]
    cases object.handle? with
    | none => rfl
    | some handle =>
        simp only [Option.bind_some]
        cases host.storedVariables.find? fun stored =>
          stored.object = handle && stored.name == name <;> rfl
  kept?_defineClass _ _ _ := rfl
  kept?_setLifecycle _ _ _ _ := rfl
  kept?_defineMethod _ _ _ _ _ := rfl

end RecordingHost

end NativeBridge
