import NativeBridge.Proofs.Call.Conservation
import NativeBridge.Proofs.Call.Intake
import NativeBridge.Proofs.Conversion.Encoding
import NativeBridge.Proofs.Member.Likeness
import NativeBridge.Sample.World

/-!
# Round trips through the codec

Encoding and decoding were written one type at a time and apart from each other.  They fit
together all the same.  Data that was written comes back as it was, except that nil cannot
tell an empty option from one that holds nil; and a value that was read is written back as
it was, unless a float or an instance stands between.
-/

namespace NativeBridge

variable {family : ClassFamily} {arena next other : Arena family}
variable {type : NativeType family.Class} {readable : type.readable family = true}
variable {data : type.Data family} {value : Value}

/-! ## The scalar decoders -/

theorem decodeBool_eq_ok {truth : Bool} : decodeBool value = .ok truth ↔ value = .bool truth := by
  cases value <;> simp [decodeBool]

theorem decodeString_eq_ok {content : String} :
    decodeString value = .ok content ↔ value = .text content := by
  cases value <;> simp [decodeString]

theorem decodeChar_eq_ok {char : Char} :
    decodeChar value = .ok char ↔ value = .text (String.singleton char) := by
  cases value <;> simp [decodeChar, onlyCharacter_eq_ok]

theorem decodeCString_eq_ok {text : CText} :
    decodeCString value = .ok text ↔
      ∃ content, value = .text content ∧ content.toUTF8.toList = text.bytes := by
  cases value <;> simp [decodeCString, terminated_eq_ok]

/-- An integer is read from the script integer that it is written as, and from no other
value. -/
theorem decodeInteger_eq_ok {type : IntegerType} {number : type.Number} :
    decodeInteger type value = .ok number ↔ scriptInteger number.val = .ok value := by
  constructor
  · intro hdecode
    cases value with
    | int script =>
        rw [decodeInteger, IntegerType.number?] at hdecode
        by_cases hfits : type.Holds script.toInt
        · rw [dif_pos hfits] at hdecode
          obtain rfl := Except.ok.inj hdecode
          exact scriptInteger_eq_ok.mpr ⟨toInt_le_greatest script, by rw [Int64.ofInt_toInt]⟩
        · rw [dif_neg hfits] at hdecode
          cases hdecode
    | _ => cases hdecode
  · intro hscript
    obtain ⟨hgreatest, rfl⟩ := scriptInteger_eq_ok.mp hscript
    have hleast := Int.le_trans type.least_i64_le number.property.1
    simp only [decodeInteger, toInt_ofInt_of_holds ⟨hleast, hgreatest⟩, IntegerType.number?,
      dif_pos number.property]

/-! ## Data that was written -/

/-- Data as it comes back from a script value: an option that holds what is written as nil
comes back empty. -/
def NativeType.settled (family : ClassFamily) :
    (type : NativeType family.Class) → type.Data family → type.Data family
  | .option inner, some payload => if inner.isNil family payload then none else some payload
  | _, data => data

theorem NativeType.settled_of_isNil_eq_false (hnil : type.isNil family data = false) :
    type.settled family data = data := by
  cases type with
  | option inner =>
      cases data with
      | none => rfl
      | some payload => exact if_neg (by simpa [isNil] using hnil)
  | _ => rfl

/-- The data is an option that holds what is written as nil. -/
def NativeType.HoldsNil (family : ClassFamily) (type : NativeType family.Class)
    (data : type.Data family) : Prop :=
  ∃ inner payload, (⟨type, data⟩ : Datum family) = ⟨.option inner, some payload⟩ ∧
    inner.isNil family payload = true

/-- Nothing is lost but the difference between an empty option and one that holds nil. -/
theorem NativeType.settled_eq_iff :
    type.settled family data = data ↔ ¬ type.HoldsNil family data := by
  constructor
  · rintro hsettled ⟨inner, payload, ⟨⟩, hnil⟩
    simp [settled, hnil] at hsettled
  · intro hkept
    cases type with
    | option inner =>
        cases data with
        | none => rfl
        | some payload => exact if_neg fun hnil => hkept ⟨inner, payload, rfl, hnil⟩
    | _ => rfl

/-- What was written is read back, up to options that hold nil. -/
theorem decode_encode (hconsistent : arena.Consistent) (hfits : arena.place < UInt32.size)
    (hsingle : type.base ≠ .single) (hencode : encode arena type data = .ok (value, next)) :
    decode next type readable value = .ok (type.settled family data) := by
  induction type with
  | void | staticText => cases readable
  | single => exact absurd rfl hsingle
  | bool | double | string | value =>
      obtain rfl := congrArg Prod.fst (Except.ok.inj hencode)
      rfl
  | char =>
      obtain rfl := congrArg Prod.fst (Except.ok.inj hencode)
      exact decodeChar_eq_ok.mpr rfl
  | integer type => exact decodeInteger_eq_ok.mpr (encode_integer_eq_ok.mp hencode).1
  | cstring =>
      obtain ⟨text, htext, rfl, -⟩ := encode_cstring_eq_ok.mp hencode
      exact decodeCString_eq_ok.mpr ⟨text, rfl, textOfBytes_eq_ok.mp htext⟩
  | object owner =>
      obtain ⟨rfl, rfl⟩ := Prod.mk.inj (Except.ok.inj hencode)
      exact Arena.get_eq_ok_iff.mpr (hconsistent.occupant?_insert_self ⟨owner, data⟩ hfits)
  | option inner ih =>
      cases data with
      | none =>
          obtain rfl := congrArg Prod.fst (Except.ok.inj hencode)
          rfl
      | some payload =>
          have hvalue : value = .nil ↔ inner.isNil family payload = true :=
            encode_eq_nil_iff hencode
          cases hnil : inner.isNil family payload with
          | true =>
              rw [hvalue.mpr hnil, NativeType.settled, if_pos hnil]
              rfl
          | false =>
              have hsome : value ≠ .nil := by simp [hvalue, hnil]
              have hpayload : decode next inner readable value =
                  .ok (inner.settled family payload) := ih hsingle hencode
              rw [NativeType.settled_of_isNil_eq_false hnil] at hpayload
              rw [decode_option hsome, hpayload, NativeType.settled, hnil]
              rfl

/-- Data is written unless it holds an unsigned number beyond the script integers or a byte
string that is no text; then nothing is changed.  What was written is read back in the
arena that writing leaves.  It comes back as it was, but an option that holds what is
written as nil comes back empty.  An instance takes one new place in the arena, and data
without an instance leaves the arena alone. -/
theorem written_data_recovered {schema : Schema} {arena : Arena schema.toClassFamily}
    (hreached : arena.Reached) (hslots : arena.slots.size < UInt32.size)
    {type : NativeType schema.Class} (readable : type.readable schema.toClassFamily = true)
    (hsingle : type.base ≠ .single) (data : type.Data schema.toClassFamily) :
    (∀ cause, encode arena type data = .error cause ↔
        Unwritable schema.toClassFamily type data cause) ∧
      (∀ cause, Unwritable schema.toClassFamily type data cause →
        ∀ state : CallState schema,
          EStateM.run (Native.setReturn type data) state =
            .error (.failed (.result cause)) state) ∧
      ((∀ cause, ¬ Unwritable schema.toClassFamily type data cause) →
        ∃ value next, encode arena type data = .ok (value, next) ∧
          decode next type readable value = .ok (type.settled schema.toClassFamily data) ∧
          (type.instance? schema.toClassFamily data = none → next = arena) ∧
          ∀ inst, type.instance? schema.toClassFamily data = some inst →
            ∃ handle, value = .wrapped handle ∧ arena.Gains inst handle next) ∧
      (∀ inner payload, (⟨type, data⟩ : Datum schema.toClassFamily) =
          ⟨.option inner, some payload⟩ → encode arena inner payload = .ok (.nil, arena) →
        (⟨type, type.settled schema.toClassFamily data⟩ : Datum schema.toClassFamily) =
          ⟨.option inner, none⟩) ∧
      ((∀ inner payload, (⟨type, data⟩ : Datum schema.toClassFamily) =
          ⟨.option inner, some payload⟩ → encode arena inner payload ≠ .ok (.nil, arena)) →
        type.settled schema.toClassFamily data = data) := by
  have hconsistent := hreached.consistent
  have hfits := Nat.lt_of_le_of_lt hconsistent.place_le hslots
  refine ⟨fun _ => encode_eq_error, ?_, ?_, ?_, ?_⟩
  · intro cause hunwritable state
    rw [Native.setReturn_run, encode_eq_error.mpr hunwritable]
  · intro hwritable
    cases hencode : encode arena type data with
    | error cause => exact absurd (encode_eq_error.mp hencode) (hwritable cause)
    | ok written =>
        obtain ⟨value, next⟩ := written
        refine ⟨value, next, rfl, decode_encode hconsistent hfits hsingle hencode, ?_⟩
        rcases encode_instance? hencode with ⟨hnone, rfl⟩ | ⟨inst, hinst, rfl, rfl⟩
        · exact ⟨fun _ => rfl, fun inst hinst => nomatch hnone.symm.trans hinst⟩
        · refine ⟨fun hnone => (nomatch hnone.symm.trans hinst), fun other hother => ?_⟩
          obtain rfl := Option.some.inj (hinst.symm.trans hother)
          exact ⟨_, rfl, hconsistent.insert_gains hfits inst⟩
  · rintro inner payload ⟨⟩ hencode
    rw [NativeType.settled, if_pos (isNil_iff_encode.mpr hencode)]
  · intro hkept
    rw [NativeType.settled_eq_iff]
    rintro ⟨inner, payload, hdatum, hnil⟩
    exact hkept inner payload hdatum (isNil_iff_encode.mp hnil)

/-! ## Values that were read -/

/-- Nothing is lost when the value is read at the type: no instance is copied, and no number
is rounded. -/
structure NativeType.Lossless (type : NativeType family.Class) (value : Value) : Prop where
  noInstance : type.held? = none
  noSingle : type.base ≠ .single
  noRounding : type.base = .double → ∀ number, value ≠ .int number

/-- A value that was read without loss is written as it was, into any arena, and leaves that
arena alone. -/
theorem encode_decode (hlossless : type.Lossless value)
    (hdecode : decode arena type readable value = .ok data) :
    encode other type data = .ok (value, other) := by
  induction type with
  | void | staticText => cases readable
  | single => exact absurd rfl hlossless.noSingle
  | object owner => cases hlossless.noInstance
  | value =>
      obtain rfl := Except.ok.inj hdecode
      rfl
  | integer type => exact encode_integer_eq_ok.mpr ⟨decodeInteger_eq_ok.mp hdecode, rfl⟩
  | bool =>
      obtain rfl := decodeBool_eq_ok.mp hdecode
      rfl
  | char =>
      obtain rfl := decodeChar_eq_ok.mp hdecode
      rfl
  | string =>
      obtain rfl := decodeString_eq_ok.mp hdecode
      rfl
  | cstring =>
      obtain ⟨content, rfl, hbytes⟩ := decodeCString_eq_ok.mp hdecode
      exact encode_cstring_eq_ok.mpr ⟨content, textOfBytes_eq_ok.mpr hbytes, rfl, rfl⟩
  | double =>
      cases value with
      | float number =>
          obtain rfl := Except.ok.inj hdecode
          rfl
      | int number => exact absurd rfl (hlossless.noRounding rfl number)
      | _ => cases hdecode
  | option inner ih =>
      rcases decode_option_eq_ok.mp hdecode with ⟨rfl, rfl⟩ | ⟨-, payload, hinner, rfl⟩
      · rfl
      · exact ih ⟨hlossless.noInstance, hlossless.noSingle, hlossless.noRounding⟩ hinner

/-- Whatever was read can be written. -/
theorem writable_of_decode (hdecode : decode arena type readable value = .ok data)
    {cause : ConversionError} : ¬ Unwritable family type data cause := by
  intro hunwritable
  induction hunwritable generalizing value with
  | u64 number hbeyond | usize number hbeyond =>
      have hnarrow := (scriptInteger_eq_ok.mp (decodeInteger_eq_ok.mp hdecode)).1
      omega
  | cstring content hbytes =>
      obtain ⟨text, -, htext⟩ := decodeCString_eq_ok.mp hdecode
      rw [← toUTF8_toList_eq_iff.mp htext] at hbytes
      exact hbytes text.isValidUTF8
  | option hpayload ih =>
      rcases decode_option_eq_ok.mp hdecode with ⟨-, hnone⟩ | ⟨-, payload, hinner, hsome⟩
      · cases hnone
      · obtain rfl := Option.some.inj hsome
        exact ih hinner

section Sample

open Sample

/-- A monster inside two options is lent, and a copy of it comes back. -/
theorem written_data_recovered_monster :
    let pal : Monster := { hp := ⟨7, by decide⟩ }
    ∃ value next,
      encode Arena.empty (.option (.option (.object SampleClass.monster))) (some (some pal)) =
        .ok (value, (next : Arena Sample.family)) ∧
      decode next (.option (.option (.object SampleClass.monster))) rfl value =
        .ok (some (some pal)) ∧
      ∃ handle, value = .wrapped handle ∧ next.size = 1 := by
  intro pal
  have hreached : (Arena.empty : Arena Sample.schema.toClassFamily).Reached :=
    ⟨Notes.empty, [], rfl⟩
  have hreadable : NativeType.readable Sample.schema.toClassFamily
      (.option (.option (.object SampleClass.monster))) = true := rfl
  obtain ⟨hfails, -, hwritten, -, hkept⟩ :=
    written_data_recovered hreached (by decide) hreadable nofun (some (some pal))
  obtain ⟨value, next, hencode, hdecode, -, hgains⟩ := hwritten fun cause hunwritable =>
    nomatch (hfails cause).mpr hunwritable
  rw [hkept fun inner payload hpal hnil => by cases hpal; cases hnil] at hdecode
  obtain ⟨handle, hvalue, hgains⟩ := hgains ⟨SampleClass.monster, pal⟩ rfl
  exact ⟨value, next, hencode, hdecode, handle, hvalue, hgains.size_eq⟩

example : NativeType.settled Sample.family (.option (.option .bool)) (some none) = none := rfl

end Sample

end NativeBridge
