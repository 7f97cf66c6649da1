import Mathlib.Data.List.Basic
import NativeBridge.Proofs.Arena.Consistency
import NativeBridge.Proofs.Conversion.Instances

/-!
# What encoding does

Native data becomes a script value unless it holds an unsigned number beyond the script
integers, or bytes that are no text.  This file says when each of the two happens, which
data becomes nil, and what happens to the arena: an instance takes exactly one new place,
and all other data leaves the arena alone.
-/

namespace NativeBridge

/-! ## Integers -/

namespace IntegerType

theorem least_i64_le (type : IntegerType) : least .i64 ≤ type.least := by
  cases type <;> decide

/-- Only the unsigned types of 64 bits go beyond the script integers. -/
theorem greatest_le_or_wide (type : IntegerType) :
    type.greatest ≤ greatest .i64 ∨ type = .u64 ∨ type = .usize := by
  cases type <;> decide

end IntegerType

theorem toInt_ofInt_of_holds {number : Int} (hholds : IntegerType.Holds .i64 number) :
    (Int64.ofInt number).toInt = number := by
  have hleast : IntegerType.least .i64 = -2 ^ 63 := rfl
  have hgreatest : IntegerType.greatest .i64 = 2 ^ 63 - 1 := rfl
  obtain ⟨hlow, hhigh⟩ := hholds
  apply Int64.toInt_ofInt_of_le <;> omega

theorem toInt_le_greatest (number : Int64) : number.toInt ≤ IntegerType.greatest .i64 := by
  have hgreatest : IntegerType.greatest .i64 = 2 ^ 63 - 1 := rfl
  have hhigh := number.toInt_lt
  omega

theorem scriptInteger_eq_ok {number : Int} {value : Value} :
    scriptInteger number = .ok value ↔
      number ≤ IntegerType.greatest .i64 ∧ value = .int (Int64.ofInt number) := by
  rw [scriptInteger]
  by_cases hfits : number ≤ IntegerType.greatest .i64 <;> simp [hfits, eq_comm]

theorem scriptInteger_eq_error {number : Int} {cause : ConversionError} :
    scriptInteger number = .error cause ↔
      IntegerType.greatest .i64 < number ∧ cause = .unsignedOverflow number.toNat := by
  rw [scriptInteger, ← Int.not_le]
  by_cases hfits : number ≤ IntegerType.greatest .i64 <;> simp [hfits, eq_comm]

/-! ## Texts -/

theorem onlyCharacter_eq_ok {content : String} {char : Char} :
    onlyCharacter content = .ok char ↔ content = String.singleton char := by
  rw [← String.toList_inj, String.toList_singleton, onlyCharacter]
  split
  · next only hcontent => simp [hcontent]
  · next hcontent =>
      have hother : content.toList ≠ [char] := hcontent char
      simp [hother]

theorem byteArray_toList_eq (bytes : ByteArray) : bytes.toList = bytes.data.toList := by
  have hloop : ∀ position read, ByteArray.toList.loop bytes position read =
      read.reverse ++ bytes.data.toList.drop position := by
    intro position read
    induction position, read using ByteArray.toList.loop.induct bytes with
    | case1 position read hlt ih =>
        have hbyte : bytes.get! position = bytes.data.toList[position] :=
          getElem!_pos bytes.data position hlt
        rw [ByteArray.toList.loop, if_pos hlt, ih, hbyte, List.drop_eq_getElem_cons hlt,
          List.reverse_cons, List.append_assoc, List.singleton_append]
    | case2 position read hend =>
        rw [ByteArray.toList.loop, if_neg hend, List.drop_eq_nil_of_le (Nat.not_lt.mp hend),
          List.append_nil]
  exact hloop 0 []

/-- The bytes of a text are those of a byte array when the two arrays agree. -/
theorem toUTF8_toList_eq_iff {content : String} {bytes : List UInt8} :
    content.toUTF8.toList = bytes ↔ content.toUTF8 = ⟨bytes.toArray⟩ := by
  rw [byteArray_toList_eq]
  constructor
  · rintro rfl
    rfl
  · intro hcontent
    rw [hcontent]

theorem textOfBytes_eq_ok {bytes : List UInt8} {content : String} :
    textOfBytes bytes = .ok content ↔ content.toUTF8.toList = bytes := by
  rw [toUTF8_toList_eq_iff, textOfBytes, String.fromUTF8?]
  by_cases hvalid : (ByteArray.mk bytes.toArray).IsValidUTF8
  · rw [dif_pos hvalid]
    constructor
    · intro hread
      rw [← Except.ok.inj hread]
      rfl
    · intro hbytes
      exact congrArg Except.ok (String.toByteArray_inj.mp hbytes.symm)
  · rw [dif_neg hvalid]
    constructor
    · intro hread
      cases hread
    · intro hbytes
      exact absurd (hbytes ▸ content.isValidUTF8) hvalid

theorem textOfBytes_eq_error {bytes : List UInt8} {cause : ConversionError} :
    textOfBytes bytes = .error cause ↔
      ¬ (ByteArray.mk bytes.toArray).IsValidUTF8 ∧ cause = .invalidText := by
  rw [textOfBytes, String.fromUTF8?]
  by_cases hvalid : (ByteArray.mk bytes.toArray).IsValidUTF8 <;> simp [hvalid, eq_comm]

theorem terminated_eq_ok {content : String} {text : CText} :
    terminated content = .ok text ↔ content.toUTF8.toList = text.bytes := by
  obtain ⟨bytes, hzero⟩ := text
  rw [terminated]
  by_cases hbytes : 0 ∈ content.toUTF8.toList
  · rw [dif_neg (not_not.mpr hbytes)]
    constructor
    · intro hread
      cases hread
    · rintro rfl
      exact absurd hbytes hzero
  · simp only [dif_pos hbytes, Except.ok.injEq, CText.mk.injEq]

/-! ## Data that cannot be written -/

/-- Why native data is no script value: in it, inside any number of options, lies an unsigned
number beyond the script integers, or a byte string that is no text. -/
inductive Unwritable (family : ClassFamily) :
    (type : NativeType family.Class) → type.Data family → ConversionError → Prop
  | u64 (number : IntegerType.Number .u64) (hbeyond : IntegerType.greatest .i64 < number.val) :
      Unwritable family (.integer .u64) number (.unsignedOverflow number.val.toNat)
  | usize (number : IntegerType.Number .usize) (hbeyond : IntegerType.greatest .i64 < number.val) :
      Unwritable family (.integer .usize) number (.unsignedOverflow number.val.toNat)
  | cstring (content : CText) (hbytes : ¬ (ByteArray.mk content.bytes.toArray).IsValidUTF8) :
      Unwritable family .cstring content .invalidText
  | option {inner : NativeType family.Class} {payload : inner.Data family}
      {cause : ConversionError} (hpayload : Unwritable family inner payload cause) :
      Unwritable family (.option inner) (some payload) cause

section Encode

variable {family : ClassFamily} {arena next : Arena family} {type : NativeType family.Class}
variable {data : type.Data family} {value : Value}

theorem encode_integer_eq_error {type : IntegerType} {number : type.Number}
    {cause : ConversionError} :
    encode arena (.integer type) number = .error cause ↔
      scriptInteger number.val = .error cause := by
  rw [encode]
  cases scriptInteger number.val <;> simp [Except.map]

theorem encode_cstring_eq_error {content : CText} {cause : ConversionError} :
    encode arena .cstring content = .error cause ↔ textOfBytes content.bytes = .error cause := by
  rw [encode]
  cases textOfBytes content.bytes <;> simp [Except.map]

/-- Encoding fails for the data that cannot be written and for no other. -/
theorem encode_eq_error {cause : ConversionError} :
    encode arena type data = .error cause ↔ Unwritable family type data cause := by
  constructor
  · intro hencode
    induction type with
    | integer type =>
        rw [encode_integer_eq_error] at hencode
        obtain ⟨hbeyond, rfl⟩ := scriptInteger_eq_error.mp hencode
        rcases type.greatest_le_or_wide with hnarrow | rfl | rfl
        · have hfits := data.property.2
          omega
        · exact .u64 data hbeyond
        · exact .usize data hbeyond
    | cstring =>
        rw [encode_cstring_eq_error] at hencode
        obtain ⟨hbytes, rfl⟩ := textOfBytes_eq_error.mp hencode
        exact .cstring data hbytes
    | option inner ih =>
        cases data with
        | none => cases hencode
        | some payload => exact .option (ih hencode)
    | _ => cases hencode
  · intro hunwritable
    induction hunwritable with
    | u64 number hbeyond | usize number hbeyond =>
        exact encode_integer_eq_error.mpr (scriptInteger_eq_error.mpr ⟨hbeyond, rfl⟩)
    | cstring content hbytes =>
        exact encode_cstring_eq_error.mpr (textOfBytes_eq_error.mpr ⟨hbytes, rfl⟩)
    | option hpayload ih => exact ih

/-! ## What is written -/

/-- Data that is written as nil: an option without data, the value nil, and an option that
holds such data. -/
def NativeType.isNil (family : ClassFamily) :
    (type : NativeType family.Class) → type.Data family → Bool
  | .void, _ => true
  | .value, data => data.isNil
  | .option _, none => true
  | .option inner, some payload => inner.isNil family payload
  | _, _ => false

theorem encode_integer_eq_ok {type : IntegerType} {number : type.Number} :
    encode arena (.integer type) number = .ok (value, next) ↔
      scriptInteger number.val = .ok value ∧ arena = next := by
  rw [encode]
  cases scriptInteger number.val <;> simp [Except.map]

theorem encode_cstring_eq_ok {content : CText} :
    encode arena .cstring content = .ok (value, next) ↔
      ∃ text, textOfBytes content.bytes = .ok text ∧ value = .text text ∧ arena = next := by
  rw [encode]
  cases textOfBytes content.bytes <;> simp [Except.map, eq_comm]

/-- Nil is written for the data that is described so, and for no other. -/
theorem encode_eq_nil_iff (hencode : encode arena type data = .ok (value, next)) :
    value = .nil ↔ type.isNil family data = true := by
  induction type with
  | value =>
      obtain rfl := congrArg Prod.fst (Except.ok.inj hencode)
      cases data <;> simp [NativeType.isNil, Value.isNil]
  | integer type =>
      obtain ⟨-, rfl⟩ := scriptInteger_eq_ok.mp (encode_integer_eq_ok.mp hencode).1
      simp [NativeType.isNil]
  | cstring =>
      obtain ⟨text, -, rfl, -⟩ := encode_cstring_eq_ok.mp hencode
      simp [NativeType.isNil]
  | option inner ih =>
      cases data with
      | none =>
          obtain rfl := congrArg Prod.fst (Except.ok.inj hencode)
          simp [NativeType.isNil]
      | some payload => exact ih hencode
  | _ =>
      obtain rfl := congrArg Prod.fst (Except.ok.inj hencode)
      simp [NativeType.isNil]

theorem encode_of_isNil (hnil : type.isNil family data = true) :
    encode arena type data = .ok (.nil, arena) := by
  induction type with
  | void => rfl
  | value =>
      cases data with
      | nil => rfl
      | _ => cases hnil
  | option inner ih =>
      cases data with
      | none => rfl
      | some payload => exact ih hnil
  | _ => cases hnil

theorem isNil_iff_encode :
    type.isNil family data = true ↔ encode arena type data = .ok (.nil, arena) :=
  ⟨encode_of_isNil, fun hencode => (encode_eq_nil_iff hencode).mp rfl⟩

/-- Data that is or holds an instance is written as the handle of a new place; all other
data leaves the arena alone. -/
theorem encode_instance? (hencode : encode arena type data = .ok (value, next)) :
    (type.instance? family data = none ∧ next = arena) ∨
      ∃ inst, type.instance? family data = some inst ∧
        value = .wrapped (arena.insert inst).1 ∧ next = (arena.insert inst).2 := by
  induction type with
  | object owner =>
      obtain ⟨rfl, rfl⟩ := Prod.mk.inj (Except.ok.inj hencode)
      exact .inr ⟨⟨owner, data⟩, rfl, rfl, rfl⟩
  | integer type => exact .inl ⟨rfl, (encode_integer_eq_ok.mp hencode).2.symm⟩
  | cstring =>
      obtain ⟨text, -, -, rfl⟩ := encode_cstring_eq_ok.mp hencode
      exact .inl ⟨rfl, rfl⟩
  | option inner ih =>
      cases data with
      | none =>
          obtain rfl := congrArg Prod.snd (Except.ok.inj hencode)
          exact .inl ⟨rfl, rfl⟩
      | some payload => exact ih hencode
  | _ =>
      obtain rfl := congrArg Prod.snd (Except.ok.inj hencode)
      exact .inl ⟨rfl, rfl⟩

/-- Whatever is written, every live instance stays behind its handle. -/
theorem encode_keeps (hconsistent : arena.Consistent)
    (hencode : encode arena type data = .ok (value, next)) :
    next.Consistent ∧ ∀ handle inst, arena.occupant? handle = some inst →
      next.occupant? handle = some inst := by
  rcases encode_instance? hencode with ⟨-, rfl⟩ | ⟨inst, -, -, rfl⟩
  · exact ⟨hconsistent, fun _ _ hlive => hlive⟩
  · refine ⟨hconsistent.insert inst, fun handle present hlive => ?_⟩
    exact hconsistent.occupant?_insert_of_some inst hlive

end Encode

/-! ## New places -/

/-- The arena got one instance more, behind a handle that was not live, and all other
handles refer to what they referred to. -/
structure Arena.Gains {family : ClassFamily} (arena : Arena family) (inst : Instance family)
    (handle : Handle) (next : Arena family) : Prop where
  fresh : arena.isLive handle = false
  holds : next.occupant? handle = some inst
  keeps : ∀ other, other ≠ handle → next.occupant? other = arena.occupant? other
  size_eq : next.size = arena.size + 1

theorem Arena.Consistent.insert_gains {family : ClassFamily} {arena : Arena family}
    (hconsistent : arena.Consistent) (hfits : arena.place < UInt32.size)
    (inst : Instance family) :
    arena.Gains inst (arena.insert inst).1 (arena.insert inst).2 where
  fresh := by
    have hindex : (arena.insert inst).1.index.toNat = arena.place := by
      rw [insert_index, toNat_toUInt32 hfits]
    rw [isLive_eq_isSome_occupant?, Option.isSome_eq_false_iff, Option.isNone_iff_eq_none]
    cases hslot : arena.slots[(arena.insert inst).1.index.toNat]? with
    | none => simp [occupant?, liveSlot?, hslot]
    | some slot =>
        rw [hindex] at hslot
        exact occupant?_eq_none_of_vacant (hindex ▸ hslot) (hconsistent.place_vacant hslot)
  holds := hconsistent.occupant?_insert_self inst hfits
  keeps _ hother := hconsistent.occupant?_insert_of_ne inst hother
  size_eq := insert_live inst

end NativeBridge
