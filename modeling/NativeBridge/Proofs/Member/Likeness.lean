import Mathlib.Data.List.Forall2
import NativeBridge.Member.Overload
import NativeBridge.Sample.World

/-!
# Which signatures are equal

A signature keeps of every native type its script name, its kind and its fingerprint.  Three
things are lost: which of several classes with one script name it was, whether text is
static, and all of the nesting of options but its parity.  Everything else is kept, so that
an overload set selects a method whose types are alike to those that were asked for.
-/

namespace NativeBridge

theorem IntegerType.scriptName_injective : Function.Injective IntegerType.scriptName := by
  intro first second hname
  cases first <;> cases second <;> first | rfl | simp [scriptName] at hname

namespace NativeType

variable {Class : Type}

/-- The type inside all options. -/
def base : NativeType Class → NativeType Class
  | option inner => inner.base
  | type => type

/-- The number of options around a type. -/
def depth : NativeType Class → Nat
  | option inner => inner.depth + 1
  | _ => 0

theorem depth_base (type : NativeType Class) : type.base.depth = 0 := by
  induction type with
  | option inner ih => exact ih
  | _ => rfl

theorem base_of_depth {type : NativeType Class} (hplain : type.depth = 0) : type.base = type := by
  cases type with
  | option inner => cases hplain
  | _ => rfl

theorem kind_base (type : NativeType Class) : type.base.kind = type.kind := by
  induction type with
  | option inner ih => exact ih
  | _ => rfl

variable {family : ClassFamily} {first second : NativeType family.Class}

theorem scriptName_base (type : NativeType family.Class) :
    type.base.scriptName family = type.scriptName family := by
  induction type with
  | option inner ih => exact ih
  | _ => rfl

/-- Types without options that look the same to scripts. -/
inductive SameLook (family : ClassFamily) : NativeType family.Class → NativeType family.Class → Prop
  | refl (type : NativeType family.Class) : SameLook family type type
  | textAsStatic : SameLook family .string .staticText
  | staticAsText : SameLook family .staticText .string
  /-- Two native classes under one script name. -/
  | object {first second : family.Class}
      (hname : family.scriptName first = family.scriptName second) :
      SameLook family (.object first) (.object second)

/-- Types that look the same inside their options, and have equally many options around
them up to an even number. -/
structure Alike (family : ClassFamily) (first second : NativeType family.Class) : Prop where
  base : SameLook family first.base second.base
  parity : first.depth % 2 = second.depth % 2

theorem sameLook_iff (hfirst : first.depth = 0) (hsecond : second.depth = 0) :
    SameLook family first second ↔
      first.scriptName family = second.scriptName family ∧ first.kind = second.kind := by
  constructor
  · rintro (⟨_⟩ | _ | _ | ⟨hname⟩)
    · exact ⟨rfl, rfl⟩
    · exact ⟨rfl, rfl⟩
    · exact ⟨rfl, rfl⟩
    · exact ⟨hname, rfl⟩
  · rintro ⟨hname, hkind⟩
    cases first with
    | option => cases hfirst
    | integer type =>
        cases second with
        | integer other =>
            rw [IntegerType.scriptName_injective hname]
            exact .refl _
        | option => cases hsecond
        | _ => cases hkind
    | object owner =>
        cases second with
        | object other => exact .object hname
        | option => cases hsecond
        | _ => cases hkind
    | void | bool | single | double | char | string | staticText | cstring | value =>
        -- Their names tell these types apart, but for the two types of text.
        cases second with
        | option => cases hsecond
        | integer | object => cases hkind
        | _ =>
            first
            | exact .refl _
            | exact .textAsStatic
            | exact .staticAsText
            | simp [scriptName] at hname

/-- Every option around a type is marked on its fingerprint, and two marks cancel. -/
theorem fingerprint_word (type : NativeType family.Class) :
    (type.fingerprint family).word =
      (Fingerprint.ofName (type.scriptName family)).word ^^^
        (if type.depth % 2 = 1 then Fingerprint.nullableMark else 0) := by
  induction type with
  | option inner ih =>
      have hmarked : ((option inner).fingerprint family).word =
          (inner.fingerprint family).word ^^^ Fingerprint.nullableMark := rfl
      have hname : (option inner).scriptName family = inner.scriptName family := rfl
      have hdepth : (option inner).depth = inner.depth + 1 := rfl
      rw [hmarked, hname, hdepth, ih, UInt64.xor_assoc]
      congr 1
      rcases Nat.mod_two_eq_zero_or_one inner.depth with heven | hodd
      · have hnext : (inner.depth + 1) % 2 = 1 := by omega
        simp [heven, hnext]
      · have hnext : (inner.depth + 1) % 2 = 0 := by omega
        simp [hodd, hnext]
  | _ => simp [fingerprint, depth]

/-- Types leave the same record exactly when they are alike. -/
theorem tag_eq_iff : first.tag family = second.tag family ↔ Alike family first second := by
  have hlook : SameLook family first.base second.base ↔
      first.scriptName family = second.scriptName family ∧ first.kind = second.kind := by
    rw [sameLook_iff first.depth_base second.depth_base, scriptName_base, scriptName_base,
      kind_base, kind_base]
  have hmark : Fingerprint.nullableMark ≠ 0 := by decide
  constructor
  · intro htag
    have hname : first.scriptName family = second.scriptName family := congrArg TypeTag.name htag
    have hkind : first.kind = second.kind := congrArg TypeTag.kind htag
    have hword : (first.fingerprint family).word = (second.fingerprint family).word :=
      congrArg (·.fingerprint.word) htag
    refine ⟨hlook.mpr ⟨hname, hkind⟩, ?_⟩
    rw [fingerprint_word, fingerprint_word, hname, UInt64.xor_right_inj] at hword
    rcases Nat.mod_two_eq_zero_or_one first.depth with heven | hodd <;>
      rcases Nat.mod_two_eq_zero_or_one second.depth with heven' | hodd' <;>
      simp_all
  · rintro ⟨hbase, hparity⟩
    obtain ⟨hname, hkind⟩ := hlook.mp hbase
    have hword : first.fingerprint family = second.fingerprint family := by
      rw [Fingerprint.mk.injEq, fingerprint_word, fingerprint_word, hname, hparity]
    rw [tag, tag, hword, hname, hkind]

theorem alike_object_iff {owner other : family.Class} :
    Alike family (.object owner) (.object other) ↔
      family.scriptName owner = family.scriptName other := by
  constructor
  · rintro ⟨hbase, -⟩
    exact ((sameLook_iff rfl rfl).mp hbase).1
  · intro hname
    exact ⟨.object hname, rfl⟩

theorem eq_of_base_of_depth (hbase : first.base = second.base)
    (hdepth : first.depth = second.depth) : first = second := by
  induction first generalizing second with
  | option inner ih =>
      cases second with
      | option other =>
          have hinner : inner = other := ih hbase (Nat.succ.inj hdepth)
          rw [hinner]
      | _ => cases hdepth
  | _ =>
      rw [← base_of_depth hdepth.symm]
      exact hbase

/-- Types whose classes have names of their own, whose texts are not static and whose
options are not nested, are alike only to themselves. -/
theorem Alike.eq (halike : Alike family first second)
    (hnames : Function.Injective family.scriptName)
    (hfirst : first.base ≠ .staticText) (hsecond : second.base ≠ .staticText)
    (hdepth : first.depth ≤ 1) (hdepth' : second.depth ≤ 1) : first = second := by
  obtain ⟨hbase, hparity⟩ := halike
  apply eq_of_base_of_depth
  · generalize first.base = inner, second.base = other at hbase hfirst hsecond
    cases hbase with
    | refl => rfl
    | textAsStatic => exact absurd rfl hsecond
    | staticAsText => exact absurd rfl hfirst
    | object hname => rw [hnames hname]
  · omega

end NativeType

open NativeType

theorem Signature.ofTypes_eq_iff {family : ClassFamily} {owner other : family.Class}
    {parameters others : List (ParameterType family)} {result wanted : NativeType family.Class}
    {exclusive shared : Bool} :
    ofTypes owner parameters result exclusive = ofTypes other others wanted shared ↔
      family.scriptName owner = family.scriptName other ∧
        List.Forall₂ (fun left right => Alike family left.type right.type) parameters others ∧
        Alike family result wanted ∧ exclusive = shared := by
  have hparameters : parameters.map (·.tag) = others.map (·.tag) ↔
      List.Forall₂ (fun left right => Alike family left.type right.type) parameters others := by
    rw [← List.forall₂_eq_eq_eq, List.forall₂_map_left_iff, List.forall₂_map_right_iff]
    simp only [ParameterType.tag, tag_eq_iff]
  rw [ofTypes, ofTypes, Signature.mk.injEq, tag_eq_iff, tag_eq_iff, alike_object_iff, hparameters]

namespace OverloadSet

variable {schema : Schema} {owner : schema.Class}

theorem select_eq_ok {set : OverloadSet schema owner} {wanted : Signature}
    {candidate : NativeMethod schema owner} (hselect : set.select (some wanted) = .ok candidate) :
    candidate ∈ set.candidates ∧ candidate.signature = wanted := by
  rw [select] at hselect
  split at hselect
  · next hmatching =>
      cases hselect
      have hmem : candidate ∈ set.matching (some wanted) := by simp [hmatching]
      simpa [matching] using hmem
  · cases hselect
  · cases hselect

/-- Two signatures are equal exactly when their receivers have one script name, they have
the same way of access and as many parameters, and their types are alike in every place.
Hence so are the types of the method that an overload set selects for a signature; and types
that are alike are the same, unless classes share a script name, text is static or options
are nested. -/
theorem select_alike :
    (∀ (family : ClassFamily) (left right : family.Class) (parameters others) (result wanted)
      (exclusive shared),
      Signature.ofTypes left parameters result exclusive =
          Signature.ofTypes right others wanted shared ↔
        family.scriptName left = family.scriptName right ∧
          List.Forall₂ (fun first second => Alike family first.type second.type)
            parameters others ∧
          Alike family result wanted ∧ exclusive = shared) ∧
    (∀ (schema : Schema) (owner receiver : schema.Class) (set : OverloadSet schema owner)
      (parameters result exclusive candidate),
      set.select (some (.ofTypes receiver parameters result exclusive)) = .ok candidate →
        candidate ∈ set.candidates ∧ schema.scriptName owner = schema.scriptName receiver ∧
          List.Forall₂ (fun first second => Alike schema.toClassFamily first.type second.type)
            candidate.parameters parameters ∧
          Alike schema.toClassFamily candidate.result result ∧
          candidate.code.exclusive = exclusive) ∧
    ∀ (family : ClassFamily) (first second : NativeType family.Class),
      Function.Injective family.scriptName →
      first.base ≠ .staticText → second.base ≠ .staticText →
      first.depth ≤ 1 → second.depth ≤ 1 → Alike family first second → first = second := by
  refine ⟨fun _ _ _ _ _ _ _ _ _ => Signature.ofTypes_eq_iff, ?_, ?_⟩
  · intro schema owner receiver set parameters result exclusive candidate hselect
    obtain ⟨hmem, hsignature⟩ := select_eq_ok hselect
    exact ⟨hmem, Signature.ofTypes_eq_iff.mp hsignature⟩
  · intro family first second hnames hfirst hsecond hdepth hdepth' halike
    exact halike.eq hnames hfirst hsecond hdepth hdepth'

section Sample

open Sample

/-- A method of monsters that takes one argument and writes nothing. -/
def hit (parameter : ParameterType Sample.family) : NativeMethod Sample.schema .monster where
  parameters := [parameter]
  result := .void
  code := .writes fun _ => pure ()

/-- The signature of a method of monsters. -/
def hitSignature (parameters : List (ParameterType Sample.family))
    (result : NativeType SampleClass) (exclusive : Bool) : Signature :=
  @Signature.ofTypes Sample.family .monster parameters result exclusive

/-- Of two ways to hit a monster the signature names the one with a fraction. -/
theorem select_alike_hits :
    let set : OverloadSet Sample.schema .monster :=
      ⟨"hit", [hit ⟨.integer .u32, rfl⟩, hit ⟨.double, rfl⟩]⟩
    set.select (some (hitSignature [⟨.double, rfl⟩] .void true)) = .ok (hit ⟨.double, rfl⟩) ∧
      Alike Sample.family .double .double := by
  intro set
  have hother : (hit ⟨.integer .u32, rfl⟩).signature ≠
      hitSignature [⟨.double, rfl⟩] .void true := by
    intro hsame
    have hfirst := (Signature.ofTypes_eq_iff.mp hsame).2.1
    obtain ⟨⟨hbase, -⟩, -⟩ := List.forall₂_cons.mp hfirst
    cases hbase
  have hsame : (hit ⟨.double, rfl⟩).signature = hitSignature [⟨.double, rfl⟩] .void true := rfl
  have hselect : set.select (some (hitSignature [⟨.double, rfl⟩] .void true)) =
      .ok (hit ⟨.double, rfl⟩) := by
    simp [set, select, matching, hother, hsame]
  have halike := (select_alike.2.1 _ _ _ _ _ _ _ _ hselect).2.2.1
  exact ⟨hselect, (List.forall₂_cons.mp halike).1⟩

/-- A signature made from monsters selects a method that takes twins, which are a class of
their own; and neither static text nor two options leave a trace in a signature. -/
theorem select_other_types :
    (∃ candidate : NativeMethod Sample.schema .monster,
      (⟨"hit", [hit ⟨.object .twin, rfl⟩]⟩ : OverloadSet Sample.schema .monster).select
          (some (hitSignature [⟨.object .monster, rfl⟩] .void true)) = .ok candidate ∧
        candidate.parameters.map (·.type) ≠ [.object .monster]) ∧
    hitSignature [] .string false = hitSignature [] .staticText false ∧
    hitSignature [⟨.option (.option (.integer .i32)), rfl⟩] .void false =
      hitSignature [⟨.integer .i32, rfl⟩] .void false := by
  refine ⟨⟨hit ⟨.object .twin, rfl⟩, ?_, by simp [hit]⟩, ?_, ?_⟩
  · have htwin : (hit ⟨.object .twin, rfl⟩).signature =
        hitSignature [⟨.object .monster, rfl⟩] .void true :=
      Signature.ofTypes_eq_iff.mpr ⟨rfl, .cons ⟨.object rfl, rfl⟩ .nil, ⟨.refl _, rfl⟩, rfl⟩
    simp [select, matching, htwin]
  · exact Signature.ofTypes_eq_iff.mpr ⟨rfl, .nil, ⟨.textAsStatic, rfl⟩, rfl⟩
  · exact Signature.ofTypes_eq_iff.mpr ⟨rfl, .cons ⟨.refl _, rfl⟩ .nil, ⟨.refl _, rfl⟩, rfl⟩

end Sample

end OverloadSet

end NativeBridge
