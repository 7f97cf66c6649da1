import NativeBridge.Member.Signature

/-!
# Mixing a member's parts into its fingerprint

One step of the mixing multiplies the running word by the separator and adds the marked
parameter.  The separator is odd, so that it has an inverse among the words: a step loses
nothing of the running word and nothing of the parameter.  The same then holds of the mixing
of a whole parameter list, however long it is, and a fingerprint tells apart any two members
that are alike but for one part.
-/

namespace NativeBridge

namespace Fingerprint

variable {position : Nat} {hash left right : UInt64} {first second : Fingerprint}

theorem word_inj : first.word = second.word ↔ first = second := by
  refine ⟨fun hword => ?_, congrArg word⟩
  cases first
  cases second
  exact congrArg mk hword

/-! ## One step -/

/-- The word by which a multiplication with the separator is undone. -/
def separatorInverse : UInt64 := 0xd3f20f0a40208825

theorem separator_mul_inverse : separator * separatorInverse = 1 := by decide

theorem mul_separator_inj : left * separator = right * separator ↔ left = right := by
  refine ⟨fun hproduct => ?_, congrArg (· * separator)⟩
  have hundone := congrArg (· * separatorInverse) hproduct
  simpa only [UInt64.mul_assoc, separator_mul_inverse, UInt64.mul_one] using hundone

/-- The running word after one more parameter. -/
def mixed (position : Nat) (hash : UInt64) (parameter : Fingerprint) : UInt64 :=
  hash * separator + (positionMark position ^^^ parameter.word)

theorem mixFrom_cons (position : Nat) (hash : UInt64) (parameter : Fingerprint)
    (rest : List Fingerprint) :
    mixFrom position hash (parameter :: rest) =
      mixFrom (position + 1) (mixed position hash parameter) rest := rfl

theorem mixed_hash_inj (parameter : Fingerprint) :
    mixed position left parameter = mixed position right parameter ↔ left = right := by
  rw [mixed, mixed, UInt64.add_left_inj, mul_separator_inj]

theorem mixed_parameter_inj :
    mixed position hash first = mixed position hash second ↔ first = second := by
  rw [mixed, mixed, UInt64.add_right_inj, UInt64.xor_right_inj, word_inj]

/-! ## A whole list -/

/-- What was mixed before a list can be told from the word after it. -/
theorem mixFrom_hash_inj (parameters : List Fingerprint) :
    mixFrom position left parameters = mixFrom position right parameters ↔ left = right := by
  induction parameters generalizing position left right with
  | nil => rfl
  | cons parameter rest ih => rw [mixFrom_cons, mixFrom_cons, ih, mixed_hash_inj]

theorem mixFrom_append (position : Nat) (hash : UInt64) (before after : List Fingerprint) :
    mixFrom position hash (before ++ after) =
      mixFrom (position + before.length) (mixFrom position hash before) after := by
  induction before generalizing position hash with
  | nil => rfl
  | cons parameter rest ih =>
      rw [List.cons_append, mixFrom_cons, ih, mixFrom_cons, List.length_cons]
      congr 1
      omega

/-- Each parameter can be told from the word and the other parameters. -/
theorem mixFrom_parameter_inj (before after : List Fingerprint) :
    mixFrom position hash (before ++ first :: after) =
      mixFrom position hash (before ++ second :: after) ↔ first = second := by
  rw [mixFrom_append, mixFrom_append, mixFrom_cons, mixFrom_cons, mixFrom_hash_inj,
    mixed_parameter_inj]

/-! ## Where the mixing starts -/

/-- The mark of a member's receiver, by whether the member writes to it. -/
def receiverMark (exclusive : Bool) : UInt64 := if exclusive then 1 else 0

theorem receiverMark_inj {exclusive other : Bool} :
    receiverMark exclusive = receiverMark other ↔ exclusive = other := by
  cases exclusive <;> cases other <;> decide

/-- The word from which the mixing of a method's parameters starts. -/
def methodSeed (owner : Fingerprint) (name : String) (exclusive : Bool) : UInt64 :=
  methodDomain ^^^ owner.word ^^^ Digest.ofText name ^^^ receiverMark exclusive

theorem ofMethod_eq_mixFrom (owner : Fingerprint) (name : String)
    (parameters : List Fingerprint) (exclusive : Bool) :
    ofMethod owner name parameters exclusive =
      ⟨mixFrom 0 (methodSeed owner name exclusive) parameters⟩ := rfl

theorem ofConstructor_eq_mixFrom (owner : Fingerprint) (parameters : List Fingerprint) :
    ofConstructor owner parameters = ⟨mixFrom 0 (constructorDomain ^^^ owner.word) parameters⟩ :=
  rfl

/-- Methods with the same parameters have the same fingerprint exactly if their seeds
agree. -/
theorem ofMethod_inj_seed {owner other : Fingerprint} {name text : String}
    {exclusive shared : Bool} (parameters : List Fingerprint) :
    ofMethod owner name parameters exclusive = ofMethod other text parameters shared ↔
      methodSeed owner name exclusive = methodSeed other text shared := by
  rw [ofMethod_eq_mixFrom, ofMethod_eq_mixFrom, mk.injEq, mixFrom_hash_inj]

/-! ## One part at a time -/

theorem ofMethod_owner_injective (name : String) (parameters : List Fingerprint)
    (exclusive : Bool) :
    Function.Injective fun owner => ofMethod owner name parameters exclusive := by
  intro left right hsame
  have hseed := (ofMethod_inj_seed parameters).mp hsame
  rw [methodSeed, methodSeed, UInt64.xor_left_inj, UInt64.xor_left_inj,
    UInt64.xor_right_inj] at hseed
  exact word_inj.mp hseed

/-- Of a member's name the digest counts, and nothing else. -/
theorem ofMethod_name_inj (owner : Fingerprint) (parameters : List Fingerprint)
    (exclusive : Bool) {name text : String} :
    ofMethod owner name parameters exclusive = ofMethod owner text parameters exclusive ↔
      Digest.ofText name = Digest.ofText text := by
  rw [ofMethod_inj_seed, methodSeed, methodSeed, UInt64.xor_left_inj, UInt64.xor_right_inj]

theorem ofMethod_receiver_injective (owner : Fingerprint) (name : String)
    (parameters : List Fingerprint) :
    Function.Injective fun exclusive => ofMethod owner name parameters exclusive := by
  intro left right hsame
  have hseed := (ofMethod_inj_seed parameters).mp hsame
  rw [methodSeed, methodSeed, UInt64.xor_right_inj] at hseed
  exact receiverMark_inj.mp hseed

theorem ofMethod_parameter_injective (owner : Fingerprint) (name : String)
    (before after : List Fingerprint) (exclusive : Bool) :
    Function.Injective fun parameter =>
      ofMethod owner name (before ++ parameter :: after) exclusive := by
  intro first second hsame
  exact (mixFrom_parameter_inj before after).mp (congrArg word hsame)

theorem ofConstructor_owner_injective (parameters : List Fingerprint) :
    Function.Injective fun owner => ofConstructor owner parameters := by
  intro left right hsame
  have hseed := (mixFrom_hash_inj parameters).mp (congrArg word hsame)
  exact word_inj.mp ((UInt64.xor_right_inj _).mp hseed)

theorem ofConstructor_parameter_injective (owner : Fingerprint)
    (before after : List Fingerprint) :
    Function.Injective fun parameter => ofConstructor owner (before ++ parameter :: after) := by
  intro first second hsame
  exact (mixFrom_parameter_inj before after).mp (congrArg word hsame)

theorem nullable_ne (fingerprint : Fingerprint) : fingerprint.nullable ≠ fingerprint := by
  intro hsame
  have hword : fingerprint.word ^^^ nullableMark = fingerprint.word ^^^ 0 := by
    rw [UInt64.xor_zero]
    exact congrArg word hsame
  exact absurd ((UInt64.xor_right_inj _).mp hword) (by decide)

end Fingerprint

/-! ## Signatures -/

section Signature

variable {family : ClassFamily}

/-- The optional variant of a parameter type. -/
def ParameterType.optional (parameter : ParameterType family) : ParameterType family :=
  ⟨.option parameter.type, parameter.isReadable⟩

theorem ParameterType.optional_fingerprint (parameter : ParameterType family) :
    parameter.optional.tag.fingerprint = parameter.tag.fingerprint.nullable := rfl

variable (owner : family.Class) (result : NativeType family.Class) (name : String)

theorem Signature.memberId_ofTypes (parameters : List (ParameterType family))
    (exclusive : Bool) :
    (Signature.ofTypes owner parameters result exclusive).memberId name =
      .ofMethod (.ofName (family.scriptName owner)) name
        (parameters.map (·.tag.fingerprint)) exclusive := by
  simp only [memberId, ofTypes, List.map_map, Function.comp_def]
  rfl

/-- A member gets another identity when one of its parameters becomes optional. -/
theorem Signature.memberId_optional_ne (before after : List (ParameterType family))
    (parameter : ParameterType family) (exclusive : Bool) :
    (Signature.ofTypes owner (before ++ parameter.optional :: after) result exclusive).memberId
        name ≠
      (Signature.ofTypes owner (before ++ parameter :: after) result exclusive).memberId name := by
  intro hsame
  rw [memberId_ofTypes, memberId_ofTypes, List.map_append, List.map_append, List.map_cons,
    List.map_cons, ParameterType.optional_fingerprint] at hsame
  exact Fingerprint.nullable_ne _
    (Fingerprint.ofMethod_parameter_injective _ _ _ _ _ hsame)

/-- A member gets another identity when it comes to write to its receiver. -/
theorem Signature.memberId_exclusive_ne (parameters : List (ParameterType family)) :
    (Signature.ofTypes owner parameters result true).memberId name ≠
      (Signature.ofTypes owner parameters result false).memberId name := by
  intro hsame
  rw [memberId_ofTypes, memberId_ofTypes] at hsame
  exact Bool.noConfusion (Fingerprint.ofMethod_receiver_injective _ _ _ hsame)

end Signature

namespace Fingerprint

/-- A fingerprint tells apart members that are alike but for one part: the owner, the digest of
the name, the receiver or one parameter, at whatever position.  So it changes when one
parameter becomes optional and when the receiver is written to. -/
theorem single_change_separates :
    (∀ name parameters exclusive,
      Function.Injective fun owner => ofMethod owner name parameters exclusive) ∧
    (∀ owner parameters exclusive name text,
      ofMethod owner name parameters exclusive = ofMethod owner text parameters exclusive ↔
        Digest.ofText name = Digest.ofText text) ∧
    (∀ owner name parameters,
      Function.Injective fun exclusive => ofMethod owner name parameters exclusive) ∧
    (∀ owner name before after exclusive,
      Function.Injective fun parameter =>
        ofMethod owner name (before ++ parameter :: after) exclusive) ∧
    (∀ parameters, Function.Injective fun owner => ofConstructor owner parameters) ∧
    (∀ owner before after,
      Function.Injective fun parameter => ofConstructor owner (before ++ parameter :: after)) ∧
    (∀ owner before after parameter,
      ofConstructor owner (before ++ nullable parameter :: after) ≠
        ofConstructor owner (before ++ parameter :: after)) ∧
    ∀ (family : ClassFamily) (owner : family.Class) (result : NativeType family.Class)
      (name : String),
      (∀ (before after : List (ParameterType family)) (parameter : ParameterType family)
        (exclusive : Bool),
        (Signature.ofTypes owner (before ++ parameter.optional :: after) result
            exclusive).memberId name ≠
          (Signature.ofTypes owner (before ++ parameter :: after) result exclusive).memberId
            name) ∧
      ∀ parameters : List (ParameterType family),
        (Signature.ofTypes owner parameters result true).memberId name ≠
          (Signature.ofTypes owner parameters result false).memberId name := by
  refine ⟨ofMethod_owner_injective, fun owner parameters exclusive name text =>
      ofMethod_name_inj owner parameters exclusive, ofMethod_receiver_injective,
    ofMethod_parameter_injective, ofConstructor_owner_injective,
    ofConstructor_parameter_injective, ?_, ?_⟩
  · intro owner before after parameter hsame
    exact nullable_ne parameter (ofConstructor_parameter_injective owner before after hsame)
  · intro family owner result name
    exact ⟨Signature.memberId_optional_ne owner result name,
      Signature.memberId_exclusive_ne owner result name⟩

/-- Hits by another class, under another name, and with another parameter behind sixteen others,
where the marks of the positions are no longer listed. -/
theorem single_change_separates_hit :
    let many := List.replicate 16 (ofName "int")
    ofMethod (ofName "Monster") "hit" many false ≠ ofMethod (ofName "Hero") "hit" many false ∧
      ofMethod (ofName "Monster") "hit" many false ≠ ofMethod (ofName "Monster") "heal" many false ∧
      ofMethod (ofName "Monster") "hit" (many ++ [ofName "int"]) false ≠
        ofMethod (ofName "Monster") "hit" (many ++ [ofName "float"]) false ∧
      ofConstructor (ofName "Monster") many ≠ ofConstructor (ofName "Hero") many ∧
      ofConstructor (ofName "Monster") (many ++ [ofName "int"]) ≠
        ofConstructor (ofName "Monster") (many ++ [ofName "float"]) := by
  intro many
  have howner : ofName "Monster" ≠ ofName "Hero" := by decide +kernel
  have hname : Digest.ofText "hit" ≠ Digest.ofText "heal" := by decide +kernel
  have hparameter : ofName "int" ≠ ofName "float" := by decide +kernel
  obtain ⟨howners, hnames, -, hparameters, hmakers, hmade, -⟩ := single_change_separates
  exact ⟨(howners "hit" many false).ne howner,
    fun hsame => hname ((hnames _ many false "hit" "heal").mp hsame),
    (hparameters _ "hit" many [] false).ne hparameter, (hmakers many).ne howner,
    (hmade _ many []).ne hparameter⟩

end Fingerprint

end NativeBridge
