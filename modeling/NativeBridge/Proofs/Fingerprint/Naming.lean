import Mathlib.Tactic.ByContra
import NativeBridge.Proofs.Fingerprint.Mixing

/-!
# Owner and name in a fingerprint

The name of the owner and the name of the member go through the same digest, and the two digests
are joined by an operation that does not see their order.  So a fingerprint determines neither of
the two names by itself: it is shared when they are exchanged, and it is the same for all members
that are called like their owner.  One of the names together with the fingerprint determines the
other, and apart from these two cases four different names have to hit a relation between four
digests.
-/

namespace NativeBridge

/-- The digest tells the names in a list apart. -/
def Digest.Separates (names : List String) : Prop :=
  ∀ left ∈ names, ∀ right ∈ names, Digest.ofText left = Digest.ofText right → left = right

instance (names : List String) : Decidable (Digest.Separates names) :=
  inferInstanceAs (Decidable (∀ left ∈ names, ∀ right ∈ names, _ → _))

/-- Two members, each given by the names of its owner and of itself, have their names in
common or the digests of their names cancel out. -/
inductive SharedNaming (owner name other text : String) : Prop
  | same (howner : owner = other) (hname : name = text)
  | exchanged (howner : owner = text) (hname : name = other)
  /-- Each member is called like its owner. -/
  | doubled (hfirst : owner = name) (hsecond : other = text)
  | cancelled (hnodup : [owner, name, other, text].Nodup)
      (hdigests : Digest.ofText owner ^^^ Digest.ofText name =
        Digest.ofText other ^^^ Digest.ofText text)

namespace Fingerprint

variable {owner name other text : String}

theorem ofName_word (name : String) : (ofName name).word = typeDomain ^^^ Digest.ofText name := rfl

/-- Members of named classes with the same parameters and receivers share their fingerprint
exactly if the joined digests of their names agree. -/
theorem ofMethod_ofName_eq_iff (parameters : List Fingerprint) (exclusive : Bool) :
    ofMethod (ofName owner) name parameters exclusive =
        ofMethod (ofName other) text parameters exclusive ↔
      Digest.ofText owner ^^^ Digest.ofText name =
        Digest.ofText other ^^^ Digest.ofText text := by
  rw [ofMethod_inj_seed, methodSeed, methodSeed, ofName_word, ofName_word, UInt64.xor_left_inj]
  simp only [UInt64.xor_assoc, UInt64.xor_right_inj]

/-- Where the digest tells the names apart, the joined digests agree exactly for a shared
naming. -/
theorem digests_eq_iff (hseparates : Digest.Separates [owner, name, other, text]) :
    Digest.ofText owner ^^^ Digest.ofText name = Digest.ofText other ^^^ Digest.ofText text ↔
      SharedNaming owner name other text := by
  constructor
  · intro hdigests
    by_cases hnodup : [owner, name, other, text].Nodup
    · exact .cancelled hnodup hdigests
    · -- Two of the four names agree; their digests cancel and leave the other two.
      have hagree : owner = name ∨ owner = other ∨ owner = text ∨ name = other ∨ name = text ∨
          other = text := by
        by_contra! hother
        simp [hother] at hnodup
      rcases hagree with rfl | rfl | rfl | rfl | rfl | rfl
      · rw [UInt64.xor_self] at hdigests
        refine .doubled rfl (hseparates _ (by simp) _ (by simp) ?_)
        exact UInt64.xor_eq_zero_iff.mp hdigests.symm
      · rw [UInt64.xor_right_inj] at hdigests
        exact .same rfl (hseparates _ (by simp) _ (by simp) hdigests)
      · rw [UInt64.xor_comm (Digest.ofText other)] at hdigests
        exact .exchanged rfl
          (hseparates _ (by simp) _ (by simp) ((UInt64.xor_right_inj _).mp hdigests))
      · rw [UInt64.xor_comm (Digest.ofText name) (Digest.ofText text)] at hdigests
        exact .exchanged
          (hseparates _ (by simp) _ (by simp) ((UInt64.xor_left_inj _).mp hdigests)) rfl
      · exact .same (hseparates _ (by simp) _ (by simp) ((UInt64.xor_left_inj _).mp hdigests)) rfl
      · rw [UInt64.xor_self] at hdigests
        refine .doubled (hseparates _ (by simp) _ (by simp) ?_) rfl
        exact UInt64.xor_eq_zero_iff.mp hdigests
  · rintro (⟨rfl, rfl⟩ | ⟨rfl, rfl⟩ | ⟨rfl, rfl⟩ | ⟨-, hdigests⟩)
    · rfl
    · exact UInt64.xor_comm _ _
    · rw [UInt64.xor_self, UInt64.xor_self]
    · exact hdigests

/-- Members of named classes with the same parameters and receivers share their fingerprint
exactly if they have their names in common, in either order, or are each called like their
class, or the digests of four different names cancel out.  So of two members that share their
fingerprint, both names agree as soon as one does.  The same holds of the identities of
signatures. -/
theorem shared_fingerprint_iff (hseparates : Digest.Separates [owner, name, other, text]) :
    (∀ parameters exclusive,
      ofMethod (ofName owner) name parameters exclusive =
          ofMethod (ofName other) text parameters exclusive ↔
        SharedNaming owner name other text) ∧
    (∀ parameters exclusive,
      ofMethod (ofName owner) name parameters exclusive =
          ofMethod (ofName other) text parameters exclusive →
        (owner = other ↔ name = text)) ∧
    ∀ (family : ClassFamily) (first second : family.Class)
      (parameters : List (ParameterType family)) (result : NativeType family.Class)
      (exclusive : Bool), family.scriptName first = owner → family.scriptName second = other →
      ((Signature.ofTypes first parameters result exclusive).memberId name =
          (Signature.ofTypes second parameters result exclusive).memberId text ↔
        SharedNaming owner name other text) := by
  have hshared : ∀ parameters exclusive,
      ofMethod (ofName owner) name parameters exclusive =
          ofMethod (ofName other) text parameters exclusive ↔
        SharedNaming owner name other text := by
    intro parameters exclusive
    rw [ofMethod_ofName_eq_iff, digests_eq_iff hseparates]
  refine ⟨hshared, ?_, ?_⟩
  · intro parameters exclusive hsame
    have hdigests := (ofMethod_ofName_eq_iff parameters exclusive).mp hsame
    constructor
    · rintro rfl
      exact hseparates _ (by simp) _ (by simp) ((UInt64.xor_right_inj _).mp hdigests)
    · rintro rfl
      exact hseparates _ (by simp) _ (by simp) ((UInt64.xor_left_inj _).mp hdigests)
  · rintro family first second parameters result exclusive rfl rfl
    rw [Signature.memberId_ofTypes, Signature.memberId_ofTypes, hshared]

/-- A monster that hits and a hero that boasts are different members. -/
theorem shared_fingerprint_iff_boast :
    Digest.Separates ["Monster", "hit", "Hero", "boast"] ∧
      ofMethod (ofName "Monster") "hit" [] true ≠ ofMethod (ofName "Hero") "boast" [] true := by
  have hseparates : Digest.Separates ["Monster", "hit", "Hero", "boast"] := by decide +kernel
  have hdigests : Digest.ofText "Monster" ^^^ Digest.ofText "hit" ≠
      Digest.ofText "Hero" ^^^ Digest.ofText "boast" := by decide +kernel
  refine ⟨hseparates, fun hsame => ?_⟩
  cases ((shared_fingerprint_iff hseparates).1 [] true).mp hsame with
  | same howner hname => exact absurd howner (by decide)
  | exchanged howner hname => exact absurd howner (by decide)
  | doubled hfirst hsecond => exact absurd hfirst (by decide)
  | cancelled hnodup hequal => exact hdigests hequal

/-- Two names that the digest tells apart can change places between class and member, and two
members that are called like their classes are one. -/
theorem exchanged_names_share :
    Digest.Separates ["Monster", "Hero", "Hero", "Monster"] ∧ "Monster" ≠ "Hero" ∧
      ofMethod (ofName "Monster") "Hero" [] false = ofMethod (ofName "Hero") "Monster" [] false ∧
      ofMethod (ofName "Monster") "Monster" [] false = ofMethod (ofName "Hero") "Hero" [] false := by
  have hseparates : Digest.Separates ["Monster", "Hero", "Hero", "Monster"] := by decide +kernel
  refine ⟨hseparates, by decide, (ofMethod_ofName_eq_iff [] false).mpr (UInt64.xor_comm _ _), ?_⟩
  rw [ofMethod_ofName_eq_iff, UInt64.xor_self, UInt64.xor_self]

end Fingerprint

end NativeBridge
