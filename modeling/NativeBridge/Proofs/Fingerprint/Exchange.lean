import Mathlib.Data.Nat.ModEq
import Mathlib.Tactic.Ring
import NativeBridge.Proofs.Fingerprint.Mixing

/-!
# Exchanging two neighbours in a parameter list

Whether the fingerprint of a member notices that two neighbouring parameters have changed places
is settled by the words of these two and the position of the first, whatever stands before and
behind them.  Two words that agree below a bit can be cut there: what is left obeys the same
equation to a smaller power of two, and its lowest bits decide.  Words that differ in the top bit
alone can always be exchanged unnoticed.  Below the two top bits, an exchange can go unnoticed
only if the marks of the two positions agree in the lowest bit in which the words differ, and
both the marks and the words differ in the next one.
-/

namespace NativeBridge.Fingerprint

variable {position : Nat} {first second : Fingerprint}

/-- What two neighbours add to the running word, the first of them at `position`. -/
def pairWord (position : Nat) (first second : Fingerprint) : UInt64 :=
  (positionMark position ^^^ first.word) * separator +
    (positionMark (position + 1) ^^^ second.word)

/-- At a position, the mixing does not notice in which order two neighbours come. -/
def Exchangeable (position : Nat) (first second : Fingerprint) : Prop :=
  pairWord position first second = pairWord position second first

instance (position : Nat) (first second : Fingerprint) :
    Decidable (Exchangeable position first second) :=
  inferInstanceAs (Decidable (_ = _))

theorem mixed_mixed (hash : UInt64) :
    mixed (position + 1) (mixed position hash first) second =
      hash * separator * separator + pairWord position first second := by
  rw [mixed, mixed, pairWord, UInt64.add_mul, UInt64.add_assoc]

theorem mixFrom_exchange_iff (hash : UInt64) (before after : List Fingerprint) :
    mixFrom position hash (before ++ first :: second :: after) =
        mixFrom position hash (before ++ second :: first :: after) ↔
      Exchangeable (position + before.length) first second := by
  rw [mixFrom_append, mixFrom_append]
  simp only [mixFrom_cons]
  rw [mixFrom_hash_inj, mixed_mixed, mixed_mixed, UInt64.add_right_inj]
  rfl

theorem ofMethod_exchange_iff (owner : Fingerprint) (name : String)
    (before after : List Fingerprint) (exclusive : Bool) :
    ofMethod owner name (before ++ first :: second :: after) exclusive =
        ofMethod owner name (before ++ second :: first :: after) exclusive ↔
      Exchangeable before.length first second := by
  rw [ofMethod_eq_mixFrom, ofMethod_eq_mixFrom, mk.injEq, mixFrom_exchange_iff, Nat.zero_add]

theorem ofConstructor_exchange_iff (owner : Fingerprint) (before after : List Fingerprint) :
    ofConstructor owner (before ++ first :: second :: after) =
        ofConstructor owner (before ++ second :: first :: after) ↔
      Exchangeable before.length first second := by
  rw [ofConstructor_eq_mixFrom, ofConstructor_eq_mixFrom, mk.injEq, mixFrom_exchange_iff,
    Nat.zero_add]

/-! ## Cutting the words at a bit -/

/-- The equation behind an exchange, between numbers: `left` and `right` are the marked words
at the first position, and `mask` is where the marks of the two positions differ. -/
def Balanced (modulus left right mask : Nat) : Prop :=
  left * separator.toNat + (right ^^^ mask) ≡ right * separator.toNat + (left ^^^ mask)
    [MOD modulus]

/-- A word marked for a position, as a number. -/
def markedAt (position : Nat) (parameter : Fingerprint) : Nat :=
  (positionMark position ^^^ parameter.word).toNat

/-- Where the marks of a position and of the next one differ, as a number. -/
def markChange (position : Nat) : Nat :=
  (positionMark position ^^^ positionMark (position + 1)).toNat

/-- A word marked for the next position, from the same word marked for this one. -/
theorem mark_next (position : Nat) (word : UInt64) :
    positionMark (position + 1) ^^^ word =
      (positionMark position ^^^ word) ^^^
        (positionMark position ^^^ positionMark (position + 1)) := by
  calc
    positionMark (position + 1) ^^^ word =
        (positionMark position ^^^ positionMark position) ^^^
          (positionMark (position + 1) ^^^ word) := by
      rw [UInt64.xor_self, UInt64.zero_xor]
    _ = (positionMark position ^^^ word) ^^^
          (positionMark position ^^^ positionMark (position + 1)) := by
      ac_rfl

theorem exchangeable_iff_balanced :
    Exchangeable position first second ↔
      Balanced (2 ^ 64) (markedAt position first) (markedAt position second)
        (markChange position) := by
  rw [Exchangeable, pairWord, pairWord, mark_next position first.word,
    mark_next position second.word, ← UInt64.toNat_inj]
  simp only [UInt64.toNat_add, UInt64.toNat_mul, UInt64.toNat_xor, Nat.mod_add_mod]
  simp only [Balanced, markedAt, markChange, Nat.ModEq, UInt64.toNat_xor]

/-- One side of the equation, split at a bit below which both numbers are `low`. -/
theorem side_split {left right mask bit low : Nat} (hleft : left % 2 ^ bit = low)
    (hright : right % 2 ^ bit = low) :
    left * separator.toNat + (right ^^^ mask) =
      2 ^ bit * (left / 2 ^ bit * separator.toNat + (right / 2 ^ bit ^^^ mask / 2 ^ bit)) +
        (low * separator.toNat + (low ^^^ mask % 2 ^ bit)) := by
  have hsum := Nat.div_add_mod left (2 ^ bit)
  have hmasked := Nat.div_add_mod (right ^^^ mask) (2 ^ bit)
  rw [Nat.xor_div_two_pow, Nat.xor_mod_two_pow, hright] at hmasked
  rw [hleft] at hsum
  calc
    left * separator.toNat + (right ^^^ mask) =
        (2 ^ bit * (left / 2 ^ bit) + low) * separator.toNat +
          (2 ^ bit * (right / 2 ^ bit ^^^ mask / 2 ^ bit) + (low ^^^ mask % 2 ^ bit)) := by
      rw [hsum, hmasked]
    _ = 2 ^ bit * (left / 2 ^ bit * separator.toNat + (right / 2 ^ bit ^^^ mask / 2 ^ bit)) +
          (low * separator.toNat + (low ^^^ mask % 2 ^ bit)) := by
      ring

/-- Numbers that agree below a bit are balanced exactly if what is left of them above it is
balanced to the power of two that is left. -/
theorem balanced_cut {left right mask bit width : Nat}
    (hlow : left % 2 ^ bit = right % 2 ^ bit) :
    Balanced (2 ^ (bit + width)) left right mask ↔
      Balanced (2 ^ width) (left / 2 ^ bit) (right / 2 ^ bit) (mask / 2 ^ bit) := by
  rw [Balanced, Balanced, side_split rfl hlow.symm, side_split hlow.symm rfl, Nat.pow_add]
  constructor
  · intro hbalanced
    apply Nat.ModEq.mul_left_cancel' (Nat.two_pow_pos bit).ne'
    exact Nat.ModEq.add_right_cancel' _ hbalanced
  · intro hbalanced
    exact (hbalanced.mul_left' (2 ^ bit)).add_right _

/-- Being balanced to a power of two depends on that many bits of the numbers. -/
theorem balanced_mod_iff {left right mask width : Nat} :
    Balanced (2 ^ width) left right mask ↔
      Balanced (2 ^ width) (left % 2 ^ width) (right % 2 ^ width) (mask % 2 ^ width) := by
  have hterm : ∀ first second : Nat,
      first * separator.toNat + (second ^^^ mask) ≡
        first % 2 ^ width * separator.toNat + (second % 2 ^ width ^^^ mask % 2 ^ width)
          [MOD 2 ^ width] := by
    intro first second
    rw [← Nat.xor_mod_two_pow]
    exact ((Nat.mod_modEq first _).symm.mul_right _).add (Nat.mod_modEq _ _).symm
  rw [Balanced, Balanced]
  exact ⟨fun h => (hterm left right).symm.trans (h.trans (hterm right left)),
    fun h => (hterm left right).trans (h.trans (hterm right left).symm)⟩

/-! ## The lowest bits decide -/

instance (modulus left right mask : Nat) : Decidable (Balanced modulus left right mask) :=
  inferInstanceAs (Decidable (_ = _))

/-- Numbers that agree below a bit are balanced by the bits from there on. -/
theorem balanced_at_bit {left right mask bit width : Nat}
    (hlow : left % 2 ^ bit = right % 2 ^ bit) :
    Balanced (2 ^ (bit + width)) left right mask ↔
      Balanced (2 ^ width) (left / 2 ^ bit % 2 ^ width) (right / 2 ^ bit % 2 ^ width)
        (mask / 2 ^ bit % 2 ^ width) := by
  rw [balanced_cut hlow, balanced_mod_iff]

/-! Of the separator only the last bits are left here: it is 5 modulo 8.  The three lemmas go
through all numbers of so many bits. -/

theorem balanced_one_bit : ∀ left right mask : Fin (2 ^ 1),
    Balanced (2 ^ 1) left right mask := by decide

theorem balanced_two_bits : ∀ left right mask : Fin (2 ^ 2),
    left.val.testBit 0 ≠ right.val.testBit 0 →
      (Balanced (2 ^ 2) left right mask ↔ mask.val.testBit 0 = false) := by decide

theorem balanced_three_bits : ∀ left right mask : Fin (2 ^ 3),
    left.val.testBit 0 ≠ right.val.testBit 0 → Balanced (2 ^ 3) left right mask →
      mask.val.testBit 0 = false ∧ mask.val.testBit 1 = true ∧
        left.val.testBit 1 ≠ right.val.testBit 1 := by decide

/-- The lowest bit in which two words differ. -/
structure DifferFirstAt (left right : UInt64) (bit : Nat) : Prop where
  below : ∀ lower < bit, left.toNat.testBit lower = right.toNat.testBit lower
  here : left.toNat.testBit bit ≠ right.toNat.testBit bit

/-- The marks of a position and of the next one agree in a bit. -/
def MarksAgreeAt (position bit : Nat) : Prop :=
  (positionMark position).toNat.testBit bit = (positionMark (position + 1)).toNat.testBit bit

theorem testBit_markedAt (parameter : Fingerprint) (bit : Nat) :
    (markedAt position parameter).testBit bit =
      ((positionMark position).toNat.testBit bit ^^ parameter.word.toNat.testBit bit) := by
  rw [markedAt, UInt64.toNat_xor, Nat.testBit_xor]

theorem testBit_markedAt_ne_iff {bit : Nat} :
    (markedAt position first).testBit bit ≠ (markedAt position second).testBit bit ↔
      first.word.toNat.testBit bit ≠ second.word.toNat.testBit bit := by
  rw [testBit_markedAt, testBit_markedAt, ne_eq, Bool.xor_right_inj]

theorem testBit_markChange_eq_false_iff {bit : Nat} :
    (markChange position).testBit bit = false ↔ MarksAgreeAt position bit := by
  rw [markChange, UInt64.toNat_xor, Nat.testBit_xor, MarksAgreeAt]
  exact bne_eq_false_iff_eq

/-- The bits of a number from a bit on. -/
theorem testBit_cut {number bit width lower : Nat} (hlower : lower < width) :
    (number / 2 ^ bit % 2 ^ width).testBit lower = number.testBit (lower + bit) := by
  rw [Nat.testBit_mod_two_pow, Nat.testBit_div_two_pow, decide_eq_true hlower, Bool.true_and]

namespace DifferFirstAt

variable {bit : Nat}

theorem markedAt_mod (hdiffer : DifferFirstAt first.word second.word bit) :
    markedAt position first % 2 ^ bit = markedAt position second % 2 ^ bit := by
  apply Nat.eq_of_testBit_eq
  intro lower
  rw [Nat.testBit_mod_two_pow, Nat.testBit_mod_two_pow]
  by_cases hlower : lower < bit
  · rw [testBit_markedAt, testBit_markedAt, hdiffer.below lower hlower]
  · simp [hlower]

/-- Neighbours are exchangeable exactly if the bits from their first difference on are
balanced. -/
theorem exchangeable_iff (hdiffer : DifferFirstAt first.word second.word bit) (width : Nat)
    (hwidth : bit + width = 64) :
    Exchangeable position first second ↔
      Balanced (2 ^ width) (markedAt position first / 2 ^ bit % 2 ^ width)
        (markedAt position second / 2 ^ bit % 2 ^ width)
        (markChange position / 2 ^ bit % 2 ^ width) := by
  rw [exchangeable_iff_balanced, ← hwidth, balanced_at_bit hdiffer.markedAt_mod]

theorem lowest_ne (hdiffer : DifferFirstAt first.word second.word bit) {width : Nat}
    (hwidth : 0 < width) :
    (markedAt position first / 2 ^ bit % 2 ^ width).testBit 0 ≠
      (markedAt position second / 2 ^ bit % 2 ^ width).testBit 0 := by
  rw [testBit_cut hwidth, testBit_cut hwidth, Nat.zero_add, testBit_markedAt_ne_iff]
  exact hdiffer.here

theorem exchangeable_of_top (hdiffer : DifferFirstAt first.word second.word 63) :
    Exchangeable position first second := by
  rw [hdiffer.exchangeable_iff 1 rfl]
  exact balanced_one_bit ⟨_, Nat.mod_lt _ (by decide)⟩ ⟨_, Nat.mod_lt _ (by decide)⟩
    ⟨_, Nat.mod_lt _ (by decide)⟩

theorem exchangeable_iff_of_next (hdiffer : DifferFirstAt first.word second.word 62) :
    Exchangeable position first second ↔ MarksAgreeAt position 62 := by
  rw [hdiffer.exchangeable_iff 2 rfl, ← testBit_markChange_eq_false_iff]
  have hcut := balanced_two_bits
    ⟨markedAt position first / 2 ^ 62 % 2 ^ 2, Nat.mod_lt _ (by decide)⟩
    ⟨markedAt position second / 2 ^ 62 % 2 ^ 2, Nat.mod_lt _ (by decide)⟩
    ⟨markChange position / 2 ^ 62 % 2 ^ 2, Nat.mod_lt _ (by decide)⟩
    (hdiffer.lowest_ne (by decide))
  rw [testBit_cut (by decide), Nat.zero_add] at hcut
  exact hcut

/-- Below the two top bits an exchange goes unnoticed only if the marks turn at the bit behind
the first difference, where the words differ again. -/
theorem marks_of_exchangeable (hdiffer : DifferFirstAt first.word second.word bit)
    (hbit : bit < 62) (hexchange : Exchangeable position first second) :
    MarksAgreeAt position bit ∧ ¬ MarksAgreeAt position (bit + 1) ∧
      first.word.toNat.testBit (bit + 1) ≠ second.word.toNat.testBit (bit + 1) := by
  have hwide : 2 ^ (bit + 3) ∣ 2 ^ 64 := Nat.pow_dvd_pow 2 (by omega)
  have hbalanced := (exchangeable_iff_balanced.mp hexchange).of_dvd hwide
  have hcut := (balanced_at_bit hdiffer.markedAt_mod).mp hbalanced
  have hbits := balanced_three_bits
    ⟨markedAt position first / 2 ^ bit % 2 ^ 3, Nat.mod_lt _ (by decide)⟩
    ⟨markedAt position second / 2 ^ bit % 2 ^ 3, Nat.mod_lt _ (by decide)⟩
    ⟨markChange position / 2 ^ bit % 2 ^ 3, Nat.mod_lt _ (by decide)⟩
    (hdiffer.lowest_ne (by decide)) hcut
  simp only [testBit_cut (show 0 < 3 by decide), testBit_cut (show 1 < 3 by decide),
    Nat.zero_add, Nat.add_comm 1, testBit_markedAt_ne_iff, testBit_markChange_eq_false_iff,
    ← Bool.not_eq_false] at hbits
  exact hbits

end DifferFirstAt

/-- Different words differ first at some bit. -/
theorem exists_differFirstAt (hother : first ≠ second) :
    ∃ bit < 64, DifferFirstAt first.word second.word bit := by
  have hbits : ∃ bit, first.word.toNat.testBit bit ≠ second.word.toNat.testBit bit := by
    by_contra! hsame
    exact hother (word_inj.mp (UInt64.toNat_inj.mp (Nat.eq_of_testBit_eq hsame)))
  classical
  refine ⟨Nat.find hbits, ?_, fun lower hlower => ?_, Nat.find_spec hbits⟩
  · by_contra! hlarge
    have hhigh : ∀ word : UInt64, word.toNat.testBit (Nat.find hbits) = false := by
      intro word
      apply Nat.testBit_lt_two_pow
      exact word.toNat_lt.trans_le (Nat.pow_le_pow_right (by decide) hlarge)
    exact Nat.find_spec hbits (by rw [hhigh, hhigh])
  · exact not_not.mp (Nat.find_min hbits hlower)

/-- An optional type and the type it wraps differ first in the second bit, and agree in the
third. -/
theorem not_exchangeable_nullable (position : Nat) (parameter : Fingerprint) :
    ¬ Exchangeable position parameter parameter.nullable := by
  intro hexchange
  have hmarked : ∀ bit, parameter.nullable.word.toNat.testBit bit =
      (parameter.word.toNat.testBit bit ^^ nullableMark.toNat.testBit bit) := by
    intro bit
    rw [nullable, UInt64.toNat_xor, Nat.testBit_xor]
  have hdiffer : DifferFirstAt parameter.word parameter.nullable.word 1 := by
    constructor
    · intro lower hlower
      obtain rfl : lower = 0 := by omega
      rw [hmarked, show nullableMark.toNat.testBit 0 = false by decide, Bool.xor_false]
    · rw [hmarked, show nullableMark.toNat.testBit 1 = true by decide, Bool.xor_true]
      exact (Bool.not_ne_self _).symm
  have hagain := (hdiffer.marks_of_exchangeable (by decide) hexchange).2.2
  rw [hmarked, show nullableMark.toNat.testBit (1 + 1) = false by decide,
    Bool.xor_false] at hagain
  exact hagain rfl

/-- Exchanging two neighbours with different fingerprints changes the fingerprint of a method
and of a constructor, unless the two are exchangeable at their position.  They are if they
differ in the top bit alone; if they differ first in the bit below it, exactly where the marks
of the two positions agree in that bit; and if they differ first in a lower bit, at most where
the marks agree in it and turn at the next one, in which the two differ too.  An optional type
and the type it wraps are never exchangeable. -/
theorem exchange_changes_fingerprint (hother : first ≠ second) :
    (∀ owner name before after exclusive,
      ofMethod owner name (before ++ first :: second :: after) exclusive ≠
          ofMethod owner name (before ++ second :: first :: after) exclusive ↔
        ¬ Exchangeable before.length first second) ∧
    (∀ owner before after,
      ofConstructor owner (before ++ first :: second :: after) ≠
          ofConstructor owner (before ++ second :: first :: after) ↔
        ¬ Exchangeable before.length first second) ∧
    (∃ bit < 64, DifferFirstAt first.word second.word bit ∧
      ∀ position,
        (bit = 63 → Exchangeable position first second) ∧
        (bit = 62 → (Exchangeable position first second ↔ MarksAgreeAt position 62)) ∧
        (bit < 62 → Exchangeable position first second →
          MarksAgreeAt position bit ∧ ¬ MarksAgreeAt position (bit + 1) ∧
            first.word.toNat.testBit (bit + 1) ≠ second.word.toNat.testBit (bit + 1))) ∧
    (second = first.nullable → ∀ position, ¬ Exchangeable position first second) := by
  refine ⟨?_, ?_, ?_, ?_⟩
  · intro owner name before after exclusive
    exact not_congr (ofMethod_exchange_iff owner name before after exclusive)
  · intro owner before after
    exact not_congr (ofConstructor_exchange_iff owner before after)
  · obtain ⟨bit, hbit, hdiffer⟩ := exists_differFirstAt hother
    refine ⟨bit, hbit, hdiffer, fun position => ⟨?_, ?_, ?_⟩⟩
    · rintro rfl
      exact hdiffer.exchangeable_of_top
    · rintro rfl
      exact hdiffer.exchangeable_iff_of_next
    · exact fun hlow => hdiffer.marks_of_exchangeable hlow
  · rintro rfl position
    exact not_exchangeable_nullable position first

/-- A hit with a whole number and a fraction is another member than a hit with a fraction and a
whole number. -/
theorem exchange_changes_fingerprint_hit :
    ofName "int" ≠ ofName "float" ∧
      ofMethod (ofName "Monster") "hit" [ofName "int", ofName "float"] false ≠
        ofMethod (ofName "Monster") "hit" [ofName "float", ofName "int"] false := by
  have hother : ofName "int" ≠ ofName "float" := by decide +kernel
  have hnoticed : ¬ Exchangeable 0 (ofName "int") (ofName "float") := by decide +kernel
  have hmethod := (exchange_changes_fingerprint hother).1 (ofName "Monster") "hit" [] [] false
  exact ⟨hother, hmethod.mpr hnoticed⟩

/-- The fingerprints of these two type names differ in the top bit alone, and members that take
the two types in either order share their fingerprints. -/
theorem exchange_unnoticed :
    ofName "HDViWydj" ≠ ofName "qXCkziMG" ∧
      ofMethod (ofName "Monster") "hit" [ofName "HDViWydj", ofName "qXCkziMG"] false =
        ofMethod (ofName "Monster") "hit" [ofName "qXCkziMG", ofName "HDViWydj"] false ∧
      ofConstructor (ofName "Monster") [ofName "HDViWydj", ofName "qXCkziMG"] =
        ofConstructor (ofName "Monster") [ofName "qXCkziMG", ofName "HDViWydj"] := by
  have hother : ofName "HDViWydj" ≠ ofName "qXCkziMG" := by decide +kernel
  have hexchange : Exchangeable 0 (ofName "HDViWydj") (ofName "qXCkziMG") := by decide +kernel
  exact ⟨hother, (ofMethod_exchange_iff _ _ [] [] _).mpr hexchange,
    (ofConstructor_exchange_iff _ [] []).mpr hexchange⟩

end NativeBridge.Fingerprint
