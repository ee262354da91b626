import Mathlib
import SmuTelemetry.Binary32.Arithmetic

/-!
NaN and order. Rounding a ratio never gives a NaN, so a NaN enters a result only with an
operand or with an undefined combination of zeros and infinities. Numbers that are not
NaN are totally ordered by their place on the line.
-/

namespace SmuTelemetry

set_option autoImplicit false

namespace Binary32

theorem zero_eq : (0 : Binary32) = zero := by decide

theorem magnitude_ofMagnitude (negative : Bool) {magnitude : Nat} (bound : magnitude < signBit) :
    (ofMagnitude negative magnitude).magnitude = magnitude := by
  have signed : signBit + magnitude < UInt32.size := by
    simp only [signBit, UInt32.size] at *
    omega
  have plain : magnitude < UInt32.size := by omega
  cases negative with
  | true =>
      have bits : (UInt32.ofNat (signBit + magnitude)).toNat = signBit + magnitude :=
        UInt32.toNat_ofNat_of_lt' signed
      simp only [Binary32.magnitude, ofMagnitude, if_true, bits, Nat.add_mod_left]
      exact Nat.mod_eq_of_lt bound
  | false =>
      have bits : (UInt32.ofNat magnitude).toNat = magnitude := UInt32.toNat_ofNat_of_lt' plain
      simp only [Binary32.magnitude, ofMagnitude, Bool.false_eq_true, if_false, bits]
      exact Nat.mod_eq_of_lt bound

theorem isNaN_ofMagnitude (negative : Bool) {magnitude : Nat}
    (bound : magnitude ≤ infinityMagnitude) : (ofMagnitude negative magnitude).isNaN = false := by
  have small : magnitude < signBit := lt_of_le_of_lt bound (by decide)
  rw [isNaN, magnitude_ofMagnitude negative small]
  exact decide_eq_false (Nat.not_lt.mpr bound)

theorem isNaN_ofRatio (negative : Bool) (numerator denominator : Nat) :
    (ofRatio negative numerator denominator).isNaN = false :=
  isNaN_ofMagnitude negative (Nat.min_le_left _ _)

theorem isNaN_infinity (negative : Bool) : (infinity negative).isNaN = false :=
  isNaN_ofMagnitude negative (le_refl _)

theorem isNaN_ofNat (value : Nat) : (ofNat value).isNaN = false :=
  isNaN_ofRatio false _ 1

theorem isNaN_div {x y : Binary32} (xNumber : x.isNaN = false) (yNumber : y.isNaN = false)
    (yFinite : y.isInfinite = false) (yNonzero : y.isZero = false) : (x / y).isNaN = false := by
  change (div x y).isNaN = false
  simp only [div, xNumber, yNumber, yFinite, yNonzero, Bool.or_false, Bool.false_eq_true, if_false]
  split
  · exact isNaN_infinity _
  · exact isNaN_ofRatio _ _ _

theorem isZero_of_isInfinite {x : Binary32} (infinite : x.isInfinite = true) :
    x.isZero = false := by
  have top : x.magnitude = infinityMagnitude := of_decide_eq_true infinite
  rw [isZero, top]
  decide

theorem isNaN_mul {x y : Binary32} (xNumber : x.isNaN = false) (yNumber : y.isNaN = false)
    (yFinite : y.isInfinite = false) (yNonzero : y.isZero = false) : (x * y).isNaN = false := by
  change (mul x y).isNaN = false
  simp only [mul, xNumber, yNumber, yFinite, yNonzero, Bool.or_false, Bool.false_eq_true, if_false]
  split
  next infinite =>
    simp only [isZero_of_isInfinite infinite, Bool.false_eq_true, if_false]
    exact isNaN_infinity _
  next => exact isNaN_ofRatio _ _ _

theorem isNaN_add {x y : Binary32} (xNumber : x.isNaN = false) (yNumber : y.isNaN = false)
    (xUnsigned : x.isNegative = false) (yUnsigned : y.isNegative = false) :
    (x + y).isNaN = false := by
  change (add x y).isNaN = false
  simp only [add, xNumber, yNumber, xUnsigned, yUnsigned, bne_self_eq_false, Bool.and_false,
    Bool.or_false, Bool.false_eq_true, if_false]
  split
  · exact xNumber
  · split
    · exact yNumber
    · rw [addFinite]
      split
      · exact isNaN_ofMagnitude _ (Nat.zero_le _)
      · exact isNaN_ofRatio _ _ _

theorem le_of_not_lt {x y : Binary32} (xNumber : x.isNaN = false) (yNumber : y.isNaN = false)
    (notBelow : ¬x < y) : y ≤ x := by
  refine ⟨yNumber, xNumber, ?_⟩
  by_contra above
  exact notBelow ⟨xNumber, yNumber, by omega⟩

protected theorem le_of_lt {x y : Binary32} (below : x < y) : x ≤ y :=
  ⟨below.1, below.2.1, Int.le_of_lt below.2.2⟩

protected theorem le_trans {x y z : Binary32} (first : x ≤ y) (second : y ≤ z) : x ≤ z :=
  ⟨first.1, second.2.1, Int.le_trans first.2.2 second.2.2⟩

protected theorem lt_of_lt_of_le {x y z : Binary32} (first : x < y) (second : y ≤ z) : x < z :=
  ⟨first.1, second.2.1, Int.lt_of_lt_of_le first.2.2 second.2.2⟩

theorem rank_zero : (0 : Binary32).rank = 0 := by decide

/-- NaNs, both zeros and negative numbers are the ones that are not positive. -/
theorem positive_iff (x : Binary32) :
    0 < x ↔ x.isNaN = false ∧ x.isZero = false ∧ x.isNegative = false := by
  have zeroNumber : (0 : Binary32).isNaN = false := isNaN_ofNat 0
  have ranked : 0 < x ↔ x.isNaN = false ∧ 0 < x.rank := by
    constructor
    · intro positive
      obtain ⟨-, number, above⟩ := positive
      exact ⟨number, by rwa [rank_zero] at above⟩
    · intro positive
      obtain ⟨number, above⟩ := positive
      exact ⟨zeroNumber, number, by rwa [rank_zero]⟩
  rw [ranked]
  refine and_congr_right fun _ => ?_
  cases sign : x.isNegative with
  | true => simp [rank, sign]
  | false =>
      simp only [rank, sign, isZero, Bool.false_eq_true, if_false, decide_eq_false_iff_not,
        and_true]
      omega

theorem isNaN_of_positive {x : Binary32} (positive : 0 < x) : x.isNaN = false :=
  positive.2.1

theorem larger_eq_or (x y : Binary32) : x.larger y = x ∨ x.larger y = y := by
  rw [larger]
  split
  · exact Or.inr rfl
  · split
    · exact Or.inr rfl
    · exact Or.inl rfl

theorem le_larger_left {x : Binary32} (number : x.isNaN = false) (y : Binary32) :
    x ≤ x.larger y := by
  rw [larger, number, if_neg Bool.false_ne_true]
  split
  next below => exact Binary32.le_of_lt below
  next => exact ⟨number, number, Int.le_refl _⟩

theorem le_larger_right (x : Binary32) {y : Binary32} (number : y.isNaN = false) :
    y ≤ x.larger y := by
  rw [larger]
  split
  next => exact ⟨number, number, Int.le_refl _⟩
  next xNumber =>
      split
      next => exact ⟨number, number, Int.le_refl _⟩
      next notBelow => exact le_of_not_lt (Bool.eq_false_iff.mpr xNumber) number notBelow

theorem larger_of_isNaN {x : Binary32} (nan : x.isNaN = true) (y : Binary32) : x.larger y = y :=
  if_pos nan

theorem larger_isNaN {x y : Binary32} (number : x.isNaN = false) (nan : y.isNaN = true) :
    x.larger y = x := by
  have notBelow : ¬x < y := fun below => Bool.false_ne_true (below.2.1.symm.trans nan)
  rw [larger, number, if_neg Bool.false_ne_true, if_neg notBelow]

theorem isNaN_larger {x y : Binary32} (xNumber : x.isNaN = false) (yNumber : y.isNaN = false) :
    (x.larger y).isNaN = false := by
  rcases larger_eq_or x y with kept | replaced
  · rw [kept, xNumber]
  · rw [replaced, yNumber]

theorem ext_magnitude {x y : Binary32} (signs : x.isNegative = y.isNegative)
    (magnitudes : x.magnitude = y.magnitude) : x = y := by
  have xBound : x.bits.toNat < 2 * signBit := x.bits.toNat_lt
  have yBound : y.bits.toNat < 2 * signBit := y.bits.toNat_lt
  have sides : signBit ≤ x.bits.toNat ↔ signBit ≤ y.bits.toNat := decide_eq_decide.mp signs
  simp only [magnitude, signBit] at *
  have bits : x.bits = y.bits := UInt32.toNat_inj.mp (by omega)
  cases x
  cases y
  exact congrArg mk bits

/-- Numbers at one place of the line are the same, but for the sign of a zero. -/
theorem eq_or_isZero_of_le_of_le {x y : Binary32} (below : x ≤ y) (above : y ≤ x) :
    x = y ∨ x.isZero = true ∧ y.isZero = true := by
  have place : x.rank = y.rank := Int.le_antisymm below.2.2 above.2.2
  by_cases signs : x.isNegative = y.isNegative
  · left
    apply ext_magnitude signs
    rw [rank, rank, signs] at place
    split at place <;> omega
  · right
    have magnitudes : x.magnitude = 0 ∧ y.magnitude = 0 := by
      cases sign : x.isNegative with
      | true =>
          have other : y.isNegative = false := by simpa [sign] using signs
          rw [rank, rank, sign, other, if_pos rfl, if_neg Bool.false_ne_true] at place
          omega
      | false =>
          have other : y.isNegative = true := by simpa [sign] using signs
          rw [rank, rank, sign, other, if_pos rfl, if_neg Bool.false_ne_true] at place
          omega
    exact ⟨decide_eq_true magnitudes.1, decide_eq_true magnitudes.2⟩

end Binary32

end SmuTelemetry
