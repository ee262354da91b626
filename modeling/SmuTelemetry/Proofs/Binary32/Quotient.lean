import SmuTelemetry.Proofs.Binary32.Sum

/-!
Quotients of any numbers. A NaN or an infinity that is divided by a positive finite number stays
one, a zero stays a zero, and the sign stays too; so a quotient that is positive and finite tells
that what was divided is. One as a divisor changes nothing.
-/

namespace SmuTelemetry

set_option autoImplicit false

namespace Binary32

variable {x y : Binary32}

theorem div_of_isNaN (nan : x.isNaN = true) (y : Binary32) : x / y = Binary32.nan := by
  change div x y = _
  rw [div, nan, Bool.true_or, if_pos rfl]

theorem isInfinite_of_le (positive : 0 < x) (below : x ≤ y) (finite : y.isInfinite = false) :
    x.isInfinite = false := by
  obtain ⟨-, -, unsigned⟩ := (positive_iff x).mp positive
  have most := magnitude_lt_of_number below.2.1 finite
  have ranks : x.rank ≤ y.rank := below.2.2
  have rank : (x.magnitude : Int) ≤ y.magnitude := by
    rw [Binary32.rank, Binary32.rank, unsigned, if_neg Bool.false_ne_true] at ranks
    split at ranks <;> omega
  exact decide_eq_false (by omega)

section Divisor

variable (positive : 0 < y) (finite : y.isInfinite = false)

include positive finite

theorem div_of_isInfinite (infinite : x.isInfinite = true) : x / y = infinity x.isNegative := by
  obtain ⟨yNumber, -, unsigned⟩ := (positive_iff y).mp positive
  have top : x.magnitude = infinityMagnitude := of_decide_eq_true infinite
  have number : x.isNaN = false := decide_eq_false (by omega)
  change div x y = _
  simp only [div, number, yNumber, infinite, finite, unsigned, Bool.or_false, Bool.false_eq_true,
    if_false, if_true, Bool.bne_false]

theorem isInfinite_div (infinite : x.isInfinite = true) : (x / y).isInfinite = true := by
  rw [div_of_isInfinite positive finite infinite, infinity, isInfinite,
    magnitude_ofMagnitude _ infinityMagnitude_lt_signBit]
  exact decide_eq_true rfl

section Finite

variable (number : x.isNaN = false) (xFinite : x.isInfinite = false)

include number xFinite

theorem div_eq_ofRatio :
    x / y = ofRatio x.isNegative (magnitudeUnits x.magnitude * unitsPerOne)
      (magnitudeUnits y.magnitude) := by
  obtain ⟨yNumber, nonzero, unsigned⟩ := (positive_iff y).mp positive
  change div x y = _
  simp only [div, number, yNumber, xFinite, finite, nonzero, unsigned, Bool.or_false,
    Bool.false_eq_true, if_false, Bool.bne_false]

theorem isNegative_div : (x / y).isNegative = x.isNegative := by
  rw [div_eq_ofRatio positive finite number xFinite]
  exact isNegative_ofMagnitude
    (Nat.lt_of_le_of_lt (Nat.min_le_left _ _) infinityMagnitude_lt_signBit)

theorem isZero_div (zero : x.isZero = true) : (x / y).isZero = true := by
  obtain ⟨-, nonzero, -⟩ := (positive_iff y).mp positive
  have magnitude : x.magnitude = 0 := of_decide_eq_true zero
  have none : magnitudeUnits 0 = 0 := by decide
  have divisor : 0 < magnitudeUnits y.magnitude :=
    magnitudeUnits_pos (Nat.pos_of_ne_zero (of_decide_eq_false nonzero))
  have rounded : roundedMagnitude 0 (magnitudeUnits y.magnitude) = 0 :=
    Nat.le_zero.mp (roundedMagnitude_le divisor (Nat.zero_le _))
  rw [div_eq_ofRatio positive finite number xFinite, magnitude, none, Nat.zero_mul, ofRatio,
    rounded, isZero, magnitude_ofMagnitude _ (by decide)]
  exact decide_eq_true rfl

end Finite

theorem positive_of_div (quotient : 0 < x / y) (quotientFinite : (x / y).isInfinite = false) :
    0 < x ∧ x.isInfinite = false := by
  obtain ⟨quotientNumber, quotientNonzero, quotientUnsigned⟩ := (positive_iff _).mp quotient
  have number : x.isNaN = false := by
    by_contra nan
    have quiet : Binary32.nan.isNaN = true := by decide
    rw [div_of_isNaN (Bool.eq_true_of_not_eq_false nan) y, quiet] at quotientNumber
    cases quotientNumber
  have xFinite : x.isInfinite = false := by
    by_contra infinite
    have still := isInfinite_div positive finite (Bool.eq_true_of_not_eq_false infinite)
    exact Bool.false_ne_true (quotientFinite.symm.trans still)
  have sign := isNegative_div positive finite number xFinite
  have nonzero : x.isZero = false := by
    by_contra none
    have still := isZero_div positive finite number xFinite (Bool.eq_true_of_not_eq_false none)
    exact Bool.false_ne_true (quotientNonzero.symm.trans still)
  exact ⟨(positive_iff x).mpr ⟨number, nonzero, sign.symm.trans quotientUnsigned⟩, xFinite⟩

end Divisor

theorem div_one (number : x.isNaN = false) : x / 1 = x := by
  have positive : (0 : Binary32) < 1 := by decide
  have finite : (1 : Binary32).isInfinite = false := by decide
  have units : magnitudeUnits (1 : Binary32).magnitude = unitsPerOne := by decide
  cases infinite : x.isInfinite with
  | true =>
      have top : x.magnitude = infinityMagnitude := of_decide_eq_true infinite
      rw [div_of_isInfinite positive finite infinite, infinity, ← top, ofMagnitude_self]
  | false =>
      have bound := Nat.le_of_lt (magnitude_lt_of_number number infinite)
      rw [div_eq_ofRatio positive finite number infinite, units, ofRatio,
        roundedMagnitude_magnitudeUnits_mul (by decide) bound, ofMagnitude_self]

end Binary32

end SmuTelemetry
