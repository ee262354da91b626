import SmuTelemetry.Proofs.Binary32.Interval

/-!
Sums of any numbers, NaNs, infinities and signed zeros included. A sum does not depend on the
order of its operands. The neutral operand is the negative zero; a sum that starts at the
positive one loses the sign of a zero and nothing else, so two numbers may be added to it in
either order.
-/

namespace SmuTelemetry

set_option autoImplicit false

namespace Binary32

def negativeZero : Binary32 := signedZero true

theorem ofMagnitude_self (x : Binary32) : ofMagnitude x.isNegative x.magnitude = x := by
  have bound : x.bits.toNat < 2 * signBit := x.bits.toNat_lt
  have bits : (if x.isNegative then signBit + x.magnitude else x.magnitude) = x.bits.toNat := by
    cases sign : x.isNegative with
    | true =>
        have above : signBit ≤ x.bits.toNat := of_decide_eq_true sign
        rw [if_pos rfl, magnitude, Nat.mod_eq_sub_mod above, Nat.mod_eq_of_lt (by omega)]
        omega
    | false =>
        have below : x.bits.toNat < signBit := Nat.not_le.mp (of_decide_eq_false sign)
        rw [if_neg Bool.false_ne_true, magnitude, Nat.mod_eq_of_lt below]
  rw [ofMagnitude, bits, UInt32.ofNat_toNat]

theorem add_of_isNaN_left {x : Binary32} (nan : x.isNaN = true) (y : Binary32) :
    x + y = Binary32.nan := by
  change add x y = _
  rw [add, nan, Bool.true_or, if_pos rfl]

theorem add_of_isNaN_right (x : Binary32) {y : Binary32} (nan : y.isNaN = true) :
    x + y = Binary32.nan := by
  change add x y = _
  rw [add, nan, Bool.or_true, if_pos rfl]

theorem addFinite_comm (x y : Binary32) : addFinite x y = addFinite y x := by
  rw [addFinite, addFinite, Int.add_comm, Bool.and_comm]

theorem eq_of_isInfinite {x y : Binary32} (xInfinite : x.isInfinite = true)
    (yInfinite : y.isInfinite = true) (signs : (x.isNegative != y.isNegative) = false) :
    x = y := by
  have xTop : x.magnitude = infinityMagnitude := of_decide_eq_true xInfinite
  have yTop : y.magnitude = infinityMagnitude := of_decide_eq_true yInfinite
  exact ext_magnitude (bne_eq_false_iff_eq.mp signs) (xTop.trans yTop.symm)

protected theorem add_comm (x y : Binary32) : x + y = y + x := by
  cases xNaN : x.isNaN with
  | true => rw [add_of_isNaN_left xNaN, add_of_isNaN_right y xNaN]
  | false =>
    cases yNaN : y.isNaN with
    | true => rw [add_of_isNaN_right x yNaN, add_of_isNaN_left yNaN]
    | false =>
      change add x y = add y x
      simp only [add, xNaN, yNaN, Bool.or_false, Bool.false_eq_true, if_false]
      cases xInfinite : x.isInfinite with
      | false =>
        cases yInfinite : y.isInfinite with
        | false => exact addFinite_comm x y
        | true => simp only [Bool.false_eq_true, Bool.false_and, if_false, if_true]
      | true =>
        cases yInfinite : y.isInfinite with
        | false => simp only [Bool.false_eq_true, Bool.false_and, if_false, if_true]
        | true =>
          have flipped : (y.isNegative != x.isNegative) = (x.isNegative != y.isNegative) :=
            bne_comm
          simp only [Bool.true_and, if_true, flipped]
          cases signs : x.isNegative != y.isNegative with
          | true => simp only [if_true]
          | false =>
            simp only [Bool.false_eq_true, if_false]
            exact eq_of_isInfinite xInfinite yInfinite signs

section Neutral

variable {x : Binary32}

theorem units_eq_zero_iff (x : Binary32) : x.units = 0 ↔ x.isZero = true := by
  have zero : magnitudeUnits 0 = 0 := by decide
  have size : magnitudeUnits x.magnitude = 0 ↔ x.magnitude = 0 := by
    conv => lhs; rw [← zero]
    exact magnitudeUnits_strictMono.injective.eq_iff
  rw [units, isZero, decide_eq_true_iff, ← size]
  split <;> omega

/-- A finite number that is not zero is its own exact value rounded. -/
theorem ofRatio_units (finite : x.magnitude < infinityMagnitude) (nonzero : x.isZero = false) :
    ofRatio (decide (x.units < 0)) x.units.natAbs 1 = x := by
  have size : x.units.natAbs = magnitudeUnits x.magnitude := by
    rw [units]
    split <;> omega
  have positive : 0 < magnitudeUnits x.magnitude :=
    magnitudeUnits_pos (Nat.pos_of_ne_zero (of_decide_eq_false nonzero))
  have sign : decide (x.units < 0) = x.isNegative := by
    rw [units]
    cases x.isNegative with
    | true => exact decide_eq_true (by rw [if_pos rfl]; omega)
    | false => exact decide_eq_false (by rw [if_neg Bool.false_ne_true]; omega)
  have exact := roundedMagnitude_magnitudeUnits_mul Nat.one_pos (Nat.le_of_lt finite)
  rw [Nat.mul_one] at exact
  rw [size, sign, ofRatio, exact, ofMagnitude_self]

theorem magnitude_lt_of_number (number : x.isNaN = false) (finite : x.isInfinite = false) :
    x.magnitude < infinityMagnitude := by
  have atMost : x.magnitude ≤ infinityMagnitude := Nat.not_lt.mp (of_decide_eq_false number)
  exact Nat.lt_of_le_of_ne atMost (of_decide_eq_false finite)

theorem eq_signedZero (zero : x.isZero = true) : x = signedZero x.isNegative := by
  have magnitude : x.magnitude = 0 := of_decide_eq_true zero
  have self := ofMagnitude_self x
  rw [magnitude] at self
  exact self.symm

/-- A sum with a zero is the other number, unless that is a zero too. -/
theorem signedZero_add (negative : Bool) (number : x.isNaN = false) (nonzero : x.isZero = false) :
    signedZero negative + x = x := by
  have zeroNumber : (signedZero negative).isNaN = false := isNaN_ofMagnitude _ (Nat.zero_le _)
  have zeroFinite : (signedZero negative).isInfinite = false := by cases negative <;> decide
  have zeroUnits : (signedZero negative).units = 0 := by cases negative <;> decide
  change add (signedZero negative) x = x
  simp only [add, zeroNumber, zeroFinite, number, Bool.or_false, Bool.false_eq_true, if_false]
  cases infinite : x.isInfinite with
  | true => rfl
  | false =>
      have counted : x.units ≠ 0 := fun none =>
        Bool.false_ne_true (nonzero.symm.trans ((units_eq_zero_iff x).mp none))
      simp only [Bool.false_eq_true, if_false, addFinite, zeroUnits, Int.zero_add, counted]
      exact ofRatio_units (magnitude_lt_of_number number infinite) nonzero

theorem negativeZero_add (number : x.isNaN = false) : negativeZero + x = x := by
  cases zero : x.isZero with
  | false => exact signedZero_add true number zero
  | true =>
      rw [eq_signedZero zero]
      cases x.isNegative <;> decide

theorem ne_negativeZero (positive : 0 < x) : x ≠ negativeZero := by
  rintro rfl
  exact absurd positive (by decide)

theorem zero_add_of_ne (number : x.isNaN = false) (signed : x ≠ negativeZero) : 0 + x = x := by
  have start : (0 : Binary32) = signedZero false := by decide
  cases zero : x.isZero with
  | false => exact start ▸ signedZero_add false number zero
  | true =>
      have unsigned : x.isNegative = false := by
        rw [eq_signedZero zero] at signed
        exact Bool.eq_false_iff.mpr fun negative => signed (by rw [negative]; rfl)
      rw [eq_signedZero zero, unsigned]
      decide

/-- A sum of two numbers may start at zero, unless both are the negative zero. -/
theorem zero_add_add {x y : Binary32} (signed : x ≠ negativeZero ∨ y ≠ negativeZero) :
    0 + x + y = x + y := by
  have quiet : Binary32.nan.isNaN = true := by decide
  by_cases xSigned : x = negativeZero
  · have ySigned : y ≠ negativeZero := signed.resolve_left fun plain => plain xSigned
    have start : 0 + negativeZero = (0 : Binary32) := by decide
    rw [xSigned, start]
    cases nan : y.isNaN with
    | true => rw [add_of_isNaN_right 0 nan, add_of_isNaN_right negativeZero nan]
    | false => rw [zero_add_of_ne nan ySigned, negativeZero_add nan]
  · cases nan : x.isNaN with
    | true => rw [add_of_isNaN_right 0 nan, add_of_isNaN_left quiet, add_of_isNaN_left nan]
    | false => rw [zero_add_of_ne nan xSigned]

theorem zero_add_right_comm (x y : Binary32) : 0 + x + y = 0 + y + x := by
  by_cases signed : x ≠ negativeZero ∨ y ≠ negativeZero
  · rw [zero_add_add signed, zero_add_add signed.symm, Binary32.add_comm]
  · have same : x = negativeZero ∧ y = negativeZero := by simpa using signed
    rw [same.1, same.2]

end Neutral

end Binary32

end SmuTelemetry
