import SmuTelemetry.Proofs.Binary32.Rounding

/-!
Numbers without a sign, named by their magnitude bits. Their order is the order of the bits,
and each operation rounds one exact ratio of their sizes. Halving a number that stays normal
only lowers its exponent, and a quotient of normal size doubles when its divisor is halved.
The mean of two positive numbers is positive, whatever is rounded on the way.
-/

namespace SmuTelemetry

set_option autoImplicit false

namespace Binary32

theorem infinityMagnitude_lt_signBit : infinityMagnitude < signBit := by decide

theorem isNegative_ofMagnitude {negative : Bool} {magnitude : Nat} (bound : magnitude < signBit) :
    (ofMagnitude negative magnitude).isNegative = negative := by
  have plain : magnitude < UInt32.size := Nat.lt_trans bound (by decide)
  have signed : signBit + magnitude < UInt32.size := by
    simp only [signBit, UInt32.size] at *
    omega
  cases negative with
  | true =>
      have bits : (UInt32.ofNat (signBit + magnitude)).toNat = signBit + magnitude :=
        UInt32.toNat_ofNat_of_lt' signed
      simp only [isNegative, ofMagnitude, if_true, bits]
      exact decide_eq_true (Nat.le_add_right _ _)
  | false =>
      have bits : (UInt32.ofNat magnitude).toNat = magnitude := UInt32.toNat_ofNat_of_lt' plain
      simp only [isNegative, ofMagnitude, Bool.false_eq_true, if_false, bits]
      exact decide_eq_false (Nat.not_le.mpr bound)

theorem ofMagnitude_magnitude {x : Binary32} (plain : x.isNegative = false) :
    ofMagnitude false x.magnitude = x := by
  have bound : x.bits.toNat < signBit := Nat.not_le.mp (of_decide_eq_false plain)
  rw [magnitude, Nat.mod_eq_of_lt bound]
  simp only [ofMagnitude, Bool.false_eq_true, if_false, UInt32.ofNat_toNat]

theorem ofMagnitude_eq_iff {left right : Nat} (leftNumber : left ≤ infinityMagnitude)
    (rightNumber : right ≤ infinityMagnitude) :
    ofMagnitude false left = ofMagnitude false right ↔ left = right := by
  constructor
  · intro same
    have magnitudes := congrArg Binary32.magnitude same
    rwa [magnitude_ofMagnitude false (Nat.lt_of_le_of_lt leftNumber infinityMagnitude_lt_signBit),
      magnitude_ofMagnitude false
        (Nat.lt_of_le_of_lt rightNumber infinityMagnitude_lt_signBit)] at magnitudes
  · intro same
    rw [same]

theorem rank_ofMagnitude {magnitude : Nat} (number : magnitude ≤ infinityMagnitude) :
    (ofMagnitude false magnitude).rank = magnitude := by
  have bound : magnitude < signBit := Nat.lt_of_le_of_lt number infinityMagnitude_lt_signBit
  rw [rank, isNegative_ofMagnitude bound, magnitude_ofMagnitude false bound]
  rfl

theorem ofMagnitude_lt_iff {low high : Nat} (lowNumber : low ≤ infinityMagnitude)
    (highNumber : high ≤ infinityMagnitude) :
    ofMagnitude false low < ofMagnitude false high ↔ low < high := by
  constructor
  · intro below
    have ranks := below.2.2
    rw [rank_ofMagnitude lowNumber, rank_ofMagnitude highNumber] at ranks
    omega
  · intro below
    refine ⟨isNaN_ofMagnitude false lowNumber, isNaN_ofMagnitude false highNumber, ?_⟩
    rw [rank_ofMagnitude lowNumber, rank_ofMagnitude highNumber]
    omega

theorem ofMagnitude_le_iff {low high : Nat} (lowNumber : low ≤ infinityMagnitude)
    (highNumber : high ≤ infinityMagnitude) :
    ofMagnitude false low ≤ ofMagnitude false high ↔ low ≤ high := by
  constructor
  · intro below
    have ranks := below.2.2
    rw [rank_ofMagnitude lowNumber, rank_ofMagnitude highNumber] at ranks
    omega
  · intro below
    refine ⟨isNaN_ofMagnitude false lowNumber, isNaN_ofMagnitude false highNumber, ?_⟩
    rw [rank_ofMagnitude lowNumber, rank_ofMagnitude highNumber]
    omega

/-- The positive numbers are the magnitudes from the smallest subnormal number to infinity. -/
theorem positive_iff_magnitude (x : Binary32) :
    0 < x ↔ ∃ magnitude, 0 < magnitude ∧ magnitude ≤ infinityMagnitude ∧
      x = ofMagnitude false magnitude := by
  constructor
  · intro positive
    obtain ⟨number, nonzero, unsigned⟩ := (positive_iff x).mp positive
    exact ⟨x.magnitude, Nat.pos_of_ne_zero (of_decide_eq_false nonzero),
      Nat.not_lt.mp (of_decide_eq_false number), (ofMagnitude_magnitude unsigned).symm⟩
  · rintro ⟨magnitude, positive, number, rfl⟩
    rw [zero_eq]
    exact (ofMagnitude_lt_iff (Nat.zero_le _) number).mpr positive

section Operations

variable {left right : Nat}

theorem isInfinite_ofMagnitude {magnitude : Nat} (finite : magnitude < infinityMagnitude) :
    (ofMagnitude false magnitude).isInfinite = false := by
  rw [isInfinite, magnitude_ofMagnitude false (Nat.lt_trans finite infinityMagnitude_lt_signBit)]
  exact decide_eq_false (Nat.ne_of_lt finite)

/-- A product of finite numbers without a sign is their sizes' product, rounded once. -/
theorem mul_ofMagnitude (leftFinite : left < infinityMagnitude)
    (rightFinite : right < infinityMagnitude) :
    ofMagnitude false left * ofMagnitude false right =
      ofRatio false (magnitudeUnits left * magnitudeUnits right) unitsPerOne := by
  have leftBound := Nat.lt_trans leftFinite infinityMagnitude_lt_signBit
  have rightBound := Nat.lt_trans rightFinite infinityMagnitude_lt_signBit
  change mul _ _ = _
  simp only [mul, isNaN_ofMagnitude false (Nat.le_of_lt leftFinite),
    isNaN_ofMagnitude false (Nat.le_of_lt rightFinite), isInfinite_ofMagnitude leftFinite,
    isInfinite_ofMagnitude rightFinite, isNegative_ofMagnitude leftBound,
    isNegative_ofMagnitude rightBound, magnitude_ofMagnitude false leftBound,
    magnitude_ofMagnitude false rightBound, Bool.or_false, Bool.false_eq_true, if_false,
    bne_self_eq_false]

theorem div_ofMagnitude (leftFinite : left < infinityMagnitude)
    (rightFinite : right < infinityMagnitude) (positive : 0 < right) :
    ofMagnitude false left / ofMagnitude false right =
      ofRatio false (magnitudeUnits left * unitsPerOne) (magnitudeUnits right) := by
  have leftBound := Nat.lt_trans leftFinite infinityMagnitude_lt_signBit
  have rightBound := Nat.lt_trans rightFinite infinityMagnitude_lt_signBit
  have nonzero : (ofMagnitude false right).isZero = false := by
    rw [isZero, magnitude_ofMagnitude false rightBound]
    exact decide_eq_false (Nat.ne_of_gt positive)
  change div _ _ = _
  simp only [div, isNaN_ofMagnitude false (Nat.le_of_lt leftFinite),
    isNaN_ofMagnitude false (Nat.le_of_lt rightFinite), isInfinite_ofMagnitude leftFinite,
    isInfinite_ofMagnitude rightFinite, isNegative_ofMagnitude leftBound,
    isNegative_ofMagnitude rightBound, magnitude_ofMagnitude false leftBound,
    magnitude_ofMagnitude false rightBound, nonzero, Bool.or_false, Bool.false_eq_true, if_false,
    bne_self_eq_false]

/-- Half of a number that stays normal is exact. -/
theorem half_ofMagnitude {magnitude : Nat} (normal : hiddenBit ≤ magnitude)
    (finite : magnitude + hiddenBit < infinityMagnitude) :
    ofMagnitude false (magnitude + hiddenBit) / 2 = ofMagnitude false magnitude := by
  have two : (2 : Binary32) = ofMagnitude false 0x40000000 := by decide
  have units : magnitudeUnits 0x40000000 = 2 * unitsPerOne := by decide
  have sizes : 2 * magnitudeUnits magnitude * unitsPerOne =
      magnitudeUnits magnitude * (2 * unitsPerOne) := by ring
  rw [two, div_ofMagnitude finite (by decide) (by decide), units,
    magnitudeUnits_add_hiddenBit normal, sizes, ofRatio,
    roundedMagnitude_magnitudeUnits_mul (by decide) (by omega)]

theorem double_ofMagnitude {magnitude : Nat} (normal : hiddenBit ≤ magnitude)
    (finite : magnitude + hiddenBit < infinityMagnitude) :
    2 * ofMagnitude false magnitude = ofMagnitude false (magnitude + hiddenBit) := by
  have two : (2 : Binary32) = ofMagnitude false 0x40000000 := by decide
  have units : magnitudeUnits 0x40000000 = 2 * unitsPerOne := by decide
  have sizes : 2 * unitsPerOne * magnitudeUnits magnitude =
      2 * magnitudeUnits magnitude * unitsPerOne := by ring
  rw [two, mul_ofMagnitude (by decide) (by omega), units, sizes,
    ← magnitudeUnits_add_hiddenBit normal, ofRatio,
    roundedMagnitude_magnitudeUnits_mul (by decide) (by omega)]

theorem units_ofMagnitude {magnitude : Nat} (bound : magnitude < signBit) :
    (ofMagnitude false magnitude).units = magnitudeUnits magnitude := by
  rw [units, isNegative_ofMagnitude bound, magnitude_ofMagnitude false bound]
  rfl

theorem add_ofMagnitude (leftFinite : left < infinityMagnitude)
    (rightFinite : right < infinityMagnitude) :
    ofMagnitude false left + ofMagnitude false right =
      ofRatio false (magnitudeUnits left + magnitudeUnits right) 1 := by
  have leftBound := Nat.lt_trans leftFinite infinityMagnitude_lt_signBit
  have rightBound := Nat.lt_trans rightFinite infinityMagnitude_lt_signBit
  change add _ _ = _
  simp only [add, addFinite, isNaN_ofMagnitude false (Nat.le_of_lt leftFinite),
    isNaN_ofMagnitude false (Nat.le_of_lt rightFinite), isInfinite_ofMagnitude leftFinite,
    isInfinite_ofMagnitude rightFinite, isNegative_ofMagnitude leftBound,
    isNegative_ofMagnitude rightBound, units_ofMagnitude leftBound,
    units_ofMagnitude rightBound, Bool.or_false, Bool.and_false, Bool.false_eq_true, if_false]
  rw [← Int.natCast_add]
  generalize magnitudeUnits left + magnitudeUnits right = sum
  split
  next zero =>
      rw [Int.natCast_eq_zero.mp zero]
      rfl
  next =>
      rw [decide_eq_false (Int.not_lt.mpr (Int.natCast_nonneg sum)), Int.natAbs_natCast]

theorem isInfinite_infinity : (ofMagnitude false infinityMagnitude).isInfinite = true := by
  rw [isInfinite, magnitude_ofMagnitude false infinityMagnitude_lt_signBit]
  exact decide_eq_true rfl

/-- Two positive numbers add up to at least twice the smallest one. -/
theorem exists_sum_magnitude (leftPositive : 0 < left) (rightPositive : 0 < right)
    (leftNumber : left ≤ infinityMagnitude) (rightNumber : right ≤ infinityMagnitude) :
    ∃ total, 2 ≤ total ∧ total ≤ infinityMagnitude ∧
      ofMagnitude false left + ofMagnitude false right = ofMagnitude false total := by
  have signs : (ofMagnitude false left).isNegative = (ofMagnitude false right).isNegative := by
    rw [isNegative_ofMagnitude (Nat.lt_of_le_of_lt leftNumber infinityMagnitude_lt_signBit),
      isNegative_ofMagnitude (Nat.lt_of_le_of_lt rightNumber infinityMagnitude_lt_signBit)]
  have two : 2 ≤ infinityMagnitude := by decide
  rcases Nat.lt_or_eq_of_le leftNumber with leftFinite | rfl
  · rcases Nat.lt_or_eq_of_le rightNumber with rightFinite | rfl
    · refine ⟨roundedMagnitude (magnitudeUnits left + magnitudeUnits right) 1, ?_,
        Nat.min_le_left _ _, add_ofMagnitude leftFinite rightFinite⟩
      have leftUnits := magnitudeUnits_pos leftPositive
      have rightUnits := magnitudeUnits_pos rightPositive
      have units : magnitudeUnits 2 = 2 := by decide
      apply le_roundedMagnitude (by decide) two
      rw [units]
      omega
    · refine ⟨infinityMagnitude, two, le_refl _, ?_⟩
      change add _ _ = _
      simp only [add, isNaN_ofMagnitude false leftNumber, isNaN_ofMagnitude false rightNumber,
        isInfinite_ofMagnitude leftFinite, isInfinite_infinity, Bool.or_false,
        Bool.false_eq_true, if_false, if_true]
  · refine ⟨infinityMagnitude, two, le_refl _, ?_⟩
    change add _ _ = _
    simp only [add, isNaN_ofMagnitude false leftNumber, isNaN_ofMagnitude false rightNumber,
      isInfinite_infinity, signs, bne_self_eq_false, Bool.and_false, Bool.or_false,
      Bool.false_eq_true, if_false, if_true]

theorem half_positive {total : Nat} (atLeast : 2 ≤ total) (number : total ≤ infinityMagnitude) :
    0 < ofMagnitude false total * .ofFraction 1 2 := by
  have half : ofFraction 1 2 = ofMagnitude false 0x3F000000 := by decide
  rw [half, positive_iff_magnitude]
  rcases Nat.lt_or_eq_of_le number with finite | rfl
  · refine ⟨roundedMagnitude (magnitudeUnits total * magnitudeUnits 0x3F000000) unitsPerOne, ?_,
      Nat.min_le_left _ _, mul_ofMagnitude finite (by decide)⟩
    have units : magnitudeUnits 1 * unitsPerOne = 2 * magnitudeUnits 0x3F000000 := by decide
    have two : magnitudeUnits 2 = 2 := by decide
    apply le_roundedMagnitude (by decide) (by decide)
    rw [units]
    apply Nat.mul_le_mul_right
    rw [← two]
    exact magnitudeUnits_strictMono.monotone atLeast
  · refine ⟨infinityMagnitude, by decide, le_refl _, ?_⟩
    change mul _ _ = _
    decide

/-- The mean of two positive numbers is positive: it never rounds to zero, and an infinite sum
stays infinite. -/
theorem mean_positive {x y : Binary32} (xPositive : 0 < x) (yPositive : 0 < y) :
    0 < (x + y) * .ofFraction 1 2 := by
  obtain ⟨left, leftPositive, leftNumber, rfl⟩ := (positive_iff_magnitude x).mp xPositive
  obtain ⟨right, rightPositive, rightNumber, rfl⟩ := (positive_iff_magnitude y).mp yPositive
  obtain ⟨total, atLeast, number, sum⟩ :=
    exists_sum_magnitude leftPositive rightPositive leftNumber rightNumber
  rw [sum]
  exact half_positive atLeast number

end Operations

end Binary32

end SmuTelemetry
