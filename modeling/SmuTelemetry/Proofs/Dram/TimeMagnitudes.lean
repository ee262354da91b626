import SmuTelemetry.Proofs.Binary32.Unsigned

/-!
Rounding of a time in nanoseconds. A count times 2000, divided by a frequency, is rounded three
times: the count, the product and the quotient. Halving the frequency doubles the time exactly.
Where the frequency stands to the factor of the product decides how the time stands to the
count, up to one part in `2^24` for a rounded product.
-/

namespace SmuTelemetry

set_option autoImplicit false

namespace HalfRate

open Binary32

/-- Magnitude bits of 2000 megahertz, the least data rate. -/
def leastRate : Nat := 0x44FA0000

/-- Magnitude bits of 4000 megahertz, the first data rate whose half is one. -/
def doubleRate : Nat := 0x457A0000

theorem leastRate_eq : (2000 : Binary32) = ofMagnitude false leastRate := by decide

theorem doubleRate_eq : (4000 : Binary32) = ofMagnitude false doubleRate := by decide

def countMagnitude (count : Nat) : Nat := roundedMagnitude (count * unitsPerOne) 1

def productMagnitude (count : Nat) : Nat :=
  roundedMagnitude (2000 * magnitudeUnits (countMagnitude count)) 1

/-- Magnitude bits of a time, before any halving, at a frequency given by its own. -/
def timeMagnitude (count frequency : Nat) : Nat :=
  roundedMagnitude (magnitudeUnits (productMagnitude count) * unitsPerOne)
    (magnitudeUnits frequency)

section Magnitudes

variable {count frequency : Nat}

theorem countMagnitude_le (bound : count < 2 ^ 32) : countMagnitude count ≤ 0x4F800000 := by
  have units : magnitudeUnits 0x4F800000 = 2 ^ 32 * unitsPerOne := by decide
  apply roundedMagnitude_le Nat.one_pos
  rw [units, Nat.mul_one]
  exact Nat.mul_le_mul_right unitsPerOne (Nat.le_of_lt bound)

theorem countMagnitude_finite (bound : count < 2 ^ 32) :
    countMagnitude count < infinityMagnitude :=
  Nat.lt_of_le_of_lt (countMagnitude_le bound) (by decide)

theorem le_countMagnitude (positive : 0 < count) : 0x3F800000 ≤ countMagnitude count := by
  have units : magnitudeUnits 0x3F800000 = unitsPerOne := by decide
  apply le_roundedMagnitude Nat.one_pos (by decide)
  rw [units, Nat.mul_one]
  exact Nat.le_mul_of_pos_left unitsPerOne positive

theorem productMagnitude_le (bound : count < 2 ^ 32) :
    productMagnitude count ≤ 0x55000000 := by
  have units : 2000 * magnitudeUnits 0x4F800000 ≤ magnitudeUnits 0x55000000 := by decide
  have size := magnitudeUnits_strictMono.monotone (countMagnitude_le bound)
  apply roundedMagnitude_le Nat.one_pos
  omega

theorem productMagnitude_finite (bound : count < 2 ^ 32) :
    productMagnitude count < infinityMagnitude :=
  Nat.lt_of_le_of_lt (productMagnitude_le bound) (by decide)

theorem le_productMagnitude (positive : 0 < count) : leastRate ≤ productMagnitude count := by
  have units : magnitudeUnits leastRate = 2000 * magnitudeUnits 0x3F800000 := by decide
  have size := magnitudeUnits_strictMono.monotone (le_countMagnitude positive)
  apply le_roundedMagnitude Nat.one_pos (by decide)
  omega

theorem ofNat_eq (count : Nat) : ofNat count = ofMagnitude false (countMagnitude count) := rfl

theorem product_eq (bound : count < 2 ^ 32) :
    ofNat count * 2000 = ofMagnitude false (productMagnitude count) := by
  have range := countMagnitude_finite bound
  have units : magnitudeUnits leastRate = unitsPerOne * 2000 := by decide
  have scaled : magnitudeUnits (countMagnitude count) * (unitsPerOne * 2000) =
      unitsPerOne * (2000 * magnitudeUnits (countMagnitude count)) := by ring
  have rounded : roundedMagnitude (unitsPerOne * (2000 * magnitudeUnits (countMagnitude count)))
      unitsPerOne = productMagnitude count := by
    have positive : 0 < unitsPerOne := by decide
    rw [productMagnitude, ← roundedMagnitude_mul_left positive _ 1, Nat.mul_one]
  rw [ofNat_eq, leastRate_eq, mul_ofMagnitude range (by decide), units, scaled, ofRatio, rounded]

theorem time_eq (bound : count < 2 ^ 32) (positive : 0 < frequency)
    (finite : frequency < infinityMagnitude) :
    ofNat count * 2000 / ofMagnitude false frequency =
      ofMagnitude false (timeMagnitude count frequency) := by
  rw [product_eq bound, div_ofMagnitude (productMagnitude_finite bound) finite positive, ofRatio, timeMagnitude]

theorem rateUnits_pos (least : leastRate ≤ frequency) : 0 < magnitudeUnits frequency :=
  magnitudeUnits_pos (Nat.lt_of_lt_of_le (by decide) least)

/-- From 2000 megahertz on, the time of a count that is not zero is of normal size, and so is
its half. -/
theorem timeMagnitude_normal (positive : 0 < count) (finite : frequency < infinityMagnitude) :
    2 * hiddenBit * magnitudeUnits frequency ≤
      magnitudeUnits (productMagnitude count) * unitsPerOne := by
  have widest : 2 * hiddenBit * magnitudeUnits infinityMagnitude ≤
      magnitudeUnits leastRate * unitsPerOne := by decide
  have divisor := magnitudeUnits_strictMono.monotone (Nat.le_of_lt finite)
  have product := magnitudeUnits_strictMono.monotone (le_productMagnitude positive)
  calc 2 * hiddenBit * magnitudeUnits frequency
      ≤ 2 * hiddenBit * magnitudeUnits infinityMagnitude := Nat.mul_le_mul_left _ divisor
    _ ≤ magnitudeUnits leastRate * unitsPerOne := widest
    _ ≤ magnitudeUnits (productMagnitude count) * unitsPerOne :=
        Nat.mul_le_mul_right _ product

theorem le_timeMagnitude (positive : 0 < count) (least : leastRate ≤ frequency)
    (finite : frequency < infinityMagnitude) :
    2 * hiddenBit ≤ timeMagnitude count frequency := by
  have units : magnitudeUnits (2 * hiddenBit) = 2 * hiddenBit := by decide
  apply le_roundedMagnitude (rateUnits_pos least) (by decide)
  rw [units]
  exact timeMagnitude_normal positive finite

theorem timeMagnitude_le (bound : count < 2 ^ 32) (least : leastRate ≤ frequency) :
    timeMagnitude count frequency ≤ 0x55000000 := by
  have units : magnitudeUnits 0x55000000 * unitsPerOne ≤
      magnitudeUnits 0x55000000 * magnitudeUnits leastRate := by decide
  have divisor := magnitudeUnits_strictMono.monotone least
  have product := magnitudeUnits_strictMono.monotone (productMagnitude_le bound)
  apply roundedMagnitude_le (rateUnits_pos least)
  calc magnitudeUnits (productMagnitude count) * unitsPerOne
      ≤ magnitudeUnits 0x55000000 * unitsPerOne := Nat.mul_le_mul_right _ product
    _ ≤ magnitudeUnits 0x55000000 * magnitudeUnits leastRate := units
    _ ≤ magnitudeUnits 0x55000000 * magnitudeUnits frequency := Nat.mul_le_mul_left _ divisor

theorem timeMagnitude_double (positive : 0 < count) (bound : count < 2 ^ 32)
    (least : leastRate ≤ frequency) (finite : frequency < infinityMagnitude) :
    roundedMagnitude (2 * (magnitudeUnits (productMagnitude count) * unitsPerOne))
        (magnitudeUnits frequency) = timeMagnitude count frequency + hiddenBit := by
  have normal := timeMagnitude_normal positive finite
  have range := timeMagnitude_le bound least
  apply roundedMagnitude_double (rateUnits_pos least)
  · rw [Nat.mul_assoc] at normal
    omega
  · change timeMagnitude count frequency + hiddenBit ≤ infinityMagnitude
    simp only [hiddenBit, infinityMagnitude]
    omega

theorem timeMagnitude_half {half : Nat} (positive : 0 < count) (bound : count < 2 ^ 32)
    (least : leastRate ≤ half + hiddenBit) (finite : half + hiddenBit < infinityMagnitude) :
    timeMagnitude count half = timeMagnitude count (half + hiddenBit) + hiddenBit := by
  have normal : hiddenBit ≤ half := by
    simp only [leastRate, hiddenBit] at *
    omega
  rw [← timeMagnitude_double positive bound least finite, magnitudeUnits_add_hiddenBit normal,
    roundedMagnitude_mul_left Nat.two_pos, timeMagnitude]

end Magnitudes

section Thresholds

variable {count frequency scale factor : Nat}

theorem mul_le_mul_of_common_ratio {left right lower upper : Nat} (positive : 0 < scale)
    (below : scale * left ≤ factor * upper) (above : factor * lower ≤ scale * right) :
    left * lower ≤ upper * right := by
  apply Nat.le_of_mul_le_mul_left _ positive
  calc scale * (left * lower) = scale * left * lower := by ring
    _ ≤ factor * upper * lower := Nat.mul_le_mul_right lower below
    _ = upper * (factor * lower) := by ring
    _ ≤ upper * (scale * right) := Nat.mul_le_mul_left upper above
    _ = scale * (upper * right) := by ring

/-- The time is at most the count from the frequency on that is the factor of the product. -/
theorem timeMagnitude_le_count {slowest : Nat} (nonzero : 0 < scale) (positive : 0 < slowest)
    (product : scale * magnitudeUnits (productMagnitude count) ≤
      factor * magnitudeUnits (countMagnitude count))
    (divisor : factor * unitsPerOne ≤ scale * magnitudeUnits slowest)
    (above : slowest ≤ frequency) :
    timeMagnitude count frequency ≤ countMagnitude count := by
  have units := magnitudeUnits_strictMono.monotone above
  apply roundedMagnitude_le (magnitudeUnits_pos (Nat.lt_of_lt_of_le positive above))
  apply mul_le_mul_of_common_ratio nonzero product
  exact Nat.le_trans divisor (Nat.mul_le_mul_left scale units)

/-- From twice that frequency on, the time at half the frequency is at most the count too. -/
theorem timeMagnitude_add_le_count {slowest : Nat} (positive : 0 < count) (bound : count < 2 ^ 32)
    (least : leastRate ≤ slowest) (nonzero : 0 < scale)
    (product : scale * magnitudeUnits (productMagnitude count) ≤
      factor * magnitudeUnits (countMagnitude count))
    (divisor : factor * (2 * unitsPerOne) ≤ scale * magnitudeUnits slowest)
    (above : slowest ≤ frequency) (finite : frequency < infinityMagnitude) :
    timeMagnitude count frequency + hiddenBit ≤ countMagnitude count := by
  have units := magnitudeUnits_strictMono.monotone above
  have rate : leastRate ≤ frequency := Nat.le_trans least above
  rw [← timeMagnitude_double positive bound rate finite]
  apply roundedMagnitude_le (rateUnits_pos rate)
  calc 2 * (magnitudeUnits (productMagnitude count) * unitsPerOne)
      = magnitudeUnits (productMagnitude count) * (2 * unitsPerOne) := by ring
    _ ≤ magnitudeUnits (countMagnitude count) * magnitudeUnits frequency :=
        mul_le_mul_of_common_ratio nonzero product
          (Nat.le_trans divisor (Nat.mul_le_mul_left scale units))

/-- Below twice that frequency, by one part in `2^24` and more, the time at half the frequency
is above the count. -/
theorem count_lt_timeMagnitude_add {fastest : Nat} (positive : 0 < count) (bound : count < 2 ^ 32)
    (least : leastRate ≤ frequency) (finite : fastest < infinityMagnitude)
    (product : factor * magnitudeUnits (countMagnitude count) ≤
      scale * magnitudeUnits (productMagnitude count))
    (divisor : (2 ^ 24 + 1) * (scale * magnitudeUnits fastest) <
      2 ^ 24 * (factor * (2 * unitsPerOne)))
    (below : frequency ≤ fastest) :
    countMagnitude count < timeMagnitude count frequency + hiddenBit := by
  have counted := le_countMagnitude positive
  have normal : hiddenBit ≤ countMagnitude count := Nat.le_trans (by decide) counted
  have range := countMagnitude_finite bound
  have sized : 0 < magnitudeUnits (countMagnitude count) :=
    magnitudeUnits_pos (Nat.lt_of_lt_of_le (by decide) counted)
  have neighbour := magnitudeUnits_succ_le normal
  have units := magnitudeUnits_strictMono.monotone below
  rw [← timeMagnitude_double positive bound least (Nat.lt_of_le_of_lt below finite)]
  apply lt_roundedMagnitude (rateUnits_pos least) range
  -- From here on the sizes are plain numbers, and both bounds are multiplied by `2^23 * scale`.
  generalize magnitudeUnits (countMagnitude count) = counts at *
  generalize magnitudeUnits (countMagnitude count + 1) = next at *
  generalize magnitudeUnits (productMagnitude count) = products at *
  generalize magnitudeUnits frequency = rate at *
  have both : 2 ^ 23 * (counts + next) ≤ (2 ^ 24 + 1) * counts := by omega
  have slower : (2 ^ 24 + 1) * (scale * rate) < 2 ^ 24 * (factor * (2 * unitsPerOne)) :=
    Nat.lt_of_le_of_lt (Nat.mul_le_mul_left _ (Nat.mul_le_mul_left _ units)) divisor
  apply Nat.lt_of_mul_lt_mul_left (a := 2 ^ 23 * scale)
  calc 2 ^ 23 * scale * ((counts + next) * rate)
      = 2 ^ 23 * (counts + next) * (scale * rate) := by ring
    _ ≤ (2 ^ 24 + 1) * counts * (scale * rate) := Nat.mul_le_mul_right _ both
    _ = counts * ((2 ^ 24 + 1) * (scale * rate)) := by ring
    _ < counts * (2 ^ 24 * (factor * (2 * unitsPerOne))) := Nat.mul_lt_mul_of_pos_left slower sized
    _ = factor * counts * (2 ^ 24 * (2 * unitsPerOne)) := by ring
    _ ≤ scale * products * (2 ^ 24 * (2 * unitsPerOne)) := Nat.mul_le_mul_right _ product
    _ = 2 ^ 23 * scale * (2 * (2 * (products * unitsPerOne))) := by ring

theorem product_error (positive : 0 < count) (bound : count < 2 ^ 32) :
    2 ^ 24 * magnitudeUnits (productMagnitude count) ≤
        (2 ^ 24 + 1) * 2000 * magnitudeUnits (countMagnitude count) ∧
      (2 ^ 24 - 1) * 2000 * magnitudeUnits (countMagnitude count) ≤
        2 ^ 24 * magnitudeUnits (productMagnitude count) := by
  have least : hiddenBit ≤ 2000 * magnitudeUnits 0x3F800000 := by decide
  have counted := magnitudeUnits_strictMono.monotone (le_countMagnitude positive)
  have normal : hiddenBit * 1 ≤ 2000 * magnitudeUnits (countMagnitude count) := by omega
  have error := roundedMagnitude_error Nat.one_pos normal (productMagnitude_finite bound)
  rw [← productMagnitude, Nat.mul_one] at error
  omega

/-- A count whose product with 2000 has at most 24 significant bits is not rounded at all. -/
theorem product_exact (small : count ≤ 134217) :
    1 * magnitudeUnits (productMagnitude count) =
      2000 * magnitudeUnits (countMagnitude count) := by
  have one : unitsPerOne = 2 ^ 149 := by decide
  have widest : 2 * hiddenBit * 2 ^ 153 ≤ magnitudeUnits infinityMagnitude := by decide
  have bits : 125 * count ≤ 2 * hiddenBit := by
    rw [hiddenBit_eq]
    omega
  have range : 125 * count * 2 ^ 153 ≤ magnitudeUnits infinityMagnitude :=
    Nat.le_trans (Nat.mul_le_mul_right _ bits) widest
  have counted : magnitudeUnits (countMagnitude count) = count * 2 ^ 149 := by
    rw [countMagnitude, one]
    apply magnitudeUnits_roundedMagnitude_of_bits
    · exact Nat.le_trans (Nat.le_mul_of_pos_left count (by decide)) bits
    · apply Nat.le_trans _ range
      apply Nat.mul_le_mul (Nat.le_mul_of_pos_left count (by decide))
      exact Nat.pow_le_pow_right Nat.two_pos (by decide)
  -- 2000 is 125 times a power of two, so the product has no more bits than 125 times the count.
  have product : 2000 * (count * 2 ^ 149) = 125 * count * 2 ^ 153 := by ring
  rw [Nat.one_mul, productMagnitude, counted, product]
  exact magnitudeUnits_roundedMagnitude_of_bits bits range

end Thresholds

section Rates

variable {count frequency : Nat}

/-- The comparison with the count takes the frequency for a data rate, and its half, whose time
has the next exponent, for the half-rate clock. -/
def Told (count frequency : Nat) : Prop :=
  timeMagnitude count frequency ≤ countMagnitude count ∧
    countMagnitude count < timeMagnitude count frequency + hiddenBit

theorem told_of_between (positive : 0 < count) (bound : count < 2 ^ 32)
    (above : leastRate < frequency) (below : frequency + 1 < doubleRate) :
    Told count frequency := by
  have error := product_error positive bound
  have fastest : frequency ≤ doubleRate - 2 := by omega
  constructor
  · apply timeMagnitude_le_count (Nat.two_pow_pos 24) (Nat.succ_pos leastRate) error.1 _ above
    decide
  · apply count_lt_timeMagnitude_add positive bound (Nat.le_of_lt above) _ error.2 _ fastest
    · decide
    · decide

theorem told_of_small (positive : 0 < count) (small : count ≤ 134217)
    (least : leastRate ≤ frequency) (below : frequency < doubleRate) : Told count frequency := by
  have bound : count < 2 ^ 32 := Nat.lt_of_le_of_lt small (by decide)
  have product := product_exact small
  constructor
  · apply timeMagnitude_le_count Nat.one_pos _ (Nat.le_of_eq product) _ least
    · decide
    · decide
  · apply count_lt_timeMagnitude_add positive bound least _ (Nat.le_of_eq product.symm) _
      (Nat.le_sub_one_of_lt below)
    · decide
    · decide

theorem not_told_of_above (positive : 0 < count) (bound : count < 2 ^ 32)
    (above : doubleRate < frequency) (finite : frequency < infinityMagnitude) :
    ¬Told count frequency := by
  intro told
  apply Nat.not_lt.mpr _ told.2
  apply timeMagnitude_add_le_count positive bound _ (Nat.two_pow_pos 24)
    (product_error positive bound).1 _ above finite
  · decide
  · decide

theorem not_told_of_small (positive : 0 < count) (small : count ≤ 134217)
    (above : doubleRate ≤ frequency) (finite : frequency < infinityMagnitude) :
    ¬Told count frequency := by
  have bound : count < 2 ^ 32 := Nat.lt_of_le_of_lt small (by decide)
  have product := product_exact small
  intro told
  apply Nat.not_lt.mpr _ told.2
  apply timeMagnitude_add_le_count positive bound _ Nat.one_pos (Nat.le_of_eq product) _ above
    finite
  · decide
  · decide

end Rates

end HalfRate

end SmuTelemetry
