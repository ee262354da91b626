import SmuTelemetry.Proofs.Binary32.Order

/-!
Rounding of exact ratios to magnitudes. A magnitude is a size of at most twice the hidden bit
at one spacing; rounding gives the nearest one, so it keeps the order, leaves every magnitude
as it is, and errs by at most half a spacing. Twice a normal ratio rounds to the same size at
the next spacing.
-/

namespace SmuTelemetry

set_option autoImplicit false

/-- The result is a nearest natural number; which one of two does not matter below. -/
theorem roundHalfEven_nearest (numerator : Nat) {denominator : Nat} (positive : 0 < denominator) :
    2 * numerator ≤ (2 * roundHalfEven numerator denominator + 1) * denominator ∧
      2 * roundHalfEven numerator denominator * denominator ≤ 2 * numerator + denominator := by
  have split := Nat.div_add_mod numerator denominator
  have small := Nat.mod_lt numerator positive
  have parity := Nat.mod_two_eq_zero_or_one (numerator / denominator)
  simp only [roundHalfEven]
  generalize numerator / denominator = quotient at *
  generalize numerator % denominator = remainder at *
  split_ifs with below above
  · constructor <;> nlinarith
  · constructor <;> nlinarith
  · rcases parity with even | odd
    · rw [even]
      constructor <;> nlinarith
    · rw [odd]
      constructor <;> nlinarith

theorem roundHalfEven_le {numerator denominator bound : Nat} (positive : 0 < denominator)
    (below : numerator ≤ bound * denominator) : roundHalfEven numerator denominator ≤ bound := by
  have nearest := (roundHalfEven_nearest numerator positive).2
  by_contra above
  have next : bound + 1 ≤ roundHalfEven numerator denominator := Nat.not_le.mp above
  have scaled := Nat.mul_le_mul_right denominator next
  nlinarith

theorem le_roundHalfEven {numerator denominator bound : Nat} (positive : 0 < denominator)
    (above : bound * denominator ≤ numerator) : bound ≤ roundHalfEven numerator denominator := by
  have nearest := (roundHalfEven_nearest numerator positive).1
  by_contra below
  have next : roundHalfEven numerator denominator + 1 ≤ bound := Nat.not_le.mp below
  have scaled := Nat.mul_le_mul_right denominator next
  nlinarith

theorem lt_roundHalfEven {numerator denominator bound : Nat} (positive : 0 < denominator)
    (above : (2 * bound + 1) * denominator < 2 * numerator) :
    bound < roundHalfEven numerator denominator := by
  have nearest := (roundHalfEven_nearest numerator positive).1
  by_contra below
  have scaled := Nat.mul_le_mul_right denominator (Nat.not_lt.mp below)
  nlinarith

theorem roundHalfEven_mul_left {factor : Nat} (positive : 0 < factor)
    (numerator denominator : Nat) :
    roundHalfEven (factor * numerator) (factor * denominator) =
      roundHalfEven numerator denominator := by
  have doubled : 2 * (factor * (numerator % denominator)) =
      factor * (2 * (numerator % denominator)) := by ring
  simp only [roundHalfEven, Nat.mul_div_mul_left _ _ positive, Nat.mul_mod_mul_left, doubled,
    Nat.mul_lt_mul_left positive]

namespace Binary32

theorem hiddenBit_eq : hiddenBit = 2 ^ 23 := rfl

/-- A size at a spacing, and the magnitude bits that hold it. -/
theorem magnitudeUnits_scaled {shift size : Nat} (normal : shift = 0 ∨ hiddenBit ≤ size)
    (bound : size ≤ 2 * hiddenBit) :
    magnitudeUnits (shift * hiddenBit + size) = size * 2 ^ shift := by
  rw [magnitudeUnits, Nat.shiftLeft_eq]
  by_cases subnormal : size < hiddenBit
  · obtain rfl : shift = 0 := normal.resolve_right (Nat.not_le.mpr subnormal)
    rw [Nat.zero_mul, Nat.zero_add, significand, if_pos subnormal, Nat.div_eq_of_lt subnormal]
  · have large : ¬shift * hiddenBit + size < hiddenBit := by omega
    rw [significand, if_neg large]
    -- A size of twice the hidden bit has carried into the exponent.
    by_cases full : size = 2 * hiddenBit
    · have quotient : (shift * hiddenBit + size) / hiddenBit = shift + 2 := by
        rw [full]
        simp only [hiddenBit]
        omega
      have remainder : (shift * hiddenBit + size) % hiddenBit = 0 := by
        rw [full]
        simp only [hiddenBit]
        omega
      rw [quotient, remainder, full, Nat.add_zero, Nat.mul_comm 2, Nat.mul_assoc,
        ← Nat.pow_succ']
      rfl
    · have quotient : (shift * hiddenBit + size) / hiddenBit = shift + 1 := by
        simp only [hiddenBit] at *
        omega
      have remainder : (shift * hiddenBit + size) % hiddenBit = size - hiddenBit := by
        simp only [hiddenBit] at *
        omega
      rw [quotient, remainder, Nat.add_sub_cancel' (Nat.not_lt.mp subnormal), Nat.add_sub_cancel]

theorem exists_scaled (magnitude : Nat) :
    ∃ shift size, magnitude = shift * hiddenBit + size ∧ size < 2 * hiddenBit ∧
      (shift = 0 ∨ hiddenBit ≤ size) := by
  by_cases subnormal : magnitude < hiddenBit
  · exact ⟨0, magnitude, by omega, by omega, Or.inl rfl⟩
  · refine ⟨magnitude / hiddenBit - 1, hiddenBit + magnitude % hiddenBit, ?_, ?_, ?_⟩ <;>
      simp only [hiddenBit] at * <;> omega


theorem magnitudeUnits_lt_succ (magnitude : Nat) :
    magnitudeUnits magnitude < magnitudeUnits (magnitude + 1) := by
  obtain ⟨shift, size, rfl, bound, normal⟩ := exists_scaled magnitude
  have next : shift = 0 ∨ hiddenBit ≤ size + 1 := normal.imp_right Nat.le_succ_of_le
  rw [Nat.add_assoc, magnitudeUnits_scaled normal (Nat.le_of_lt bound),
    magnitudeUnits_scaled next bound]
  exact Nat.mul_lt_mul_of_pos_right (Nat.lt_succ_self size) (Nat.two_pow_pos shift)

theorem magnitudeUnits_strictMono : StrictMono magnitudeUnits :=
  strictMono_nat_of_lt_succ magnitudeUnits_lt_succ

theorem magnitudeUnits_pos {magnitude : Nat} (positive : 0 < magnitude) :
    0 < magnitudeUnits magnitude := by
  have above := magnitudeUnits_strictMono positive
  omega

theorem exists_scaled_of_le {magnitude : Nat} (normal : hiddenBit ≤ magnitude) :
    ∃ shift size, magnitude = shift * hiddenBit + size ∧ size < 2 * hiddenBit ∧
      hiddenBit ≤ size := by
  obtain ⟨shift, size, place, bound, least⟩ := exists_scaled magnitude
  refine ⟨shift, size, place, bound, ?_⟩
  rcases least with finest | least
  · rwa [place, finest, Nat.zero_mul, Nat.zero_add] at normal
  · exact least

/-- Twice a normal size is the same size, one exponent higher. -/
theorem magnitudeUnits_add_hiddenBit {magnitude : Nat} (normal : hiddenBit ≤ magnitude) :
    magnitudeUnits (magnitude + hiddenBit) = 2 * magnitudeUnits magnitude := by
  obtain ⟨shift, size, rfl, bound, least⟩ := exists_scaled_of_le normal
  have higher : shift * hiddenBit + size + hiddenBit = (shift + 1) * hiddenBit + size := by ring
  rw [higher, magnitudeUnits_scaled (Or.inr least) (Nat.le_of_lt bound),
    magnitudeUnits_scaled (Or.inr least) (Nat.le_of_lt bound), Nat.pow_succ]
  ring

/-- Neighbours of normal size differ by at most one part in `2^23`. -/
theorem magnitudeUnits_succ_le {magnitude : Nat} (normal : hiddenBit ≤ magnitude) :
    2 ^ 23 * magnitudeUnits (magnitude + 1) ≤ (2 ^ 23 + 1) * magnitudeUnits magnitude := by
  obtain ⟨shift, size, rfl, bound, least⟩ := exists_scaled_of_le normal
  rw [Nat.add_assoc, magnitudeUnits_scaled (Or.inr (Nat.le_succ_of_le least)) bound,
    magnitudeUnits_scaled (Or.inr least) (Nat.le_of_lt bound), ← Nat.mul_assoc, ← Nat.mul_assoc]
  apply Nat.mul_le_mul_right
  rw [hiddenBit_eq] at least
  omega

/-- Every number of at most 24 significant bits is a magnitude, whatever its exponent. -/
theorem exists_magnitudeUnits_eq {size : Nat} (bound : size ≤ 2 * hiddenBit) (shift : Nat) :
    ∃ magnitude, magnitudeUnits magnitude = size * 2 ^ shift := by
  induction shift with
  | zero =>
      refine ⟨size, ?_⟩
      have finest := magnitudeUnits_scaled (Or.inl rfl) bound
      rwa [Nat.zero_mul, Nat.zero_add] at finest
  | succ shift doubled =>
      obtain ⟨magnitude, units⟩ := doubled
      have target : size * 2 ^ (shift + 1) = 2 * magnitudeUnits magnitude := by
        rw [units]
        ring
      rw [target]
      by_cases subnormal : magnitude < hiddenBit
      · have single := magnitudeUnits_scaled (Or.inl rfl)
          (show magnitude ≤ 2 * hiddenBit by omega)
        have double := magnitudeUnits_scaled (Or.inl rfl)
          (show 2 * magnitude ≤ 2 * hiddenBit by omega)
        rw [Nat.zero_mul, Nat.zero_add, Nat.pow_zero, Nat.mul_one] at single double
        exact ⟨2 * magnitude, by rw [double, single]⟩
      · exact ⟨magnitude + hiddenBit, magnitudeUnits_add_hiddenBit (Nat.not_lt.mp subnormal)⟩

section Spacing

variable {denominator : Nat}

/-- A ratio is less than `2^24` steps of its spacing. -/
theorem lt_spacing (numerator : Nat) (positive : 0 < denominator) :
    numerator < 2 * hiddenBit * 2 ^ spacing (numerator / denominator) * denominator := by
  rw [← Nat.div_lt_iff_lt_mul positive, hiddenBit_eq, ← Nat.pow_succ', ← Nat.pow_add]
  apply Nat.lt_of_lt_of_le Nat.lt_log2_self
  apply Nat.pow_le_pow_right Nat.two_pos
  rw [spacing]
  omega

/-- Above the finest spacing a ratio is at least `2^23` steps. -/
theorem spacing_eq_zero_or_le (numerator : Nat) (positive : 0 < denominator) :
    spacing (numerator / denominator) = 0 ∨
      hiddenBit * 2 ^ spacing (numerator / denominator) * denominator ≤ numerator := by
  by_cases finest : spacing (numerator / denominator) = 0
  · exact Or.inl finest
  · right
    have exponent : 23 + spacing (numerator / denominator) =
        (numerator / denominator).log2 := by
      rw [spacing] at *
      omega
    have nonzero : numerator / denominator ≠ 0 := by
      intro empty
      rw [empty, Nat.log2_zero] at exponent
      omega
    rw [← Nat.le_div_iff_mul_le positive, hiddenBit_eq, ← Nat.pow_add, exponent]
    exact Nat.log2_self_le nonzero

end Spacing

/-- A size at a spacing is below any normal size at a wider spacing. -/
theorem scaled_lt_of_shift_lt {shift wider size large : Nat} (below : shift < wider)
    (bound : size < 2 * hiddenBit) (normal : hiddenBit ≤ large) :
    size * 2 ^ shift < large * 2 ^ wider := by
  have doubled : 2 * 2 ^ shift ≤ 2 ^ wider := by
    rw [← Nat.pow_succ']
    exact Nat.pow_le_pow_right Nat.two_pos below
  calc size * 2 ^ shift < 2 * hiddenBit * 2 ^ shift :=
        Nat.mul_lt_mul_of_pos_right bound (Nat.two_pow_pos shift)
    _ = hiddenBit * (2 * 2 ^ shift) := by ring
    _ ≤ large * 2 ^ wider := Nat.mul_le_mul normal doubled

section Ratio

variable {numerator denominator : Nat}

theorem roundedMagnitude_eq (numerator denominator : Nat) :
    roundedMagnitude numerator denominator =
      min infinityMagnitude (spacing (numerator / denominator) * hiddenBit +
        roundHalfEven numerator
          (denominator * 2 ^ spacing (numerator / denominator))) := by
  rw [roundedMagnitude, Nat.shiftLeft_eq]

theorem spacing_le_of_ratio_le {shift size : Nat} (positive : 0 < denominator)
    (bound : size < 2 * hiddenBit) (below : numerator ≤ size * 2 ^ shift * denominator) :
    spacing (numerator / denominator) ≤ shift := by
  by_contra wider
  have least : hiddenBit * 2 ^ spacing (numerator / denominator) * denominator ≤ numerator := by
    apply (spacing_eq_zero_or_le numerator positive).resolve_left
    omega
  have small := scaled_lt_of_shift_lt (Nat.not_le.mp wider) bound (Nat.le_refl hiddenBit)
  have scaled := Nat.mul_lt_mul_of_pos_right small positive
  omega

theorem le_spacing_of_le_ratio {shift size : Nat} (positive : 0 < denominator)
    (normal : shift = 0 ∨ hiddenBit ≤ size) (above : size * 2 ^ shift * denominator ≤ numerator) :
    shift ≤ spacing (numerator / denominator) := by
  by_contra finer
  have least : hiddenBit ≤ size := by
    apply normal.resolve_left
    omega
  have doubled : 2 * 2 ^ spacing (numerator / denominator) ≤ 2 ^ shift := by
    rw [← Nat.pow_succ']
    exact Nat.pow_le_pow_right Nat.two_pos (Nat.not_le.mp finer)
  have largest := lt_spacing numerator positive
  have scaled : 2 * hiddenBit * 2 ^ spacing (numerator / denominator) * denominator ≤
      size * 2 ^ shift * denominator := by
    apply Nat.mul_le_mul_right
    calc 2 * hiddenBit * 2 ^ spacing (numerator / denominator) =
          hiddenBit * (2 * 2 ^ spacing (numerator / denominator)) := by ring
      _ ≤ size * 2 ^ shift := Nat.mul_le_mul least doubled
  omega

theorem roundHalfEven_spacing_le (numerator : Nat) (positive : 0 < denominator) :
    roundHalfEven numerator (denominator * 2 ^ spacing (numerator / denominator)) ≤
      2 * hiddenBit := by
  apply roundHalfEven_le (Nat.mul_pos positive (Nat.two_pow_pos _))
  have largest := lt_spacing numerator positive
  rw [Nat.mul_comm denominator, ← Nat.mul_assoc]
  exact Nat.le_of_lt largest

theorem spacing_eq_zero_or_le_roundHalfEven (numerator : Nat) (positive : 0 < denominator) :
    spacing (numerator / denominator) = 0 ∨
      hiddenBit ≤ roundHalfEven numerator
        (denominator * 2 ^ spacing (numerator / denominator)) := by
  apply (spacing_eq_zero_or_le numerator positive).imp_right
  intro least
  apply le_roundHalfEven (Nat.mul_pos positive (Nat.two_pow_pos _))
  rwa [Nat.mul_comm denominator, ← Nat.mul_assoc]

/-- Rounding does not pass a magnitude from below. -/
theorem roundedMagnitude_le {magnitude : Nat} (positive : 0 < denominator)
    (below : numerator ≤ magnitudeUnits magnitude * denominator) :
    roundedMagnitude numerator denominator ≤ magnitude := by
  -- At the spacing of the magnitude the rounded sizes compare; a finer spacing ends below it.
  obtain ⟨shift, size, rfl, bound, normal⟩ := exists_scaled magnitude
  rw [magnitudeUnits_scaled normal (Nat.le_of_lt bound)] at below
  have order := spacing_le_of_ratio_le positive bound below
  rw [roundedMagnitude_eq]
  apply Nat.le_trans (Nat.min_le_right _ _)
  rcases Nat.eq_or_lt_of_le order with same | finer
  · rw [same]
    apply Nat.add_le_add_left
    apply roundHalfEven_le (Nat.mul_pos positive (Nat.two_pow_pos shift))
    rwa [Nat.mul_comm denominator, ← Nat.mul_assoc]
  · have full := roundHalfEven_spacing_le numerator positive
    have least : hiddenBit ≤ size := by
      apply normal.resolve_left
      omega
    have step := Nat.mul_le_mul_right hiddenBit (Nat.succ_le_of_lt finer)
    rw [Nat.succ_mul] at step
    omega

theorem scaled_lt_of_lt_spacing {shift size : Nat} (positive : 0 < denominator)
    (bound : size < 2 * hiddenBit) (finer : shift < spacing (numerator / denominator)) :
    shift * hiddenBit + size < spacing (numerator / denominator) * hiddenBit +
      roundHalfEven numerator (denominator * 2 ^ spacing (numerator / denominator)) := by
  have least : hiddenBit ≤ roundHalfEven numerator
      (denominator * 2 ^ spacing (numerator / denominator)) := by
    apply (spacing_eq_zero_or_le_roundHalfEven numerator positive).resolve_left
    omega
  have step := Nat.mul_le_mul_right hiddenBit (Nat.succ_le_of_lt finer)
  rw [Nat.succ_mul] at step
  omega

/-- Rounding does not pass a magnitude from above. -/
theorem le_roundedMagnitude {magnitude : Nat} (positive : 0 < denominator)
    (range : magnitude ≤ infinityMagnitude)
    (above : magnitudeUnits magnitude * denominator ≤ numerator) :
    magnitude ≤ roundedMagnitude numerator denominator := by
  obtain ⟨shift, size, rfl, bound, normal⟩ := exists_scaled magnitude
  rw [magnitudeUnits_scaled normal (Nat.le_of_lt bound)] at above
  rw [roundedMagnitude_eq]
  apply Nat.le_min_of_le_of_le range
  rcases Nat.eq_or_lt_of_le (le_spacing_of_le_ratio positive normal above) with same | finer
  · rw [← same]
    apply Nat.add_le_add_left
    apply le_roundHalfEven (Nat.mul_pos positive (Nat.two_pow_pos shift))
    rwa [Nat.mul_comm denominator, ← Nat.mul_assoc]
  · exact Nat.le_of_lt (scaled_lt_of_lt_spacing positive bound finer)

/-- A ratio past the middle of two neighbours is not rounded down to the lower one. -/
theorem lt_roundedMagnitude {magnitude : Nat} (positive : 0 < denominator)
    (range : magnitude < infinityMagnitude)
    (above : (magnitudeUnits magnitude + magnitudeUnits (magnitude + 1)) * denominator <
      2 * numerator) :
    magnitude < roundedMagnitude numerator denominator := by
  obtain ⟨shift, size, rfl, bound, normal⟩ := exists_scaled magnitude
  have next : shift = 0 ∨ hiddenBit ≤ size + 1 := normal.imp_right Nat.le_succ_of_le
  rw [Nat.add_assoc, magnitudeUnits_scaled normal (Nat.le_of_lt bound),
    magnitudeUnits_scaled next bound] at above
  have middle : (2 * size + 1) * (denominator * 2 ^ shift) < 2 * numerator := by
    calc (2 * size + 1) * (denominator * 2 ^ shift) =
          (size * 2 ^ shift + (size + 1) * 2 ^ shift) * denominator := by ring
      _ < 2 * numerator := above
  have lower : size * 2 ^ shift * denominator ≤ numerator := by nlinarith
  rw [roundedMagnitude_eq]
  apply Nat.lt_min.mpr ⟨range, ?_⟩
  rcases Nat.eq_or_lt_of_le (le_spacing_of_le_ratio positive normal lower) with same | finer
  · rw [← same]
    apply Nat.add_lt_add_left
    exact lt_roundHalfEven (Nat.mul_pos positive (Nat.two_pow_pos shift)) middle
  · exact scaled_lt_of_lt_spacing positive bound finer

theorem roundedMagnitude_magnitudeUnits_mul {magnitude : Nat} (positive : 0 < denominator)
    (range : magnitude ≤ infinityMagnitude) :
    roundedMagnitude (magnitudeUnits magnitude * denominator) denominator = magnitude :=
  Nat.le_antisymm (roundedMagnitude_le positive (Nat.le_refl _))
    (le_roundedMagnitude positive range (Nat.le_refl _))

/-- An integer of at most 24 significant bits is not rounded. -/
theorem magnitudeUnits_roundedMagnitude_of_bits {size shift : Nat} (bound : size ≤ 2 * hiddenBit)
    (range : size * 2 ^ shift ≤ magnitudeUnits infinityMagnitude) :
    magnitudeUnits (roundedMagnitude (size * 2 ^ shift) 1) = size * 2 ^ shift := by
  obtain ⟨magnitude, units⟩ := exists_magnitudeUnits_eq bound shift
  rw [← units] at range
  have place : magnitude ≤ infinityMagnitude := magnitudeUnits_strictMono.le_iff_le.mp range
  have kept := roundedMagnitude_magnitudeUnits_mul Nat.one_pos place
  rw [Nat.mul_one] at kept
  rw [← units, kept]

theorem roundedMagnitude_mul_left {factor : Nat} (positive : 0 < factor)
    (numerator denominator : Nat) :
    roundedMagnitude (factor * numerator) (factor * denominator) =
      roundedMagnitude numerator denominator := by
  rw [roundedMagnitude_eq, roundedMagnitude_eq, Nat.mul_div_mul_left _ _ positive, Nat.mul_assoc,
    roundHalfEven_mul_left positive]

theorem spacing_double (positive : 0 < denominator) (normal : hiddenBit * denominator ≤ numerator) :
    spacing (2 * numerator / denominator) = spacing (numerator / denominator) + 1 := by
  have least : hiddenBit ≤ numerator / denominator :=
    (Nat.le_div_iff_mul_le positive).mpr normal
  have exponent : 23 ≤ (numerator / denominator).log2 := by
    apply (Nat.le_log2 _).mpr
    · exact least
    · rw [hiddenBit_eq] at least
      omega
  have halved : 2 * numerator / denominator / 2 = numerator / denominator := by
    rw [Nat.div_div_eq_div_mul, Nat.mul_comm denominator, Nat.mul_div_mul_left _ _ Nat.two_pos]
  have large : 2 ≤ 2 * numerator / denominator := by
    rw [hiddenBit_eq] at least
    omega
  rw [spacing, spacing, Nat.log2_def, if_pos large, halved]
  omega

/-- Twice a normal ratio has the same significand, one exponent higher. -/
theorem roundedMagnitude_double (positive : 0 < denominator)
    (normal : hiddenBit * denominator ≤ numerator)
    (range : roundedMagnitude numerator denominator + hiddenBit ≤ infinityMagnitude) :
    roundedMagnitude (2 * numerator) denominator =
      roundedMagnitude numerator denominator + hiddenBit := by
  have doubled : denominator * 2 ^ (spacing (numerator / denominator) + 1) =
      2 * (denominator * 2 ^ spacing (numerator / denominator)) := by ring
  rw [roundedMagnitude_eq, spacing_double positive normal, doubled,
    roundHalfEven_mul_left Nat.two_pos]
  rw [roundedMagnitude_eq] at *
  rw [Nat.succ_mul]
  simp only [hiddenBit, infinityMagnitude] at *
  omega

/-- Inside the range the result stands for the rounded count of steps of the ratio's spacing. -/
theorem magnitudeUnits_roundedMagnitude (positive : 0 < denominator)
    (range : roundedMagnitude numerator denominator < infinityMagnitude) :
    magnitudeUnits (roundedMagnitude numerator denominator) =
      roundHalfEven numerator (denominator * 2 ^ spacing (numerator / denominator)) *
        2 ^ spacing (numerator / denominator) := by
  rw [roundedMagnitude_eq] at *
  rw [Nat.min_eq_right (by omega)]
  exact magnitudeUnits_scaled (spacing_eq_zero_or_le_roundHalfEven numerator positive)
    (roundHalfEven_spacing_le numerator positive)

/-- Rounding a normal ratio changes it by at most one part in `2^24`. -/
theorem roundedMagnitude_error (positive : 0 < denominator)
    (normal : hiddenBit * denominator ≤ numerator)
    (range : roundedMagnitude numerator denominator < infinityMagnitude) :
    2 ^ 24 * (magnitudeUnits (roundedMagnitude numerator denominator) * denominator) ≤
        (2 ^ 24 + 1) * numerator ∧
      2 ^ 24 * numerator ≤
        2 ^ 24 * (magnitudeUnits (roundedMagnitude numerator denominator) * denominator) +
          numerator := by
  have step : hiddenBit * (denominator * 2 ^ spacing (numerator / denominator)) ≤ numerator := by
    rcases spacing_eq_zero_or_le numerator positive with finest | least
    · rwa [finest, Nat.pow_zero, Nat.mul_one]
    · rwa [Nat.mul_comm denominator, ← Nat.mul_assoc]
  have nearest := roundHalfEven_nearest numerator
    (Nat.mul_pos positive (Nat.two_pow_pos (spacing (numerator / denominator))))
  have product : magnitudeUnits (roundedMagnitude numerator denominator) * denominator =
      roundHalfEven numerator (denominator * 2 ^ spacing (numerator / denominator)) *
        (denominator * 2 ^ spacing (numerator / denominator)) := by
    rw [magnitudeUnits_roundedMagnitude positive range]
    ring
  rw [product]
  rw [hiddenBit_eq] at step
  constructor <;> nlinarith

end Ratio

end Binary32

end SmuTelemetry
