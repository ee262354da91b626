import SmuTelemetry.Proofs.Binary32.Unsigned

/-!
Numbers between zero and a magnitude, zeros of both signs included. A sum whose exact value is
no larger than a magnitude does not round above it, and neither does a quotient, so bounds carry
through a mean. Clamping puts every number that is not a NaN between its bounds, and a
difference of finite numbers is one.
-/

namespace SmuTelemetry

set_option autoImplicit false

namespace Binary32

theorem magnitude_lt_signBit (x : Binary32) : x.magnitude < signBit :=
  Nat.mod_lt _ (by decide)

theorem isNaN_neg (x : Binary32) : x.neg.isNaN = x.isNaN := by
  rw [neg, isNaN, magnitude_ofMagnitude _ (magnitude_lt_signBit x), isNaN]

theorem isNaN_add_of_finite {x y : Binary32} (xNumber : x.isNaN = false)
    (xFinite : x.isInfinite = false) (yNumber : y.isNaN = false) : (x + y).isNaN = false := by
  change (add x y).isNaN = false
  simp only [add, xNumber, yNumber, xFinite, Bool.or_false, Bool.false_eq_true, if_false]
  split
  · exact yNumber
  · rw [addFinite]
    split
    · exact isNaN_ofMagnitude _ (Nat.zero_le _)
    · exact isNaN_ofRatio _ _ _

theorem isNaN_sub_of_finite {x y : Binary32} (xNumber : x.isNaN = false)
    (xFinite : x.isInfinite = false) (yNumber : y.isNaN = false) : (x - y).isNaN = false :=
  isNaN_add_of_finite xNumber xFinite ((isNaN_neg y).trans yNumber)

theorem clamp_between {low high x : Binary32} (ordered : low ≤ high) (number : x.isNaN = false) :
    low ≤ clamp low high x ∧ clamp low high x ≤ high := by
  obtain ⟨lowNumber, highNumber, ranks⟩ := ordered
  rw [clamp]
  by_cases below : x < low
  · have notAbove : ¬high < low := fun above => by
      have order := above.2.2
      omega
    rw [if_pos below, if_neg notAbove]
    exact ⟨⟨lowNumber, lowNumber, Int.le_refl _⟩, lowNumber, highNumber, ranks⟩
  · rw [if_neg below]
    by_cases above : high < x
    · rw [if_pos above]
      exact ⟨⟨lowNumber, highNumber, ranks⟩, highNumber, highNumber, Int.le_refl _⟩
    · rw [if_neg above]
      exact ⟨le_of_not_lt number lowNumber below, le_of_not_lt highNumber number above⟩

theorem magnitude_ofNat (value : Nat) :
    (ofNat value).magnitude = roundedMagnitude (value * unitsPerOne) 1 :=
  magnitude_ofMagnitude false
    (Nat.lt_of_le_of_lt (Nat.min_le_left _ _) infinityMagnitude_lt_signBit)

theorem isInfinite_ofNat {value bound : Nat} (finite : bound < infinityMagnitude)
    (below : value * unitsPerOne ≤ magnitudeUnits bound) : (ofNat value).isInfinite = false := by
  rw [isInfinite, magnitude_ofNat]
  have rounded : roundedMagnitude (value * unitsPerOne) 1 ≤ bound := by
    apply roundedMagnitude_le Nat.one_pos
    rwa [Nat.mul_one]
  exact decide_eq_false (by omega)

theorem isZero_ofNat {value : Nat} (positive : 0 < value) : (ofNat value).isZero = false := by
  rw [isZero, magnitude_ofNat]
  have rounded : 1 ≤ roundedMagnitude (value * unitsPerOne) 1 := by
    apply le_roundedMagnitude Nat.one_pos (by decide)
    have least : magnitudeUnits 1 = 1 := by decide
    rw [least, Nat.one_mul]
    exact Nat.mul_pos positive (by decide)
  exact decide_eq_false (by omega)

/-- Between zero and a magnitude. -/
def UpTo (bound : Nat) (x : Binary32) : Prop := 0 ≤ x ∧ x ≤ ofMagnitude false bound

/-- The only number with a sign is the zero that has one. -/
theorem upTo_iff {bound : Nat} (number : bound ≤ infinityMagnitude) (x : Binary32) :
    UpTo bound x ↔ x.magnitude ≤ bound ∧ (x.isNegative = true → x.magnitude = 0) := by
  have boundNumber := isNaN_ofMagnitude false number
  have boundRank := rank_ofMagnitude number
  constructor
  · intro between
    obtain ⟨⟨_, _, least⟩, _, _, most⟩ := between
    rw [rank_zero] at least
    rw [boundRank] at most
    cases sign : x.isNegative with
    | true =>
        rw [rank, sign, if_pos rfl] at least
        constructor
        · omega
        · intro _
          omega
    | false =>
        rw [rank, sign, if_neg Bool.false_ne_true] at most
        constructor
        · omega
        · intro signed
          cases signed
  · intro small
    obtain ⟨below, signed⟩ := small
    have xNumber : x.isNaN = false := decide_eq_false (by omega)
    have least : 0 ≤ x.rank ∧ x.rank ≤ bound := by
      rw [rank]
      split
      next negative =>
          have zero := signed negative
          omega
      next => omega
    exact ⟨⟨isNaN_ofNat 0, xNumber, rank_zero ▸ least.1⟩, xNumber, boundNumber,
      boundRank.symm ▸ least.2⟩

section Operations

variable {x y : Binary32} {first second total bound : Nat}

theorem units_of_upTo (number : first ≤ infinityMagnitude) (xUpTo : UpTo first x) :
    x.units = magnitudeUnits x.magnitude := by
  have signed := ((upTo_iff number x).mp xUpTo).2
  rw [units]
  split
  next negative =>
      have zero : magnitudeUnits 0 = 0 := by decide
      rw [signed negative, zero]
      rfl
  next => rfl

theorem isFinite_of_upTo (finite : first < infinityMagnitude) (xUpTo : UpTo first x) :
    x.isNaN = false ∧ x.isInfinite = false := by
  have below := ((upTo_iff (Nat.le_of_lt finite) x).mp xUpTo).1
  exact ⟨decide_eq_false (by omega), decide_eq_false (by omega)⟩

theorem upTo_ofMagnitude (number : bound ≤ infinityMagnitude) {sign : Bool} {magnitude : Nat}
    (below : magnitude ≤ bound) (signed : sign = true → magnitude = 0) :
    UpTo bound (ofMagnitude sign magnitude) := by
  have small : magnitude < signBit :=
    Nat.lt_of_le_of_lt (Nat.le_trans below number) infinityMagnitude_lt_signBit
  refine (upTo_iff number _).mpr ?_
  rw [magnitude_ofMagnitude sign small]
  refine ⟨below, fun negative => ?_⟩
  cases sign with
  | true => exact signed rfl
  | false =>
      rw [isNegative_ofMagnitude small] at negative
      cases negative

theorem upTo_zero : UpTo 0 0 :=
  have zero : (0 : Binary32) = ofMagnitude false 0 := zero_eq
  zero ▸ upTo_ofMagnitude (Nat.zero_le _) (Nat.le_refl 0) fun _ => rfl

theorem UpTo.add (finite : total < infinityMagnitude)
    (sum : magnitudeUnits first + magnitudeUnits second ≤ magnitudeUnits total)
    (xUpTo : UpTo first x) (yUpTo : UpTo second y) : UpTo total (x + y) := by
  have firstBelow : first ≤ total :=
    magnitudeUnits_strictMono.le_iff_le.mp (by omega)
  have secondBelow : second ≤ total :=
    magnitudeUnits_strictMono.le_iff_le.mp (by omega)
  have firstFinite := Nat.lt_of_le_of_lt firstBelow finite
  have secondFinite := Nat.lt_of_le_of_lt secondBelow finite
  obtain ⟨xNumber, xFinite⟩ := isFinite_of_upTo firstFinite xUpTo
  obtain ⟨yNumber, yFinite⟩ := isFinite_of_upTo secondFinite yUpTo
  have xBelow := ((upTo_iff (Nat.le_of_lt firstFinite) x).mp xUpTo).1
  have yBelow := ((upTo_iff (Nat.le_of_lt secondFinite) y).mp yUpTo).1
  have xUnits := magnitudeUnits_strictMono.monotone xBelow
  have yUnits := magnitudeUnits_strictMono.monotone yBelow
  change UpTo total (Binary32.add x y)
  simp only [Binary32.add, addFinite, xNumber, yNumber, xFinite, yFinite, Bool.or_false,
    Bool.false_eq_true, if_false, units_of_upTo (Nat.le_of_lt firstFinite) xUpTo,
    units_of_upTo (Nat.le_of_lt secondFinite) yUpTo]
  rw [← Int.natCast_add]
  split
  · exact upTo_ofMagnitude (Nat.le_of_lt finite) (Nat.zero_le _) fun _ => rfl
  · rw [decide_eq_false (Int.not_lt.mpr (Int.natCast_nonneg _)), Int.natAbs_natCast]
    apply upTo_ofMagnitude (Nat.le_of_lt finite)
    · apply roundedMagnitude_le Nat.one_pos
      omega
    · intro signed
      cases signed

theorem UpTo.div {divisor : Nat} (finite : total < infinityMagnitude)
    (divisorFinite : divisor < infinityMagnitude) (positive : 0 < divisor)
    (number : bound ≤ infinityMagnitude)
    (quotient : magnitudeUnits total * unitsPerOne ≤
      magnitudeUnits bound * magnitudeUnits divisor)
    (xUpTo : UpTo total x) : UpTo bound (x / ofMagnitude false divisor) := by
  obtain ⟨xNumber, xFinite⟩ := isFinite_of_upTo finite xUpTo
  obtain ⟨xBelow, signed⟩ := (upTo_iff (Nat.le_of_lt finite) x).mp xUpTo
  have divisorBound := Nat.lt_trans divisorFinite infinityMagnitude_lt_signBit
  have nonzero : (ofMagnitude false divisor).isZero = false := by
    rw [isZero, magnitude_ofMagnitude false divisorBound]
    exact decide_eq_false (Nat.ne_of_gt positive)
  have divisorUnits := magnitudeUnits_pos positive
  change UpTo bound (Binary32.div x (ofMagnitude false divisor))
  simp only [Binary32.div, xNumber, xFinite, isNaN_ofMagnitude false (Nat.le_of_lt divisorFinite),
    isInfinite_ofMagnitude divisorFinite, nonzero, isNegative_ofMagnitude divisorBound,
    magnitude_ofMagnitude false divisorBound, Bool.or_false, Bool.false_eq_true, if_false,
    Bool.bne_false]
  apply upTo_ofMagnitude number
  · apply roundedMagnitude_le divisorUnits
    exact Nat.le_trans
      (Nat.mul_le_mul_right _ (magnitudeUnits_strictMono.monotone xBelow)) quotient
  · intro negative
    have zero : magnitudeUnits 0 = 0 := by decide
    rw [signed negative, zero, Nat.zero_mul]
    exact Nat.le_zero.mp (roundedMagnitude_le divisorUnits (Nat.zero_le _))

end Operations

end Binary32

end SmuTelemetry
