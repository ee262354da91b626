import SmuTelemetry.Cpu.ReferenceClock
import SmuTelemetry.Proofs.Binary32.Quotient

/-!
The reference clock as a relation between a performance state, the frequency that it runs at and
the clock underneath. Only the two codes of the state enter it, and the windows of the multiplier
and of the clock leave no room for a frequency that is not a positive finite number.
-/

namespace SmuTelemetry.ReferenceClock

set_option autoImplicit false

open Binary32

/-- The multiplier is twice the ratio of the low eight bits to the six bits above them. It has to
be above a tenth, and not above two hundred. -/
structure Multiplies (state : UInt64) (multiplier : Binary32) : Prop where
  frequencyCode : state.toNat % 0x100 ≠ 0
  divisorCode : state.toNat / 0x100 % 0x40 ≠ 0
  ratio : multiplier =
    ofNat (state.toNat % 0x100) / ofNat (state.toNat / 0x100 % 0x40) * 2
  aboveTenth : ofFraction 1 10 < multiplier
  upToTwoHundred : multiplier ≤ 200

structure Derives (state : UInt64) (frequency clock : Binary32) : Prop where
  quotient : ∃ multiplier, Multiplies state multiplier ∧ clock = frequency / multiplier
  atLeast : 80 ≤ clock
  atMost : clock ≤ 120

variable {state : UInt64} {frequency clock multiplier : Binary32}

theorem multiplier?_eq_some_iff :
    multiplier? state = some multiplier ↔ Multiplies state multiplier := by
  unfold multiplier? frequencyCode divisorCode minMultiplier maxMultiplier
  dsimp only
  constructor
  · intro found
    split at found
    next => cases found
    next coded =>
        obtain ⟨frequencyCode, divisorCode⟩ := not_or.mp coded
        split at found
        next inside =>
            obtain rfl := Option.some.inj found
            exact ⟨frequencyCode, divisorCode, rfl, inside.1, inside.2⟩
        next => cases found
  · rintro ⟨frequencyCode, divisorCode, rfl, aboveTenth, upToTwoHundred⟩
    rw [if_neg (not_or.mpr ⟨frequencyCode, divisorCode⟩)]
    exact if_pos ⟨aboveTenth, upToTwoHundred⟩

theorem decode?_eq_some_iff :
    decode? state frequency = some clock ↔ Derives state frequency clock := by
  have inside (value : Binary32) : window.contains value = true ↔ 80 ≤ value ∧ value ≤ 120 :=
    ⟨of_decide_eq_true, decide_eq_true⟩
  unfold decode?
  dsimp only
  constructor
  · intro found
    split at found
    next => cases found
    next multiplier named =>
        split at found
        next contained =>
            obtain rfl := Option.some.inj found
            obtain ⟨atLeast, atMost⟩ := (inside _).mp contained
            exact ⟨⟨multiplier, multiplier?_eq_some_iff.mp named, rfl⟩, atLeast, atMost⟩
        next => cases found
  · rintro ⟨⟨multiplier, multiplies, rfl⟩, atLeast, atMost⟩
    simp only [multiplier?_eq_some_iff.mpr multiplies]
    exact if_pos ((inside _).mpr ⟨atLeast, atMost⟩)

/-- The codes lie in the low fourteen bits. -/
theorem decode?_congr {other : UInt64} (low : other.toNat % 0x4000 = state.toNat % 0x4000)
    (frequency : Binary32) : decode? other frequency = decode? state frequency := by
  have frequencyCodes : other.toNat % 0x100 = state.toNat % 0x100 := by omega
  have divisorCodes : other.toNat / 0x100 % 0x40 = state.toNat / 0x100 % 0x40 := by omega
  have multipliers : multiplier? other = multiplier? state := by
    unfold multiplier? frequencyCode divisorCode
    rw [frequencyCodes, divisorCodes]
  unfold decode?
  rw [multipliers]

theorem Multiplies.positive (multiplies : Multiplies state multiplier) :
    0 < multiplier ∧ multiplier.isInfinite = false := by
  have tenth : 0 < ofFraction 1 10 := by decide
  have positive : 0 < multiplier :=
    Binary32.lt_of_lt_of_le tenth (Binary32.le_of_lt multiplies.aboveTenth)
  exact ⟨positive, isInfinite_of_le positive multiplies.upToTwoHundred (by decide)⟩

theorem Derives.positive (derives : Derives state frequency clock) :
    0 < frequency ∧ frequency.isInfinite = false := by
  obtain ⟨⟨multiplier, multiplies, quotient⟩, atLeast, atMost⟩ := derives
  have low : (0 : Binary32) < 80 := by decide
  have positive : 0 < clock := Binary32.lt_of_lt_of_le low atLeast
  have finite := isInfinite_of_le positive atMost (by decide)
  rw [quotient] at positive finite
  obtain ⟨multiplierPositive, multiplierFinite⟩ := multiplies.positive
  exact positive_of_div multiplierPositive multiplierFinite positive finite

theorem decode?_eq_none
    (unusable : frequency.isNaN = true ∨ frequency.isInfinite = true ∨ frequency ≤ 0) :
    decode? state frequency = none := by
  rw [Option.eq_none_iff_forall_ne_some]
  intro clock decoded
  obtain ⟨positive, finite⟩ := (decode?_eq_some_iff.mp decoded).positive
  rcases unusable with nan | infinite | small
  · exact Bool.false_ne_true (positive.2.1.symm.trans nan)
  · exact Bool.false_ne_true (finite.symm.trans infinite)
  · exact absurd (Binary32.lt_of_lt_of_le positive small).2.2 (Int.lt_irrefl _)

end SmuTelemetry.ReferenceClock
