import SmuTelemetry.Proofs.Dram.TimeMagnitudes
import SmuTelemetry.Proofs.Dram.RoundTrip

/-!
The time computed at the half-rate clock against the time computed at the data rate. The two
answers agree when the comparison with the cycle count tells the clocks apart; otherwise both
are halved or neither is, and the half-rate answer is twice the other. The comparison tells
them apart at data rates between 2000 and 4000 megahertz. From 4000 on half of a data rate is
taken for a data rate itself.
-/

namespace SmuTelemetry

set_option autoImplicit false

namespace HalfRate

open Binary32

theorem toNat_pos {cycles : UInt32} (nonzero : cycles ≠ 0) : 0 < cycles.toNat := by
  apply Nat.pos_of_ne_zero
  intro zero
  exact nonzero (UInt32.toNat_inj.mp (zero.trans (by decide)))

def rawNanoseconds (cycles : UInt32) (megahertz : Binary32) : Binary32 :=
  ofNat cycles.toNat * 2000 / megahertz

theorem nanoseconds_eq_corrected (cycles : UInt32) (megahertz : Binary32) :
    nanoseconds cycles megahertz =
      if megahertz ≤ 0 then 0
      else if ofNat cycles.toNat < rawNanoseconds cycles megahertz then
        rawNanoseconds cycles megahertz / 2
      else rawNanoseconds cycles megahertz := rfl

section Answers

variable {cycles : UInt32} {frequency : Nat}

def answerMagnitude (countBits timeBits : Nat) : Nat :=
  if countBits < timeBits then timeBits - hiddenBit else timeBits

theorem answerMagnitude_le (countBits timeBits : Nat) :
    answerMagnitude countBits timeBits ≤ timeBits := by
  rw [answerMagnitude]
  split_ifs <;> omega

theorem le_answerMagnitude (countBits : Nat) {timeBits : Nat} (normal : 2 * hiddenBit ≤ timeBits) :
    hiddenBit ≤ answerMagnitude countBits timeBits := by
  rw [answerMagnitude]
  split_ifs <;> omega

theorem answerMagnitude_agree_iff {countBits timeBits : Nat} (normal : 2 * hiddenBit ≤ timeBits) :
    answerMagnitude countBits (timeBits + hiddenBit) = answerMagnitude countBits timeBits ↔
      timeBits ≤ countBits ∧ countBits < timeBits + hiddenBit := by
  have step : 0 < hiddenBit := by decide
  rw [answerMagnitude, answerMagnitude]
  split_ifs <;> omega

theorem answerMagnitude_double {countBits timeBits : Nat} (normal : 2 * hiddenBit ≤ timeBits)
    (confused : ¬(timeBits ≤ countBits ∧ countBits < timeBits + hiddenBit)) :
    answerMagnitude countBits (timeBits + hiddenBit) =
      answerMagnitude countBits timeBits + hiddenBit := by
  have step : 0 < hiddenBit := by decide
  rw [answerMagnitude, answerMagnitude]
  split_ifs <;> omega

/-- The answer at a frequency whose time, if it is halved, is of normal size also after that. -/
theorem nanoseconds_ofMagnitude (positive : 0 < frequency)
    (finite : frequency < infinityMagnitude)
    (normal : countMagnitude cycles.toNat < timeMagnitude cycles.toNat frequency →
      2 * hiddenBit ≤ timeMagnitude cycles.toNat frequency)
    (range : timeMagnitude cycles.toNat frequency < infinityMagnitude) :
    nanoseconds cycles (ofMagnitude false frequency) =
      ofMagnitude false (answerMagnitude (countMagnitude cycles.toNat)
        (timeMagnitude cycles.toNat frequency)) := by
  have bound : cycles.toNat < 2 ^ 32 := cycles.toNat_lt
  have counted := Nat.le_of_lt (countMagnitude_finite bound)
  have above : ¬ofMagnitude false frequency ≤ ofMagnitude false 0 := by
    rw [ofMagnitude_le_iff (Nat.le_of_lt finite) (Nat.zero_le _)]
    omega
  have zero : (0 : Binary32) = ofMagnitude false 0 := by decide
  rw [nanoseconds_eq_corrected, zero, if_neg above, rawNanoseconds,
    time_eq bound positive finite, ofNat_eq, answerMagnitude]
  by_cases below : countMagnitude cycles.toNat < timeMagnitude cycles.toNat frequency
  · have normal := normal below
    have least : hiddenBit ≤ timeMagnitude cycles.toNat frequency - hiddenBit := by omega
    have whole : timeMagnitude cycles.toNat frequency - hiddenBit + hiddenBit =
        timeMagnitude cycles.toNat frequency := by omega
    have halved := half_ofMagnitude least (by rw [whole]; exact range)
    rw [whole] at halved
    rw [if_pos below, if_pos ((ofMagnitude_lt_iff counted (Nat.le_of_lt range)).mpr below), halved]
  · have above := mt (ofMagnitude_lt_iff counted (Nat.le_of_lt range)).mp below
    rw [if_neg below, if_neg above]

theorem nanoseconds_zero (positive : 0 < frequency)
    (finite : frequency < infinityMagnitude) :
    nanoseconds 0 (ofMagnitude false frequency) = zero := by
  have counted : countMagnitude (0 : UInt32).toNat = 0 := by decide
  have product : magnitudeUnits (productMagnitude (0 : UInt32).toNat) = 0 := by decide
  have timed : timeMagnitude (0 : UInt32).toNat frequency = 0 := by
    apply Nat.le_zero.mp
    apply roundedMagnitude_le (magnitudeUnits_pos positive)
    rw [product, Nat.zero_mul]
    exact Nat.zero_le _
  rw [nanoseconds_ofMagnitude positive finite, counted, timed]
  · rfl
  · rw [counted, timed]
    intro below
    omega
  · rw [timed]
    decide

end Answers

/-- A data rate from 2000 megahertz on, by the magnitude bits of its half-rate clock. -/
structure DataRate where
  half : Nat
  least : leastRate ≤ half + hiddenBit
  finite : half + hiddenBit < infinityMagnitude

namespace DataRate

variable (rate : DataRate)

def magnitude : Nat := rate.half + hiddenBit

def value : Binary32 := ofMagnitude false rate.magnitude

def clock : Binary32 := ofMagnitude false rate.half

theorem half_normal : hiddenBit ≤ rate.half := by
  have least := rate.least
  simp only [leastRate, hiddenBit] at *
  omega

theorem half_pos : 0 < rate.half :=
  Nat.lt_of_lt_of_le (by decide) rate.half_normal

theorem magnitude_pos : 0 < rate.magnitude :=
  Nat.add_pos_left rate.half_pos _

theorem half_finite : rate.half < infinityMagnitude :=
  Nat.lt_of_le_of_lt (Nat.le_add_right _ _) rate.finite

theorem value_half : rate.value / 2 = rate.clock :=
  half_ofMagnitude rate.half_normal rate.finite

theorem exists_value {number : Binary32} (finite : number.isFinite = true)
    (least : 2000 ≤ number) : ∃ rate : DataRate, rate.value = number := by
  have below : number.magnitude < infinityMagnitude := of_decide_eq_true finite
  have ranks := least.2.2
  rw [leastRate_eq, rank_ofMagnitude (by decide)] at ranks
  have plain : number.isNegative = false := by
    by_contra negative
    rw [rank, if_pos (Bool.eq_true_of_not_eq_false negative), leastRate] at ranks
    omega
  have above : leastRate ≤ number.magnitude := by
    rw [rank, plain] at ranks
    simpa using ranks
  have whole : number.magnitude - hiddenBit + hiddenBit = number.magnitude := by
    apply Nat.sub_add_cancel
    exact Nat.le_trans (by decide) above
  let rate : DataRate :=
    { half := number.magnitude - hiddenBit
      least := by rwa [whole]
      finite := by rwa [whole] }
  refine ⟨rate, ?_⟩
  rw [value, magnitude, whole, ofMagnitude_magnitude plain]

variable {cycles : UInt32} (positive : 0 < cycles.toNat)

include positive

theorem time_room :
    2 * hiddenBit ≤ timeMagnitude cycles.toNat rate.magnitude ∧
      timeMagnitude cycles.toNat rate.magnitude + hiddenBit < infinityMagnitude := by
  have range : timeMagnitude cycles.toNat rate.magnitude ≤ 0x55000000 :=
    timeMagnitude_le cycles.toNat_lt rate.least
  have top : 0x55000000 + hiddenBit < infinityMagnitude := by decide
  constructor
  · exact le_timeMagnitude positive rate.least rate.finite
  · omega

theorem timeMagnitude_clock :
    timeMagnitude cycles.toNat rate.half =
      timeMagnitude cycles.toNat rate.magnitude + hiddenBit :=
  timeMagnitude_half positive cycles.toNat_lt rate.least rate.finite

theorem nanoseconds_value :
    nanoseconds cycles rate.value =
      ofMagnitude false (answerMagnitude (countMagnitude cycles.toNat)
        (timeMagnitude cycles.toNat rate.magnitude)) := by
  obtain ⟨normal, range⟩ := rate.time_room positive
  apply nanoseconds_ofMagnitude rate.magnitude_pos rate.finite
  · intro _
    exact normal
  · omega

theorem nanoseconds_clock :
    nanoseconds cycles rate.clock =
      ofMagnitude false (answerMagnitude (countMagnitude cycles.toNat)
        (timeMagnitude cycles.toNat rate.magnitude + hiddenBit)) := by
  obtain ⟨normal, range⟩ := rate.time_room positive
  have doubled := rate.timeMagnitude_clock positive
  rw [← doubled]
  apply nanoseconds_ofMagnitude rate.half_pos rate.half_finite <;> omega

/-- The two answers agree when the comparison tells the clocks apart. -/
theorem agree_iff_told :
    nanoseconds cycles rate.clock = nanoseconds cycles rate.value ↔
      Told cycles.toNat rate.magnitude := by
  obtain ⟨normal, range⟩ := rate.time_room positive
  have slow := answerMagnitude_le (countMagnitude cycles.toNat)
    (timeMagnitude cycles.toNat rate.magnitude)
  have fast := answerMagnitude_le (countMagnitude cycles.toNat)
    (timeMagnitude cycles.toNat rate.magnitude + hiddenBit)
  rw [rate.nanoseconds_value positive, rate.nanoseconds_clock positive,
    ofMagnitude_eq_iff (by omega) (by omega), answerMagnitude_agree_iff normal, Told]

/-- Otherwise the answer at the half-rate clock is twice the other. -/
theorem double_of_not_told (confused : ¬Told cycles.toNat rate.magnitude) :
    nanoseconds cycles rate.clock = 2 * nanoseconds cycles rate.value ∧
      nanoseconds cycles rate.clock / 2 = nanoseconds cycles rate.value := by
  obtain ⟨normal, range⟩ := rate.time_room positive
  have slow := answerMagnitude_le (countMagnitude cycles.toNat)
    (timeMagnitude cycles.toNat rate.magnitude)
  have least := le_answerMagnitude (countMagnitude cycles.toNat) normal
  rw [rate.nanoseconds_value positive, rate.nanoseconds_clock positive,
    answerMagnitude_double normal confused]
  constructor
  · exact (double_ofMagnitude least (by omega)).symm
  · exact half_ofMagnitude least (by omega)

end DataRate

/-- The comparison with the cycle count leaves the time of a rate and halves that of its half. -/
def TellsClocks (cycles : UInt32) (rate : Binary32) : Prop :=
  ¬ofNat cycles.toNat < rawNanoseconds cycles rate ∧
    ofNat cycles.toNat < rawNanoseconds cycles (rate / 2)

/-- The largest rate below 4000 megahertz, `4000 - 1/4096`. -/
def lastRate : Binary32 := ofFraction 16383999 4096

theorem lastRate_eq : lastRate = ofMagnitude false (doubleRate - 1) := by decide

namespace DataRate

variable (rate : DataRate) {cycles : UInt32}

theorem tellsClocks_iff_told (positive : 0 < cycles.toNat) :
    TellsClocks cycles rate.value ↔ Told cycles.toNat rate.magnitude := by
  have bound : cycles.toNat < 2 ^ 32 := cycles.toNat_lt
  have counted := Nat.le_of_lt (countMagnitude_finite bound)
  have range : ∀ frequency, timeMagnitude cycles.toNat frequency ≤ infinityMagnitude :=
    fun frequency => Nat.min_le_left _ _
  rw [TellsClocks, rawNanoseconds, rawNanoseconds, rate.value_half, value, clock,
    time_eq bound rate.magnitude_pos rate.finite, time_eq bound rate.half_pos rate.half_finite,
    ofNat_eq, ofMagnitude_lt_iff counted (range _), ofMagnitude_lt_iff counted (range _),
    rate.timeMagnitude_clock positive, Told, Nat.not_lt]

theorem answers_agree_iff :
    nanoseconds cycles (rate.value / 2) = nanoseconds cycles rate.value ↔
      cycles = 0 ∨ Told cycles.toNat rate.magnitude := by
  rw [rate.value_half]
  by_cases empty : cycles = 0
  · have equal : nanoseconds cycles rate.clock = nanoseconds cycles rate.value := by
      rw [empty, clock, value, nanoseconds_zero rate.half_pos rate.half_finite,
        nanoseconds_zero rate.magnitude_pos rate.finite]
    exact iff_of_true equal (Or.inl empty)
  · rw [rate.agree_iff_told (toNat_pos empty), or_iff_right empty]

theorem answers_agree_of_small (small : cycles.toNat ≤ 134217)
    (below : rate.magnitude < doubleRate) :
    nanoseconds cycles (rate.value / 2) = nanoseconds cycles rate.value := by
  rw [rate.answers_agree_iff]
  by_cases empty : cycles = 0
  · exact Or.inl empty
  · exact Or.inr (told_of_small (toNat_pos empty) small rate.least below)

end DataRate

section Timings

open Dram

theorem sameBankCycles_lt (registers : Registers) (channel : UInt8) :
    (sameBankCycles registers channel).toNat < 2 ^ 16 := by
  rw [sameBankCycles]
  cases found : (sameBankRefresh.map fun register =>
      sameBankRange.slice (registers (registerAddress channel register))).find? fun count =>
        count != 0 with
  | none => decide
  | some count =>
      have member := List.mem_of_find?_eq_some found
      obtain ⟨register, -, rfl⟩ := List.mem_map.mp member
      exact Nat.lt_of_lt_of_le (BitRange.slice_lt _ _) (by decide)

theorem counts_lt (generation : DramGeneration) (registers : Registers) (channel : UInt8) :
    let timings := channelTimings generation registers channel
    (timings.cycles .refi).toNat < 2 ^ 16 ∧ timings.refresh.rfc.toNat < 2 ^ 16 ∧
      timings.refresh.rfc2.toNat < 2 ^ 16 ∧ timings.refresh.rfcsb.toNat < 2 ^ 16 := by
  dsimp only
  rw [channelTimings_cycles, channelTimings_refresh]
  refine ⟨BitRange.slice_lt _ _, ?_, ?_, ?_⟩
  · cases generation with
    | ddr4 => exact Nat.lt_of_lt_of_le (BitRange.slice_lt _ _) (by decide)
    | ddr5 => exact BitRange.slice_lt _ _
  · cases generation with
    | ddr4 => exact Nat.lt_of_lt_of_le (BitRange.slice_lt _ _) (by decide)
    | ddr5 => exact BitRange.slice_lt _ _
  · cases generation with
    | ddr4 => exact Nat.two_pow_pos 16
    | ddr5 => exact sameBankCycles_lt registers channel

end Timings

/-- Passing the half-rate clock gives the time at the data rate exactly where the comparison
tells the two apart, and twice that time everywhere else. Every count does so strictly between
2000 and the last rate below 4000 megahertz, and at those two as well when its product with 2000
is exact, as for all counts that a channel is decoded to. Above 4000 no count does, and at 4000
none whose product is exact. -/
theorem nanoseconds_half_rate (cycles : UInt32) {rate : Binary32} (finite : rate.isFinite = true)
    (least : 2000 ≤ rate) :
    (nanoseconds cycles (rate / 2) = nanoseconds cycles rate ↔
        cycles = 0 ∨ TellsClocks cycles rate) ∧
      (nanoseconds cycles (rate / 2) ≠ nanoseconds cycles rate →
        nanoseconds cycles (rate / 2) = 2 * nanoseconds cycles rate ∧
          nanoseconds cycles (rate / 2) / 2 = nanoseconds cycles rate) ∧
      (2000 < rate → rate < lastRate →
        nanoseconds cycles (rate / 2) = nanoseconds cycles rate) ∧
      (cycles ≤ 134217 → rate < 4000 →
        nanoseconds cycles (rate / 2) = nanoseconds cycles rate) ∧
      (cycles ≠ 0 → 4000 < rate ∨ cycles ≤ 134217 ∧ 4000 ≤ rate →
        nanoseconds cycles (rate / 2) ≠ nanoseconds cycles rate) ∧
      (rate < 4000 → ∀ generation registers channel,
        let timings := Dram.channelTimings generation registers channel
        timings.applyFrequency (rate / 2) = timings.applyFrequency rate) := by
  obtain ⟨rate, rfl⟩ := DataRate.exists_value finite least
  have number : rate.magnitude ≤ infinityMagnitude := Nat.le_of_lt rate.finite
  have faster2000 : 2000 < rate.value ↔ leastRate < rate.magnitude := by
    rw [leastRate_eq, DataRate.value, ofMagnitude_lt_iff (by decide) number]
  have slower4000 : rate.value < 4000 ↔ rate.magnitude < doubleRate := by
    rw [doubleRate_eq, DataRate.value, ofMagnitude_lt_iff number (by decide)]
  refine ⟨?_, ?_, ?_, ?_, ?_, ?_⟩
  · rw [rate.answers_agree_iff]
    apply or_congr_right'
    intro nonzero
    exact (rate.tellsClocks_iff_told (toNat_pos nonzero)).symm
  · intro confused
    rw [Ne, rate.answers_agree_iff, not_or] at confused
    rw [rate.value_half]
    exact rate.double_of_not_told (toNat_pos confused.1) confused.2
  · intro faster slower
    rw [faster2000] at faster
    rw [lastRate_eq, DataRate.value, ofMagnitude_lt_iff number (by decide)] at slower
    rw [rate.answers_agree_iff]
    by_cases empty : cycles = 0
    · exact Or.inl empty
    · exact Or.inr (told_of_between (toNat_pos empty) cycles.toNat_lt faster (by omega))
  · intro small slower
    exact rate.answers_agree_of_small (UInt32.le_iff_toNat_le.mp small) (slower4000.mp slower)
  · intro nonzero faster
    rw [Ne, rate.answers_agree_iff, not_or]
    refine ⟨nonzero, ?_⟩
    rw [doubleRate_eq, DataRate.value, ofMagnitude_lt_iff (by decide) number,
      ofMagnitude_le_iff (by decide) number] at faster
    cases faster with
    | inl past => exact not_told_of_above (toNat_pos nonzero) cycles.toNat_lt past rate.finite
    | inr small =>
        exact not_told_of_small (toNat_pos nonzero) (UInt32.le_iff_toNat_le.mp small.1) small.2
          rate.finite
  · intro slower generation registers channel
    obtain ⟨refi, rfc, rfc2, rfcsb⟩ := counts_lt generation registers channel
    have agree : ∀ {count : UInt32}, count.toNat < 2 ^ 16 →
        nanoseconds count (rate.value / 2) = nanoseconds count rate.value := by
      intro count small
      apply rate.answers_agree_of_small _ (slower4000.mp slower)
      omega
    simp only [DramTimings.applyFrequency, agree refi, agree rfc, agree rfc2, agree rfcsb]

theorem nanoseconds_half_rate_at_3200 :
    (3200 : Binary32).isFinite = true ∧ (2000 : Binary32) ≤ 3200 ∧
      nanoseconds 800 (3200 / 2) = nanoseconds 800 3200 := by
  have finite : (3200 : Binary32).isFinite = true := by decide
  have least : (2000 : Binary32) ≤ 3200 := by decide
  refine ⟨finite, least, ?_⟩
  apply (nanoseconds_half_rate 800 finite least).2.2.1 <;> decide

/-- A half-rate clock of 3200 megahertz is taken for a data rate. At the two ends of the range
rounding of the count and of its product decides. -/
theorem half_rate_taken_for_data_rate :
    ((6400 : Binary32).isFinite = true ∧ (2000 : Binary32) ≤ 6400 ∧
        nanoseconds 800 6400 = 250 ∧ nanoseconds 800 (6400 / 2) = 500) ∧
      nanoseconds 134223 (2000 / 2) ≠ nanoseconds 134223 2000 ∧
      nanoseconds 134357 (lastRate / 2) ≠ nanoseconds 134357 lastRate := by
  decide

end HalfRate

end SmuTelemetry
