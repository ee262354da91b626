import SmuTelemetry.Proofs.Dram.RegisterImage
import SmuTelemetry.Proofs.Dram.Times

/-!
Packing raw values into a channel's registers and decoding the channel gives the values
back. Nothing is assumed of the bits that belong to no field, so they never matter, and
every field comes back whatever the others hold, so no field shows in another.
-/

namespace SmuTelemetry.Dram

set_option autoImplicit false

section Reported

variable {generation : DramGeneration}

/-- Every timing is its raw value. The two delays that may be left at zero then stand for
another one. -/
def CyclesReported (values : RawValues generation) (timings : DramTimings) : Prop :=
  ∀ timing, timings.cycles timing =
    match timing with
    | .trcdWr =>
        if values.value (.timing .trcdWr) = 0 then values.value (.timing .trcdRd)
        else values.value (.timing .trcdWr)
    | .twr =>
        if values.value (.timing .twr) = 0 then values.value (.timing .wtrs)
        else values.value (.timing .twr)
    | other => values.value (.timing other)

def RefreshReported (values : RawValues generation) (first : UInt32) (timings : DramTimings) :
    Prop :=
  (first ≠ match generation with
    | .ddr4 => 0x21060138
    | .ddr5 => 0x00C00138) →
    timings.refresh.rfc = values.value .allBank ∧ timings.refresh.rfc2 = values.value .doubleRate

end Reported

/-- What only the newer generation tells. The older one leaves all of it at its default. -/
def ModesReported : (generation : DramGeneration) → RawValues generation → DramTimings → Prop
  | .ddr4, _, timings =>
      timings.refresh.rfcsb = 0 ∧ timings.frequencyHint = none ∧ timings.commandRate = none ∧
        timings.gearDown = false ∧ timings.powerDown = false ∧ timings.times = {}
  | .ddr5, values, timings =>
      let frequency := Binary32.ofNat (values.value .ratio).toNat / 100 * 200
      (values.value .sameBank ≠ 0 → timings.refresh.rfcsb = values.value .sameBank) ∧
        timings.frequencyHint = some frequency ∧
        timings.commandRate = some (if values.value .commandRate = 1 then .twoT else .oneT) ∧
        timings.gearDown = decide (values.value .gearDown = 1) ∧
        timings.powerDown = decide (values.value .powerDown = 1) ∧
        timings.TimedAt frequency

theorem channelTimings_cycles (generation : DramGeneration) (registers : Registers)
    (channel : UInt8) :
    (channelTimings generation registers channel).cycles = timingCycles registers channel := by
  cases generation <;> rfl

theorem channelTimings_refresh (generation : DramGeneration) (registers : Registers)
    (channel : UInt8) :
    (channelTimings generation registers channel).refresh =
      refresh generation registers channel := by
  cases generation <;> rfl

theorem refreshWord_of_programmed (generation : DramGeneration) (registers : Registers)
    (channel : UInt8)
    (programmed : registers (registerAddress channel 0x50260) ≠ unprogrammedRefresh generation) :
    refreshWord generation registers channel = registers (registerAddress channel 0x50260) := by
  cases generation with
  | ddr4 => simp [refreshWord, programmed]
  | ddr5 => simp [refreshWord, refreshCycles, programmed]

theorem sameBankCycles_of_nonzero (registers : Registers) (channel : UInt8)
    (nonzero : sameBankRange.slice (registers (registerAddress channel 0x502C0)) ≠ 0) :
    sameBankCycles registers channel =
      sameBankRange.slice (registers (registerAddress channel 0x502C0)) := by
  simp [sameBankCycles, sameBankRefresh, nonzero]

section Packed

variable {generation : DramGeneration} (values : RawValues generation) (channel : UInt8)
  (unused : Registers)

theorem fieldCycles_packed (timing : Timing) :
    fieldCycles (packed values channel unused) channel timing = values.value (.timing timing) :=
  slice_packed values channel unused _ _ timing.field.range (timing_located generation timing)

theorem cycles_reported :
    CyclesReported values
      (channelTimings generation (packed values channel unused) channel) := by
  intro timing
  rw [channelTimings_cycles]
  cases timing <;> simp only [timingCycles, fieldCycles_packed]

theorem refresh_reported :
    RefreshReported values (packed values channel unused (registerAddress channel 0x50260))
      (channelTimings generation (packed values channel unused) channel) := by
  intro held
  have programmed : packed values channel unused (registerAddress channel 0x50260) ≠
      unprogrammedRefresh generation := by
    cases generation <;> exact held
  rw [channelTimings_refresh]
  simp only [refresh, refreshWord_of_programmed _ _ _ programmed]
  constructor
  · exact slice_packed values channel unused _ _ (allBankRange generation)
      (by cases generation <;> decide)
  · exact slice_packed values channel unused _ _ (doubleRateRange generation)
      (by cases generation <;> decide)

end Packed

theorem modes_reported_ddr5 (values : RawValues .ddr5) (channel : UInt8) (unused : Registers) :
    ModesReported .ddr5 values
      (channelTimings .ddr5 (packed values channel unused) channel) := by
  have ratio := slice_packed values channel unused .ratio ratioControl ratioRange (by decide)
  have sameBank :=
    slice_packed values channel unused .sameBank 0x502C0 sameBankRange (by decide)
  have rate := bitSet_packed values channel unused .commandRate ratioControl commandRateBit
    (by decide) (by decide)
  have gear := bitSet_packed values channel unused .gearDown ratioControl gearDownBit
    (by decide) (by decide)
  have power := bitSet_packed values channel unused .powerDown refreshControl powerDownBit
    (by decide) (by decide)
  have frequency : channelRate (packed values channel unused) channel =
      Binary32.ofNat (values.value .ratio).toNat / 100 * 200 := by
    rw [channelRate, ratio]
    rfl
  refine ⟨?_, ?_, ?_, gear, power, ?_⟩
  · intro nonzero
    rw [channelTimings_refresh, ← sameBank]
    exact sameBankCycles_of_nonzero _ _ (by rw [sameBank]; exact nonzero)
  · rw [channelTimings_ddr5_frequencyHint, frequency]
  · simp [channelTimings, DramTimings.applyFrequency, rate]
  · rw [← frequency]
    exact channelTimings_ddr5_timedAt _ _

/-- Decoding a channel gives back what was packed into it. -/
theorem packed_values_decoded (generation : DramGeneration) (values : RawValues generation)
    (channel : UInt8) (unused : Registers) :
    let registers := packed values channel unused
    let timings := channelTimings generation registers channel
    CyclesReported values timings ∧
      RefreshReported values (registers (registerAddress channel 0x50260)) timings ∧
      ModesReported generation values timings := by
  refine ⟨cycles_reported values channel unused, refresh_reported values channel unused, ?_⟩
  cases generation with
  | ddr4 => exact ⟨rfl, rfl, rfl, rfl, rfl, rfl⟩
  | ddr5 => exact modes_reported_ddr5 values channel unused

/-- Ones in every field and in every unused bit of the second channel: the refresh word counts
as programmed and the same-bank count is not zero, so both are reported. The ratio stands for
a hundredth of the reference. -/
theorem packed_ones_decoded :
    let values : RawValues .ddr5 := { value := fun _ => 1, fits := by decide }
    let registers := packed values 1 fun _ => 0xFFFFFFFF
    let timings := channelTimings .ddr5 registers 1
    registers (registerAddress 1 0x50260) ≠ 0x00C00138 ∧
      CyclesReported values timings ∧ timings.refresh.rfc = 1 ∧ timings.refresh.rfc2 = 1 ∧
      timings.refresh.rfcsb = 1 ∧ timings.frequencyHint = some 2 ∧
      timings.commandRate = some .twoT ∧ timings.gearDown = true ∧ timings.powerDown = true := by
  intro values registers timings
  have programmed : registers (registerAddress 1 0x50260) ≠ 0x00C00138 := by
    decide +kernel
  obtain ⟨cycles, refresh, modes⟩ := packed_values_decoded .ddr5 values 1 fun _ => 0xFFFFFFFF
  obtain ⟨rfc, rfc2⟩ := refresh programmed
  obtain ⟨sameBank, hint, rate, gear, power, -⟩ := modes
  exact ⟨programmed, cycles, rfc, rfc2, sameBank (by decide), hint.trans (by decide), rate, gear,
    power⟩

end SmuTelemetry.Dram
