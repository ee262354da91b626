import SmuTelemetry.Dram.Timings
import SmuTelemetry.Proofs.Binary32.Order

/-!
Times in nanoseconds follow from cycles and one frequency. Applying a frequency replaces
the times and keeps everything else. The newer generation's decoder has already applied
the data rate that it reports; the older one's times are zero until a frequency is applied.
-/

namespace SmuTelemetry

set_option autoImplicit false

namespace DramTimings

def TimedAt (timings : DramTimings) (megahertz : Binary32) : Prop :=
  timings.times.trefi = nanoseconds (timings.cycles .refi) megahertz ∧
    timings.times.trfc = nanoseconds timings.refresh.rfc megahertz ∧
    timings.times.trfc2 = nanoseconds timings.refresh.rfc2 megahertz ∧
    timings.times.trfcsb = nanoseconds timings.refresh.rfcsb megahertz

def Untimed (timings : DramTimings) : Prop :=
  timings.times.trefi = Binary32.zero ∧ timings.times.trfc = Binary32.zero ∧
    timings.times.trfc2 = Binary32.zero ∧ timings.times.trfcsb = Binary32.zero

theorem applyFrequency_timedAt (timings : DramTimings) (megahertz : Binary32) :
    (timings.applyFrequency megahertz).TimedAt megahertz :=
  ⟨rfl, rfl, rfl, rfl⟩

theorem applyFrequency_again (timings : DramTimings) (first second : Binary32) :
    (timings.applyFrequency first).applyFrequency second = timings.applyFrequency second := by
  simp only [applyFrequency]

theorem nanoseconds_of_not_positive (cycles : UInt32) {megahertz : Binary32}
    (number : megahertz.isNaN = false) (notPositive : ¬0 < megahertz) :
    nanoseconds cycles megahertz = Binary32.zero := by
  have below : megahertz ≤ 0 :=
    Binary32.le_of_not_lt (Binary32.isNaN_ofNat 0) number notPositive
  rw [nanoseconds, if_pos below, Binary32.zero_eq]

theorem untimed_of_not_positive {timings : DramTimings} {megahertz : Binary32}
    (timed : timings.TimedAt megahertz) (number : megahertz.isNaN = false)
    (notPositive : ¬0 < megahertz) : timings.Untimed := by
  rcases timed with ⟨trefi, trfc, trfc2, trfcsb⟩
  refine ⟨trefi.trans ?_, trfc.trans ?_, trfc2.trans ?_, trfcsb.trans ?_⟩ <;>
    exact nanoseconds_of_not_positive _ number notPositive

end DramTimings

namespace Dram

def channelRate (registers : Registers) (channel : UInt8) : Binary32 :=
  ratioFrequency (ratioRange.slice (registers (registerAddress channel ratioControl)))

theorem isNaN_ratioFrequency (ratio : UInt32) : (ratioFrequency ratio).isNaN = false := by
  have hundredths : (Binary32.ofNat ratio.toNat / 100).isNaN = false :=
    Binary32.isNaN_div (Binary32.isNaN_ofNat _) (by decide) (by decide) (by decide)
  exact Binary32.isNaN_mul hundredths (by decide) (by decide) (by decide)

theorem channelTimings_ddr5_frequencyHint (registers : Registers) (channel : UInt8) :
    (channelTimings .ddr5 registers channel).frequencyHint =
      some (channelRate registers channel) := rfl

theorem channelTimings_ddr5_applied (registers : Registers) (channel : UInt8) :
    channelTimings .ddr5 registers channel =
      (channelTimings .ddr5 registers channel).applyFrequency
        (channelRate registers channel) := by
  simp only [channelTimings, channelRate, DramTimings.applyFrequency_again]

theorem channelTimings_ddr5_timedAt (registers : Registers) (channel : UInt8) :
    (channelTimings .ddr5 registers channel).TimedAt (channelRate registers channel) := by
  rw [channelTimings_ddr5_applied]
  exact DramTimings.applyFrequency_timedAt _ _

theorem channelTimings_ddr4_frequencyHint (registers : Registers) (channel : UInt8) :
    (channelTimings .ddr4 registers channel).frequencyHint = none := rfl

theorem channelTimings_ddr4_untimed (registers : Registers) (channel : UInt8) :
    (channelTimings .ddr4 registers channel).Untimed := ⟨rfl, rfl, rfl, rfl⟩

end Dram

end SmuTelemetry
