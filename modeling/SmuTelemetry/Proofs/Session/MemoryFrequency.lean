import SmuTelemetry.Proofs.Dram.Times
import SmuTelemetry.Proofs.Session.Poll

/-!
The memory frequency of a summary and its times in nanoseconds always belong together,
although the decoder sets the times on the newer generation and the poll sets them on the
older one. Nothing is assumed of the files, of the table or of the registers.
-/

namespace SmuTelemetry

set_option autoImplicit false

namespace Summary

/-- A positive frequency with its times, or no frequency and no times. The newer generation
takes its own data rate and never the table's memory clock, the older one takes the memory
clock when it is positive, and other silicon takes neither. -/
structure FrequencyAgrees (summary : Summary) : Prop where
  exactlyOne :
    Xor (∃ megahertz, summary.memoryFrequency = some megahertz ∧ 0 < megahertz ∧
        summary.timings.TimedAt megahertz)
      (summary.memoryFrequency = none ∧ summary.timings.Untimed)
  newer : summary.codename.memoryType = .ddr5 →
    ∃ hint, summary.timings.frequencyHint = some hint ∧
      (0 < hint → summary.memoryFrequency = some hint) ∧
      (¬0 < hint → summary.memoryFrequency = none) ∧
      (hint.isNaN ∨ hint.isZero ∨ hint.isNegative → summary.memoryFrequency = none)
  older : summary.codename.memoryType = .ddr4 →
    (0 < summary.metrics.mclk → summary.memoryFrequency = some summary.metrics.mclk) ∧
      (summary.metrics.mclk.isNaN ∨ summary.metrics.mclk.isZero ∨
        summary.metrics.mclk.isNegative → summary.memoryFrequency = none)
  other : summary.codename.memoryType = .unknown → summary.memoryFrequency = none

/-- The summary of the same poll for registers with other contents. -/
def withRegisters (summary : Summary) (registers : Registers) : Summary :=
  let chosen := Machine.memoryFrequency summary.codename.memoryType
    (Dram.timings summary.codename registers) summary.metrics.mclk
  { summary with timings := chosen.2, memoryFrequency := chosen.1 }

end Summary

namespace Machine

theorem memoryFrequency_of_positive_hint {timings : DramTimings} {hint : Binary32}
    (memoryType : MemoryType) (mclk : Binary32) (held : timings.frequencyHint = some hint)
    (positive : 0 < hint) : memoryFrequency memoryType timings mclk = (some hint, timings) := by
  simp [memoryFrequency, held, Option.filter, positive]

theorem memoryFrequency_ddr5_of_hint {timings : DramTimings} {hint : Binary32}
    (mclk : Binary32) (held : timings.frequencyHint = some hint) (notPositive : ¬0 < hint) :
    memoryFrequency .ddr5 timings mclk = (none, timings) := by
  simp [memoryFrequency, held, Option.filter, notPositive]

theorem memoryFrequency_ddr4_of_positive {timings : DramTimings} {mclk : Binary32}
    (held : timings.frequencyHint = none) (positive : 0 < mclk) :
    memoryFrequency .ddr4 timings mclk = (some mclk, timings.applyFrequency mclk) := by
  simp [memoryFrequency, held, positive]

theorem memoryFrequency_ddr4_of_not_positive {timings : DramTimings} {mclk : Binary32}
    (held : timings.frequencyHint = none) (notPositive : ¬0 < mclk) :
    memoryFrequency .ddr4 timings mclk = (none, timings) := by
  simp [memoryFrequency, held, notPositive]

theorem memoryFrequency_unknown (timings : DramTimings) (mclk : Binary32)
    (held : timings.frequencyHint = none) :
    memoryFrequency .unknown timings mclk = (none, timings) := by
  simp [memoryFrequency, held]

end Machine

namespace Dram

theorem timings_of_memoryType (codename : Codename) (registers : Registers) :
    timings codename registers =
      match codename.memoryType with
      | .ddr4 => channelTimings .ddr4 registers 0
      | .ddr5 => channelTimings .ddr5 registers 0
      | .unknown => {} := by
  unfold timings Codename.dramGeneration?
  cases codename.memoryType <;> rfl

end Dram

namespace Summary

theorem not_positive_of_unusable {megahertz : Binary32}
    (unusable : megahertz.isNaN ∨ megahertz.isZero ∨ megahertz.isNegative) : ¬0 < megahertz := by
  intro positive
  rcases (Binary32.positive_iff megahertz).mp positive with ⟨number, nonzero, plus⟩
  simp [number, nonzero, plus] at unusable

theorem exactlyOne_of_frequency {summary : Summary} {megahertz : Binary32}
    (frequency : summary.memoryFrequency = some megahertz) (positive : 0 < megahertz)
    (timed : summary.timings.TimedAt megahertz) :
    Xor (∃ megahertz, summary.memoryFrequency = some megahertz ∧ 0 < megahertz ∧
        summary.timings.TimedAt megahertz)
      (summary.memoryFrequency = none ∧ summary.timings.Untimed) := by
  refine .inl ⟨⟨megahertz, frequency, positive, timed⟩, ?_⟩
  intro both
  obtain ⟨none, -⟩ := both
  simp [frequency] at none

theorem exactlyOne_of_none {summary : Summary} (frequency : summary.memoryFrequency = none)
    (untimed : summary.timings.Untimed) :
    Xor (∃ megahertz, summary.memoryFrequency = some megahertz ∧ 0 < megahertz ∧
        summary.timings.TimedAt megahertz)
      (summary.memoryFrequency = none ∧ summary.timings.Untimed) := by
  refine .inr ⟨⟨frequency, untimed⟩, ?_⟩
  intro both
  obtain ⟨megahertz, some, -⟩ := both
  simp [frequency] at some

section Registers

variable {summary : Summary} {registers : Registers}

theorem withRegisters_of_choice {frequency : Option Binary32} {timings : DramTimings}
    (choice : Machine.memoryFrequency summary.codename.memoryType
      (Dram.timings summary.codename registers) summary.metrics.mclk = (frequency, timings)) :
    summary.withRegisters registers =
      { summary with timings := timings, memoryFrequency := frequency } := by
  rw [withRegisters, choice]

/-- On the newer generation the decoder has already applied the data rate. A rate that is not
positive is zero, and then the decoder's times are zero too. -/
theorem frequencyAgrees_ddr5 (newer : summary.codename.memoryType = .ddr5) :
    (summary.withRegisters registers).FrequencyAgrees := by
  let rate := Dram.channelRate registers 0
  have decoded : Dram.timings summary.codename registers =
      Dram.channelTimings .ddr5 registers 0 := by
    rw [Dram.timings_of_memoryType, newer]
  have hint := Dram.channelTimings_ddr5_frequencyHint registers 0
  have timed := Dram.channelTimings_ddr5_timedAt registers 0
  have number : rate.isNaN = false := Dram.isNaN_ratioFrequency _
  by_cases positive : 0 < rate
  · have choice := Machine.memoryFrequency_of_positive_hint .ddr5 summary.metrics.mclk hint
      positive
    rw [← decoded, ← newer] at choice
    rw [withRegisters_of_choice choice, decoded]
    refine ⟨exactlyOne_of_frequency rfl positive timed,
      fun _ => ⟨rate, hint, fun _ => rfl, absurd positive, ?_⟩, fun older => ?_, fun other => ?_⟩
    · intro unusable
      exact absurd positive (not_positive_of_unusable unusable)
    · simp [newer] at older
    · simp [newer] at other
  · have choice := Machine.memoryFrequency_ddr5_of_hint summary.metrics.mclk hint positive
    rw [← decoded, ← newer] at choice
    rw [withRegisters_of_choice choice, decoded]
    refine ⟨exactlyOne_of_none rfl (DramTimings.untimed_of_not_positive timed number positive),
      fun _ => ⟨rate, hint, ?_, fun _ => rfl, fun _ => rfl⟩, fun older => ?_, fun _ => rfl⟩
    · intro above
      exact absurd above positive
    · simp [newer] at older

/-- The older generation's decoder leaves the times at zero, and the poll applies the clock. -/
theorem frequencyAgrees_ddr4 (older : summary.codename.memoryType = .ddr4) :
    (summary.withRegisters registers).FrequencyAgrees := by
  have decoded : Dram.timings summary.codename registers =
      Dram.channelTimings .ddr4 registers 0 := by
    rw [Dram.timings_of_memoryType, older]
  have hint := Dram.channelTimings_ddr4_frequencyHint registers 0
  by_cases positive : 0 < summary.metrics.mclk
  · have choice := Machine.memoryFrequency_ddr4_of_positive hint positive
    rw [← decoded, ← older] at choice
    rw [withRegisters_of_choice choice]
    refine ⟨exactlyOne_of_frequency rfl positive (DramTimings.applyFrequency_timedAt _ _),
      fun newer => ?_, fun _ => ⟨fun _ => rfl, ?_⟩, fun other => ?_⟩
    · simp [older] at newer
    · intro unusable
      exact absurd positive (not_positive_of_unusable unusable)
    · simp [older] at other
  · have choice := Machine.memoryFrequency_ddr4_of_not_positive hint positive
    rw [← decoded, ← older] at choice
    rw [withRegisters_of_choice choice, decoded]
    refine ⟨exactlyOne_of_none rfl (Dram.channelTimings_ddr4_untimed registers 0),
      fun newer => ?_, fun _ => ⟨?_, fun _ => rfl⟩, fun _ => rfl⟩
    · simp [older] at newer
    · intro above
      exact absurd above positive

theorem frequencyAgrees_unknown (other : summary.codename.memoryType = .unknown) :
    (summary.withRegisters registers).FrequencyAgrees := by
  have decoded : Dram.timings summary.codename registers = {} := by
    rw [Dram.timings_of_memoryType, other]
  have choice := Machine.memoryFrequency_unknown {} summary.metrics.mclk rfl
  rw [← decoded, ← other] at choice
  rw [withRegisters_of_choice choice, decoded]
  refine ⟨exactlyOne_of_none rfl ⟨rfl, rfl, rfl, rfl⟩, fun newer => ?_, fun older => ?_,
    fun _ => rfl⟩
  · simp [other] at newer
  · simp [other] at older

theorem withRegisters_frequencyAgrees (summary : Summary) (registers : Registers) :
    (summary.withRegisters registers).FrequencyAgrees := by
  cases generation : summary.codename.memoryType with
  | ddr4 => exact frequencyAgrees_ddr4 generation
  | ddr5 => exact frequencyAgrees_ddr5 generation
  | unknown => exact frequencyAgrees_unknown generation

end Registers

end Summary

namespace Machine

theorem polledSummary_withRegisters (machine : Machine) (table : PmTable) :
    ∃ registers, (machine.polledSummary table).withRegisters registers =
      machine.polledSummary table := by
  obtain ⟨registers, same⟩ := machine.session.driver.timings_of_registers machine.tree
    (machine.session.driver.codename machine.tree)
  refine ⟨registers, ?_⟩
  simp only [Summary.withRegisters, polledSummary, same]

/-- Every successful poll, and the same poll whatever the registers answer. -/
theorem poll_frequency_agrees (machine next : Machine) (summary : Summary)
    (polled : machine.poll = (.ok summary, next)) :
    summary.FrequencyAgrees ∧ ∀ registers, (summary.withRegisters registers).FrequencyAgrees := by
  obtain ⟨table, -, rfl, -⟩ := poll_ok polled
  obtain ⟨registers, same⟩ := machine.polledSummary_withRegisters table
  refine ⟨?_, fun registers => Summary.withRegisters_frequencyAgrees _ registers⟩
  rw [← same]
  exact Summary.withRegisters_frequencyAgrees _ registers

/-- A poll on older silicon without a register file. The table's memory clock is positive, so it
is the memory frequency. -/
theorem poll_vermeer_frequency_agrees :
    let tree : FileTree :=
      { nodes := [(["smu"], .directory), (["smu", "codename"], .file 0),
          (["smu", "pm_table"], .file 1)]
        contents := fun id => if id = 0 then .ofBytes [0x31, 0x32] else .filled 320 0x44 }
    let machine : Machine :=
      { tree := tree
        session := { configuration := {}, driver := { root := "/smu", registerFile := none } } }
    let summary := machine.polledSummary (List.replicate 80 ⟨0x44444444⟩)
    machine.poll = (.ok summary, machine.afterPoll) ∧ summary.codename = .vermeer ∧
      0 < summary.metrics.mclk ∧ summary.memoryFrequency = some summary.metrics.mclk ∧
      summary.metrics.mclk = ⟨0x44444444⟩ ∧ summary.FrequencyAgrees ∧
      ∀ registers, (summary.withRegisters registers).FrequencyAgrees := by
  intro tree machine summary
  have readable : machine.session.driver.table machine.tree =
      .ok (List.replicate 80 ⟨0x44444444⟩) := by decide +kernel
  have polled := poll_of_readable readable
  obtain ⟨agrees, withOthers⟩ := poll_frequency_agrees machine _ _ polled
  have clock : summary.metrics.mclk = ⟨0x44444444⟩ := by decide +kernel
  have positive : 0 < summary.metrics.mclk := by
    rw [clock]
    decide
  have older : summary.codename.memoryType = .ddr4 := by decide +kernel
  exact ⟨polled, by decide +kernel, positive, (agrees.older older).1 positive, clock, agrees,
    withOthers⟩

end Machine

end SmuTelemetry
