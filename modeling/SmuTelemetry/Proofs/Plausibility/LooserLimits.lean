import SmuTelemetry.Proofs.OverclockingRegion.VoltageScan
import SmuTelemetry.Proofs.PmTable.Temperatures

/-!
Decoding under looser limits. Wider bounds may change which candidate wins, which of the die
sensors is taken and where the processor temperature comes from, but a reading that was
present stays present: what was plausible still is, and each choice only fails when none of
its candidates is plausible. Everything that no check guards stays as it was.
-/

namespace SmuTelemetry

set_option autoImplicit false

structure Bounds.Within (inner outer : Bounds) : Prop where
  low : outer.low ≤ inner.low
  high : inner.high ≤ outer.high

theorem Bounds.Within.mem {inner outer : Bounds} (within : inner.Within outer)
    {value : Binary32} (inside : value ∈ inner) : value ∈ outer :=
  ⟨Binary32.le_trans within.low inside.1, Binary32.le_trans inside.2 within.high⟩

structure PlausibilityLimits.Within (tight loose : PlausibilityLimits) : Prop where
  voltage : tight.voltage.Within loose.voltage
  power : tight.power.Within loose.power
  current : tight.current.Within loose.current
  temperature : tight.temperature.Within loose.temperature
  coreClock : tight.coreClock.Within loose.coreClock

namespace PmTable

variable {inner outer : Bounds} (table : PmTable)

theorem isSome_firstPlausible?_iff (candidates : List Nat) (bounds : Bounds) :
    (table.firstPlausible? candidates bounds).isSome ↔
      ∃ index ∈ candidates, table.entry index ∈ bounds := by
  simp only [firstPlausible?, Bounds.first?, List.find?_isSome, List.mem_map,
    exists_exists_and_eq_and, Bounds.contains_iff_mem]

theorem firstPlausible?_kept (within : inner.Within outer) (candidates : List Nat)
    (present : (table.firstPlausible? candidates inner).isSome) :
    (table.firstPlausible? candidates outer).isSome := by
  obtain ⟨index, candidate, inside⟩ := (table.isSome_firstPlausible?_iff candidates inner).mp present
  exact (table.isSome_firstPlausible?_iff candidates outer).mpr
    ⟨index, candidate, within.mem inside⟩

theorem fastestClock?_kept (within : inner.Within outer) (clocks : CoreArray)
    (present : (fastestClock? inner clocks).isSome) : (fastestClock? outer clocks).isSome := by
  simp only [fastestClock?, Option.isSome_map, Option.isSome_filter] at present ⊢
  cases largest : clocks.max? with
  | none => simp [largest] at present
  | some gigahertz =>
      simp only [largest, Option.any_some, Bounds.contains_iff_mem] at present ⊢
      exact within.mem present

theorem dieTemperature?_kept (within : inner.Within outer)
    (present : (table.dieTemperature? inner).isSome) :
    (table.dieTemperature? outer).isSome := by
  obtain ⟨die, found⟩ := Option.isSome_iff_exists.mp present
  obtain ⟨first, second, firstHeld, secondHeld, origin⟩ := dieTemperature?_eq_some found
  rw [dieTemperature?_of_held firstHeld secondHeld]
  split_ifs with firstInside secondInside positive
  · rfl
  · rfl
  · rfl
  · rcases origin with ⟨-, inside⟩ | ⟨-, inside⟩ | ⟨-, bothPositive⟩
    · exact absurd (within.mem inside) firstInside
    · exact absurd (within.mem inside) secondInside
    · exact absurd bothPositive positive

theorem cpuTemperature?_of_candidate {bounds : Bounds} {index : Nat}
    (candidate : index ∈ temperatureCandidates) (inside : table.entry index ∈ bounds)
    (die : Option Binary32) : (table.cpuTemperature? bounds die).isSome := by
  rcases cpuTemperature?_cases bounds table die with ⟨sensed, -, -, taken⟩ | searched
  · rw [taken]
    rfl
  · rw [searched]
    exact (table.isSome_firstPlausible?_iff _ _).mpr ⟨index, candidate, inside⟩

/-- Under wider bounds the die temperature can be another one, even one that is not positive; but
then it is that of a plausible sensor, and the sensors are candidates of the search. -/
theorem cpuTemperature?_kept (within : inner.Within outer)
    (present : (table.cpuTemperature? inner (table.dieTemperature? inner)).isSome) :
    (table.cpuTemperature? outer (table.dieTemperature? outer)).isSome := by
  rcases cpuTemperature?_cases inner table (table.dieTemperature? inner) with
    ⟨sensed, found, positive, -⟩ | searched
  · obtain ⟨first, second, firstHeld, secondHeld, origin⟩ := dieTemperature?_eq_some found
    have firstEntry : table.entry 448 = first := entry_of_held firstHeld
    have secondEntry : table.entry 449 = second := entry_of_held secondHeld
    by_cases firstInside : first ∈ outer
    · exact table.cpuTemperature?_of_candidate (by decide) (firstEntry ▸ firstInside) _
    by_cases secondInside : second ∈ outer
    · exact table.cpuTemperature?_of_candidate (by decide) (secondEntry ▸ secondInside) _
    rcases origin with ⟨-, inside⟩ | ⟨-, inside⟩ | ⟨mean, bothPositive⟩
    · exact absurd (within.mem inside) firstInside
    · exact absurd (within.mem inside) secondInside
    · rw [dieTemperature?_of_held firstHeld secondHeld, if_neg firstInside, if_neg secondInside,
        if_pos bothPositive, ← mean, cpuTemperature?_of_positive positive]
      rfl
  · rw [searched] at present
    obtain ⟨index, candidate, inside⟩ := (table.isSome_firstPlausible?_iff _ _).mp present
    exact table.cpuTemperature?_of_candidate candidate (within.mem inside) _

end PmTable

namespace Metrics

def unguarded (metrics : Metrics) : Metrics :=
  { metrics with
    packagePower := none, ppt := none, packageCurrent := none, vid := none, coreClock := none
    bclk := none, cpuTemp := none, tdie := none, iodHotspot := none }

/-- Other metrics have every reading that these have, and equal them in all that is never
absent. -/
structure KeptIn (metrics other : Metrics) : Prop where
  present : List.Forall₂ (fun reading kept => reading.isSome → kept.isSome)
    metrics.optionalReadings other.optionalReadings
  unguarded : metrics.unguarded = other.unguarded

theorem unguarded_assign (limits otherLimits : PlausibilityLimits) (metrics : Metrics)
    (field : MetricField) (value : Binary32) :
    (metrics.assign limits field value).unguarded =
      (metrics.unguarded.assign otherLimits field value).unguarded := by
  cases field with
  | iodHotspot => rw [assign_iodHotspot, assign_iodHotspot]; rfl
  | fclk | uclk | mclk | vsoc | vddp | vddgIod | vddgCcd | vddMisc | vcore => rfl

/-- Limits decide on the hotspot only, so without it the pass does not depend on them. -/
theorem unguarded_assignNamed {metrics other : Metrics}
    (same : metrics.unguarded = other.unguarded) (limits otherLimits : PlausibilityLimits)
    (named : List NamedSlot) (addressing : Addressing) (table : PmTable) :
    (assignNamed limits named addressing table metrics).unguarded =
      (assignNamed otherLimits named addressing table other).unguarded := by
  induction named generalizing metrics other with
  | nil => exact same
  | cons slot rest ih =>
      apply ih
      rw [unguarded_assign limits limits, same, ← unguarded_assign otherLimits limits]

end Metrics

namespace Layout

variable (layout : Layout) (named : List NamedSlot) (addressing : Addressing)
  {tight loose : PlausibilityLimits} (table : PmTable)

theorem unguarded_readings :
    (layout.readings named addressing tight table).unguarded =
      (layout.readings named addressing loose table).unguarded := by
  have start : ({} : Metrics).unguarded = ({} : Metrics).unguarded := rfl
  have rails := Metrics.unguarded_assignNamed start tight loose named addressing table
  exact congrArg
    (fun rails : Metrics =>
      { rails with
        coreTemps := table.coreWindow layout.coreTempStart layout.cores
        coreVoltages := table.coreWindow layout.coreVoltageStart layout.cores
        coreClocks := table.coreWindow PmTable.coreClockStart maxCores })
    rails

variable (within : tight.Within loose)

include within

theorem readings_keptIn :
    (layout.readings named addressing tight table).KeptIn
      (layout.readings named addressing loose table) where
  present := by
    have hotspot : (layout.readings named addressing tight table).iodHotspot.isSome →
        (layout.readings named addressing loose table).iodHotspot.isSome := by
      rw [iodHotspot_readings, iodHotspot_readings]
      exact table.firstPlausible?_kept within.temperature _
    have reference : (layout.readings named addressing tight table).bclk.isSome →
        (layout.readings named addressing loose table).bclk.isSome := by
      have absent := Metrics.bclk_assignNamed tight named addressing table {}
      intro present
      rw [show (layout.readings named addressing tight table).bclk = none from absent] at present
      cases present
    exact .cons (table.firstPlausible?_kept within.power _)
      (.cons (table.firstPlausible?_kept within.power _)
      (.cons (table.firstPlausible?_kept within.current _)
      (.cons id
      (.cons (PmTable.fastestClock?_kept within.coreClock _)
      (.cons reference
      (.cons (table.cpuTemperature?_kept within.temperature)
      (.cons (table.dieTemperature?_kept within.temperature)
      (.cons hotspot .nil))))))))
  unguarded := layout.unguarded_readings named addressing table

theorem metrics_keptIn :
    (layout.metrics named addressing tight table).KeptIn
      (layout.metrics named addressing loose table) := by
  rw [metrics, metrics]
  split_ifs
  · exact ⟨by decide, rfl⟩
  · exact layout.readings_keptIn named addressing table within

end Layout

namespace OverclockingRegion

theorem railAt?_of_within {inner outer : Bounds} (within : inner.Within outer) (region : Bytes)
    (offset : Nat) :
    railAt? region inner offset =
      (railAt? region outer offset).filter fun candidate => IsRail inner candidate.millivolts := by
  rw [railAt?, railAt?]
  cases region.u32At? offset with
  | none => rfl
  | some word =>
      by_cases inside : IsRail inner word
      · have wider : IsRail outer word := within.mem inside
        simp only [inside, wider, if_true]
        rw [Option.filter_some, if_pos]
        exact decide_eq_true inside
      · by_cases wider : IsRail outer word
        · simp only [inside, wider, if_true, if_false]
          rw [Option.filter_some, if_neg]
          exact inside ∘ of_decide_eq_true
        · simp only [inside, wider, if_false, Option.filter_none]

theorem scan_of_within {inner outer : Bounds} (within : inner.Within outer) (region : Bytes) :
    scan region inner =
      (scan region outer).filter fun candidate => IsRail inner candidate.millivolts := by
  rw [scan_eq_filterMap, scan_eq_filterMap, List.filter_filterMap]
  congr 1
  funext offset
  exact railAt?_of_within within region offset

end OverclockingRegion

/-- Under limits whose ranges contain those of other limits, a layout has the same fault or the
metrics keep every reading and all that no check guards, and the scan keeps every rail. -/
theorem looser_limits_keep_readings {tight loose : PlausibilityLimits}
    (within : tight.Within loose) :
    (∀ (layout : Layout) (named : List NamedSlot) (addressing : Addressing) (table : PmTable),
      (∃ fault, layout.decode named addressing tight table = .error fault ∧
        layout.decode named addressing loose table = .error fault) ∨
      ∃ metrics kept, layout.decode named addressing tight table = .ok metrics ∧
        layout.decode named addressing loose table = .ok kept ∧ metrics.KeptIn kept) ∧
    (∀ version codename table,
      (PmTable.decode tight version codename table).KeptIn
        (PmTable.decode loose version codename table)) ∧
    ∀ region, (OverclockingRegion.scan region tight.voltage).Sublist
      (OverclockingRegion.scan region loose.voltage) := by
  refine ⟨?_, ?_, ?_⟩
  · intro layout named addressing table
    rcases layout.decode_fault_or_metrics named addressing table with ⟨fault, faulty⟩ | decoded
    · exact Or.inl ⟨fault, faulty tight, faulty loose⟩
    · exact Or.inr ⟨_, _, decoded tight, decoded loose,
        layout.metrics_keptIn named addressing table within⟩
  · intro version codename table
    obtain ⟨layout, named, addressing, selected⟩ :=
      Layout.exists_decode_eq_metrics version codename
    rw [selected, selected]
    exact layout.metrics_keptIn named addressing table within
  · intro region
    rw [OverclockingRegion.scan_of_within within.voltage]
    exact List.filter_sublist

/-- Bounds that reach below zero turn to the first sensor, which is not positive: the die
temperature is another one and the processor temperature comes from the search, but both stay
present. -/
theorem looser_limits_keep_readings_below_zero :
    let tight : PlausibilityLimits := { temperature := ⟨50, 100⟩ }
    let loose : PlausibilityLimits := { temperature := ⟨(100 : Binary32).neg, 100⟩ }
    let table : PmTable := List.replicate 448 0 ++ [(20 : Binary32).neg, 60]
    let metrics := PmTable.decode tight 0 .matisse table
    let kept := PmTable.decode loose 0 .matisse table
    tight.Within loose ∧ metrics.KeptIn kept ∧
      metrics.tdie = some 60 ∧ metrics.cpuTemp = some 60 ∧
      kept.tdie = some (20 : Binary32).neg ∧ kept.cpuTemp = some 0 := by
  intro tight loose table metrics kept
  have within : tight.Within loose :=
    ⟨⟨by decide, by decide⟩, ⟨by decide, by decide⟩, ⟨by decide, by decide⟩,
      ⟨by decide, by decide⟩, ⟨by decide, by decide⟩⟩
  exact ⟨within, (looser_limits_keep_readings within).2.1 0 .matisse table, by decide +kernel,
    by decide +kernel, by decide +kernel, by decide +kernel⟩

end SmuTelemetry
