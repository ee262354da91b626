import SmuTelemetry.Proofs.PmTable.CoreClocks
import SmuTelemetry.Proofs.PmTable.NamedReadings

/-!
Plausibility of decoded readings. Every reading that passes a check lies within the bounds
of its quantity and is the first candidate that does, so it is absent only where no
candidate qualifies. No optional reading is a NaN, whatever the table and the bounds hold.
-/

namespace SmuTelemetry

set_option autoImplicit false

namespace PmTable

theorem isNaN_firstPlausible? {table : PmTable} {candidates : List Nat} {bounds : Bounds}
    {value : Binary32} (found : table.firstPlausible? candidates bounds = some value) :
    value.isNaN = false :=
  Bounds.isNaN_of_mem (Bounds.contains_iff_mem.mp (Bounds.contains_of_first? found))

theorem isNaN_fastestClock? {bounds : Bounds} {clocks : CoreArray} {megahertz : Binary32}
    (found : fastestClock? bounds clocks = some megahertz) : megahertz.isNaN = false := by
  obtain ⟨gigahertz, -, inside, scaled⟩ := fastestClock?_eq_some found
  rw [scaled]
  exact Binary32.isNaN_mul (Bounds.isNaN_of_mem inside) (Binary32.isNaN_ofNat 1000)
    (by decide +kernel) (by decide +kernel)

theorem dieTemperature?_eq_some {bounds : Bounds} {table : PmTable} {die : Binary32}
    (found : table.dieTemperature? bounds = some die) :
    ∃ first second, table[dieSensors.1]? = some first ∧ table[dieSensors.2]? = some second ∧
      (die = first ∧ first ∈ bounds ∨ die = second ∧ second ∈ bounds ∨
        die = (first + second) * .ofFraction 1 2 ∧ 0 < first ∧ 0 < second) := by
  rw [dieTemperature?] at found
  split at found
  next first second firstHeld secondHeld =>
      refine ⟨first, second, firstHeld, secondHeld, ?_⟩
      split_ifs at found with firstInside secondInside bothPositive
      · exact Or.inl ⟨(Option.some.inj found).symm, Bounds.contains_iff_mem.mp firstInside⟩
      · exact Or.inr (Or.inl
          ⟨(Option.some.inj found).symm, Bounds.contains_iff_mem.mp secondInside⟩)
      · exact Or.inr (Or.inr ⟨(Option.some.inj found).symm, bothPositive⟩)
  next => cases found

theorem isNaN_dieTemperature? {bounds : Bounds} {table : PmTable} {die : Binary32}
    (found : table.dieTemperature? bounds = some die) : die.isNaN = false := by
  obtain ⟨first, second, -, -, origin⟩ := dieTemperature?_eq_some found
  rcases origin with ⟨rfl, inside⟩ | ⟨rfl, inside⟩ | ⟨rfl, firstPositive, secondPositive⟩
  · exact Bounds.isNaN_of_mem inside
  · exact Bounds.isNaN_of_mem inside
  -- Two infinities of opposite signs would add up to a NaN, but both sensors are positive.
  · obtain ⟨firstNumber, -, firstUnsigned⟩ := (Binary32.positive_iff first).mp firstPositive
    obtain ⟨secondNumber, -, secondUnsigned⟩ := (Binary32.positive_iff second).mp secondPositive
    exact Binary32.isNaN_mul
      (Binary32.isNaN_add firstNumber secondNumber firstUnsigned secondUnsigned)
      (Binary32.isNaN_ofRatio _ _ _) (by decide +kernel) (by decide +kernel)

theorem cpuTemperature?_cases (bounds : Bounds) (table : PmTable) (die : Option Binary32) :
    (∃ sensed, die = some sensed ∧ 0 < sensed ∧
        table.cpuTemperature? bounds die = some sensed) ∨
      table.cpuTemperature? bounds die = table.firstPlausible? temperatureCandidates bounds := by
  cases die with
  | none => exact Or.inr rfl
  | some sensed =>
      by_cases positive : 0 < sensed
      · exact Or.inl ⟨sensed, rfl, positive, if_pos positive⟩
      · exact Or.inr (if_neg positive)

theorem isNaN_cpuTemperature? {bounds : Bounds} {table : PmTable} {die : Option Binary32}
    {temperature : Binary32} (found : table.cpuTemperature? bounds die = some temperature) :
    temperature.isNaN = false := by
  rcases cpuTemperature?_cases bounds table die with ⟨sensed, -, positive, taken⟩ | chosen
  · obtain rfl := Option.some.inj (taken.symm.trans found)
    exact Binary32.isNaN_of_positive positive
  · exact isNaN_firstPlausible? (chosen.symm.trans found)

end PmTable

namespace Metrics

def optionalReadings (metrics : Metrics) : List (Option Binary32) :=
  [metrics.packagePower, metrics.ppt, metrics.packageCurrent, metrics.vid, metrics.coreClock,
    metrics.bclk, metrics.cpuTemp, metrics.tdie, metrics.iodHotspot]

end Metrics

namespace NamedSlot

/-- The value at a slot, which counts entries, or bytes of four to an entry. -/
def held (slot : NamedSlot) (table : PmTable) : Addressing → Binary32
  | .floatIndex => table[slot.slot]?.getD 0
  | .byteOffset => table[slot.slot / 4]?.getD 0

theorem entry_index (slot : NamedSlot) (table : PmTable) (addressing : Addressing) :
    table.entry (slot.index addressing) = slot.held table addressing := by
  rw [PmTable.entry_eq]
  cases addressing <;> rfl

end NamedSlot

namespace Layout

/-- Both per-core windows end at a 64-bit index. -/
structure WindowsFit (layout : Layout) : Prop where
  temperatures : layout.coreTempStart + layout.cores < Bytes.addressLimit
  voltages : layout.coreVoltageStart + layout.cores < Bytes.addressLimit

theorem decode_eq_metrics {layout : Layout} (fit : layout.WindowsFit)
    (named : List NamedSlot) (addressing : Addressing) (limits : PlausibilityLimits)
    (table : PmTable) :
    layout.decode named addressing limits table =
      .ok (layout.metrics named addressing limits table) := by
  have fits : layout.badWindow? = none := by
    simp [badWindow?, fit.temperatures, fit.voltages]
  rw [decode, metrics, fits]
  split_ifs <;> rfl

theorem decode_of_windowsFit {layout : Layout} (fit : layout.WindowsFit)
    (named : List NamedSlot) (addressing : Addressing) (limits : PlausibilityLimits)
    {table : PmTable} (long : PmTable.minLength ≤ table.length) :
    layout.decode named addressing limits table =
      .ok (layout.readings named addressing limits table) := by
  rw [decode_eq_metrics fit, metrics, if_neg (Nat.not_lt.mpr long)]

theorem decode_fault_or_metrics (layout : Layout) (named : List NamedSlot)
    (addressing : Addressing) (table : PmTable) :
    (∃ fault, ∀ limits, layout.decode named addressing limits table = .error fault) ∨
      ∀ limits, layout.decode named addressing limits table =
        .ok (layout.metrics named addressing limits table) := by
  by_cases short : table.length < PmTable.minLength
  · right
    intro limits
    rw [decode, metrics, if_pos short, if_pos short]
  · cases bad : layout.badWindow? with
    | some start =>
        left
        refine ⟨.windowEnd start, fun limits => ?_⟩
        rw [decode, if_neg short, bad]
    | none =>
        right
        intro limits
        rw [decode, metrics, if_neg short, if_neg short, bad]

theorem exists_decode_eq_metrics (version : UInt32) (codename : Codename) :
    ∃ (layout : Layout) (named : List NamedSlot) (addressing : Addressing), ∀ limits,
      PmTable.decode limits version codename = layout.metrics named addressing limits := by
  cases byOffset : codename.usesByteOffsets with
  | true =>
      refine ⟨graniteRidge, graniteRidgeByteOffsets, .byteOffset, fun limits => ?_⟩
      funext table
      simp only [PmTable.decode, byOffset, if_true]
  | false =>
      refine ⟨ofVersion version, (ofVersion version).named, .floatIndex, fun limits => ?_⟩
      funext table
      simp only [PmTable.decode, byOffset, Bool.false_eq_true, if_false]

/-- What plausibility promises of the metrics of a table. -/
structure Plausible (layout : Layout) (named : List NamedSlot) (addressing : Addressing)
    (limits : PlausibilityLimits) (table : PmTable) (metrics : Metrics) : Prop where
  ppt : PmTable.SelectsFirst (fun index => some (table[index]?.getD 0))
    [layout.pptIndex, 3, 1, 13, 29, 5, 38] limits.power metrics.ppt
  packagePower : PmTable.SelectsFirst (fun index => some (table[index]?.getD 0))
    [layout.socketPowerIndex, 29, 1, 13, 38, 5, 220, 187, 42, 0] limits.power
    metrics.packagePower
  packageCurrent : PmTable.SelectsFirst (fun index => some (table[index]?.getD 0))
    [41, 46, 3, 10, 11, 4] limits.current metrics.packageCurrent
  hotspotInside : ∀ value, metrics.iodHotspot = some value → value ∈ limits.temperature
  hotspotAbsent : metrics.iodHotspot = none →
    table[11]?.getD 0 ∉ limits.temperature ∧
      ∀ slot ∈ named, slot.field = .iodHotspot →
        slot.held table addressing ∉ limits.temperature
  coreClock : ∀ megahertz, metrics.coreClock = some megahertz →
    ∃ index gigahertz, 325 ≤ index ∧ index ≤ 340 ∧ table[index]? = some gigahertz ∧
      gigahertz ∈ limits.coreClock ∧ megahertz = gigahertz * 1000
  neverNaN : ∀ value, some value ∈ metrics.optionalReadings → value.isNaN = false

theorem isNaN_optionalReadings (layout : Layout) (named : List NamedSlot)
    (addressing : Addressing) (limits : PlausibilityLimits) (table : PmTable)
    {value : Binary32}
    (member : some value ∈ (layout.readings named addressing limits table).optionalReadings) :
    value.isNaN = false := by
  simp only [Metrics.optionalReadings, List.mem_cons, List.not_mem_nil, or_false] at member
  rcases member with power | ppt | current | vid | clock | reference | cpu | die | hotspot
  · exact PmTable.isNaN_firstPlausible? power.symm
  · exact PmTable.isNaN_firstPlausible? ppt.symm
  · exact PmTable.isNaN_firstPlausible? current.symm
  · simp only [readings] at vid
    split at vid
    next positive =>
        rw [Option.some.inj vid]
        exact Binary32.isNaN_of_positive positive
    next => cases vid
  · exact PmTable.isNaN_fastestClock? clock.symm
  · have none := Metrics.bclk_assignNamed limits named addressing table {}
    cases reference.trans none
  · exact PmTable.isNaN_cpuTemperature? cpu.symm
  · exact PmTable.isNaN_dieTemperature? die.symm
  · rw [iodHotspot_readings] at hotspot
    exact PmTable.isNaN_firstPlausible? hotspot.symm

/-- The metrics of a table that holds telemetry are plausible: sound, complete and free of NaN. -/
theorem decode_plausible (layout : Layout) (named : List NamedSlot) (addressing : Addressing)
    (limits : PlausibilityLimits) (table : PmTable) (fit : layout.WindowsFit)
    (long : 4 ≤ table.length) :
    ∃ metrics, layout.decode named addressing limits table = .ok metrics ∧
      layout.Plausible named addressing limits table metrics := by
  refine ⟨_, decode_of_windowsFit fit named addressing limits long, ?_⟩
  have hotspot := iodHotspot_readings layout named addressing limits table
  have chosen := table.firstPlausible?_selectsFirst (hotspotCandidates named addressing)
    limits.temperature
  rw [← hotspot] at chosen
  exact {
    ppt := table.firstPlausible?_selectsFirst _ _
    packagePower := table.firstPlausible?_selectsFirst _ _
    packageCurrent := table.firstPlausible?_selectsFirst _ _
    hotspotInside := by
      intro value found
      obtain ⟨-, -, -, -, -, inside, -⟩ := (chosen.chosen value).mp found
      exact inside
    hotspotAbsent := by
      intro absent
      have outside := chosen.absent.mp absent
      constructor
      · exact outside PmTable.iodHotspotIndex (List.mem_append_right _ (List.mem_singleton_self _))
          _ rfl
      · intro slot member names
        have candidate : slot.index addressing ∈
            NamedSlot.indicesOf named addressing .iodHotspot :=
          NamedSlot.mem_indicesOf.mpr ⟨slot, member, names, rfl⟩
        rw [← NamedSlot.entry_index, PmTable.entry_eq]
        exact outside _ (List.mem_append_left _ candidate) _ rfl
    coreClock := by
      intro megahertz found
      obtain ⟨gigahertz, member, inside, scaled⟩ := PmTable.fastestClock?_eq_some found
      obtain ⟨index, above, below, held⟩ := PmTable.mem_coreWindow member
      exact ⟨index, gigahertz, above, Nat.le_of_lt_succ below, held, inside, scaled⟩
    neverNaN := fun value member =>
      isNaN_optionalReadings layout named addressing limits table member }

/-- Byte offsets into a table of NaNs that ends with its only number, under power bounds that
are themselves NaN: the number is the hotspot and a plausible current, and no power is. -/
theorem decode_plausible_of_nan_table :
    let table : PmTable := List.replicate 11 Binary32.nan ++ [55]
    let limits : PlausibilityLimits := { power := ⟨Binary32.nan, Binary32.nan⟩ }
    graniteRidge.WindowsFit ∧ 4 ≤ table.length ∧
      ∃ metrics, graniteRidge.decode graniteRidgeByteOffsets .byteOffset limits table =
          .ok metrics ∧
        graniteRidge.Plausible graniteRidgeByteOffsets .byteOffset limits table metrics ∧
        metrics.iodHotspot = some 55 ∧ metrics.packageCurrent = some 55 ∧
        metrics.packagePower = none := by
  intro table limits
  have fit : graniteRidge.WindowsFit := ⟨by decide, by decide⟩
  obtain ⟨metrics, decoded, checked⟩ :=
    decode_plausible graniteRidge graniteRidgeByteOffsets .byteOffset limits table fit (by decide)
  have shown : (graniteRidge.decode graniteRidgeByteOffsets .byteOffset limits table).map
      (·.iodHotspot) = .ok (some 55) := by decide +kernel
  rw [decoded] at shown
  have current := (checked.packageCurrent.chosen 55).mpr
    ⟨[41, 46, 3, 10], 11, [4], rfl, by decide +kernel, by decide +kernel, by decide +kernel⟩
  have power := checked.packagePower.absent.mpr (by decide +kernel)
  exact ⟨fit, by decide, metrics, decoded, checked, Except.ok.inj shown, current, power⟩

end Layout

end SmuTelemetry
