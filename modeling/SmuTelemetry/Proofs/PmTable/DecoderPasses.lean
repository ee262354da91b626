import SmuTelemetry.Proofs.PmTable.CoreWrites
import SmuTelemetry.Proofs.PmTable.PlausibleReadings

/-!
The decoder as passes over one record, with every operation that can trap. Slots outside the
table are looked up and found missing, never indexed, so no layout makes a pass read outside
a list. A pass can only stop where the end of a per-core window is no 64-bit index; no
catalogued layout has such a window.
-/

namespace SmuTelemetry

set_option autoImplicit false

namespace CoreArray

def copyFrom (readings : List Binary32) : Except Trap CoreArray := do
  let count := min readings.length maxCores
  let cleared ← Trap.slice (List.replicate maxCores Binary32.zero) 0 count
  let leading ← Trap.slice readings 0 count
  let copied ← Trap.copyOver cleared leading
  return ofList copied

theorem copyFrom_eq (readings : List Binary32) : copyFrom readings = .ok (ofList readings) := by
  have target : min readings.length maxCores ≤
      (List.replicate maxCores Binary32.zero).length := by
    rw [List.length_replicate]
    exact Nat.min_le_right _ _
  have source : min readings.length maxCores ≤ readings.length := Nat.min_le_left _ _
  rw [copyFrom, Trap.slice_start target, Trap.ok_bind, Trap.slice_start source, Trap.ok_bind,
    Trap.copyOver_of_length (by rw [List.length_take_of_le target, List.length_take_of_le source]),
    Trap.ok_bind]
  apply congrArg Except.ok
  apply ext_toList
  rw [toList_ofList, toList_ofList, List.take_take]
  apply List.take_eq_take_iff.mpr
  omega

theorem ofList_toList (cores : CoreArray) : ofList cores.toList = cores := by
  apply ext_toList
  rw [toList_ofList]
  apply List.take_of_length_le
  rw [length_toList]
  exact cores.count_le

end CoreArray

namespace PmTable

def range? (table : PmTable) (start stop : Nat) : Option (List Binary32) :=
  if start ≤ stop ∧ stop ≤ table.length then some ((table.drop start).take (stop - start))
  else none

def fillWindow (table : PmTable) (start count : Nat) (cores : CoreArray) :
    Except Trap CoreArray := do
  let stop ← Trap.add start count
  match table.range? start stop with
  | some readings => CoreArray.copyFrom readings
  | none => return cores

theorem range?_window (table : PmTable) (start count : Nat) :
    table.range? start (start + count) = table.window? start count := by
  simp only [range?, window?, Nat.le_add_right, true_and, Nat.add_sub_cancel_left]

theorem fillWindow_empty (table : PmTable) (start count : Nat) :
    table.fillWindow start count .empty =
      if start + count < Bytes.addressLimit then .ok (table.coreWindow start count)
      else .error (.overflow start count) := by
  rw [fillWindow, Trap.add]
  split
  next small =>
      rw [Trap.ok_bind, range?_window, coreWindow]
      cases table.window? start count with
      | some readings => exact CoreArray.copyFrom_eq readings
      | none => rfl
  next => rfl

end PmTable

def LayoutFault.trap (cores : Nat) : LayoutFault → Trap
  | windowEnd start => .overflow start cores

namespace Layout

variable (layout : Layout) (named : List NamedSlot) (addressing : Addressing)
  (limits : PlausibilityLimits) (table : PmTable)

def corePass (metrics : Metrics) : Except Trap Metrics := do
  let temps ← table.fillWindow layout.coreTempStart layout.cores metrics.coreTemps
  let voltages ← table.fillWindow layout.coreVoltageStart layout.cores metrics.coreVoltages
  return { metrics with coreTemps := temps, coreVoltages := voltages }

/-- The slots that all families share, and the three that the layout moves. -/
def sharedPass (metrics : Metrics) : Except Trap Metrics := do
  let vid := table.entry layout.vidIndex
  let clocks ← table.fillWindow PmTable.coreClockStart maxCores metrics.coreClocks
  return { metrics with
    vid := if 0 < vid then some vid else metrics.vid
    ppt := table.firstPlausible? (layout.pptIndex :: PmTable.pptCandidates) limits.power
    packagePower :=
      table.firstPlausible? (layout.socketPowerIndex :: PmTable.powerCandidates) limits.power
    packageCurrent := table.firstPlausible? PmTable.currentCandidates limits.current
    tdie := table.dieTemperature? limits.temperature
    coreClocks := clocks
    iodHotspot := table.hotspot? limits.temperature metrics.iodHotspot }

def derivedPass (metrics : Metrics) : Except Trap Metrics := do
  let clocks ← metrics.coreClocks.sliced
  return { metrics with
    coreClock := PmTable.fastestClock? limits.coreClock (CoreArray.ofList clocks)
    cpuTemp := table.cpuTemperature? limits.temperature metrics.tdie }

def decodePasses : Except Trap Metrics :=
  if table.length < PmTable.minLength then .ok {}
  else do
    let cored ← layout.corePass table (Metrics.assignNamed limits named addressing table {})
    let shared ← layout.sharedPass limits table cored
    derivedPass limits table shared

theorem badWindow?_eq :
    layout.badWindow? =
      if layout.coreTempStart + layout.cores < Bytes.addressLimit then
        if layout.coreVoltageStart + layout.cores < Bytes.addressLimit then none
        else some layout.coreVoltageStart
      else some layout.coreTempStart := by
  rw [badWindow?, List.find?_cons, List.find?_cons, List.find?_nil]
  split_ifs with temperatures voltages <;> simp [*]

theorem corePass_named :
    layout.corePass table (Metrics.assignNamed limits named addressing table {}) =
      match layout.badWindow? with
      | some start => .error (.overflow start layout.cores)
      | none => .ok
          { Metrics.assignNamed limits named addressing table {} with
            coreTemps := table.coreWindow layout.coreTempStart layout.cores
            coreVoltages := table.coreWindow layout.coreVoltageStart layout.cores } := by
  have kept := Metrics.unnamed_assignNamed limits named addressing table {}
  have temps : (Metrics.assignNamed limits named addressing table {}).coreTemps = .empty :=
    congrArg Metrics.coreTemps kept
  have voltages : (Metrics.assignNamed limits named addressing table {}).coreVoltages = .empty :=
    congrArg Metrics.coreVoltages kept
  rw [corePass, temps, voltages, PmTable.fillWindow_empty, PmTable.fillWindow_empty,
    badWindow?_eq]
  split_ifs <;> rfl

/-- The passes compute what the decoder computes, and stop where it reports a fault. -/
theorem decodePasses_eq :
    layout.decodePasses named addressing limits table =
      (layout.decode named addressing limits table).mapError (LayoutFault.trap layout.cores) := by
  rw [decodePasses, decode]
  by_cases short : table.length < PmTable.minLength
  · rw [if_pos short, if_pos short]
    rfl
  · rw [if_neg short, if_neg short, corePass_named]
    cases layout.badWindow? with
    | some start => rfl
    | none =>
        have kept := Metrics.unnamed_assignNamed limits named addressing table {}
        have clocks : (Metrics.assignNamed limits named addressing table {}).coreClocks =
            .empty := congrArg Metrics.coreClocks kept
        have vid : (Metrics.assignNamed limits named addressing table {}).vid = none :=
          congrArg Metrics.vid kept
        have clocksFit : PmTable.coreClockStart + maxCores < Bytes.addressLimit := by decide
        simp only [Trap.ok_bind, sharedPass, derivedPass, clocks, vid, PmTable.fillWindow_empty,
          if_pos clocksFit, CoreArray.sliced_eq, CoreArray.ofList_toList]
        rfl

theorem decodePasses_cases :
    layout.decodePasses named addressing limits table =
      if table.length < PmTable.minLength then .ok {}
      else if layout.coreTempStart + layout.cores < Bytes.addressLimit then
        if layout.coreVoltageStart + layout.cores < Bytes.addressLimit then
          .ok (layout.readings named addressing limits table)
        else .error (.overflow layout.coreVoltageStart layout.cores)
      else .error (.overflow layout.coreTempStart layout.cores) := by
  rw [decodePasses_eq, decode, badWindow?_eq]
  split_ifs <;> rfl

/-- The trap of the first window whose end is no 64-bit index, temperatures first. -/
def OverflowsWith (trap : Trap) : Prop :=
  Bytes.addressLimit ≤ layout.coreTempStart + layout.cores ∧
      trap = .overflow layout.coreTempStart layout.cores ∨
    layout.coreTempStart + layout.cores < Bytes.addressLimit ∧
      Bytes.addressLimit ≤ layout.coreVoltageStart + layout.cores ∧
      trap = .overflow layout.coreVoltageStart layout.cores

theorem decodePasses_eq_error_iff (trap : Trap) :
    layout.decodePasses named addressing limits table = .error trap ↔
      PmTable.minLength ≤ table.length ∧ layout.OverflowsWith trap := by
  rw [decodePasses_cases, OverflowsWith]
  split_ifs with short temperatures voltages
  · simp [short]
  · simp [temperatures, voltages]
  · simp [Nat.not_lt.mp short, temperatures, Nat.not_lt.mp voltages, eq_comm]
  · simp [Nat.not_lt.mp short, temperatures, Nat.not_lt.mp temperatures, eq_comm]

theorem decodePasses_eq_ok_iff (metrics : Metrics) :
    layout.decodePasses named addressing limits table = .ok metrics ↔
      (table.length < PmTable.minLength ∨ layout.WindowsFit) ∧
        metrics = layout.metrics named addressing limits table := by
  have fits : layout.WindowsFit ↔ layout.coreTempStart + layout.cores < Bytes.addressLimit ∧
      layout.coreVoltageStart + layout.cores < Bytes.addressLimit :=
    ⟨fun fit => ⟨fit.temperatures, fit.voltages⟩, fun fit => ⟨fit.1, fit.2⟩⟩
  rw [decodePasses_cases, Layout.metrics, fits]
  split_ifs with short temperatures voltages
  · simp [short, eq_comm]
  · simp [temperatures, voltages, eq_comm]
  · simp [short, voltages]
  · simp [short, temperatures]

theorem windowsFit_catalogued (family : PmFamily) : family.layout.WindowsFit := by
  cases family <;> exact ⟨by decide, by decide⟩

end Layout

namespace PmTable

def decodePasses (limits : PlausibilityLimits) (version : UInt32) (codename : Codename)
    (table : PmTable) : Except Trap Metrics :=
  if codename.usesByteOffsets then
    Layout.graniteRidge.decodePasses Layout.graniteRidgeByteOffsets .byteOffset limits table
  else
    (Layout.ofVersion version).decodePasses (Layout.ofVersion version).named .floatIndex limits
      table

theorem decodePasses_selected (limits : PlausibilityLimits) (version : UInt32)
    (codename : Codename) (table : PmTable) :
    table.decodePasses limits version codename = .ok (table.decode limits version codename) := by
  rw [decodePasses, decode]
  split
  · apply (Layout.decodePasses_eq_ok_iff _ _ _ _ _ _).mpr
    exact ⟨Or.inr (Layout.windowsFit_catalogued .graniteRidge), rfl⟩
  · apply (Layout.decodePasses_eq_ok_iff _ _ _ _ _ _).mpr
    exact ⟨Or.inr (Layout.windowsFit_catalogued _), rfl⟩

end PmTable

namespace Layout

/-- No layout makes the decoder read or copy outside a list. It traps exactly where the end of
a per-core window is no 64-bit index, and else gives the metrics; no version tag selects a
layout with such a window. -/
theorem decoder_traps_only_at_window_ends (layout : Layout) (named : List NamedSlot)
    (addressing : Addressing) (limits : PlausibilityLimits) (table : PmTable) :
    (∀ trap, layout.decodePasses named addressing limits table = .error trap ↔
        4 ≤ table.length ∧ layout.OverflowsWith trap) ∧
      (∀ metrics, layout.decodePasses named addressing limits table = .ok metrics ↔
        (table.length < 4 ∨ layout.WindowsFit) ∧
          metrics = layout.metrics named addressing limits table) ∧
      ∀ version codename, table.decodePasses limits version codename =
        .ok (table.decode limits version codename) :=
  ⟨layout.decodePasses_eq_error_iff named addressing limits table,
    layout.decodePasses_eq_ok_iff named addressing limits table,
    fun version codename => PmTable.decodePasses_selected limits version codename table⟩

/-- Every number of the layout is a 64-bit index, but the window of its one core has no end. -/
theorem window_at_last_index_traps :
    let layout : Layout :=
      { name := "", named := [], vidIndex := 0, pptIndex := 0, socketPowerIndex := 0
        coreVoltageStart := 0, coreTempStart := 0xFFFFFFFFFFFFFFFF, coreCount := 1 }
    layout.coreTempStart < Bytes.addressLimit ∧
      layout.decodePasses layout.named .floatIndex {} (List.replicate 4 Binary32.zero) =
        .error (.overflow 0xFFFFFFFFFFFFFFFF 1) := by
  intro layout
  refine ⟨by decide, (layout.decodePasses_eq_error_iff _ _ _ _ _).mpr ⟨by decide, ?_⟩⟩
  exact Or.inl ⟨by decide, rfl⟩

end Layout

end SmuTelemetry
