import SmuTelemetry.PmTable.Metrics
import SmuTelemetry.Codename

/-!
Decoding of a power-management table. The named slots of a layout give rails and
clocks; ordered lists of candidate slots, shared by all families, give power, current
and temperature, where the first plausible candidate wins. The newest family reads its
rails by byte offset and everything else through its own layout.
-/

namespace SmuTelemetry

set_option autoImplicit false

namespace PmTable

/-- Entry of the hotspot on every family that names no other. -/
def iodHotspotIndex : Nat := 11

def dieSensors : Nat × Nat := (448, 449)

def coreClockStart : Nat := 325

def pptCandidates : List Nat := [3, 1, 13, 29, 5, 38]
def powerCandidates : List Nat := [29, 1, 13, 38, 5, 220, 187, 42, 0]
def currentCandidates : List Nat := [41, 46, 3, 10, 11, 4]
def temperatureCandidates : List Nat := [1, 448, 449]

/-- The die temperature: the first plausible sensor, else the mean of two positive ones. -/
def dieTemperature? (bounds : Bounds) (table : PmTable) : Option Binary32 :=
  match table[dieSensors.1]?, table[dieSensors.2]? with
  | some first, some second =>
      if bounds.contains first then some first
      else if bounds.contains second then some second
      else if 0 < first ∧ 0 < second then some ((first + second) * .ofFraction 1 2)
      else none
  | _, _ => none

/-- The hotspot that a named slot gave, else the shared entry when it is plausible. -/
def hotspot? (bounds : Bounds) (table : PmTable) (named : Option Binary32) : Option Binary32 :=
  named.or (some (table.entry iodHotspotIndex) |>.filter bounds.contains)

def fastestClock? (bounds : Bounds) (clocks : CoreArray) : Option Binary32 :=
  (clocks.max?.filter bounds.contains).map fun gigahertz => gigahertz * 1000

/-- The processor temperature: a positive die temperature, else a candidate entry. -/
def cpuTemperature? (bounds : Bounds) (table : PmTable) (die : Option Binary32) :
    Option Binary32 :=
  match die with
  | some temperature =>
      if 0 < temperature then some temperature
      else table.firstPlausible? temperatureCandidates bounds
  | none => table.firstPlausible? temperatureCandidates bounds

end PmTable

inductive LayoutFault where
  /-- The end of a per-core window is not a 64-bit index. -/
  | windowEnd (start : Nat)
deriving DecidableEq, Repr

namespace Layout

def readings (layout : Layout) (named : List NamedSlot) (addressing : Addressing)
    (limits : PlausibilityLimits) (table : PmTable) : Metrics :=
  let rails := Metrics.assignNamed limits named addressing table {}
  let vid := table.entry layout.vidIndex
  let die := table.dieTemperature? limits.temperature
  let clocks := table.coreWindow PmTable.coreClockStart maxCores
  { rails with
    coreTemps := table.coreWindow layout.coreTempStart layout.cores
    coreVoltages := table.coreWindow layout.coreVoltageStart layout.cores
    vid := if 0 < vid then some vid else none
    ppt := table.firstPlausible? (layout.pptIndex :: PmTable.pptCandidates) limits.power
    packagePower :=
      table.firstPlausible? (layout.socketPowerIndex :: PmTable.powerCandidates) limits.power
    packageCurrent := table.firstPlausible? PmTable.currentCandidates limits.current
    tdie := die
    coreClocks := clocks
    iodHotspot := table.hotspot? limits.temperature rails.iodHotspot
    coreClock := PmTable.fastestClock? limits.coreClock clocks
    cpuTemp := table.cpuTemperature? limits.temperature die }

/-- The metrics of a table under a layout whose windows are 64-bit indices. -/
def metrics (layout : Layout) (named : List NamedSlot) (addressing : Addressing)
    (limits : PlausibilityLimits) (table : PmTable) : Metrics :=
  if table.length < PmTable.minLength then {}
  else layout.readings named addressing limits table

def badWindow? (layout : Layout) : Option Nat :=
  [layout.coreTempStart, layout.coreVoltageStart].find? fun start =>
    !decide (start + layout.cores < Bytes.addressLimit)

/-- The metrics of a table under any layout; a window end that is not a 64-bit index is a
fault of the layout. -/
def decode (layout : Layout) (named : List NamedSlot) (addressing : Addressing)
    (limits : PlausibilityLimits) (table : PmTable) : Except LayoutFault Metrics :=
  if table.length < PmTable.minLength then .ok {}
  else match layout.badWindow? with
    | some start => .error (.windowEnd start)
    | none => .ok (layout.readings named addressing limits table)

end Layout

namespace PmTable

def decode (limits : PlausibilityLimits) (version : UInt32) (codename : Codename)
    (table : PmTable) : Metrics :=
  if codename.usesByteOffsets then
    Layout.graniteRidge.metrics Layout.graniteRidgeByteOffsets .byteOffset limits table
  else
    let layout := Layout.ofVersion version
    layout.metrics layout.named .floatIndex limits table

end PmTable

end SmuTelemetry
