import SmuTelemetry.PmTable.Layout
import SmuTelemetry.Plausibility

/-!
Metrics of one power-management table. Rails and fabric clocks are the slot values
as they stand, zero where the table has no such slot. Every other scalar is present
only if it passed its check, so a rejected reading differs from a real zero.
-/

namespace SmuTelemetry

set_option autoImplicit false

structure Metrics where
  packagePower : Option Binary32 := none
  ppt : Option Binary32 := none
  packageCurrent : Option Binary32 := none
  vcore : Binary32 := Binary32.zero
  vsoc : Binary32 := Binary32.zero
  vddp : Binary32 := Binary32.zero
  vddgCcd : Binary32 := Binary32.zero
  vddgIod : Binary32 := Binary32.zero
  vddMisc : Binary32 := Binary32.zero
  vid : Option Binary32 := none
  coreClock : Option Binary32 := none
  fclk : Binary32 := Binary32.zero
  uclk : Binary32 := Binary32.zero
  mclk : Binary32 := Binary32.zero
  bclk : Option Binary32 := none
  coreClocks : CoreArray := .empty
  cpuTemp : Option Binary32 := none
  coreTemps : CoreArray := .empty
  tdie : Option Binary32 := none
  iodHotspot : Option Binary32 := none
  coreVoltages : CoreArray := .empty
  coreUsage : CoreArray := .empty
  coreFrequencies : CoreArray := .empty
deriving DecidableEq

abbrev PmTable := List Binary32

namespace PmTable

/-- Shorter tables hold no telemetry. -/
def minLength : Nat := 4

def entry (table : PmTable) (index : Nat) : Binary32 := table.getD index Binary32.zero

def firstPlausible? (table : PmTable) (indices : List Nat) (bounds : Bounds) : Option Binary32 :=
  bounds.first? (indices.map table.entry)

def window? (table : PmTable) (start count : Nat) : Option (List Binary32) :=
  if start + count ≤ table.length then some ((table.drop start).take count) else none

/-- The entries of a window as per-core readings; an incomplete window has none. -/
def coreWindow (table : PmTable) (start count : Nat) : CoreArray :=
  match table.window? start count with
  | some readings => CoreArray.ofList readings
  | none => CoreArray.empty

end PmTable

namespace Metrics

/-- Stores the value of a named slot; an implausible hotspot is left out. -/
def assign (limits : PlausibilityLimits) (field : MetricField) (value : Binary32)
    (metrics : Metrics) : Metrics :=
  match field with
  | .fclk => { metrics with fclk := value }
  | .uclk => { metrics with uclk := value }
  | .mclk => { metrics with mclk := value }
  | .vsoc => { metrics with vsoc := value }
  | .vddp => { metrics with vddp := value }
  | .vddgIod => { metrics with vddgIod := value }
  | .vddgCcd => { metrics with vddgCcd := value }
  | .vddMisc => { metrics with vddMisc := value }
  | .vcore => { metrics with vcore := value }
  | .iodHotspot =>
      if limits.temperature.contains value then { metrics with iodHotspot := some value }
      else metrics

/-- Stores every named slot in list order, so the last entry of a field prevails. -/
def assignNamed (limits : PlausibilityLimits) (named : List NamedSlot) (addressing : Addressing)
    (table : PmTable) (metrics : Metrics) : Metrics :=
  named.foldl
    (fun metrics slot => metrics.assign limits slot.field (table.entry (slot.index addressing)))
    metrics

end Metrics

end SmuTelemetry
