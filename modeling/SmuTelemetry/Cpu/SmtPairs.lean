import SmuTelemetry.PmTable.CoreArray
import SmuTelemetry.Binary32.Arithmetic

/-!
Folding of logical processors into cores. Two consecutive logical processors share a
core, and a core's reading is the mean over those of the two that count.
-/

namespace SmuTelemetry

set_option autoImplicit false

namespace SmtPairs

def siblings (logical : List Binary32) (core : Nat) : List Binary32 :=
  (logical.drop (2 * core)).take 2

/-- The readings that count: all of them, or only the positive ones. -/
def kept (positiveOnly : Bool) (readings : List Binary32) : List Binary32 :=
  readings.filter fun reading => !positiveOnly || decide (0 < reading)

def mean (readings : List Binary32) : Binary32 :=
  if readings.isEmpty then 0
  else readings.foldl (fun sum reading => sum + reading) 0 / Binary32.ofNat readings.length

def coreCount (logical : List Binary32) : Nat := min ((logical.length + 1) / 2) maxCores

def fold (positiveOnly : Bool) (logical : List Binary32) : CoreArray :=
  CoreArray.ofList ((List.range (coreCount logical)).map fun core =>
    mean (kept positiveOnly (siblings logical core)))

end SmtPairs

end SmuTelemetry
