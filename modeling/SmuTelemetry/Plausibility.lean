import SmuTelemetry.Binary32.Arithmetic

/-!
Plausibility of readings. Firmware tables hold stale and foreign numbers, so a
reading counts only inside the bounds of its quantity; a NaN lies in no bounds. The
default bounds are what real hardware produces.
-/

namespace SmuTelemetry

set_option autoImplicit false

/-- Two bounds, both included. -/
structure Bounds where
  low : Binary32
  high : Binary32
deriving DecidableEq, Repr

namespace Bounds

def contains (bounds : Bounds) (value : Binary32) : Bool :=
  decide (bounds.low ≤ value ∧ value ≤ bounds.high)

instance : Membership Binary32 Bounds :=
  ⟨fun bounds value => bounds.low ≤ value ∧ value ≤ bounds.high⟩

instance (bounds : Bounds) (value : Binary32) : Decidable (value ∈ bounds) :=
  inferInstanceAs (Decidable (bounds.low ≤ value ∧ value ≤ bounds.high))

theorem contains_iff_mem {bounds : Bounds} {value : Binary32} :
    bounds.contains value = true ↔ value ∈ bounds :=
  decide_eq_true_iff

theorem isNaN_of_mem {bounds : Bounds} {value : Binary32} (inside : value ∈ bounds) :
    value.isNaN = false :=
  inside.1.2.1

def first? (bounds : Bounds) (values : List Binary32) : Option Binary32 :=
  values.find? bounds.contains

theorem contains_of_first? {bounds : Bounds} {values : List Binary32} {value : Binary32}
    (found : bounds.first? values = some value) : bounds.contains value = true :=
  List.find?_some found

end Bounds

structure PlausibilityLimits where
  /-- Memory rails, in millivolts. -/
  voltage : Bounds := ⟨500, 3000⟩
  /-- Power, in watts. -/
  power : Bounds := ⟨.ofFraction 1 2, 400⟩
  /-- Current, in amperes. -/
  current : Bounds := ⟨.ofFraction 1 2, 200⟩
  /-- Temperatures, in degrees Celsius. -/
  temperature : Bounds := ⟨1, 150⟩
  /-- Core clocks, in gigahertz. -/
  coreClock : Bounds := ⟨.ofFraction 1 2, .ofFraction 13 2⟩
deriving DecidableEq, Repr

end SmuTelemetry
