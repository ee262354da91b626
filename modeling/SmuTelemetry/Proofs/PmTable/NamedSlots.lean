import Mathlib
import SmuTelemetry.PmTable.Decoder

/-!
The pass over named slots. Slots of different fields may be stored in any order, and a
slot that names the shared hotspot entry adds nothing to a list without a hotspot,
because the later fallback looks at the same entry.
-/

namespace SmuTelemetry

set_option autoImplicit false

namespace Metrics

theorem assign_iodHotspot (limits : PlausibilityLimits) (metrics : Metrics) (value : Binary32) :
    metrics.assign limits .iodHotspot value =
      { metrics with
        iodHotspot :=
          if limits.temperature.contains value then some value else metrics.iodHotspot } := by
  simp only [assign]
  split <;> rfl

theorem assign_swap (limits : PlausibilityLimits) (metrics : Metrics)
    {first second : MetricField} (different : first ≠ second) (value other : Binary32) :
    (metrics.assign limits first value).assign limits second other =
      (metrics.assign limits second other).assign limits first value := by
  cases first <;> cases second <;>
    first
    | exact absurd rfl different
    | rfl
    | (rw [assign_iodHotspot, assign_iodHotspot]; rfl)

theorem assign_iodHotspot_of_ne (limits : PlausibilityLimits) (metrics : Metrics)
    {field : MetricField} (other : field ≠ .iodHotspot) (value : Binary32) :
    (metrics.assign limits field value).iodHotspot = metrics.iodHotspot := by
  cases field <;> first | rfl | exact absurd rfl other

def targets (named : List NamedSlot) (addressing : Addressing) : List (Nat × MetricField) :=
  named.map fun slot => (slot.index addressing, slot.field)

theorem assignNamed_eq_targets (limits : PlausibilityLimits) (named : List NamedSlot)
    (addressing : Addressing) (table : PmTable) (metrics : Metrics) :
    assignNamed limits named addressing table metrics =
      (targets named addressing).foldl
        (fun metrics target => metrics.assign limits target.2 (table.entry target.1))
        metrics := by
  rw [targets, List.foldl_map, assignNamed]

/-- Lists that name each field once, with the same entries for the same fields, give the same
record, whatever their order and addressing. -/
theorem assignNamed_of_perm (limits : PlausibilityLimits) {named other : List NamedSlot}
    {addressing otherAddressing : Addressing} (table : PmTable) (metrics : Metrics)
    (same : (targets named addressing).Perm (targets other otherAddressing))
    (once : ((targets named addressing).map Prod.snd).Nodup) :
    assignNamed limits named addressing table metrics =
      assignNamed limits other otherAddressing table metrics := by
  rw [assignNamed_eq_targets, assignNamed_eq_targets]
  refine same.foldl_eq' ?_ metrics
  intro first firstMember second secondMember metrics
  by_cases field : first.2 = second.2
  · have equal := List.inj_on_of_nodup_map once firstMember secondMember field
    rw [equal]
  · exact assign_swap limits metrics field _ _

theorem assignNamed_iodHotspot_of_absent (limits : PlausibilityLimits) (named : List NamedSlot)
    (addressing : Addressing) (table : PmTable) (metrics : Metrics)
    (absent : ∀ slot ∈ named, slot.field ≠ .iodHotspot) :
    (assignNamed limits named addressing table metrics).iodHotspot = metrics.iodHotspot := by
  induction named generalizing metrics with
  | nil => rfl
  | cons slot rest ih =>
      rw [List.forall_mem_cons] at absent
      rw [assignNamed, List.foldl_cons]
      rw [← assign_iodHotspot_of_ne limits metrics absent.1]
      exact ih _ absent.2

end Metrics

namespace PmTable

theorem hotspot?_of_shared (limits : PlausibilityLimits) (table : PmTable) (metrics : Metrics)
    (absent : metrics.iodHotspot = none) :
    table.hotspot? limits.temperature
        (metrics.assign limits .iodHotspot (table.entry iodHotspotIndex)).iodHotspot =
      table.hotspot? limits.temperature metrics.iodHotspot := by
  rw [Metrics.assign_iodHotspot, absent]
  by_cases inside : limits.temperature.contains (table.entry iodHotspotIndex)
  · simp [hotspot?, Option.filter, inside]
  · simp [inside]

end PmTable

namespace Layout

theorem readings_congr (layout : Layout) {named other : List NamedSlot}
    {addressing otherAddressing : Addressing} (limits : PlausibilityLimits) (table : PmTable)
    (same : Metrics.assignNamed limits named addressing table {} =
      Metrics.assignNamed limits other otherAddressing table {}) :
    layout.readings named addressing limits table =
      layout.readings other otherAddressing limits table := by
  simp only [readings, same]

/-- A last slot that names the shared hotspot entry changes nothing. -/
theorem readings_append_shared_hotspot (layout : Layout) (named : List NamedSlot)
    (addressing : Addressing) (limits : PlausibilityLimits) (table : PmTable)
    (shared : NamedSlot) (field : shared.field = .iodHotspot)
    (place : shared.index addressing = PmTable.iodHotspotIndex)
    (absent : ∀ slot ∈ named, slot.field ≠ .iodHotspot) :
    layout.readings (named ++ [shared]) addressing limits table =
      layout.readings named addressing limits table := by
  let rails := Metrics.assignNamed limits named addressing table {}
  have stored : Metrics.assignNamed limits (named ++ [shared]) addressing table {} =
      rails.assign limits .iodHotspot (table.entry PmTable.iodHotspotIndex) := by
    simp only [Metrics.assignNamed, List.foldl_append, List.foldl_cons, List.foldl_nil, field,
      place, rails]
  have none : rails.iodHotspot = none :=
    Metrics.assignNamed_iodHotspot_of_absent limits named addressing table {} absent
  have fallback := PmTable.hotspot?_of_shared limits table rails none
  simp only [readings, stored, fallback]
  rw [Metrics.assign_iodHotspot]

end Layout

end SmuTelemetry
