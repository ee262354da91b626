import SmuTelemetry.Proofs.PmTable.NamedSlots

/-!
What the pass over named slots leaves in each field. A field holds the last accepted value
among the slots that name it: rails and clocks accept every value, the hotspot only a
plausible one. Every other slot is without influence on the field.
-/

namespace SmuTelemetry

set_option autoImplicit false

namespace Metrics

/-- The value that a field holds; of the named fields only the hotspot may hold none. -/
def reading (metrics : Metrics) : MetricField → Option Binary32
  | .fclk => some metrics.fclk
  | .uclk => some metrics.uclk
  | .mclk => some metrics.mclk
  | .vsoc => some metrics.vsoc
  | .vddp => some metrics.vddp
  | .vddgIod => some metrics.vddgIod
  | .vddgCcd => some metrics.vddgCcd
  | .vddMisc => some metrics.vddMisc
  | .vcore => some metrics.vcore
  | .iodHotspot => metrics.iodHotspot

def accepted? (limits : PlausibilityLimits) (field : MetricField) (value : Binary32) :
    Option Binary32 :=
  if field = .iodHotspot then Option.guard limits.temperature.contains value else some value

theorem reading_assign_self (limits : PlausibilityLimits) (metrics : Metrics)
    (field : MetricField) (value : Binary32) :
    (metrics.assign limits field value).reading field =
      (accepted? limits field value).or (metrics.reading field) := by
  cases field with
  | iodHotspot =>
      rw [assign_iodHotspot]
      by_cases inside : limits.temperature.contains value
      · simp [reading, accepted?, Option.guard, inside]
      · simp [reading, accepted?, Option.guard, inside]
  | fclk | uclk | mclk | vsoc | vddp | vddgIod | vddgCcd | vddMisc | vcore => rfl

theorem reading_assign_of_ne (limits : PlausibilityLimits) (metrics : Metrics)
    {field other : MetricField} (different : field ≠ other) (value : Binary32) :
    (metrics.assign limits field value).reading other = metrics.reading other := by
  cases field with
  | iodHotspot =>
      rw [assign_iodHotspot]
      cases other <;> first | rfl | exact absurd rfl different
  | fclk | uclk | mclk | vsoc | vddp | vddgIod | vddgCcd | vddMisc | vcore =>
      cases other <;> first | rfl | exact absurd rfl different

end Metrics

namespace NamedSlot

/-- The table entries that a list names for a field, last first. -/
def indicesOf (named : List NamedSlot) (addressing : Addressing) (field : MetricField) :
    List Nat :=
  ((named.filter fun slot => slot.field = field).map fun slot => slot.index addressing).reverse

theorem indicesOf_cons (slot : NamedSlot) (rest : List NamedSlot) (addressing : Addressing)
    (field : MetricField) :
    indicesOf (slot :: rest) addressing field =
      indicesOf rest addressing field ++
        if slot.field = field then [slot.index addressing] else [] := by
  by_cases same : slot.field = field
  · simp [indicesOf, same]
  · simp [indicesOf, same]

theorem mem_indicesOf {named : List NamedSlot} {addressing : Addressing} {field : MetricField}
    {index : Nat} :
    index ∈ indicesOf named addressing field ↔
      ∃ slot ∈ named, slot.field = field ∧ slot.index addressing = index := by
  simp [indicesOf, and_assoc]

end NamedSlot

namespace Metrics

/-- After the pass a field holds the last accepted value among its slots, or what it held
before. -/
theorem reading_assignNamed (limits : PlausibilityLimits) (named : List NamedSlot)
    (addressing : Addressing) (table : PmTable) (metrics : Metrics) (field : MetricField) :
    (assignNamed limits named addressing table metrics).reading field =
      (((NamedSlot.indicesOf named addressing field).map table.entry).findSome?
        (accepted? limits field)).or (metrics.reading field) := by
  induction named generalizing metrics with
  | nil => rfl
  | cons slot rest ih =>
      have step : assignNamed limits (slot :: rest) addressing table metrics =
          assignNamed limits rest addressing table
            (metrics.assign limits slot.field (table.entry (slot.index addressing))) := rfl
      -- The rest of the list is stored later, so its candidates come before this slot.
      rw [step, ih, NamedSlot.indicesOf_cons, List.map_append, List.findSome?_append,
        Option.or_assoc]
      by_cases same : slot.field = field
      · subst same
        rw [reading_assign_self, if_pos rfl, List.map_singleton, List.findSome?_singleton]
      · rw [reading_assign_of_ne limits metrics same, if_neg same, List.map_nil,
          List.findSome?_nil, Option.none_or]

def unnamed (metrics : Metrics) : Metrics :=
  { metrics with
    fclk := Binary32.zero, uclk := Binary32.zero, mclk := Binary32.zero
    vsoc := Binary32.zero, vddp := Binary32.zero, vddgIod := Binary32.zero
    vddgCcd := Binary32.zero, vddMisc := Binary32.zero, vcore := Binary32.zero
    iodHotspot := none }

theorem unnamed_assign (limits : PlausibilityLimits) (metrics : Metrics) (field : MetricField)
    (value : Binary32) : (metrics.assign limits field value).unnamed = metrics.unnamed := by
  cases field with
  | iodHotspot => rw [assign_iodHotspot]; rfl
  | fclk | uclk | mclk | vsoc | vddp | vddgIod | vddgCcd | vddMisc | vcore => rfl

theorem unnamed_assignNamed (limits : PlausibilityLimits) (named : List NamedSlot)
    (addressing : Addressing) (table : PmTable) (metrics : Metrics) :
    (assignNamed limits named addressing table metrics).unnamed = metrics.unnamed := by
  induction named generalizing metrics with
  | nil => rfl
  | cons slot rest ih => exact (ih _).trans (unnamed_assign limits metrics _ _)

theorem bclk_assignNamed (limits : PlausibilityLimits) (named : List NamedSlot)
    (addressing : Addressing) (table : PmTable) (metrics : Metrics) :
    (assignNamed limits named addressing table metrics).bclk = metrics.bclk := by
  have kept := congrArg bclk (unnamed_assignNamed limits named addressing table metrics)
  exact kept

theorem reading_assignNamed_congr (limits : PlausibilityLimits) {named : List NamedSlot}
    {addressing : Addressing} {table other : PmTable} (metrics : Metrics) {field : MetricField}
    (agree : ∀ index ∈ NamedSlot.indicesOf named addressing field,
      table.entry index = other.entry index) :
    (assignNamed limits named addressing table metrics).reading field =
      (assignNamed limits named addressing other metrics).reading field := by
  rw [reading_assignNamed, reading_assignNamed, List.map_congr_left agree]

end Metrics

namespace Layout

/-- Of the named fields only the hotspot has a later fallback. -/
theorem reading_readings (layout : Layout) (named : List NamedSlot) (addressing : Addressing)
    (limits : PlausibilityLimits) (table : PmTable) {field : MetricField}
    (other : field ≠ .iodHotspot) :
    (layout.readings named addressing limits table).reading field =
      (Metrics.assignNamed limits named addressing table {}).reading field := by
  cases field <;> first | rfl | exact absurd rfl other

def hotspotCandidates (named : List NamedSlot) (addressing : Addressing) : List Nat :=
  NamedSlot.indicesOf named addressing .iodHotspot ++ [PmTable.iodHotspotIndex]

theorem iodHotspot_readings (layout : Layout) (named : List NamedSlot) (addressing : Addressing)
    (limits : PlausibilityLimits) (table : PmTable) :
    (layout.readings named addressing limits table).iodHotspot =
      table.firstPlausible? (hotspotCandidates named addressing) limits.temperature := by
  have pass := Metrics.reading_assignNamed limits named addressing table {} .iodHotspot
  have accepts : Metrics.accepted? limits .iodHotspot =
      Option.guard limits.temperature.contains := rfl
  -- What the pass leaves is the choice among the named candidates; the fallback is the last one.
  rw [accepts, List.findSome?_guard, Metrics.reading, Metrics.reading, Option.or_none] at pass
  rw [PmTable.firstPlausible?, Bounds.first?, hotspotCandidates, List.map_append,
    List.find?_append, ← pass, List.map_singleton, List.find?_singleton, ← Option.filter_some]
  rfl

theorem reading_metrics_congr (layout : Layout) {named : List NamedSlot}
    {addressing : Addressing} (limits : PlausibilityLimits) {table other : PmTable}
    {field : MetricField} (sameLength : table.length = other.length)
    (agree : ∀ index ∈ NamedSlot.indicesOf named addressing field,
      table.entry index = other.entry index)
    (fallback : field = .iodHotspot →
      table.entry PmTable.iodHotspotIndex = other.entry PmTable.iodHotspotIndex) :
    (layout.metrics named addressing limits table).reading field =
      (layout.metrics named addressing limits other).reading field := by
  rw [metrics, metrics, sameLength]
  split
  next => rfl
  next =>
    by_cases hotspot : field = .iodHotspot
    · subst hotspot
      have candidates : ∀ index ∈ hotspotCandidates named addressing,
          table.entry index = other.entry index := by
        intro index member
        rcases List.mem_append.mp member with own | shared
        · exact agree index own
        · rw [List.mem_singleton.mp shared]
          exact fallback rfl
      rw [Metrics.reading, Metrics.reading, iodHotspot_readings, iodHotspot_readings,
        PmTable.firstPlausible?, PmTable.firstPlausible?, List.map_congr_left candidates]
    · rw [reading_readings layout named addressing limits table hotspot,
        reading_readings layout named addressing limits other hotspot]
      exact Metrics.reading_assignNamed_congr limits {} agree

end Layout

end SmuTelemetry
