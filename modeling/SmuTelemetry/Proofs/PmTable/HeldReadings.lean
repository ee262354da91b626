import SmuTelemetry.Configuration
import SmuTelemetry.Proofs.PmTable.PlausibleReadings

/-!
Readings and missing entries. An entry that the table does not have reads as zero, so under
bounds that contain zero it can be taken for a reading, and it can win over an entry that is
there. Under all other bounds every reading is an entry of the table and missing entries are
skipped.
-/

namespace SmuTelemetry

set_option autoImplicit false

namespace PmTable

/-- A reading that is the value of a candidate that the table holds, or the zero of one that it
does not hold where zero is plausible. Where zero is not plausible the first plausible candidate
that the table holds wins. -/
structure ReadsHeld (table : PmTable) (candidates : List Nat) (bounds : Bounds)
    (reading : Option Binary32) : Prop where
  origin : ∀ value, reading = some value →
    (∃ index ∈ candidates, table[index]? = some value) ∨
      value = 0 ∧ (0 : Binary32) ∈ bounds ∧ ∃ index ∈ candidates, table[index]? = none
  skipsMissing : (0 : Binary32) ∉ bounds →
    SelectsFirst (fun index => table[index]?) candidates bounds reading

theorem firstPlausible?_readsHeld (table : PmTable) (candidates : List Nat) (bounds : Bounds) :
    table.ReadsHeld candidates bounds (table.firstPlausible? candidates bounds) where
  origin := by
    intro value found
    obtain ⟨before, index, after, split, read, inside, -⟩ :=
      ((table.firstPlausible?_selectsFirst candidates bounds).chosen value).mp found
    have candidate : index ∈ candidates := by
      rw [split]
      exact List.mem_append_right _ List.mem_cons_self
    have same : table[index]?.getD 0 = value := Option.some.inj read
    cases held : table[index]? with
    | some present =>
        rw [held, Option.getD_some] at same
        exact Or.inl ⟨index, candidate, by rw [held, same]⟩
    | none =>
        rw [held, Option.getD_none] at same
        subst same
        exact Or.inr ⟨rfl, inside, index, candidate, held⟩
  skipsMissing := table.firstPlausible?_selectsFirst_held candidates

def FromDieSensors (table : PmTable) (reading : Option Binary32) : Prop :=
  ∃ first second, table[448]? = some first ∧ table[449]? = some second ∧
    (reading = some first ∨ reading = some second ∨
      reading = some ((first + second) * .ofFraction 1 2))

theorem cpuTemperature?_readsHeld (bounds : Bounds) (table : PmTable) :
    table.FromDieSensors (table.cpuTemperature? bounds (table.dieTemperature? bounds)) ∨
      table.ReadsHeld temperatureCandidates bounds
        (table.cpuTemperature? bounds (table.dieTemperature? bounds)) := by
  rcases cpuTemperature?_cases bounds table (table.dieTemperature? bounds) with
    ⟨sensed, die, -, taken⟩ | chosen
  · obtain ⟨first, second, firstHeld, secondHeld, origin⟩ := dieTemperature?_eq_some die
    refine Or.inl ⟨first, second, firstHeld, secondHeld, ?_⟩
    rcases origin with ⟨rfl, -⟩ | ⟨rfl, -⟩ | ⟨rfl, -⟩
    · exact Or.inl taken
    · exact Or.inr (Or.inl taken)
    · exact Or.inr (Or.inr taken)
  · rw [chosen]
    exact Or.inr (table.firstPlausible?_readsHeld temperatureCandidates bounds)

end PmTable

namespace Layout

/-- The entries that a list names for the hotspot, last first, and then the shared one. A slot
counts entries, or bytes of four to an entry. -/
def hotspotEntries (named : List NamedSlot) (addressing : Addressing) : List Nat :=
  ((named.filter fun slot => slot.field = .iodHotspot).map fun slot =>
    match addressing with
    | .floatIndex => slot.slot
    | .byteOffset => slot.slot / 4).reverse ++ [11]

theorem hotspotCandidates_eq (named : List NamedSlot) (addressing : Addressing) :
    hotspotCandidates named addressing = hotspotEntries named addressing := by
  cases addressing <;> rfl

structure ReadsHeld (layout : Layout) (named : List NamedSlot) (addressing : Addressing)
    (limits : PlausibilityLimits) (table : PmTable) (metrics : Metrics) : Prop where
  ppt : table.ReadsHeld [layout.pptIndex, 3, 1, 13, 29, 5, 38] limits.power metrics.ppt
  packagePower : table.ReadsHeld [layout.socketPowerIndex, 29, 1, 13, 38, 5, 220, 187, 42, 0]
    limits.power metrics.packagePower
  packageCurrent : table.ReadsHeld [41, 46, 3, 10, 11, 4] limits.current metrics.packageCurrent
  iodHotspot : table.ReadsHeld (hotspotEntries named addressing) limits.temperature
    metrics.iodHotspot
  cpuTemp : table.FromDieSensors metrics.cpuTemp ∨
    table.ReadsHeld [1, 448, 449] limits.temperature metrics.cpuTemp

theorem decode_readsHeld (layout : Layout) (named : List NamedSlot) (addressing : Addressing)
    (limits : PlausibilityLimits) (table : PmTable) (fit : layout.WindowsFit)
    (long : 4 ≤ table.length) :
    ∃ metrics, layout.decode named addressing limits table = .ok metrics ∧
      layout.ReadsHeld named addressing limits table metrics := by
  refine ⟨_, decode_of_windowsFit fit named addressing limits long, ?_⟩
  exact {
    ppt := table.firstPlausible?_readsHeld _ _
    packagePower := table.firstPlausible?_readsHeld _ _
    packageCurrent := table.firstPlausible?_readsHeld _ _
    iodHotspot := by
      rw [iodHotspot_readings, hotspotCandidates_eq]
      exact table.firstPlausible?_readsHeld _ _
    cpuTemp := PmTable.cpuTemperature?_readsHeld limits.temperature table }

/-- Four entries under the default bounds, which exclude zero: only the second one is a
plausible power, and it is reported because the preferred entries are missing. -/
theorem decode_readsHeld_of_short_table :
    let table : PmTable := [500, 100, 500, 500]
    graniteRidge.WindowsFit ∧ 4 ≤ table.length ∧
      ∃ metrics, graniteRidge.decode graniteRidge.named .floatIndex {} table = .ok metrics ∧
        graniteRidge.ReadsHeld graniteRidge.named .floatIndex {} table metrics ∧
        metrics.packagePower = some 100 := by
  intro table
  have fit : graniteRidge.WindowsFit := ⟨by decide, by decide⟩
  have long : 4 ≤ table.length := by decide
  obtain ⟨metrics, decoded, held⟩ :=
    decode_readsHeld graniteRidge graniteRidge.named .floatIndex {} table fit long
  have excluded : (0 : Binary32) ∉ ({} : PlausibilityLimits).power := by decide +kernel
  have skipped : ∀ earlier ∈ [29, 29], ∀ other, table[earlier]? = some other →
      other ∉ ({} : PlausibilityLimits).power := by
    simp [table]
  have chosen := ((held.packagePower.skipsMissing excluded).chosen 100).mpr
    ⟨[29, 29], 1, [13, 38, 5, 220, 187, 42, 0], rfl, rfl, by decide +kernel, skipped⟩
  exact ⟨fit, long, metrics, decoded, held, chosen⟩

/-- Bounds on power that contain zero, as a configuration may set them. -/
def idlePowerSettings : Settings := fun key =>
  if key = Configuration.powerKey then some "0:400" else none

/-- The same table under those bounds: the package power is zero, which no entry of the table
is, although an entry of 100 W is among the candidates. -/
theorem missing_entry_wins_of_zero_plausible :
    let table : PmTable := [500, 100, 500, 500]
    let limits : PlausibilityLimits := { power := ⟨0, 400⟩ }
    Configuration.ofSettings idlePowerSettings = .ok { limits := limits } ∧
      (graniteRidge.decode graniteRidge.named .floatIndex limits table).map
        (·.packagePower) = .ok (some 0) ∧
      (0 : Binary32) ∉ table ∧
      1 ∈ [graniteRidge.socketPowerIndex, 29, 1, 13, 38, 5, 220, 187, 42, 0] ∧
      table[1]? = some 100 ∧ (100 : Binary32) ∈ limits.power := by
  intro table limits
  have fit : graniteRidge.WindowsFit := ⟨by decide, by decide⟩
  have won : table.firstPlausible? (graniteRidge.socketPowerIndex :: PmTable.powerCandidates)
      limits.power = some 0 := by decide +kernel
  have decoded := decode_of_windowsFit fit graniteRidge.named .floatIndex limits
    (show 4 ≤ table.length by decide)
  rw [decoded]
  exact ⟨rfl, congrArg Except.ok won, by decide +kernel, by decide, rfl, by decide +kernel⟩

end Layout

end SmuTelemetry
