import SmuTelemetry.Proofs.PmTable.NamedSlots

/-!
The newest family is described twice: by byte offsets for its own silicon, and by entry
numbers for every table whose version is not catalogued. Both descriptions decode every
table to the same record. Only the entry numbers name the hotspot, which the byte offsets
leave to the shared fallback.
-/

namespace SmuTelemetry

set_option autoImplicit false

namespace PmFamily

theorem ofVersion_of_not_catalogued {version : UInt32}
    (absent : version ∉ catalogue.map Prod.fst) : ofVersion version = graniteRidge := by
  have missing : catalogued? version = none := by
    rw [catalogued?, List.lookup_eq_none_iff]
    intro entry member
    have different : version ≠ entry.1 := by
      intro same
      exact absent (same ▸ List.mem_map_of_mem member)
    simpa using different
  rw [ofVersion, missing]
  rfl

end PmFamily

namespace Layout

def hotspotByteOffset : NamedSlot := ⟨4 * PmTable.iodHotspotIndex, .iodHotspot⟩

theorem graniteRidge_targets_perm :
    (Metrics.targets (graniteRidgeByteOffsets ++ [hotspotByteOffset]) .byteOffset).Perm
      (Metrics.targets graniteRidge.named .floatIndex) := by
  decide

theorem graniteRidge_readings_agree (limits : PlausibilityLimits) (table : PmTable) :
    graniteRidge.readings graniteRidgeByteOffsets .byteOffset limits table =
      graniteRidge.readings graniteRidge.named .floatIndex limits table := by
  calc
    graniteRidge.readings graniteRidgeByteOffsets .byteOffset limits table
    _ = graniteRidge.readings (graniteRidgeByteOffsets ++ [hotspotByteOffset]) .byteOffset limits
          table :=
      (readings_append_shared_hotspot graniteRidge graniteRidgeByteOffsets .byteOffset limits
        table hotspotByteOffset rfl rfl (by decide)).symm
    _ = graniteRidge.readings graniteRidge.named .floatIndex limits table :=
      graniteRidge.readings_congr limits table
        (Metrics.assignNamed_of_perm limits table {} graniteRidge_targets_perm (by decide))

end Layout

namespace PmTable

/-- The version does not matter on silicon with byte offsets, and the silicon does not matter
for a version without a layout of its own. -/
theorem decode_graniteRidge_addressings_agree (limits : PlausibilityLimits) (table : PmTable)
    (version uncatalogued : UInt32) (codename : Codename)
    (absent : uncatalogued ∉ PmFamily.catalogue.map Prod.fst)
    (other : codename ≠ .graniteRidge) :
    decode limits version .graniteRidge table = decode limits uncatalogued codename table := by
  have byIndex : codename.usesByteOffsets = false := by
    rw [Codename.usesByteOffsets, beq_eq_false_iff_ne]
    exact other
  have layout : Layout.ofVersion uncatalogued = Layout.graniteRidge := by
    rw [Layout.ofVersion, PmFamily.ofVersion_of_not_catalogued absent]
    rfl
  have byOffset : Codename.graniteRidge.usesByteOffsets = true := rfl
  simp only [decode, byOffset, byIndex, layout, Layout.metrics,
    Layout.graniteRidge_readings_agree]
  rfl

/-- A catalogued version on the newest silicon, against version zero on an older one, for a
table that ends just past the hotspot and holds a NaN. -/
theorem decode_short_table_addressings_agree :
    let table : PmTable := List.replicate 11 Binary32.nan ++ [55]
    (0 : UInt32) ∉ PmFamily.catalogue.map Prod.fst ∧ Codename.raphael ≠ .graniteRidge ∧
      decode {} 0x00380804 .graniteRidge table = decode {} 0 .raphael table :=
  ⟨by decide, by decide,
    decode_graniteRidge_addressings_agree {} _ 0x00380804 0 .raphael (by decide) (by decide)⟩

end PmTable

end SmuTelemetry
