import SmuTelemetry.Proofs.PmTable.NamedReadings

/-!
Independence of the named slots. A new value in a named slot of the table changes the field
that the slot names and no other named field. One catalogued table breaks the rule: the
Raven Ridge layout names the same slot twice, as the core voltage and as the hotspot.
-/

namespace SmuTelemetry

set_option autoImplicit false

namespace PmTable

theorem entry_set_of_ne (table : PmTable) {index other : Nat} (different : index ≠ other)
    (value : Binary32) : PmTable.entry (table.set index value) other = table.entry other := by
  simp only [entry, List.getD_eq_getElem?_getD, List.getElem?_set_ne different]

end PmTable

namespace PmFamily

theorem mem_catalogue {version : UInt32} {family : PmFamily}
    (known : catalogued? version = some family) : (version, family) ∈ catalogue := by
  obtain ⟨before, after, tagged, -⟩ := List.lookup_eq_some_iff.mp known
  rw [tagged]
  exact List.mem_append_right _ List.mem_cons_self

end PmFamily

namespace Layout

/-- The version tag whose table names one slot twice, and that slot. -/
def ravenVersion : UInt32 := 0x001E0004

def ravenSharedSlot : Nat := 61

def HoldsTwoFields (version : UInt32) (slot : Nat) : Prop :=
  version = ravenVersion ∧ slot = ravenSharedSlot

instance (version : UInt32) (slot : Nat) : Decidable (HoldsTwoFields version slot) :=
  inferInstanceAs (Decidable (_ ∧ _))

/-- What a layout must satisfy so that its slots are independent: slots of one number name one
field, apart from the shared slot, and only the hotspot is named where its fallback lies. -/
def SlotsDistinct (version : UInt32) (layout : Layout) : Prop :=
  ∀ entry ∈ layout.named,
    (∀ other ∈ layout.named, other.slot = entry.slot →
      other.field = entry.field ∨
        HoldsTwoFields version entry.slot ∧ other.field ∈ [MetricField.iodHotspot, .vcore]) ∧
    (entry.slot = PmTable.iodHotspotIndex → entry.field = .iodHotspot)

instance (version : UInt32) (layout : Layout) : Decidable (SlotsDistinct version layout) :=
  inferInstanceAs (Decidable (∀ entry ∈ layout.named, _ ∧ _))

theorem catalogue_slotsDistinct :
    ∀ tagged ∈ PmFamily.catalogue, SlotsDistinct tagged.1 tagged.2.layout := by
  decide +kernel

theorem graniteRidge_slotsDistinct (version : UInt32) : SlotsDistinct version graniteRidge := by
  have newest : SlotsDistinct 0 graniteRidge := by decide
  intro entry member
  obtain ⟨distinct, fallback⟩ := newest entry member
  refine ⟨fun other otherMember same => ?_, fallback⟩
  rcases distinct other otherMember same with own | shared
  · exact Or.inl own
  · exact absurd shared.1.1 (by decide)

theorem ofVersion_slotsDistinct (version : UInt32) :
    SlotsDistinct version (ofVersion version) := by
  rw [ofVersion, PmFamily.ofVersion]
  cases known : PmFamily.catalogued? version with
  | none => exact graniteRidge_slotsDistinct version
  | some family => exact catalogue_slotsDistinct (version, family) (PmFamily.mem_catalogue known)

end Layout

namespace PmTable

/-- A slot names one field, and the ten named fields keep their readings when the slot gets a
new value, all but that one. On the slot that is named twice both of its fields may change. -/
theorem reading_decode_set_named_slot (limits : PlausibilityLimits) (version : UInt32)
    (codename : Codename) (table : PmTable) (entry : NamedSlot) (value : Binary32)
    (byIndex : codename.usesByteOffsets = false)
    (member : entry ∈ (Layout.ofVersion version).named) :
    (∀ other ∈ (Layout.ofVersion version).named, other.slot = entry.slot →
      other.field = entry.field ∨ Layout.HoldsTwoFields version entry.slot) ∧
    ∀ field, field ≠ entry.field →
      ¬(Layout.HoldsTwoFields version entry.slot ∧ field ∈ [MetricField.iodHotspot, .vcore]) →
        (decode limits version codename (table.set entry.slot value)).reading field =
          (decode limits version codename table).reading field := by
  obtain ⟨distinct, fallback⟩ := Layout.ofVersion_slotsDistinct version entry member
  refine ⟨fun slot slotMember same => (distinct slot slotMember same).imp_right And.left, ?_⟩
  intro field other single
  simp only [decode, byIndex, Bool.false_eq_true, if_false]
  refine Layout.reading_metrics_congr _ limits List.length_set ?_ ?_
  · intro index named
    obtain ⟨slot, slotMember, names, place⟩ := NamedSlot.mem_indicesOf.mp named
    refine entry_set_of_ne table (fun same => ?_) value
    have sameSlot : slot.slot = entry.slot := place.trans same.symm
    rcases distinct slot slotMember sameSlot with own | shared
    · exact other (names.symm.trans own)
    · exact single (names ▸ shared)
  · intro hotspot
    refine entry_set_of_ne table (fun same => ?_) value
    exact other (hotspot.trans (fallback same).symm)

/-- A NaN in the slot before the one that is named twice leaves the core voltage as it was. -/
theorem reading_decode_set_raven_vddp :
    let table : PmTable := List.replicate 169 1
    let entry : NamedSlot := ⟨60, .vddp⟩
    Codename.ravenRidge.usesByteOffsets = false ∧
      entry ∈ (Layout.ofVersion 0x001E0004).named ∧
      MetricField.vcore ≠ entry.field ∧
      ¬(Layout.HoldsTwoFields 0x001E0004 entry.slot ∧
        MetricField.vcore ∈ [MetricField.iodHotspot, .vcore]) ∧
      (decode {} 0x001E0004 .ravenRidge (table.set entry.slot .nan)).reading .vcore =
        (decode {} 0x001E0004 .ravenRidge table).reading .vcore :=
  ⟨rfl, by decide, by decide, by decide,
    (reading_decode_set_named_slot {} 0x001E0004 .ravenRidge _ ⟨60, .vddp⟩ _ rfl
      (by decide)).2 .vcore (by decide) (by decide)⟩

theorem vcore_decode_raven (limits : PlausibilityLimits) (table : PmTable)
    (long : minLength ≤ table.length) :
    (decode limits Layout.ravenVersion .ravenRidge table).reading .vcore =
      some (table.entry Layout.ravenSharedSlot) := by
  have byIndex : Codename.ravenRidge.usesByteOffsets = false := rfl
  have layout : Layout.ofVersion Layout.ravenVersion = Layout.raven1E0004 := rfl
  simp only [decode, byIndex, Bool.false_eq_true, if_false, layout, Layout.metrics,
    if_neg (Nat.not_lt.mpr long)]
  rfl

/-- A hotspot of 42 degrees on a Raven Ridge part is also reported as a core voltage of 42 V,
although every named slot lies inside the table and index addressing is in use. -/
theorem raven_hotspot_changes_core_voltage :
    let table : PmTable := List.replicate 169 0
    let entry : NamedSlot := ⟨61, .iodHotspot⟩
    Codename.ravenRidge.usesByteOffsets = false ∧
      (∀ slot ∈ (Layout.ofVersion 0x001E0004).named, slot.slot < table.length) ∧
      entry ∈ (Layout.ofVersion 0x001E0004).named ∧
      MetricField.vcore ≠ entry.field ∧
      (decode {} 0x001E0004 .ravenRidge table).reading .vcore = some 0 ∧
      (decode {} 0x001E0004 .ravenRidge (table.set entry.slot 42)).reading .vcore = some 42 ∧
      (0 : Binary32) ≠ 42 := by
  intro table entry
  have layout : Layout.ofVersion 0x001E0004 = Layout.raven1E0004 := rfl
  have length : table.length = 169 := List.length_replicate
  have before := vcore_decode_raven {} table (by rw [length]; decide)
  have after := vcore_decode_raven {} (table.set entry.slot 42)
    (by rw [List.length_set, length]; decide)
  rw [layout, length]
  exact ⟨rfl, by decide, by decide, by decide, before, after, by decide +kernel⟩

end PmTable

end SmuTelemetry
