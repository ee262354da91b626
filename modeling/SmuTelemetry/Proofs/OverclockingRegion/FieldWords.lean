import SmuTelemetry.OverclockingRegion
import SmuTelemetry.Proofs.Word.LittleEndian

/-!
The words of the fields of the overclocking region. Fields begin at multiples of four and
follow each other without a gap, so a word belongs to the field of its first byte, and a
field's words are all the whole words inside both the field and the region.
-/

namespace SmuTelemetry

set_option autoImplicit false

namespace Bytes

theorem window?_eq_some {bytes : Bytes} {offset count : Nat}
    (inside : offset + count ≤ bytes.length) (small : offset + count < addressLimit) :
    bytes.window? offset count = some ((bytes.drop offset).take count) := by
  have whole : ((bytes.drop offset).take count).length = count := by
    rw [List.length_take, List.length_drop]
    omega
  rw [window?, if_pos small]
  exact if_pos whole

theorem exists_u32At? {bytes : Bytes} {offset : Nat} (inside : offset + 4 ≤ bytes.length)
    (small : offset + 4 < addressLimit) : ∃ word, bytes.u32At? offset = some word := by
  rw [u32At?, window?_eq_some inside small]
  exact ⟨_, rfl⟩

theorem u32At?_take {bytes : Bytes} {offset limit : Nat} (inside : offset + 4 ≤ limit) :
    u32At? (bytes.take limit) offset = bytes.u32At? offset := by
  have same : ((bytes.take limit).drop offset).take 4 = (bytes.drop offset).take 4 := by
    rw [List.drop_take, List.take_take, Nat.min_eq_left (by omega)]
  rw [u32At?, u32At?, window?, window?, same]

end Bytes

namespace RegionField

theorem start_dvd (field : RegionField) : 4 ∣ field.start := by
  cases field <;> decide

theorem spans_follow : all.Pairwise fun earlier later => earlier.stop ≤ later.start := by
  decide

theorem mem_all (field : RegionField) : field ∈ all := by
  cases field <;> decide

theorem start_ofOffset_le (offset : Nat) : (ofOffset offset).start ≤ offset := by
  unfold ofOffset
  split_ifs <;> simp only [start] <;> omega

/-- A whole word never crosses the end of a field. -/
theorem le_stop_ofOffset {offset : Nat} (aligned : 4 ∣ offset)
    (inside : offset + 4 ≤ Aml.regionSize.toNat) : offset + 4 ≤ (ofOffset offset).stop := by
  unfold ofOffset
  split_ifs <;> simp only [stop] <;> omega

theorem ofOffset_eq {field : RegionField} {offset : Nat} (after : field.start ≤ offset)
    (before : offset < field.stop) : ofOffset offset = field := by
  unfold ofOffset
  cases field <;> simp only [start, stop] at after before <;> split_ifs <;> first | rfl | omega

end RegionField

namespace OverclockingRegion

theorem mem_wordOffsets {start stop offset : Nat} :
    offset ∈ wordOffsets start stop ↔
      ∃ position, offset = start + 4 * position ∧ offset < stop := by
  simp only [wordOffsets, List.mem_map, List.mem_range]
  constructor
  · rintro ⟨position, bound, rfl⟩
    exact ⟨position, rfl, by omega⟩
  · rintro ⟨position, rfl, bound⟩
    exact ⟨position, by omega, rfl⟩

theorem extent_lt_addressLimit (region : Bytes) : extent region < Bytes.addressLimit :=
  lt_of_le_of_lt (Nat.min_le_right _ _) (by decide)

theorem extent_take (region : Bytes) :
    extent (region.take Aml.regionSize.toNat) = extent region := by
  rw [extent, extent, List.length_take]
  omega

def wordAt (region : Bytes) (offset : Nat) : Nat × UInt32 :=
  (offset, (region.u32At? offset).getD 0)

theorem u32At?_inside {region : Bytes} {offset : Nat} (inside : offset + 4 ≤ extent region) :
    region.u32At? offset = some (wordAt region offset).2 := by
  have held : offset + 4 ≤ region.length := inside.trans (Nat.min_le_left _ _)
  have small := lt_of_le_of_lt inside (extent_lt_addressLimit region)
  obtain ⟨word, read⟩ := Bytes.exists_u32At? held small
  rw [wordAt, read, Option.getD_some]

/-- Every read of a dump succeeds, so no word is left out. -/
theorem fieldWords_eq_map (region : Bytes) (field : RegionField) :
    fieldWords region field =
      (wordOffsets field.start (min field.stop (extent region) - 3)).map (wordAt region) := by
  rw [fieldWords, ← List.filterMap_eq_map]
  refine List.filterMap_congr fun offset member => ?_
  obtain ⟨-, -, bound⟩ := mem_wordOffsets.mp member
  have inside : offset + 4 ≤ extent region := by omega
  rw [u32At?_inside inside]
  rfl

theorem mem_fieldWords {region : Bytes} {field : RegionField} {offset : Nat} {word : UInt32} :
    (offset, word) ∈ fieldWords region field ↔
      4 ∣ offset ∧ field.start ≤ offset ∧ offset + 4 ≤ min field.stop (extent region) ∧
        region.u32At? offset = some word := by
  obtain ⟨quarter, aligned⟩ := field.start_dvd
  rw [fieldWords_eq_map, List.mem_map]
  constructor
  · rintro ⟨place, member, same⟩
    obtain ⟨position, rfl, bound⟩ := mem_wordOffsets.mp member
    obtain ⟨rfl, rfl⟩ := Prod.mk.inj same
    exact ⟨by omega, by omega, by omega, u32At?_inside (by omega)⟩
  · rintro ⟨⟨multiple, rfl⟩, after, inside, read⟩
    refine ⟨4 * multiple, mem_wordOffsets.mpr ⟨multiple - quarter, by omega, by omega⟩, ?_⟩
    rw [wordAt, read]
    rfl

theorem fieldWords_increasing (region : Bytes) (field : RegionField) :
    (fieldWords region field).Pairwise fun earlier later => earlier.1 < later.1 := by
  rw [fieldWords_eq_map, wordOffsets, List.map_map, List.pairwise_map]
  refine List.pairwise_lt_range.imp fun before => ?_
  simp only [Function.comp_apply, wordAt]
  omega

theorem fieldWords_take (region : Bytes) (field : RegionField) :
    fieldWords (region.take Aml.regionSize.toNat) field = fieldWords region field := by
  rw [fieldWords_eq_map, fieldWords_eq_map, extent_take]
  refine List.map_congr_left fun offset member => ?_
  obtain ⟨-, -, bound⟩ := mem_wordOffsets.mp member
  have size : extent region ≤ Aml.regionSize.toNat := Nat.min_le_right _ _
  rw [wordAt, wordAt, Bytes.u32At?_take (by omega)]

end OverclockingRegion

end SmuTelemetry
