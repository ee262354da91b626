import SmuTelemetry.Proofs.OverclockingRegion.FieldWords

/-!
Dumps of the overclocking region. The dumps of the seven fields, one after the other, show
every whole word of the region once and in order. Within a dump the rows are full, the last
one apart, and each word stands where its row and place say.
-/

namespace SmuTelemetry

set_option autoImplicit false

namespace DumpRow

def entries (row : DumpRow) : List (Nat × UInt32) :=
  row.words.mapIdx fun position word => (row.offset + 4 * position, word)

end DumpRow

namespace OverclockingRegion

def Consecutive (start : Nat) (words : List (Nat × UInt32)) : Prop :=
  ∀ position entry, words[position]? = some entry → entry.1 = start + 4 * position

namespace Consecutive

theorem drop {start : Nat} {words : List (Nat × UInt32)} (consecutive : Consecutive start words)
    (count : Nat) : Consecutive (start + 4 * count) (words.drop count) := by
  intro position entry held
  rw [List.getElem?_drop] at held
  have place := consecutive _ entry held
  omega

theorem take {start : Nat} {words : List (Nat × UInt32)} (consecutive : Consecutive start words)
    (count : Nat) : Consecutive start (words.take count) := by
  intro position entry held
  rw [List.getElem?_take] at held
  split at held
  next => exact consecutive position entry held
  next => cases held

theorem mapIdx_eq {start : Nat} {words : List (Nat × UInt32)}
    (consecutive : Consecutive start words) :
    ((words.map Prod.snd).mapIdx fun position word => (start + 4 * position, word)) = words := by
  apply List.ext_getElem?
  intro position
  rw [List.getElem?_mapIdx, List.getElem?_map]
  cases held : words[position]? with
  | none => rfl
  | some entry =>
      have place := consecutive position entry held
      simp only [Option.map_some, ← place]

end Consecutive

theorem fieldWords_consecutive (region : Bytes) (field : RegionField) :
    Consecutive field.start (fieldWords region field) := by
  intro position entry held
  rw [fieldWords_eq_map, wordOffsets, List.map_map, List.getElem?_map] at held
  obtain ⟨place, within, same⟩ := Option.map_eq_some_iff.mp held
  obtain ⟨bound, counted⟩ := List.getElem?_eq_some_iff.mp within
  rw [List.getElem_range] at counted
  rw [← same, ← counted]
  rfl

/-- The row of a number holds up to four words, from four times its number on. -/
theorem getElem?_rows (words : List (Nat × UInt32)) (number : Nat) :
    (rows words)[number]? =
      (words[rowWords * number]?).map fun first =>
        { offset := first.1
          words := ((words.drop (rowWords * number)).take rowWords).map Prod.snd } := by
  fun_induction rows words generalizing number with
  | case1 => simp
  | case2 offset word rest ih =>
      cases number with
      | zero => simp [rowWords]
      | succ number =>
          have next : rowWords * (number + 1) = rowWords - 1 + rowWords * number + 1 := by
            simp only [rowWords]
            omega
          rw [List.getElem?_cons_succ, ih, next, List.getElem?_cons_succ, List.drop_succ_cons,
            List.getElem?_drop, List.drop_drop]

theorem length_rows (words : List (Nat × UInt32)) :
    (rows words).length = (words.length + 3) / 4 := by
  fun_induction rows words with
  | case1 => rfl
  | case2 offset word rest ih =>
      rw [List.length_cons, ih, List.length_drop, List.length_cons]
      simp only [rowWords]
      omega

theorem flatMap_entries_rows {words : List (Nat × UInt32)} {start : Nat}
    (consecutive : Consecutive start words) : (rows words).flatMap DumpRow.entries = words := by
  fun_induction rows words generalizing start with
  | case1 => rfl
  | case2 offset word rest ih =>
      have first : offset = start := consecutive 0 (offset, word) rfl
      subst first
      -- The offsets that a row leaves out are known from its first one.
      have row : DumpRow.entries
            { offset := offset, words := word :: (rest.take (rowWords - 1)).map Prod.snd } =
          (offset, word) :: rest.take (rowWords - 1) :=
        (consecutive.take rowWords).mapIdx_eq
      rw [List.flatMap_cons, ih (consecutive.drop rowWords), row, List.cons_append,
        List.take_append_drop]

theorem flatMap_entries_dump (region : Bytes) (field : RegionField) :
    (dump region field).flatMap DumpRow.entries = fieldWords region field :=
  flatMap_entries_rows (fieldWords_consecutive region field)

def dumpedWords (region : Bytes) : List (Nat × UInt32) :=
  RegionField.all.flatMap fun field => (dump region field).flatMap DumpRow.entries

theorem dumpedWords_increasing (region : Bytes) :
    (dumpedWords region).Pairwise fun earlier later => earlier.1 < later.1 := by
  simp only [dumpedWords, flatMap_entries_dump]
  refine List.pairwise_flatMap.mpr ⟨fun field _ => fieldWords_increasing region field, ?_⟩
  refine RegionField.spans_follow.imp fun follow => ?_
  intro ⟨offset, word⟩ before ⟨other, otherWord⟩ after
  obtain ⟨-, -, inside, -⟩ := mem_fieldWords.mp before
  obtain ⟨-, start, -, -⟩ := mem_fieldWords.mp after
  simp only
  omega

theorem u32At?_eq_some_iff_held {region : Bytes} {offset : Nat}
    (inside : offset + 4 ≤ extent region) (word : UInt32) :
    region.u32At? offset = some word ↔ Bytes.ofU32 word <+: region.drop offset := by
  have small := lt_of_le_of_lt inside (extent_lt_addressLimit region)
  exact Bytes.u32At?_eq_some_iff.trans (and_iff_right small)

theorem mem_dumpedWords {region : Bytes} {offset : Nat} {word : UInt32} :
    (offset, word) ∈ dumpedWords region ↔
      4 ∣ offset ∧ offset + 4 ≤ extent region ∧ Bytes.ofU32 word <+: region.drop offset := by
  simp only [dumpedWords, flatMap_entries_dump, List.mem_flatMap]
  constructor
  · rintro ⟨field, -, member⟩
    obtain ⟨aligned, -, inside, held⟩ := mem_fieldWords.mp member
    have within : offset + 4 ≤ extent region := by omega
    exact ⟨aligned, within, (u32At?_eq_some_iff_held within word).mp held⟩
  -- The field of the offset lists the word, because no word crosses the end of a field.
  · rintro ⟨aligned, within, held⟩
    have inRegion := within.trans (Nat.min_le_right region.length _)
    have inField := RegionField.le_stop_ofOffset aligned inRegion
    exact ⟨.ofOffset offset, RegionField.mem_all _, mem_fieldWords.mpr
      ⟨aligned, RegionField.start_ofOffset_le offset, Nat.le_min.mpr ⟨inField, within⟩,
        (u32At?_eq_some_iff_held within word).mpr held⟩⟩

structure RowShows (region : Bytes) (field : RegionField) (number : Nat) (row : DumpRow) :
    Prop where
  offset : row.offset = field.start + 16 * number
  length_pos : 1 ≤ row.words.length
  length_le : row.words.length ≤ 4
  words : ∀ position word, row.words[position]? = some word →
    millivolts? region (row.offset + 4 * position) = some word ∧
      RegionField.ofOffset (row.offset + 4 * position) = field

theorem getElem?_dump {region : Bytes} {field : RegionField} {number : Nat} {row : DumpRow}
    (shown : (dump region field)[number]? = some row) :
    4 * number < (fieldWords region field).length ∧
      row.offset = field.start + 16 * number ∧
      row.words.length = min 4 ((fieldWords region field).length - 4 * number) := by
  rw [dump, getElem?_rows] at shown
  obtain ⟨first, held, rfl⟩ := Option.map_eq_some_iff.mp shown
  have bound := (List.getElem?_eq_some_iff.mp held).1
  have place := fieldWords_consecutive region field _ first held
  simp only [rowWords] at *
  refine ⟨bound, by omega, ?_⟩
  rw [List.length_map, List.length_take, List.length_drop]

theorem millivolts?_of_row {region : Bytes} {field : RegionField} {row : DumpRow}
    (member : row ∈ dump region field) {position : Nat} {word : UInt32}
    (held : row.words[position]? = some word) :
    millivolts? region (row.offset + 4 * position) = some word ∧
      RegionField.ofOffset (row.offset + 4 * position) = field := by
  have entry : (row.offset + 4 * position, word) ∈ row.entries := by
    refine List.mem_iff_getElem?.mpr ⟨position, ?_⟩
    rw [DumpRow.entries, List.getElem?_mapIdx, held]
    rfl
  have shown : (row.offset + 4 * position, word) ∈ fieldWords region field := by
    rw [← flatMap_entries_dump]
    exact List.mem_flatMap.mpr ⟨row, member, entry⟩
  obtain ⟨-, after, inside, read⟩ := mem_fieldWords.mp shown
  have bounds := Nat.le_min.mp inside
  refine ⟨?_, RegionField.ofOffset_eq after (by omega)⟩
  rw [millivolts?, if_pos bounds.2, read]

theorem rowShows_of_getElem? {region : Bytes} {field : RegionField} {number : Nat}
    {row : DumpRow} (shown : (dump region field)[number]? = some row) :
    RowShows region field number row := by
  obtain ⟨bound, offset, length⟩ := getElem?_dump shown
  exact {
    offset := offset
    length_pos := by omega
    length_le := by omega
    words := fun _ _ held => millivolts?_of_row (List.mem_of_getElem? shown) held }

theorem length_of_not_last {region : Bytes} {field : RegionField} {number : Nat}
    {row : DumpRow} (shown : (dump region field)[number]? = some row)
    (notLast : number + 1 < (dump region field).length) : row.words.length = 4 := by
  obtain ⟨-, -, length⟩ := getElem?_dump shown
  rw [dump, length_rows] at notLast
  omega

/-- The dumps tile the region: together they list its whole words once each in order, row by
row, and nothing else has a part in them. -/
theorem dumps_tile_region (region : Bytes) :
    ((dumpedWords region).Pairwise fun earlier later => earlier.1 < later.1) ∧
      (∀ offset word, (offset, word) ∈ dumpedWords region ↔
        4 ∣ offset ∧ offset + 4 ≤ min region.length 0x24BB ∧
          Bytes.ofU32 word <+: region.drop offset) ∧
      ∀ field,
        (∀ number row, (dump region field)[number]? = some row →
          RowShows region field number row ∧
            (number + 1 < (dump region field).length → row.words.length = 4)) ∧
        dump (region.take 0x24BB) field = dump region field := by
  refine ⟨dumpedWords_increasing region, fun _ _ => mem_dumpedWords, fun field => ⟨?_, ?_⟩⟩
  · intro number row shown
    exact ⟨rowShows_of_getElem? shown, length_of_not_last shown⟩
  · exact congrArg rows (fieldWords_take region field)

/-- Ten bytes of a region: two words, both in the first row of the first field. -/
theorem dumps_tile_ten_bytes :
    let region : Bytes := [0xB0, 0x04, 0, 0, 0, 0, 0, 0, 7, 7]
    let row : DumpRow := { offset := 0, words := [1200, 0] }
    (dump region .outb)[0]? = some row ∧ RowShows region .outb 0 row ∧
      (4, 0) ∈ dumpedWords region ∧ ¬8 + 4 ≤ min region.length 0x24BB := by
  intro region row
  have tiled := dumps_tile_region region
  have shown : (dump region .outb)[0]? = some row := by
    rw [dump, getElem?_rows]
    decide
  have listed : (4, 0) ∈ dumpedWords region := (tiled.2.1 4 0).mpr (by decide)
  exact ⟨shown, ((tiled.2.2 .outb).1 0 row shown).1, listed, by decide⟩

end OverclockingRegion

end SmuTelemetry
