import SmuTelemetry.Acpi.Ssdt
import SmuTelemetry.Proofs.Indexing.Trap
import SmuTelemetry.Proofs.Word.LittleEndian

/-!
The format of a description table. A byte string is a table when it holds a header with the
signature and a length field that covers the header and stays inside the string; it then starts
with what the writer makes of the table, and only such strings do. The reader says which of the
three conditions fails first, and none of its slices leaves the bytes it was given.
-/

namespace SmuTelemetry

set_option autoImplicit false

section Slices

variable {α : Type}

/-- A field is the slice between its two ends, whatever stands around it. -/
theorem extract_field {start stop : Nat} {front field : List α} (rest : List α)
    (starts : front.length = start) (stops : start + field.length = stop) :
    (front ++ (field ++ rest)).extract start stop = field := by
  subst starts stops
  rw [List.extract_eq_take_drop, List.drop_left, Nat.add_sub_cancel_left, List.take_left]

theorem extract_append_extract (items : List α) {start middle stop : Nat}
    (first : start ≤ middle) (second : middle ≤ stop) :
    items.extract start middle ++ items.extract middle stop = items.extract start stop := by
  have lengths : stop - start = (middle - start) + (stop - middle) := by omega
  have places : start + (middle - start) = middle := by omega
  simp only [List.extract_eq_take_drop]
  rw [lengths, List.take_add, List.drop_drop, places]

theorem length_extract {items : List α} {start stop : Nat} (inside : stop ≤ items.length) :
    (items.extract start stop).length = stop - start := by
  rw [List.extract_eq_take_drop, List.length_take, List.length_drop]
  omega

theorem Trap.slice_of_inside {items : List α} {start stop : Nat} (ordered : start ≤ stop)
    (inside : stop ≤ items.length) : slice items start stop = .ok (items.extract start stop) :=
  if_pos ⟨ordered, inside⟩

end Slices

namespace Ssdt

/-- A whole header with the signature, and a length field that covers the header and does not
pass the end of the bytes. -/
structure WellFormed (raw : Bytes) : Prop where
  header : 36 ≤ raw.length
  signed : raw.extract 0 4 = signature
  covered : 36 ≤ Bytes.littleEndian (raw.extract 4 8)
  inside : Bytes.littleEndian (raw.extract 4 8) ≤ raw.length

/-- The identifier in the header and the bytes from the header to the declared end. -/
def contents (raw : Bytes) : Ssdt where
  tableId := raw.extract 16 24
  body := raw.extract 36 (Bytes.littleEndian (raw.extract 4 8))

inductive Refused (raw : Bytes) : TableFault → Prop where
  | short : raw.length < 36 → Refused raw (.shorterThanHeader raw.length)
  | unsigned : 36 ≤ raw.length → raw.extract 0 4 ≠ signature →
      Refused raw (.wrongSignature (String.ofList (Text.Utf8.decodeLossy (raw.extract 0 4))))
  | unfit : 36 ≤ raw.length → raw.extract 0 4 = signature →
      (Bytes.littleEndian (raw.extract 4 8) < 36 ∨
        raw.length < Bytes.littleEndian (raw.extract 4 8)) →
      Refused raw (.lengthMismatch (Bytes.littleEndian (raw.extract 4 8)) raw.length)

/-- A table that the header can describe. -/
structure Encodable (table : Ssdt) : Prop where
  tableId : table.tableId.length = 8
  body : 36 + table.body.length < 2 ^ 32

section Reader

variable (raw : Bytes)

theorem parse_eq :
    parse raw =
      if raw.length < 36 then .error (.shorterThanHeader raw.length)
      else if raw.extract 0 4 ≠ signature then
        .error (.wrongSignature (String.ofList (Text.Utf8.decodeLossy (raw.extract 0 4))))
      else if Bytes.littleEndian (raw.extract 4 8) < 36 ∨
          raw.length < Bytes.littleEndian (raw.extract 4 8) then
        .error (.lengthMismatch (Bytes.littleEndian (raw.extract 4 8)) raw.length)
      else .ok (contents raw) := by
  have body : (raw.take (declaredLength raw)).drop headerLength =
      raw.extract 36 (Bytes.littleEndian (raw.extract 4 8)) := List.drop_take
  rw [parse, body]
  rfl

theorem parse_eq_ok_iff (table : Ssdt) :
    parse raw = .ok table ↔ WellFormed raw ∧ table = contents raw := by
  rw [parse_eq]
  constructor
  · intro parsed
    split_ifs at parsed with short unsigned unfit
    have bounds := not_or.mp unfit
    exact ⟨⟨Nat.not_lt.mp short, not_not.mp unsigned, Nat.not_lt.mp bounds.1,
      Nat.not_lt.mp bounds.2⟩, (Except.ok.inj parsed).symm⟩
  · intro accepted
    obtain ⟨formed, rfl⟩ := accepted
    rw [if_neg (Nat.not_lt.mpr formed.header), if_neg (not_not.mpr formed.signed),
      if_neg (not_or.mpr ⟨Nat.not_lt.mpr formed.covered, Nat.not_lt.mpr formed.inside⟩)]

theorem parse_eq_error_iff (fault : TableFault) :
    parse raw = .error fault ↔ Refused raw fault := by
  rw [parse_eq]
  constructor
  · intro parsed
    split_ifs at parsed with short unsigned unfit <;> cases parsed
    · exact .short short
    · exact .unsigned (Nat.not_lt.mp short) unsigned
    · exact .unfit (Nat.not_lt.mp short) (not_not.mp unsigned) unfit
  · intro refused
    cases refused with
    | short short => rw [if_pos short]
    | unsigned header unsigned => rw [if_neg (Nat.not_lt.mpr header), if_pos unsigned]
    | unfit header signed unfit =>
        rw [if_neg (Nat.not_lt.mpr header), if_neg (not_not.mpr signed), if_pos unfit]

/-- The reader with every slice checked; the bounds it relies on are those that it has tested
before. -/
def parseSteps : Except Trap (Except TableFault Ssdt) :=
  if raw.length < headerLength then .ok (.error (.shorterThanHeader raw.length))
  else do
    let found ← Trap.slice raw 0 4
    let lengthField ← Trap.slice raw 4 8
    let tableId ← Trap.slice raw tableIdOffset (tableIdOffset + tableIdLength)
    let declared := Bytes.littleEndian lengthField
    if found ≠ signature then
      .ok (.error (.wrongSignature (String.ofList (Text.Utf8.decodeLossy found))))
    else if declared < headerLength ∨ raw.length < declared then
      .ok (.error (.lengthMismatch declared raw.length))
    else do
      let body ← Trap.slice raw headerLength declared
      return .ok { tableId := tableId, body := body }

theorem parseSteps_eq : parseSteps raw = .ok (parse raw) := by
  have length : headerLength = 36 := rfl
  rw [parse_eq, parseSteps, length]
  by_cases short : raw.length < 36
  · rw [if_pos short, if_pos short]
  · have header := Nat.not_lt.mp short
    have found := Trap.slice_of_inside (Nat.zero_le 4) (Nat.le_trans (by decide) header)
    have lengthField : Trap.slice raw 4 8 = .ok (raw.extract 4 8) :=
      Trap.slice_of_inside (by decide) (Nat.le_trans (by decide) header)
    have tableId : Trap.slice raw tableIdOffset (tableIdOffset + tableIdLength) =
        .ok (raw.extract 16 24) :=
      Trap.slice_of_inside (by decide) (Nat.le_trans (by decide) header)
    rw [if_neg short, if_neg short, found, lengthField, tableId]
    simp only [Trap.ok_bind]
    split_ifs with unsigned unfit
    · rfl
    · rfl
    · have bounds := not_or.mp unfit
      rw [Trap.slice_of_inside (Nat.not_lt.mp bounds.1) (Nat.not_lt.mp bounds.2)]
      rfl

end Reader

section Writer

variable {table : Ssdt} (rest : HeaderRest) (trailing : Bytes)

theorem signature_written : (encode rest table ++ trailing).extract 0 4 = signature := rfl

theorem lengthField_written :
    (encode rest table ++ trailing).extract 4 8 =
      Bytes.ofLittleEndian 4 (headerLength + table.body.length) := rfl

theorem tableId_written (encodable : Encodable table) :
    (encode rest table ++ trailing).extract 16 24 = table.tableId := by
  have split : encode rest table ++ trailing =
      (signature ++ Bytes.ofLittleEndian 4 (headerLength + table.body.length) ++
        rest.beforeId) ++ (table.tableId ++ (rest.afterId ++ table.body ++ trailing)) := by
    simp only [encode, List.append_assoc]
  rw [split]
  apply extract_field
  · simp only [List.length_append, Bytes.length_ofLittleEndian, rest.beforeId_length]
    rfl
  · rw [encodable.tableId]

theorem length_header_written (encodable : Encodable table) :
    (signature ++ Bytes.ofLittleEndian 4 (headerLength + table.body.length) ++
      rest.beforeId ++ table.tableId ++ rest.afterId).length = 36 := by
  simp only [List.length_append, Bytes.length_ofLittleEndian, rest.beforeId_length,
    encodable.tableId, rest.afterId_length]
  rfl

theorem body_written (encodable : Encodable table) :
    (encode rest table ++ trailing).extract 36 (36 + table.body.length) = table.body := by
  rw [encode, List.append_assoc]
  exact extract_field trailing (length_header_written rest encodable) rfl

theorem declared_written (encodable : Encodable table) :
    Bytes.littleEndian ((encode rest table ++ trailing).extract 4 8) =
      36 + table.body.length := by
  rw [lengthField_written, Bytes.littleEndian_ofLittleEndian]
  exact Nat.mod_eq_of_lt encodable.body

theorem parse_encode_append (encodable : Encodable table) :
    parse (encode rest table ++ trailing) = .ok table := by
  have declared := declared_written rest trailing encodable
  have length : (encode rest table ++ trailing).length =
      36 + table.body.length + trailing.length := by
    rw [encode, List.length_append, List.length_append, length_header_written rest encodable]
  refine (parse_eq_ok_iff _ table).mpr
    ⟨⟨?_, signature_written rest trailing, ?_, ?_⟩, ?_⟩
  · omega
  · omega
  · omega
  · rw [contents, declared, tableId_written rest trailing encodable,
      body_written rest trailing encodable]

theorem exists_encode_of_wellFormed {raw : Bytes} (formed : WellFormed raw) :
    Encodable (contents raw) ∧ ∃ rest trailing, raw = encode rest (contents raw) ++ trailing := by
  have header := formed.header
  have covered := formed.covered
  have inside := formed.inside
  have small : Bytes.littleEndian (raw.extract 4 8) < 256 ^ 4 :=
    Bytes.littleEndian_take_lt _ 4
  have bodyLength : (contents raw).body.length =
      Bytes.littleEndian (raw.extract 4 8) - 36 := length_extract inside
  have declared : 36 + (contents raw).body.length = Bytes.littleEndian (raw.extract 4 8) := by
    omega
  have encodable : Encodable (contents raw) := by
    refine ⟨length_extract (by omega), ?_⟩
    rw [declared]
    exact small
  let rest : HeaderRest :=
    { beforeId := raw.extract 8 16
      afterId := raw.extract 24 36
      beforeId_length := length_extract (by omega)
      afterId_length := length_extract (by omega) }
  have lengthField : Bytes.ofLittleEndian 4 (headerLength + (contents raw).body.length) =
      raw.extract 4 8 := by
    have whole := Bytes.ofLittleEndian_littleEndian (raw.extract 4 8)
    rw [length_extract (by omega)] at whole
    rw [← whole, ← declared]
    rfl
  refine ⟨encodable, rest, raw.drop (Bytes.littleEndian (raw.extract 4 8)), ?_⟩
  have written : encode rest (contents raw) =
      raw.extract 0 (Bytes.littleEndian (raw.extract 4 8)) := by
    rw [encode, lengthField, ← formed.signed]
    simp only [rest, contents]
    rw [extract_append_extract raw (by decide) (by decide),
      extract_append_extract raw (by decide) (by decide),
      extract_append_extract raw (by decide) (by decide),
      extract_append_extract raw (by decide) (by decide),
      extract_append_extract raw (by decide) covered]
  rw [written, List.extract_eq_take_drop, List.drop_zero, Nat.sub_zero, List.take_append_drop]

end Writer

/-- The reader accepts the well-formed byte strings, which are those that start with a written
table, and gives that table back whatever follows it. All others it refuses for the first
condition they break. Its slices never leave the bytes. -/
theorem parse_inverts_encode (raw : Bytes) :
    (∀ table, parse raw = .ok table ↔ WellFormed raw ∧ table = contents raw) ∧
    (∀ table, parse raw = .ok table ↔
      Encodable table ∧ ∃ rest trailing, raw = encode rest table ++ trailing) ∧
    (∀ fault, parse raw = .error fault ↔ Refused raw fault) ∧
    ((∃ fault, Refused raw fault) ↔ ¬WellFormed raw) ∧
    parseSteps raw = .ok (parse raw) := by
  refine ⟨parse_eq_ok_iff raw, ?_, parse_eq_error_iff raw, ?_, parseSteps_eq raw⟩
  · intro table
    constructor
    · intro parsed
      obtain ⟨formed, rfl⟩ := (parse_eq_ok_iff raw table).mp parsed
      exact exists_encode_of_wellFormed formed
    · intro written
      obtain ⟨encodable, rest, trailing, rfl⟩ := written
      exact parse_encode_append rest trailing encodable
  · simp only [← parse_eq_error_iff]
    have accepted : WellFormed raw ↔ ∃ table, parse raw = .ok table := by
      simp only [parse_eq_ok_iff, exists_and_left, exists_eq, and_true]
    rw [accepted]
    cases parse raw <;> simp

end Ssdt

end SmuTelemetry
