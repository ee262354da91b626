import SmuTelemetry.PmTable.Decoder
import SmuTelemetry.Proofs.Binary32.Order

/-!
The choice of a plausible reading. Candidate indices are tried in order and the first value
within the bounds wins, whatever its size; there is no reading exactly when no candidate
qualifies. Bounds that exclude zero turn the zero that stands for a missing entry away, so
for them the choice is one among the entries that the table has.
-/

namespace SmuTelemetry

set_option autoImplicit false

namespace PmTable

/-- A reading that is the first value within the bounds among the candidates that can be read,
and that is absent exactly when there is none. -/
structure SelectsFirst (read : Nat → Option Binary32) (candidates : List Nat) (bounds : Bounds)
    (reading : Option Binary32) : Prop where
  chosen : ∀ value, reading = some value ↔
    ∃ before index after, candidates = before ++ index :: after ∧ read index = some value ∧
      value ∈ bounds ∧ ∀ earlier ∈ before, ∀ other, read earlier = some other → other ∉ bounds
  absent : reading = none ↔
    ∀ index ∈ candidates, ∀ value, read index = some value → value ∉ bounds

theorem selectsFirst_findSome? (read : Nat → Option Binary32) (candidates : List Nat)
    (bounds : Bounds) :
    SelectsFirst read candidates bounds
      (candidates.findSome? fun index => (read index).filter bounds.contains) where
  chosen := by
    intro value
    simp only [List.findSome?_eq_some_iff, Option.filter_eq_some_iff, Option.filter_eq_none_iff,
      Bounds.contains_iff_mem, and_assoc]
  absent := by
    simp only [List.findSome?_eq_none_iff, Option.filter_eq_none_iff, Bounds.contains_iff_mem]

theorem firstPlausible?_eq_findSome? (table : PmTable) (candidates : List Nat)
    (bounds : Bounds) :
    table.firstPlausible? candidates bounds =
      candidates.findSome? fun index => (some (table.entry index)).filter bounds.contains := by
  rw [firstPlausible?, Bounds.first?, ← List.findSome?_guard, List.findSome?_map]
  rfl

theorem entry_eq (table : PmTable) (index : Nat) :
    table.entry index = table[index]?.getD 0 := by
  rw [entry, List.getD_eq_getElem?_getD, Binary32.zero_eq]

theorem entry_of_held {table : PmTable} {index : Nat} {value : Binary32}
    (held : table[index]? = some value) : table.entry index = value := by
  rw [entry_eq, held, Option.getD_some]

theorem entry_of_missing {table : PmTable} {index : Nat} (missing : table[index]? = none) :
    table.entry index = 0 := by
  rw [entry_eq, missing, Option.getD_none]

theorem firstPlausible?_selectsFirst (table : PmTable) (candidates : List Nat)
    (bounds : Bounds) :
    SelectsFirst (fun index => some (table[index]?.getD 0)) candidates bounds
      (table.firstPlausible? candidates bounds) := by
  rw [firstPlausible?_eq_findSome?]
  simp only [entry_eq]
  exact selectsFirst_findSome? _ candidates bounds

theorem filter_entry_of_zero_excluded (table : PmTable) {bounds : Bounds}
    (excluded : (0 : Binary32) ∉ bounds) (index : Nat) :
    (some (table.entry index)).filter bounds.contains =
      (table[index]?).filter bounds.contains := by
  cases held : table[index]? with
  | some value => rw [entry_of_held held]
  | none =>
      have outside : bounds.contains 0 = false := decide_eq_false excluded
      rw [entry_of_missing held, Option.filter_some_neg outside]
      rfl

/-- With zero out of bounds a missing entry is skipped. -/
theorem firstPlausible?_selectsFirst_held (table : PmTable) (candidates : List Nat)
    {bounds : Bounds} (excluded : (0 : Binary32) ∉ bounds) :
    SelectsFirst (fun index => table[index]?) candidates bounds
      (table.firstPlausible? candidates bounds) := by
  rw [firstPlausible?_eq_findSome?, funext (filter_entry_of_zero_excluded table excluded)]
  exact selectsFirst_findSome? _ candidates bounds

end PmTable

end SmuTelemetry
