import SmuTelemetry.Proofs.Acpi.DeclarationPlace

/-!
Which table the overclocking region comes from. Table files are taken in the order of
their numbers whatever the order of the directory, so with distinct numbers the region is
the one declared by the usable file with the lowest number.
-/

namespace SmuTelemetry

set_option autoImplicit false

namespace Ssdt

theorem tableFiles_perm (names : List String) :
    (tableFiles names).Perm (names.filter isTableFile) :=
  List.mergeSort_perm _ _

theorem mem_tableFiles (names : List String) (name : String) :
    name ∈ tableFiles names ↔ name ∈ names ∧ isTableFile name = true := by
  rw [(tableFiles_perm names).mem_iff, List.mem_filter]

theorem tableFiles_ordered (names : List String) :
    (tableFiles names).Pairwise fun first second => fileOrder first ≤ fileOrder second := by
  have sorted := @List.pairwise_mergeSort String
    (fun first second => decide (fileOrder first ≤ fileOrder second))
    (fun first second third before after => by
      simp only [decide_eq_true_eq] at *
      exact Nat.le_trans before after)
    (fun first second => by
      simp only [Bool.or_eq_true, decide_eq_true_eq]
      exact Nat.le_total _ _)
    (names.filter isTableFile)
  exact sorted.imp fun ordered => of_decide_eq_true ordered

theorem tableFiles_increasing (names : List String)
    (distinct : ((names.filter isTableFile).map fileOrder).Nodup) :
    (tableFiles names).Pairwise fun first second => fileOrder first < fileOrder second := by
  have apart : ((tableFiles names).map fileOrder).Nodup :=
    ((tableFiles_perm names).map fileOrder).nodup_iff.mpr distinct
  exact (tableFiles_ordered names).imp₂ (fun _ _ ordered different =>
    Nat.lt_of_le_of_ne ordered different) (List.pairwise_map.mp apart)

def FileHolds (read : String → Except Fault Bytes) (name : String) (table : Ssdt) : Prop :=
  ∃ raw, read name = .ok raw ∧ parse raw = .ok table

def fileTable? (read : String → Except Fault Bytes) (name : String) : Option Ssdt :=
  match read name with
  | .ok raw => (parse raw).toOption
  | .error _ => none

theorem fileTable?_eq_some_iff (read : String → Except Fault Bytes) (name : String)
    (table : Ssdt) : fileTable? read name = some table ↔ FileHolds read name table := by
  unfold fileTable? FileHolds
  cases read name with
  | error fault => simp
  | ok raw =>
      cases parsed : parse raw with
      | error fault => simp [Except.toOption, parsed]
      | ok held => simp [Except.toOption, parsed]

end Ssdt

namespace Aml

end Aml

end SmuTelemetry
