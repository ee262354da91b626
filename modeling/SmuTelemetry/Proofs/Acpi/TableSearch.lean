import Mathlib.Data.List.Basic
import SmuTelemetry.Acpi.Aml

/-!
Search of a list of tables for the overclocking region. The first usable table wins; a tagged
table before it that declares nothing is reported, and tables with another identifier leave no
trace. Result and report of a longer list are put together from those of its parts, which
carries every statement about the list as a whole.
-/

namespace SmuTelemetry

set_option autoImplicit false

namespace Aml

def isTagged (table : Ssdt) : Bool :=
  decide (table.tableId = [0x41, 0x4F, 0x44, 0x20, 0x20, 0x20, 0x20, 0x20])

theorem isTagged_iff {table : Ssdt} : isTagged table = true ↔ table.tableId = regionTableId :=
  decide_eq_true_iff

def warnings (tables : List Ssdt) : List Event :=
  List.replicate (tables.countP isTagged) .regionUndeclared

def Unusable (tables : List Ssdt) : Prop :=
  ∀ table ∈ tables, table.tableId = [0x41, 0x4F, 0x44, 0x20, 0x20, 0x20, 0x20, 0x20] →
    scan table.body = none

/-- The tables up to the first usable one, which declares the address. -/
structure FirstUsable (tables before : List Ssdt) (table : Ssdt) (address : UInt64) : Prop where
  split : ∃ after, tables = before ++ table :: after
  passed : Unusable before
  tagged : table.tableId = [0x41, 0x4F, 0x44, 0x20, 0x20, 0x20, 0x20, 0x20]
  declared : scan table.body = some address

section Step

variable {table : Ssdt} (tables : List Ssdt)

theorem locate_cons_of_foreign (foreign : table.tableId ≠ regionTableId) :
    locate (table :: tables) = locate tables := by
  rw [locate, if_neg foreign]

theorem locate_cons_of_undeclared (tagged : table.tableId = regionTableId)
    (undeclared : scan table.body = none) :
    locate (table :: tables) =
      ((locate tables).1, .regionUndeclared :: (locate tables).2) := by
  rw [locate, if_pos tagged, undeclared]

theorem locate_cons_of_declared (tagged : table.tableId = regionTableId) {address : UInt64}
    (declared : scan table.body = some address) :
    locate (table :: tables) =
      (some { address := address, size := regionSize }, [.regionFound address regionSize]) := by
  rw [locate, if_pos tagged, declared]

theorem warnings_cons_of_foreign (foreign : table.tableId ≠ regionTableId) :
    warnings (table :: tables) = warnings tables := by
  rw [warnings, List.countP_cons_of_neg (mt isTagged_iff.mp foreign), ← warnings]

theorem warnings_cons_of_tagged (tagged : table.tableId = regionTableId) :
    warnings (table :: tables) = .regionUndeclared :: warnings tables := by
  rw [warnings, List.countP_cons_of_pos (isTagged_iff.mpr tagged), List.replicate_succ, ← warnings]

end Step

theorem table_cases (table : Ssdt) :
    table.tableId ≠ regionTableId ∨
      (table.tableId = regionTableId ∧ scan table.body = none) ∨
      ∃ address, table.tableId = regionTableId ∧ scan table.body = some address := by
  by_cases tagged : table.tableId = regionTableId
  · cases scanned : scan table.body with
    | none => exact Or.inr (Or.inl ⟨tagged, rfl⟩)
    | some address => exact Or.inr (Or.inr ⟨address, tagged, rfl⟩)
  · exact Or.inl tagged

theorem locate_append (tables more : List Ssdt) :
    locate (tables ++ more) =
      if (locate tables).1.isSome then locate tables
      else ((locate more).1, (locate tables).2 ++ (locate more).2) := by
  induction tables with
  | nil => rfl
  | cons table tables ih =>
      rw [List.cons_append]
      rcases table_cases table with foreign | ⟨tagged, undeclared⟩ | ⟨address, tagged, declared⟩
      · rw [locate_cons_of_foreign _ foreign, locate_cons_of_foreign _ foreign, ih]
      · rw [locate_cons_of_undeclared _ tagged undeclared,
          locate_cons_of_undeclared _ tagged undeclared, ih]
        split_ifs <;> rfl
      · rw [locate_cons_of_declared _ tagged declared, locate_cons_of_declared _ tagged declared]
        rfl

theorem locate_filter (tables : List Ssdt) : locate (tables.filter isTagged) = locate tables := by
  induction tables with
  | nil => rfl
  | cons table tables ih =>
      rcases table_cases table with foreign | ⟨tagged, undeclared⟩ | ⟨address, tagged, declared⟩
      · rw [List.filter_cons_of_neg (mt isTagged_iff.mp foreign),
          locate_cons_of_foreign _ foreign, ih]
      · rw [List.filter_cons_of_pos (isTagged_iff.mpr tagged),
          locate_cons_of_undeclared _ tagged undeclared,
          locate_cons_of_undeclared _ tagged undeclared, ih]
      · rw [List.filter_cons_of_pos (isTagged_iff.mpr tagged),
          locate_cons_of_declared _ tagged declared, locate_cons_of_declared _ tagged declared]

theorem locate_of_unusable {tables : List Ssdt} (unusable : Unusable tables) :
    locate tables = (none, warnings tables) := by
  induction tables with
  | nil => rfl
  | cons table tables ih =>
      have rest := ih fun other member => unusable other (List.mem_cons_of_mem table member)
      by_cases tagged : table.tableId = regionTableId
      · have undeclared := unusable table List.mem_cons_self tagged
        rw [locate_cons_of_undeclared _ tagged undeclared, rest, warnings_cons_of_tagged _ tagged]
      · rw [locate_cons_of_foreign _ tagged, rest, warnings_cons_of_foreign _ tagged]

theorem locate_of_firstUsable {tables before : List Ssdt} {table : Ssdt} {address : UInt64}
    (first : FirstUsable tables before table address) :
    locate tables =
      (some { address := address, size := regionSize },
        warnings before ++ [.regionFound address regionSize]) := by
  obtain ⟨after, rfl⟩ := first.split
  rw [locate_append, locate_of_unusable first.passed, if_neg (by simp),
    locate_cons_of_declared _ first.tagged first.declared]

theorem unusable_cons {table : Ssdt} {tables : List Ssdt} :
    Unusable (table :: tables) ↔
      (table.tableId = regionTableId → scan table.body = none) ∧ Unusable tables :=
  List.forall_mem_cons

theorem FirstUsable.cons {tables before : List Ssdt} {table : Ssdt} {address : UInt64}
    (first : FirstUsable tables before table address) {earlier : Ssdt}
    (passed : earlier.tableId = regionTableId → scan earlier.body = none) :
    FirstUsable (earlier :: tables) (earlier :: before) table address where
  split := by
    obtain ⟨after, rfl⟩ := first.split
    exact ⟨after, rfl⟩
  passed := unusable_cons.mpr ⟨passed, first.passed⟩
  tagged := first.tagged
  declared := first.declared

theorem unusable_or_firstUsable (tables : List Ssdt) :
    Unusable tables ∨ ∃ before table address, FirstUsable tables before table address := by
  induction tables with
  | nil => exact Or.inl (List.forall_mem_nil _)
  | cons table tables ih =>
      by_cases passed : table.tableId = regionTableId → scan table.body = none
      · rcases ih with unusable | ⟨before, other, address, first⟩
        · exact Or.inl (unusable_cons.mpr ⟨passed, unusable⟩)
        · exact Or.inr ⟨table :: before, other, address, first.cons passed⟩
      · obtain ⟨tagged, declares⟩ := Classical.not_imp.mp passed
        obtain ⟨address, declared⟩ := Option.ne_none_iff_exists'.mp declares
        exact Or.inr ⟨[], table, address, ⟨tables, rfl⟩, List.forall_mem_nil _, tagged, declared⟩

theorem locate_eq_some_iff (tables : List Ssdt) (region : MemoryRegion) (events : List Event) :
    locate tables = (some region, events) ↔
      ∃ before table, FirstUsable tables before table region.address ∧ region.size = regionSize ∧
        events = warnings before ++ [.regionFound region.address regionSize] := by
  constructor
  · intro located
    rcases unusable_or_firstUsable tables with unusable | ⟨before, table, address, first⟩
    · rw [locate_of_unusable unusable] at located
      cases located
    · rw [locate_of_firstUsable first] at located
      cases located
      exact ⟨before, table, first, rfl, rfl⟩
  · intro found
    obtain ⟨before, table, first, size, rfl⟩ := found
    rw [locate_of_firstUsable first, ← size]

theorem locate_eq_none_iff (tables : List Ssdt) (events : List Event) :
    locate tables = (none, events) ↔ Unusable tables ∧ events = warnings tables := by
  constructor
  · intro missed
    rcases unusable_or_firstUsable tables with unusable | ⟨before, table, address, first⟩
    · rw [locate_of_unusable unusable] at missed
      cases missed
      exact ⟨unusable, rfl⟩
    · rw [locate_of_firstUsable first] at missed
      cases missed
  · intro missing
    obtain ⟨unusable, rfl⟩ := missing
    exact locate_of_unusable unusable

theorem level_warnings (tables : List Ssdt) :
    (warnings tables).map Event.level =
      List.replicate ((warnings tables).count .regionUndeclared) "WARN" := by
  rw [warnings, List.map_replicate, List.count_replicate_self]
  rfl

/-- All warnings come before the one notice of the region. -/
theorem level_locate (tables : List Ssdt) :
    (locate tables).2.map Event.level =
      List.replicate ((locate tables).2.count .regionUndeclared) "WARN" ++
        if (locate tables).1.isSome then ["INFO"] else [] := by
  rcases unusable_or_firstUsable tables with unusable | ⟨before, table, address, first⟩
  · rw [locate_of_unusable unusable]
    exact (level_warnings tables).trans (List.append_nil _).symm
  · rw [locate_of_firstUsable first, List.map_append, level_warnings, List.count_append]
    rfl

/-- The search takes the first tagged table with a declaration, whatever other tables stand
between the tagged ones. It warns once for each tagged table it passes by and then tells of the
region, if there is one. A longer list is searched on only where the first part has no region. -/
theorem locate_first_usable (tables : List Ssdt) :
    (∀ region events, locate tables = (some region, events) ↔
      ∃ before table, FirstUsable tables before table region.address ∧ region.size = 0x24BB ∧
        events = warnings before ++ [.regionFound region.address 0x24BB]) ∧
    (∀ events, locate tables = (none, events) ↔ Unusable tables ∧ events = warnings tables) ∧
    (∀ other : List Ssdt, other.filter isTagged = tables.filter isTagged →
      locate other = locate tables) ∧
    (∀ more, locate (tables ++ more) =
      if (locate tables).1.isSome then locate tables
      else ((locate more).1, (locate tables).2 ++ (locate more).2)) ∧
    (locate tables).2.map Event.level =
      List.replicate ((locate tables).2.count .regionUndeclared) "WARN" ++
        if (locate tables).1.isSome then ["INFO"] else [] := by
  refine ⟨locate_eq_some_iff tables, locate_eq_none_iff tables, ?_, locate_append tables,
    level_locate tables⟩
  intro other same
  rw [← locate_filter other, same, locate_filter]

/-- A foreign table with the pattern moves behind the tagged ones; of these one declares nothing
and two declare an address. -/
theorem locate_first_usable_of_moved_foreign :
    let body (address : UInt32) : Bytes :=
      regionPattern ++ (AmlInteger.dword address).encode ++ List.replicate 12 0
    let foreign : Ssdt := { tableId := List.replicate 8 0x20, body := body 0x3000 }
    let broken : Ssdt := { tableId := regionTableId, body := regionPattern }
    let first : Ssdt := { tableId := regionTableId, body := body 0x1000 }
    let second : Ssdt := { tableId := regionTableId, body := body 0x2000 }
    let tables := [foreign, broken, first, second]
    let moved := [broken, first, second, foreign]
    moved.filter isTagged = tables.filter isTagged ∧ locate moved = locate tables ∧
      locate tables =
        (some { address := 0x1000, size := 0x24BB },
          [.regionUndeclared, .regionFound 0x1000 0x24BB]) := by
  intro body foreign broken first second tables moved
  have same : moved.filter isTagged = tables.filter isTagged := by decide
  exact ⟨same, (locate_first_usable tables).2.2.1 moved same, by decide⟩

end Aml

end SmuTelemetry
