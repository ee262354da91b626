import SmuTelemetry.Proofs.PmTable.FirstPlausible

/-!
Core clocks and the windows of per-core readings. A window shows entries of the table, each
in its place, and the clock of the processor is that of one of its cores.
-/

namespace SmuTelemetry

set_option autoImplicit false

namespace CoreArray

theorem foldl_larger_mem (first : Binary32) (rest : List Binary32) :
    rest.foldl Binary32.larger first ∈ first :: rest := by
  induction rest generalizing first with
  | nil => exact List.mem_cons_self
  | cons second rest ih =>
      rw [List.foldl_cons]
      rcases List.mem_cons.mp (ih (first.larger second)) with largest | later
      · rw [largest]
        rcases Binary32.larger_eq_or first second with kept | replaced
        · simp [kept]
        · simp [replaced]
      · exact List.mem_cons_of_mem _ (List.mem_cons_of_mem _ later)

theorem mem_of_max? {cores : CoreArray} {largest : Binary32}
    (found : cores.max? = some largest) : largest ∈ cores.toList := by
  rw [max?] at found
  split at found
  next => cases found
  next first rest readings =>
      rw [readings, ← Option.some.inj found]
      exact foldl_larger_mem first rest

end CoreArray

namespace PmTable

theorem mem_coreWindow {table : PmTable} {start count : Nat} {value : Binary32}
    (member : value ∈ (table.coreWindow start count).toList) :
    ∃ index, start ≤ index ∧ index < start + count ∧ table[index]? = some value := by
  rw [coreWindow, window?] at member
  split at member
  next readings found =>
      split at found
      next =>
          rw [← Option.some.inj found, CoreArray.toList_ofList] at member
          obtain ⟨place, held⟩ := List.mem_iff_getElem?.mp (List.mem_of_mem_take member)
          rw [List.getElem?_take] at held
          split at held
          next inside =>
              rw [List.getElem?_drop] at held
              exact ⟨start + place, by omega, by omega, held⟩
          next => cases held
      next => cases found
  next => simp [CoreArray.empty, CoreArray.toList] at member

theorem fastestClock?_eq_some {bounds : Bounds} {clocks : CoreArray} {megahertz : Binary32}
    (found : fastestClock? bounds clocks = some megahertz) :
    ∃ gigahertz ∈ clocks.toList, gigahertz ∈ bounds ∧ megahertz = gigahertz * 1000 := by
  rw [fastestClock?, Option.map_eq_some_iff] at found
  obtain ⟨gigahertz, kept, scaled⟩ := found
  obtain ⟨largest, inside⟩ := Option.filter_eq_some_iff.mp kept
  exact ⟨gigahertz, CoreArray.mem_of_max? largest, Bounds.contains_iff_mem.mp inside, scaled.symm⟩

end PmTable

end SmuTelemetry
