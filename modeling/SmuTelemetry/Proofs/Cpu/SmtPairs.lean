import SmuTelemetry.Cpu.SmtPairs
import SmuTelemetry.Proofs.Binary32.Quotient

/-!
Cores folded from logical processors. There is one reading per pair, as far as there is room,
and it is computed from the two readings of its pair alone, of which the second may be missing
at the end of the list.
-/

namespace SmuTelemetry.SmtPairs

set_option autoImplicit false

open Binary32

theorem siblings_eq (logical : List Binary32) (core : Nat) :
    siblings logical core =
      logical[2 * core]?.toList ++ logical[2 * core + 1]?.toList := by
  rw [siblings, ← List.getElem?_drop (i := 2 * core) (j := 1)]
  conv => rhs; lhs; rw [← Nat.add_zero (2 * core), ← List.getElem?_drop]
  match logical.drop (2 * core) with
  | [] => rfl
  | [_] => rfl
  | _ :: _ :: _ => rfl

theorem length_toList_fold (positiveOnly : Bool) (logical : List Binary32) :
    (fold positiveOnly logical).toList.length = min ((logical.length + 1) / 2) maxCores := by
  simp [fold, CoreArray.toList_ofList, coreCount]

theorem getElem?_toList_fold (positiveOnly : Bool) (logical : List Binary32) {core : Nat}
    (within : core < min ((logical.length + 1) / 2) maxCores) :
    (fold positiveOnly logical).toList[core]? =
      some (mean (kept positiveOnly (siblings logical core))) := by
  have room : core < maxCores := Nat.lt_of_lt_of_le within (Nat.min_le_right _ _)
  rw [fold, CoreArray.toList_ofList, List.getElem?_take_of_lt room, List.getElem?_map,
    coreCount, List.getElem?_range within, Option.map_some]

theorem kept_append (positiveOnly : Bool) (first second : List Binary32) :
    kept positiveOnly (first ++ second) = kept positiveOnly first ++ kept positiveOnly second :=
  List.filter_append _ _

theorem kept_of_positive {reading : Binary32} (positive : 0 < reading) :
    kept true [reading] = [reading] := by
  simp [kept, positive]

theorem kept_of_not_positive {reading : Binary32} (notPositive : ¬0 < reading) :
    kept true [reading] = [] := by
  simp [kept, notPositive]

theorem mean_single {reading : Binary32} (number : reading.isNaN = false)
    (signed : reading ≠ negativeZero) : mean [reading] = reading := by
  change (0 + reading) / 1 = _
  rw [zero_add_of_ne number signed, div_one number]

theorem mean_pair {first second : Binary32}
    (signed : first ≠ negativeZero ∨ second ≠ negativeZero) :
    mean [first, second] = (first + second) / 2 := by
  change (0 + first + second) / 2 = _
  rw [zero_add_add signed]

end SmuTelemetry.SmtPairs
