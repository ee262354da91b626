import SmuTelemetry.Binary32.Basic

/-!
Per-core readings in fixed storage. A part has at most sixteen cores, so the storage
never grows; a count says how many leading slots hold readings, and slots past it hold
zero. `toList` shows the readings, and two arrays with the same readings are equal.
-/

namespace SmuTelemetry

set_option autoImplicit false

def maxCores : Nat := 16

structure CoreArray where
  slots : Vector Binary32 maxCores
  count : Nat
  count_le : count ≤ maxCores
  unused : ∀ core (within : core < maxCores), count ≤ core → slots[core] = Binary32.zero
deriving DecidableEq

namespace CoreArray

def empty : CoreArray where
  slots := Vector.replicate maxCores Binary32.zero
  count := 0
  count_le := Nat.zero_le maxCores
  unused := fun _ within _ => Vector.getElem_replicate within

def toList (cores : CoreArray) : List Binary32 := cores.slots.toList.take cores.count

def ofList (readings : List Binary32) : CoreArray where
  slots := Vector.ofFn fun core => readings.getD core Binary32.zero
  count := min readings.length maxCores
  count_le := Nat.min_le_right _ _
  unused := by
    intro core within past
    simp only [Vector.getElem_ofFn]
    simp [List.getD, List.getElem?_eq_none (by omega : readings.length ≤ core)]

def fill (_cores : CoreArray) (readings : List Binary32) : CoreArray := ofList readings

/-- Writes one core and counts the cores up to it; a core without a slot changes nothing,
and the answer says which of the two happened. -/
def set (cores : CoreArray) (core : Nat) (reading : Binary32) : Bool × CoreArray :=
  if within : core < maxCores then
    (true,
      { slots := cores.slots.set core reading within
        count := max cores.count (core + 1)
        count_le := Nat.max_le.mpr ⟨cores.count_le, within⟩
        unused := by
          intro other otherWithin past
          rw [Vector.getElem_set_ne _ _ (by omega)]
          exact cores.unused other otherWithin (by omega) })
  else
    (false, cores)

def isEmpty (cores : CoreArray) : Bool := cores.count == 0

/-- The largest reading; NaNs count only where there is nothing else. -/
def max? (cores : CoreArray) : Option Binary32 :=
  match cores.toList with
  | [] => none
  | first :: rest => some (rest.foldl Binary32.larger first)

theorem length_toList (cores : CoreArray) : cores.toList.length = cores.count := by
  simp [toList, Nat.min_eq_left cores.count_le]

theorem toList_ofList (readings : List Binary32) :
    (ofList readings).toList = readings.take maxCores := by
  apply List.ext_getElem?
  intro core
  simp only [toList, ofList, List.getElem?_take, Vector.toList_ofFn, List.getElem?_ofFn]
  by_cases within : core < maxCores
  · by_cases held : core < readings.length
    · rw [if_pos (Nat.lt_min.mpr ⟨held, within⟩), if_pos within, dif_pos within]
      simp [List.getD, held]
    · rw [if_neg (by omega), if_pos within, List.getElem?_eq_none (by omega)]
  · rw [if_neg (by omega), if_neg within]

theorem slots_eq_getD (cores : CoreArray) (core : Nat) (within : core < maxCores) :
    cores.slots[core] = cores.toList.getD core Binary32.zero := by
  by_cases held : core < cores.count
  · simp [toList, List.getD, held, within]
  · have past : cores.toList.length ≤ core := by
      rw [length_toList]
      omega
    rw [cores.unused core within (by omega)]
    simp [List.getD, List.getElem?_eq_none past]

theorem ext_toList {first second : CoreArray} (same : first.toList = second.toList) :
    first = second := by
  have counts : first.count = second.count := by
    rw [← length_toList first, ← length_toList second, same]
  have slots : first.slots = second.slots := by
    apply Vector.ext
    intro core within
    rw [slots_eq_getD, slots_eq_getD, same]
  cases first
  cases second
  simp_all

end CoreArray

end SmuTelemetry
