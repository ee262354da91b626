import SmuTelemetry.PmTable.CoreArray
import SmuTelemetry.Proofs.Indexing.Trap

/-!
Writes to per-core readings, in any order. The storage behaves like a list of at most
sixteen readings: filling replaces the list, setting a core pads it with zeros up to that
core. No slot past the readings is ever shown, so a reading that was dropped stays dropped.
-/

namespace SmuTelemetry

set_option autoImplicit false

inductive CoreWrite where
  | fill (readings : List Binary32)
  | set (core : Nat) (reading : Binary32)

namespace CoreWrite

/-- Writes one after the other; the answers tell for each core that was set whether it had a
slot. -/
def run {State : Type} (step : State → CoreWrite → Option Bool × State) :
    State → List CoreWrite → List (Option Bool) × State
  | state, [] => ([], state)
  | state, write :: writes =>
      let (answer, next) := step state write
      let (answers, last) := run step next writes
      (answer :: answers, last)

/-- New readings, and then single cores set one after the other. -/
def refill (readings : List Binary32) (sets : List (Nat × Binary32)) : List CoreWrite :=
  fill readings :: sets.map fun pair => set pair.1 pair.2

theorem run_view {State View : Type} {step : State → CoreWrite → Option Bool × State}
    {stepView : View → CoreWrite → Option Bool × View} {view : State → View}
    (seen : ∀ state write,
      stepView (view state) write = ((step state write).1, view (step state write).2))
    (state : State) (writes : List CoreWrite) :
    run stepView (view state) writes =
      ((run step state writes).1, view (run step state writes).2) := by
  induction writes generalizing state with
  | nil => rfl
  | cons write writes ih =>
      simp only [run, seen]
      rw [ih]

def onList (held : List Binary32) : CoreWrite → Option Bool × List Binary32
  | fill readings => (none, readings.take 16)
  | set core reading =>
      if core < 16 then
        (some true,
          (held ++ List.replicate (core + 1 - held.length) Binary32.zero).set core reading)
      else
        (some false, held)

end CoreWrite

namespace CoreArray

def write (cores : CoreArray) : CoreWrite → Option Bool × CoreArray
  | .fill readings => (none, cores.fill readings)
  | .set core reading => (some (cores.set core reading).1, (cores.set core reading).2)

def sliced (cores : CoreArray) : Except Trap (List Binary32) :=
  Trap.slice cores.slots.toList 0 cores.count

theorem sliced_eq (cores : CoreArray) : cores.sliced = .ok cores.toList := by
  apply Trap.slice_start
  rw [Vector.length_toList]
  exact cores.count_le

theorem toList_empty : empty.toList = [] := by
  simp [toList, empty]

theorem toList_fill (cores : CoreArray) (readings : List Binary32) :
    (cores.fill readings).toList = readings.take maxCores :=
  toList_ofList readings

theorem getElem?_toList (cores : CoreArray) (core : Nat) :
    cores.toList[core]? = if core < cores.count then cores.slots[core]? else none := by
  rw [toList, List.getElem?_take, Vector.getElem?_toList]

/-- Slots between the readings and the new core hold zero, which is what the list is padded
with. -/
theorem toList_set {cores : CoreArray} {core : Nat} (within : core < maxCores)
    (reading : Binary32) :
    (cores.set core reading).2.toList =
      (cores.toList ++ List.replicate (core + 1 - cores.toList.length) Binary32.zero).set core
        reading := by
  apply List.ext_getElem?
  intro other
  rw [getElem?_toList, List.getElem?_set, List.getElem?_append, List.getElem?_replicate,
    getElem?_toList, List.length_append, List.length_replicate, length_toList]
  simp only [set, within, dif_pos]
  by_cases isCore : core = other
  · subst isCore
    have counted : core < max cores.count (core + 1) := by omega
    have padded : core < cores.count + (core + 1 - cores.count) := by omega
    rw [if_pos counted, if_pos rfl, if_pos padded, Vector.getElem?_set_self]
  · rw [if_neg isCore, Vector.getElem?_set_ne _ isCore]
    by_cases held : other < cores.count
    · have counted : other < max cores.count (core + 1) := by omega
      rw [if_pos counted, if_pos held, if_pos held]
    · by_cases padded : other < core + 1
      · have counted : other < max cores.count (core + 1) := by omega
        have between : other - cores.count < core + 1 - cores.count := by omega
        have unused := cores.unused other (by omega) (by omega)
        rw [if_pos counted, if_neg held, if_pos between, Vector.getElem?_eq_getElem (by omega),
          unused]
      · have uncounted : ¬other < max cores.count (core + 1) := by omega
        have past : ¬other - cores.count < core + 1 - cores.count := by omega
        rw [if_neg uncounted, if_neg held, if_neg past]

theorem onList_toList (cores : CoreArray) (next : CoreWrite) :
    CoreWrite.onList cores.toList next =
      ((cores.write next).1, (cores.write next).2.toList) := by
  cases next with
  | fill readings => exact congrArg (Prod.mk none) (toList_fill cores readings).symm
  | set core reading =>
      rw [CoreWrite.onList]
      split
      next within =>
          have kept : (cores.set core reading).1 = true := by simp [set, maxCores, within]
          rw [write, kept, toList_set within]
      next past => simp [write, set, maxCores, past]

theorem run_onList (cores : CoreArray) (writes : List CoreWrite) :
    CoreWrite.run CoreWrite.onList cores.toList writes =
      ((CoreWrite.run write cores writes).1, (CoreWrite.run write cores writes).2.toList) :=
  CoreWrite.run_view onList_toList cores writes

end CoreArray

def BlankAt (core : Nat) (held : List Binary32) : Prop :=
  ∀ reading, held[core]? = some reading → reading = Binary32.zero

namespace CoreWrite

theorem blankAt_fill {readings : List Binary32} {core : Nat} (past : readings.length ≤ core)
    (held : List Binary32) : BlankAt core (onList held (fill readings)).2 := by
  intro reading found
  have nothing : (readings.take 16)[core]? = none := by
    apply List.getElem?_eq_none
    exact Nat.le_trans (List.length_take_le' 16 readings) past
  cases nothing.symm.trans found

theorem blankAt_set {core other : Nat} (different : other ≠ core) (value : Binary32)
    {held : List Binary32} (blank : BlankAt core held) :
    BlankAt core (onList held (set other value)).2 := by
  intro reading found
  rw [onList] at found
  split at found
  next =>
      rw [List.getElem?_set_ne different, List.getElem?_append, List.getElem?_replicate] at found
      split_ifs at found with inside padded
      · exact blank reading found
      · exact (Option.some.inj found).symm
  next => exact blank reading found

theorem blankAt_run {core : Nat} {sets : List (Nat × Binary32)}
    (elsewhere : ∀ pair ∈ sets, pair.1 ≠ core) {held : List Binary32}
    (blank : BlankAt core held) :
    BlankAt core (run onList held (sets.map fun pair => set pair.1 pair.2)).2 := by
  induction sets generalizing held with
  | nil => exact blank
  | cons pair sets ih =>
      apply ih
      · intro later member
        exact elsewhere later (List.mem_cons_of_mem pair member)
      · exact blankAt_set (elsewhere pair List.mem_cons_self) pair.2 blank

end CoreWrite

namespace CoreArray

theorem blankAt_refill {readings : List Binary32} {core : Nat}
    (dropped : readings.length ≤ core) {sets : List (Nat × Binary32)}
    (elsewhere : ∀ pair ∈ sets, pair.1 ≠ core) (cores : CoreArray) :
    BlankAt core (CoreWrite.run write cores (CoreWrite.refill readings sets)).2.toList := by
  have shown : (CoreWrite.run CoreWrite.onList cores.toList (CoreWrite.refill readings sets)).2 =
      (CoreWrite.run write cores (CoreWrite.refill readings sets)).2.toList :=
    congrArg Prod.snd (run_onList cores _)
  rw [← shown]
  exact CoreWrite.blankAt_run elsewhere (CoreWrite.blankAt_fill dropped cores.toList)

/-- After any writes the readings and all answers are those of a list of at most sixteen
readings. The readings lie inside the storage, and a dropped one does not come back. -/
theorem writes_refine_bounded_list (writes : List CoreWrite) :
    let cores := (CoreWrite.run write empty writes).2
    CoreWrite.run CoreWrite.onList [] writes =
        ((CoreWrite.run write empty writes).1, cores.toList) ∧
      cores.sliced = .ok cores.toList ∧
      cores.count = cores.toList.length ∧ cores.count ≤ 16 ∧
      ∀ (readings : List Binary32) (sets : List (Nat × Binary32)) (core : Nat),
        readings.length ≤ core → (∀ pair ∈ sets, pair.1 ≠ core) →
          BlankAt core
            (CoreWrite.run write cores (CoreWrite.refill readings sets)).2.toList := by
  intro cores
  have listed := run_onList empty writes
  rw [toList_empty] at listed
  refine ⟨listed, sliced_eq cores, (length_toList cores).symm, cores.count_le, ?_⟩
  intro readings sets core dropped elsewhere
  exact blankAt_refill dropped elsewhere cores

/-- Three readings, then one, then a core far behind: the cores between are zero. -/
theorem dropped_readings_stay_away :
    let readings : List Binary32 := [Binary32.nan]
    let sets : List (Nat × Binary32) := [(9, Binary32.one)]
    let cores := (CoreWrite.run write empty [.fill (List.replicate 3 Binary32.one)]).2
    let later := (CoreWrite.run write cores (CoreWrite.refill readings sets)).2
    readings.length ≤ 2 ∧ (∀ pair ∈ sets, pair.1 ≠ 2) ∧ BlankAt 2 later.toList ∧
      later.toList[2]? = some Binary32.zero := by
  intro readings sets cores later
  have elsewhere : ∀ pair ∈ sets, pair.1 ≠ 2 := by decide
  have refined := writes_refine_bounded_list [.fill (List.replicate 3 Binary32.one)]
  exact ⟨by decide, elsewhere,
    refined.2.2.2.2 readings sets 2 (by decide) elsewhere, by decide +kernel⟩

end CoreArray

end SmuTelemetry
