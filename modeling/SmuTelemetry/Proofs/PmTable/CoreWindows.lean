import SmuTelemetry.Proofs.PmTable.CoreWrites
import SmuTelemetry.Proofs.PmTable.PlausibleReadings

/-!
Windows of per-core readings and the clock of the processor. A window is shown whole, each
entry at its core, or not at all. The clock is that of the fastest core that has one: a core
whose entry is a NaN takes no part, wherever it stands.
-/

namespace SmuTelemetry

set_option autoImplicit false

namespace CoreArray

def numbers (readings : List Binary32) : List Binary32 :=
  readings.filter fun reading => !reading.isNaN

def largest? : List Binary32 → Option Binary32
  | [] => none
  | first :: rest => some (rest.foldl Binary32.larger first)

structure IsLargest (readings : List Binary32) (largest : Binary32) : Prop where
  member : largest ∈ readings
  number : largest.isNaN = false
  above : ∀ other ∈ readings, other.isNaN = false → other ≤ largest

theorem IsLargest.alike {readings : List Binary32} {first second : Binary32}
    (firstLargest : IsLargest readings first) (secondLargest : IsLargest readings second) :
    first = second ∨ first.isZero = true ∧ second.isZero = true :=
  Binary32.eq_or_isZero_of_le_of_le
    (secondLargest.above first firstLargest.member firstLargest.number)
    (firstLargest.above second secondLargest.member secondLargest.number)

theorem max?_eq_largest? (cores : CoreArray) : cores.max? = largest? cores.toList := by
  unfold max? largest?
  cases cores.toList <;> rfl

theorem le_foldl_larger {first reading : Binary32} {rest : List Binary32}
    (member : reading ∈ first :: rest) (number : reading.isNaN = false) :
    reading ≤ rest.foldl Binary32.larger first := by
  induction rest generalizing first reading with
  | nil =>
      rw [List.mem_singleton.mp member] at number ⊢
      exact ⟨number, number, Int.le_refl _⟩
  | cons second rest ih =>
      rw [List.foldl_cons]
      have carried {earlier : Binary32} (below : earlier ≤ first.larger second) :
          earlier ≤ rest.foldl Binary32.larger (first.larger second) :=
        Binary32.le_trans below (ih List.mem_cons_self below.2.1)
      rcases List.mem_cons.mp member with rfl | later
      · exact carried (Binary32.le_larger_left number second)
      · rcases List.mem_cons.mp later with rfl | last
        · exact carried (Binary32.le_larger_right first number)
        · exact ih (List.mem_cons_of_mem _ last) number

/-- NaNs are out of account: the largest reading, when it is a number, is the largest of the
numbers. -/
theorem filter_largest? (readings : List Binary32) :
    (largest? readings).filter (fun reading => !reading.isNaN) = largest? (numbers readings) := by
  cases readings with
  | nil => rfl
  | cons first rest =>
    induction rest generalizing first with
    | nil => cases nan : first.isNaN <;> simp [largest?, numbers, nan]
    | cons second rest ih =>
        have step : largest? (first :: second :: rest) =
            largest? (first.larger second :: rest) := rfl
        rw [step, ih]
        cases firstNaN : first.isNaN with
        | true =>
            rw [Binary32.larger_of_isNaN firstNaN]
            simp [numbers, firstNaN]
        | false =>
            cases secondNaN : second.isNaN with
            | true =>
                rw [Binary32.larger_isNaN firstNaN secondNaN]
                simp [numbers, firstNaN, secondNaN]
            | false =>
                have number := Binary32.isNaN_larger firstNaN secondNaN
                simp [numbers, firstNaN, secondNaN, number, largest?]

theorem isLargest_of_largest?_numbers {readings : List Binary32} {largest : Binary32}
    (found : largest? (numbers readings) = some largest) : IsLargest readings largest := by
  rw [← filter_largest?, Option.filter_eq_some_iff] at found
  obtain ⟨folded, number⟩ := found
  have isNumber : largest.isNaN = false := by simpa using number
  cases readings with
  | nil => cases folded
  | cons first rest =>
      obtain rfl := Option.some.inj folded
      exact ⟨foldl_larger_mem first rest, isNumber, fun other member otherNumber =>
        le_foldl_larger member otherNumber⟩

end CoreArray

namespace PmTable

/-- The cores of a window show its entries, each at its place, when all of them lie inside the
table, and nothing otherwise. -/
structure ShowsWindow (table : PmTable) (start count : Nat) (cores : CoreArray) : Prop where
  complete : start + count ≤ table.length →
    cores.toList.length = count ∧ ∀ core < count, cores.toList[core]? = table[start + core]?
  incomplete : table.length < start + count → cores.toList = []

theorem coreWindow_showsWindow (table : PmTable) (start : Nat) {count : Nat}
    (room : count ≤ maxCores) : table.ShowsWindow start count (table.coreWindow start count) where
  complete := by
    intro inside
    have readings : (table.coreWindow start count).toList = (table.drop start).take count := by
      rw [coreWindow, window?, if_pos inside, CoreArray.toList_ofList, List.take_take,
        Nat.min_eq_right room]
    rw [readings]
    constructor
    · rw [List.length_take, List.length_drop]
      omega
    · intro core within
      rw [List.getElem?_take_of_lt within, List.getElem?_drop]
  incomplete := by
    intro outside
    rw [coreWindow, window?, if_neg (Nat.not_le.mpr outside), CoreArray.toList_empty]

/-- The clock of the processor is that of its fastest core, a thousandfold, when that core's
clock is plausible. Cores without a number leave no clock. -/
structure FollowsClocks (bounds : Bounds) (clocks : List Binary32) (clock : Option Binary32) :
    Prop where
  absent : (∀ gigahertz ∈ clocks, gigahertz.isNaN = true) → clock = none
  fastest : (∃ gigahertz ∈ clocks, gigahertz.isNaN = false) →
    ∃ gigahertz, CoreArray.IsLargest clocks gigahertz ∧
      (gigahertz ∈ bounds → clock = some (gigahertz * 1000)) ∧
      (gigahertz ∉ bounds → clock = none)
  alike : ∀ first second, CoreArray.IsLargest clocks first → CoreArray.IsLargest clocks second →
    first = second ∨ first.isZero = true ∧ second.isZero = true

theorem fastestClock?_eq_numbers (bounds : Bounds) (clocks : CoreArray) :
    fastestClock? bounds clocks =
      ((CoreArray.largest? (CoreArray.numbers clocks.toList)).filter bounds.contains).map
        fun gigahertz => gigahertz * 1000 := by
  have checked : ∀ gigahertz, bounds.contains gigahertz =
      (!gigahertz.isNaN && bounds.contains gigahertz) := by
    intro gigahertz
    cases inside : bounds.contains gigahertz with
    | false => rw [Bool.and_false]
    | true => rw [Bounds.isNaN_of_mem (Bounds.contains_iff_mem.mp inside)]; rfl
  rw [fastestClock?, CoreArray.max?_eq_largest?, ← CoreArray.filter_largest?,
    Option.filter_filter]
  congr 2
  funext gigahertz
  exact checked gigahertz

theorem fastestClock?_followsClocks (bounds : Bounds) (clocks : CoreArray) :
    FollowsClocks bounds clocks.toList (fastestClock? bounds clocks) where
  absent := by
    intro silent
    have nothing : CoreArray.numbers clocks.toList = [] := by
      simpa [CoreArray.numbers] using silent
    rw [fastestClock?_eq_numbers, nothing]
    rfl
  fastest := by
    rintro ⟨clock, member, number⟩
    have counted : clock ∈ CoreArray.numbers clocks.toList := by
      simp [CoreArray.numbers, member, number]
    rw [fastestClock?_eq_numbers]
    cases found : CoreArray.largest? (CoreArray.numbers clocks.toList) with
    | none =>
        cases listed : CoreArray.numbers clocks.toList with
        | nil => simp [listed] at counted
        | cons first rest => simp [listed, CoreArray.largest?] at found
    | some gigahertz =>
        refine ⟨gigahertz, CoreArray.isLargest_of_largest?_numbers found, ?_, ?_⟩
        · intro inside
          rw [Option.filter_some_pos (Bounds.contains_iff_mem.mpr inside), Option.map_some]
        · intro outside
          have refused : bounds.contains gigahertz = false := decide_eq_false outside
          rw [Option.filter_some_neg refused, Option.map_none]
  alike := fun _ _ => CoreArray.IsLargest.alike

end PmTable

namespace Layout

theorem coreClock_metrics (layout : Layout) (named : List NamedSlot) (addressing : Addressing)
    (limits : PlausibilityLimits) (table : PmTable) :
    (layout.metrics named addressing limits table).coreClock =
      PmTable.fastestClock? limits.coreClock
        (layout.metrics named addressing limits table).coreClocks := by
  rw [metrics]
  split <;> rfl

/-- The per-core temperatures, voltages and clocks are whole windows of the table or empty, and
no window is wider than sixteen. The clock of the processor follows the clocks of its cores, and
tables whose clocks differ by NaNs alone give one clock. -/
theorem core_windows_all_or_nothing (layout : Layout) (named : List NamedSlot)
    (addressing : Addressing) (limits : PlausibilityLimits) (table : PmTable)
    (fit : layout.WindowsFit) (long : 4 ≤ table.length) :
    ∃ metrics, layout.decode named addressing limits table = .ok metrics ∧
      table.ShowsWindow layout.coreTempStart (min layout.coreCount 16) metrics.coreTemps ∧
      table.ShowsWindow layout.coreVoltageStart (min layout.coreCount 16) metrics.coreVoltages ∧
      table.ShowsWindow 325 16 metrics.coreClocks ∧
      PmTable.FollowsClocks limits.coreClock metrics.coreClocks.toList metrics.coreClock ∧
      ∀ other otherMetrics, layout.decode named addressing limits other = .ok otherMetrics →
        CoreArray.numbers otherMetrics.coreClocks.toList =
          CoreArray.numbers metrics.coreClocks.toList →
        otherMetrics.coreClock = metrics.coreClock := by
  have capped : layout.cores ≤ maxCores := Nat.min_le_right _ _
  refine ⟨_, decode_of_windowsFit fit named addressing limits long,
    table.coreWindow_showsWindow _ capped, table.coreWindow_showsWindow _ capped,
    table.coreWindow_showsWindow _ (Nat.le_refl maxCores),
    PmTable.fastestClock?_followsClocks _ _, ?_⟩
  intro other otherMetrics decoded same
  rw [decode_eq_metrics fit] at decoded
  obtain rfl := Except.ok.inj decoded
  rw [coreClock_metrics, PmTable.fastestClock?_eq_numbers, same,
    ← PmTable.fastestClock?_eq_numbers]
  rfl

/-- Twenty cores are cut to sixteen. Their voltages would leave the table at its last entries,
and a NaN at the first core hides no other core's clock, nor does one at the last. -/
theorem core_windows_of_twenty_cores :
    let layout : Layout :=
      { graniteRidge with coreCount := 20, coreTempStart := 2, coreVoltageStart := 330 }
    let table : PmTable := List.replicate 325 1 ++ Binary32.nan :: List.replicate 15 4
    let other : PmTable := List.replicate 340 4 ++ [Binary32.nan]
    layout.WindowsFit ∧ 4 ≤ table.length ∧
      ∃ metrics, layout.decode layout.named .floatIndex {} table = .ok metrics ∧
        metrics.coreTemps.toList.length = 16 ∧ metrics.coreVoltages.toList = [] ∧
        metrics.coreClock = some 4000 ∧
        ∃ otherMetrics, layout.decode layout.named .floatIndex {} other = .ok otherMetrics ∧
          otherMetrics.coreClock = metrics.coreClock := by
  intro layout table other
  have fit : layout.WindowsFit := ⟨by decide, by decide⟩
  have long : 4 ≤ table.length := by decide +kernel
  obtain ⟨metrics, decoded, temperatures, voltages, clocks, clock, others⟩ :=
    core_windows_all_or_nothing layout layout.named .floatIndex {} table fit long
  obtain ⟨count, shown⟩ := clocks.complete (by decide +kernel)
  have entries : ∀ core < 16, table[325 + core]? = some Binary32.nan ∨
      table[325 + core]? = some 4 := by decide +kernel
  have second : metrics.coreClocks.toList[1]? = some 4 :=
    (shown 1 (by decide)).trans (by decide +kernel)
  obtain ⟨gigahertz, largest, taken, -⟩ :=
    clock.fastest ⟨4, List.mem_of_getElem? second, by decide⟩
  -- The largest clock stands at some core, and every core but the first has this one.
  have four : gigahertz = 4 := by
    obtain ⟨core, held⟩ := List.mem_iff_getElem?.mp largest.member
    have within : core < 16 := by
      rw [← count]
      exact (List.getElem?_eq_some_iff.mp held).1
    rw [shown core within] at held
    rcases entries core within with nan | number
    · rw [← Option.some.inj (nan.symm.trans held)] at largest
      exact absurd largest.number (by decide)
    · exact Option.some.inj (held.symm.trans number)
  have scaled : (4 : Binary32) * 1000 = 4000 := by decide +kernel
  rw [four, scaled] at taken
  have otherDecoded := decode_of_windowsFit fit layout.named .floatIndex {}
    (show 4 ≤ other.length by decide +kernel)
  refine ⟨fit, long, metrics, decoded, (temperatures.complete (by decide +kernel)).1,
    voltages.incomplete (by decide +kernel), taken (by decide +kernel), _, otherDecoded, ?_⟩
  apply others other _ otherDecoded
  have same := Except.ok.inj
    (decoded.symm.trans (decode_of_windowsFit fit layout.named .floatIndex {} long))
  rw [same]
  decide +kernel

end Layout

end SmuTelemetry
