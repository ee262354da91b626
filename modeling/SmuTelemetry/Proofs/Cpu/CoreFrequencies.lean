import SmuTelemetry.Proofs.Cpu.Frequencies
import SmuTelemetry.Proofs.Cpu.SmtPairs
import SmuTelemetry.Proofs.Text.Natural

/-!
Frequencies of processors and of the cores they make up. The list of frequencies ends before
the first processor, other than the first of all, that has none; the first one then reads as
zero, which no mean of a core counts. A frequency in megahertz is never zero, so nothing but a
lone zero is cut from the end of the list.
-/

namespace SmuTelemetry.Frequency

set_option autoImplicit false

open Binary32

def kilohertzMagnitude (kilohertz : Nat) : Nat := roundedMagnitude (kilohertz * unitsPerOne) 1

def megahertzMagnitude (kilohertz : Nat) : Nat :=
  roundedMagnitude (magnitudeUnits (kilohertzMagnitude kilohertz) * unitsPerOne)
    (1000 * unitsPerOne)

section Magnitudes

variable {kilohertz : Nat}

theorem kilohertzMagnitude_finite (small : kilohertz < UInt64.size) :
    kilohertzMagnitude kilohertz < infinityMagnitude := by
  have largest : magnitudeUnits 0x5F800000 = UInt64.size * unitsPerOne := by decide
  have below : kilohertzMagnitude kilohertz ≤ 0x5F800000 := by
    apply roundedMagnitude_le Nat.one_pos
    rw [largest, Nat.mul_one]
    exact Nat.mul_le_mul_right unitsPerOne (Nat.le_of_lt small)
  exact Nat.lt_of_le_of_lt below (by decide)

theorem le_kilohertzMagnitude (positive : 0 < kilohertz) :
    0x3F800000 ≤ kilohertzMagnitude kilohertz := by
  have one : magnitudeUnits 0x3F800000 = unitsPerOne := by decide
  apply le_roundedMagnitude Nat.one_pos (by decide)
  rw [one, Nat.mul_one]
  exact Nat.le_mul_of_pos_left unitsPerOne positive

theorem megahertz_eq (small : kilohertz < UInt64.size) :
    ReferenceClock.megahertz kilohertz = ofMagnitude false (megahertzMagnitude kilohertz) := by
  have thousand : (1000 : Binary32) = ofMagnitude false 0x447A0000 := by decide
  have units : magnitudeUnits 0x447A0000 = 1000 * unitsPerOne := by decide
  change ofMagnitude false (kilohertzMagnitude kilohertz) / 1000 = _
  rw [thousand, div_ofMagnitude (kilohertzMagnitude_finite small) (by decide) (by decide), units]
  rfl

theorem megahertzMagnitude_finite (small : kilohertz < UInt64.size) :
    megahertzMagnitude kilohertz < infinityMagnitude := by
  refine Nat.lt_of_le_of_lt (roundedMagnitude_le (by decide) ?_) (kilohertzMagnitude_finite small)
  exact Nat.mul_le_mul_left _ (Nat.le_mul_of_pos_left unitsPerOne (by decide))

theorem megahertzMagnitude_pos (positive : 0 < kilohertz) :
    0 < megahertzMagnitude kilohertz := by
  have smallest : magnitudeUnits 1 = 1 := by decide
  have enough : 1000 ≤ magnitudeUnits 0x3F800000 := by decide
  have size := magnitudeUnits_strictMono.monotone (le_kilohertzMagnitude positive)
  apply le_roundedMagnitude (by decide) (by decide)
  rw [smallest, Nat.one_mul]
  exact Nat.mul_le_mul_right unitsPerOne (Nat.le_trans enough size)

end Magnitudes

variable {tree : FileTree} {root : String}

theorem megahertz_positive_of_holds {path : String} {kilohertz : Nat}
    (holds : tree.HoldsKilohertz path kilohertz) : 0 < ReferenceClock.megahertz kilohertz := by
  obtain ⟨text, -, read, positive⟩ := holds
  have small := ((Text.natural?_eq_some_iff _ _ _ _).mp read).2
  rw [positive_iff_magnitude]
  exact ⟨_, megahertzMagnitude_pos positive, Nat.le_of_lt (megahertzMagnitude_finite small),
    megahertz_eq small⟩

def Usable (tree : FileTree) (root : String) (cpu : Nat) : Prop :=
  ∃ kilohertz, HoldsCurrent tree root cpu kilohertz

/-- The first processor after the first of all that has no frequency, or the first number that
is not tracked. -/
def FirstGap (tree : FileTree) (root : String) (gap : Nat) : Prop :=
  IsLeast {cpu | 1 ≤ cpu ∧ (cpu < 256 → ¬Usable tree root cpu)} gap

theorem exists_firstGap (tree : FileTree) (root : String) : ∃ gap, FirstGap tree root gap :=
  ⟨_, isLeast_csInf ⟨256, by simp⟩⟩

def Counted (tree : FileTree) (root : String) (gap cpu kilohertz : Nat) : Prop :=
  cpu < gap ∧ HoldsCurrent tree root cpu kilohertz

section Gap

variable {gap : Nat}

theorem FirstGap.pos (first : FirstGap tree root gap) : 1 ≤ gap := first.1.1

theorem FirstGap.usable (first : FirstGap tree root gap) {cpu : Nat} (later : 1 ≤ cpu)
    (before : cpu < gap) : Usable tree root cpu := by
  by_contra missing
  exact absurd (first.2 ⟨later, fun _ => missing⟩) (Nat.not_le.mpr before)

theorem FirstGap.tracked_iff (first : FirstGap tree root gap) (cpu : Nat) :
    Tracked tree root cpu ↔ cpu < gap := by
  have all : gap ≤ 256 := first.2 ⟨by decide, fun below => absurd below (Nat.lt_irrefl 256)⟩
  constructor
  · intro tracked
    by_contra past
    have inside : gap < 256 := Nat.lt_of_le_of_lt (Nat.not_lt.mp past) tracked.1
    exact first.1.2 inside (tracked.2 gap first.pos (Nat.not_lt.mp past))
  · intro before
    refine ⟨Nat.lt_of_lt_of_le before all, fun other later upTo => ?_⟩
    exact first.usable later (Nat.lt_of_le_of_lt upTo before)

theorem FirstGap.consecutive_eq (first : FirstGap tree root gap) :
    consecutive tree root = List.range gap := by
  apply List.ext_getElem?
  intro cpu
  apply Option.ext
  intro value
  rw [getElem?_consecutive, first.tracked_iff, List.getElem?_eq_some_iff]
  simp only [List.length_range, List.getElem_range, exists_prop]
  constructor
  · rintro ⟨rfl, before⟩
    exact ⟨before, rfl⟩
  · rintro ⟨before, rfl⟩
    exact ⟨rfl, before⟩

theorem reading_readOr (tree : FileTree) (root : String) (cpu : Nat) :
    ReadOr (HoldsCurrent tree root cpu) (fun kilohertz => ofNat kilohertz / 1000) 0
      (reading tree root cpu) := by
  rw [reading_eq_elim]
  exact readOr_of_option (fun _ => kilohertz?_current_eq_some_iff) _ _

theorem reading_ne_zero {cpu : Nat} (usable : Usable tree root cpu) :
    reading tree root cpu ≠ 0 := by
  obtain ⟨kilohertz, holds⟩ := usable
  have shown : reading tree root cpu = ReferenceClock.megahertz kilohertz :=
    (reading_readOr tree root cpu).1 kilohertz holds
  intro zero
  have positive := megahertz_positive_of_holds holds
  rw [← shown, zero] at positive
  exact absurd positive (by decide)

theorem reading_eq_zero {cpu : Nat} (missing : ¬Usable tree root cpu) :
    reading tree root cpu = 0 :=
  (reading_readOr tree root cpu).2 fun kilohertz holds => missing ⟨kilohertz, holds⟩

theorem FirstGap.logical_eq_nil (first : FirstGap tree root 1) (missing : ¬Usable tree root 0) :
    logical tree root = [] := by
  rw [logical_eq_rdropWhile, first.consecutive_eq]
  simp [reading_eq_zero missing, List.rdropWhile_singleton]

/-- The last processor before the gap has a frequency, so there is no zero to cut. -/
theorem FirstGap.logical_eq (first : FirstGap tree root gap)
    (present : ¬(gap = 1 ∧ ¬Usable tree root 0)) :
    logical tree root = (List.range gap).map (reading tree root) := by
  rw [logical_eq_rdropWhile, first.consecutive_eq, List.rdropWhile_eq_self_iff]
  intro nonempty zero
  have last : Usable tree root (gap - 1) := by
    have positive := first.pos
    by_cases single : gap = 1
    · by_contra missing
      rw [single] at missing
      exact present ⟨single, missing⟩
    · exact first.usable (by omega) (by omega)
  rw [List.getLast_map, List.getLast_range] at zero
  exact reading_ne_zero last (beq_iff_eq.mp zero)

theorem FirstGap.trackedKilohertz?_eq_some_iff (first : FirstGap tree root gap)
    {cpu kilohertz : Nat} :
    trackedKilohertz? tree root cpu = some kilohertz ↔ Counted tree root gap cpu kilohertz := by
  rw [Frequency.trackedKilohertz?_eq_some_iff, first.tracked_iff, Counted]

theorem FirstGap.trackedKilohertz?_eq_none_iff (first : FirstGap tree root gap) {cpu : Nat} :
    trackedKilohertz? tree root cpu = none ↔
      ∀ kilohertz, ¬Counted tree root gap cpu kilohertz := by
  simp only [Option.eq_none_iff_forall_ne_some, ne_eq, first.trackedKilohertz?_eq_some_iff]

/-- What a mean keeps of a processor is its frequency, if it is listed with one. The zero that
stands for a missing frequency is left out, so it does not matter whether it is listed. -/
theorem kept_logical (tree : FileTree) (root : String) (cpu : Nat) :
    SmtPairs.kept true (logical tree root)[cpu]?.toList =
      (trackedKilohertz? tree root cpu).toList.map ReferenceClock.megahertz := by
  have shown := getD_logical tree root cpu
  have dropped : SmtPairs.kept true [0] = [] := SmtPairs.kept_of_not_positive (by decide)
  have same : SmtPairs.kept true (logical tree root)[cpu]?.toList =
      SmtPairs.kept true [(logical tree root).getD cpu 0] := by
    rw [List.getD_eq_getElem?_getD]
    cases (logical tree root)[cpu]? with
    | none => rw [Option.getD_none, dropped, Option.toList_none, SmtPairs.kept, List.filter_nil]
    | some reading => rw [Option.getD_some, Option.toList_some]
  rw [same, shown]
  cases found : trackedKilohertz? tree root cpu with
  | none => rw [Option.elim_none, dropped, Option.toList_none, List.map_nil]
  | some kilohertz =>
      have holds := (Frequency.trackedKilohertz?_eq_some_iff.mp found).2
      rw [Option.elim_some, SmtPairs.kept_of_positive (megahertz_positive_of_holds holds),
        Option.toList_some, List.map_singleton]

/-- The reading of a core is the mean over those of its two processors that have a frequency,
and at least one of them has. -/
structure CoreMean (tree : FileTree) (root : String) (gap core : Nat) (reading : Binary32) :
    Prop where
  present : (∃ first, Counted tree root gap (2 * core) first) ∨
    ∃ second, Counted tree root gap (2 * core + 1) second
  both : ∀ first second, Counted tree root gap (2 * core) first →
    Counted tree root gap (2 * core + 1) second →
    reading = (ofNat first / 1000 + ofNat second / 1000) / 2
  firstOnly : ∀ first, Counted tree root gap (2 * core) first →
    (∀ second, ¬Counted tree root gap (2 * core + 1) second) →
    reading = ofNat first / 1000
  secondOnly : ∀ second, (∀ first, ¬Counted tree root gap (2 * core) first) →
    Counted tree root gap (2 * core + 1) second → reading = ofNat second / 1000

/-- A listed core has a processor with a frequency: only the first processor may be listed
without one, and then the second one has. -/
theorem FirstGap.exists_counted (first : FirstGap tree root gap) {core : Nat}
    (listed : 2 * core < (logical tree root).length) :
    (∃ kilohertz, Counted tree root gap (2 * core) kilohertz) ∨
      ∃ kilohertz, Counted tree root gap (2 * core + 1) kilohertz := by
  have present : ¬(gap = 1 ∧ ¬Usable tree root 0) := by
    rintro ⟨rfl, missing⟩
    rw [first.logical_eq_nil missing] at listed
    exact Nat.not_lt_zero _ listed
  rw [first.logical_eq present, List.length_map, List.length_range] at listed
  by_cases usable : Usable tree root (2 * core)
  · obtain ⟨kilohertz, holds⟩ := usable
    exact Or.inl ⟨kilohertz, listed, holds⟩
  · have start : core = 0 := by
      by_contra later
      exact usable (first.usable (by omega) listed)
    subst start
    have second : 1 < gap := by
      have positive := first.pos
      by_contra single
      exact present ⟨by omega, usable⟩
    obtain ⟨kilohertz, holds⟩ := first.usable (Nat.le_refl 1) second
    exact Or.inr ⟨kilohertz, second, holds⟩

theorem FirstGap.coreMean (first : FirstGap tree root gap) {core : Nat}
    (listed : 2 * core < (logical tree root).length) :
    CoreMean tree root gap core
      (SmtPairs.mean (SmtPairs.kept true (SmtPairs.siblings (logical tree root) core))) := by
  rw [SmtPairs.siblings_eq, SmtPairs.kept_append, kept_logical, kept_logical]
  constructor
  case present => exact first.exists_counted listed
  case both =>
    intro former latter formerCounted latterCounted
    have positive := megahertz_positive_of_holds formerCounted.2
    rw [first.trackedKilohertz?_eq_some_iff.mpr formerCounted,
      first.trackedKilohertz?_eq_some_iff.mpr latterCounted]
    simp only [Option.toList_some, List.map_cons, List.map_nil, List.cons_append, List.nil_append]
    exact SmtPairs.mean_pair (Or.inl (ne_negativeZero positive))
  case firstOnly =>
    intro former formerCounted missing
    have positive := megahertz_positive_of_holds formerCounted.2
    rw [first.trackedKilohertz?_eq_some_iff.mpr formerCounted,
      first.trackedKilohertz?_eq_none_iff.mpr missing]
    simp only [Option.toList_some, Option.toList_none, List.map_cons, List.map_nil,
      List.append_nil]
    exact SmtPairs.mean_single (isNaN_of_positive positive) (ne_negativeZero positive)
  case secondOnly =>
    intro latter missing latterCounted
    have positive := megahertz_positive_of_holds latterCounted.2
    rw [first.trackedKilohertz?_eq_some_iff.mpr latterCounted,
      first.trackedKilohertz?_eq_none_iff.mpr missing]
    simp only [Option.toList_some, Option.toList_none, List.map_cons, List.map_nil,
      List.nil_append]
    exact SmtPairs.mean_single (isNaN_of_positive positive) (ne_negativeZero positive)

theorem FirstGap.getElem?_cores (first : FirstGap tree root gap) {core : Nat}
    {reading : Binary32} (found : (cores tree root).toList[core]? = some reading) :
    CoreMean tree root gap core reading := by
  have count := SmtPairs.length_toList_fold true (logical tree root)
  obtain ⟨within, held⟩ := List.getElem?_eq_some_iff.mp found
  change core < (SmtPairs.fold true (logical tree root)).toList.length at within
  rw [count] at within
  have mean := SmtPairs.getElem?_toList_fold true (logical tree root) within
  obtain rfl := Option.some.inj (found.symm.trans mean)
  exact first.coreMean (by omega)

end Gap

/-- The frequencies listed are those of the processors before the first gap: one for each, zero
for a first processor without one, and none at all where that zero would stand alone. A core's
reading is the mean over its processors that have a frequency, so a first processor without one
leaves the first core at the frequency of the second processor. -/
theorem frequencies_before_first_gap (tree : FileTree) (root : String) :
    ∃ gap, FirstGap tree root gap ∧
      (gap = 1 ∧ ¬Usable tree root 0 → logical tree root = []) ∧
      (¬(gap = 1 ∧ ¬Usable tree root 0) → (logical tree root).length = gap ∧
        ∀ cpu < gap, ∃ reading, (logical tree root)[cpu]? = some reading ∧
          ReadOr (HoldsCurrent tree root cpu) (fun kilohertz => ofNat kilohertz / 1000) 0
            reading) ∧
      (cores tree root).toList.length = min (((logical tree root).length + 1) / 2) 16 ∧
      (∀ core reading, (cores tree root).toList[core]? = some reading →
        CoreMean tree root gap core reading) ∧
      ∀ second, ¬Usable tree root 0 → Counted tree root gap 1 second →
        (cores tree root).toList[0]? = some (ofNat second / 1000) := by
  obtain ⟨gap, first⟩ := exists_firstGap tree root
  have count := SmtPairs.length_toList_fold true (logical tree root)
  refine ⟨gap, first, ?_, ?_, count, ?_, ?_⟩
  · rintro ⟨rfl, missing⟩
    exact first.logical_eq_nil missing
  · intro present
    rw [first.logical_eq present, List.length_map, List.length_range]
    refine ⟨rfl, fun cpu before => ⟨reading tree root cpu, ?_, reading_readOr tree root cpu⟩⟩
    rw [List.getElem?_map, List.getElem?_range before, Option.map_some]
  · intro core reading found
    exact first.getElem?_cores found
  · intro second missing counted
    have present : ¬(gap = 1 ∧ ¬Usable tree root 0) := by
      rintro ⟨rfl, -⟩
      exact Nat.lt_irrefl 1 counted.1
    have inside : 0 < (cores tree root).toList.length := by
      change 0 < (SmtPairs.fold true (logical tree root)).toList.length
      rw [count, first.logical_eq present, List.length_map, List.length_range]
      have later := counted.1
      simp only [maxCores]
      omega
    have found := List.getElem?_eq_getElem inside
    have mean := first.getElem?_cores found
    rw [found, mean.secondOnly second _ counted]
    exact fun former holds => missing ⟨former, holds.2⟩

/-- The first processor has no attribute and neither has the fourth. The second one shares the
first core and the third one has the second core to itself. -/
theorem frequencies_of_second_and_third_processor :
    let directory (cpu : String) := ["cpu", cpu, "cpufreq"]
    let tree : FileTree :=
      { nodes := [(["cpu"], .directory), (["cpu", "cpu1"], .directory),
          (directory "cpu1", .directory), (directory "cpu1" ++ ["scaling_cur_freq"], .file 1),
          (["cpu", "cpu2"], .directory), (directory "cpu2", .directory),
          (directory "cpu2" ++ ["scaling_cur_freq"], .file 2)]
        contents := fun id =>
          if id = 1 then .ofBytes [0x20, 0x32, 0x30, 0x30, 0x30, 0x30, 0x30, 0x30, 0x0A]
          else .ofBytes [0x33, 0x30, 0x30, 0x30, 0x30, 0x30, 0x30, 0x0A] }
    ¬Usable tree "/cpu" 0 ∧ FirstGap tree "/cpu" 3 ∧
      (logical tree "/cpu").length = 3 ∧ (logical tree "/cpu")[0]? = some 0 ∧
      (logical tree "/cpu")[1]? = some 2000 ∧ (cores tree "/cpu").toList.length = 2 ∧
      (cores tree "/cpu").toList[0]? = some 2000 ∧ (cores tree "/cpu").toList[1]? = some 3000 := by
  intro directory tree
  have second : HoldsCurrent tree "/cpu" 1 2000000 :=
    kilohertz?_current_eq_some_iff.mp (by decide +kernel)
  have third : HoldsCurrent tree "/cpu" 2 3000000 :=
    kilohertz?_current_eq_some_iff.mp (by decide +kernel)
  have noFirst : ¬Usable tree "/cpu" 0 := mt isUsable_iff.mpr (by decide +kernel)
  have noFourth : ¬Usable tree "/cpu" 3 := mt isUsable_iff.mpr (by decide +kernel)
  have three : FirstGap tree "/cpu" 3 := by
    refine ⟨⟨by decide, fun _ => noFourth⟩, ?_⟩
    rintro cpu ⟨later, unusable⟩
    by_contra before
    have place : cpu = 1 ∨ cpu = 2 := by omega
    rcases place with rfl | rfl
    · exact unusable (by decide) ⟨_, second⟩
    · exact unusable (by decide) ⟨_, third⟩
  obtain ⟨gap, first, -, listed, count, means, shared⟩ := frequencies_before_first_gap tree "/cpu"
  obtain rfl : gap = 3 := first.unique three
  obtain ⟨length, readings⟩ := listed (by simp)
  rw [length] at count
  obtain ⟨zero, zeroHeld, zeroReads⟩ := readings 0 (by decide)
  obtain ⟨reading, held, reads⟩ := readings 1 (by decide)
  have last := List.getElem?_eq_getElem (show 1 < (cores tree "/cpu").toList.length by
    rw [count]
    decide)
  have alone := (means 1 _ last).firstOnly 3000000 ⟨by decide, third⟩
    fun other counted => absurd counted.1 (Nat.lt_irrefl 3)
  refine ⟨noFirst, three, length, ?_, ?_, count, ?_, ?_⟩
  · rw [zeroHeld, zeroReads.2 fun kilohertz holds => noFirst ⟨kilohertz, holds⟩]
  · rw [held, reads.1 2000000 second]
    decide
  · rw [shared 2000000 noFirst ⟨by decide, second⟩]
    decide
  · rw [last, alone]
    decide

end SmuTelemetry.Frequency
