import SmuTelemetry.Proofs.Cpu.SmtPairs

/-!
Cores and the two processors of each. A core's reading is the mean over those of its two
processors that count, and nothing else enters it: neither the other processors nor the order
of the two, and, where only positive readings count, no other reading whatever it is. The list
ends with a core of one processor when their number is odd, and with the sixteenth core at the
latest.
-/

namespace SmuTelemetry.SmtPairs

set_option autoImplicit false

open Binary32

def counted (positiveOnly : Bool) (reading : Option Binary32) : Option Binary32 :=
  reading.filter fun reading => !positiveOnly || decide (0 < reading)

/-- The mean over the processors of a pair that count, zero when neither does. The sum starts at
zero. -/
def pairMean : Option Binary32 → Option Binary32 → Binary32
  | some first, some second => (0 + first + second) / 2
  | some first, none => (0 + first) / 1
  | none, some second => (0 + second) / 1
  | none, none => 0

def IsIdle (reading : Binary32) : Prop :=
  reading.isNaN = true ∨ reading.isZero = true ∨ reading.isNegative = true

theorem isIdle_iff (reading : Binary32) : IsIdle reading ↔ ¬0 < reading := by
  rw [positive_iff, IsIdle]
  cases reading.isNaN <;> cases reading.isZero <;> cases reading.isNegative <;> decide

theorem counted_of_idle {reading : Binary32} (idle : IsIdle reading) :
    counted true (some reading) = none := by
  rw [isIdle_iff] at idle
  exact Option.filter_some_neg (by simp [idle])

theorem pairMean_comm (first second : Option Binary32) :
    pairMean first second = pairMean second first := by
  cases first with
  | none => cases second <;> rfl
  | some first =>
      cases second with
      | none => rfl
      | some second => rw [pairMean, pairMean, zero_add_right_comm]

theorem mean_eq_pairMean (first second : Option Binary32) :
    mean (first.toList ++ second.toList) = pairMean first second := by
  cases first <;> cases second <;> rfl

theorem pairMean_both {first second : Binary32}
    (signed : first ≠ negativeZero ∨ second ≠ negativeZero) :
    pairMean (some first) (some second) = (first + second) / 2 := by
  rw [← mean_eq_pairMean]
  exact mean_pair signed

theorem pairMean_alone {reading : Binary32} (number : reading.isNaN = false)
    (signed : reading ≠ negativeZero) : pairMean (some reading) none = reading := by
  rw [← mean_eq_pairMean]
  exact mean_single number signed

theorem kept_siblings (positiveOnly : Bool) (logical : List Binary32) (core : Nat) :
    kept positiveOnly (siblings logical core) =
      (counted positiveOnly logical[2 * core]?).toList ++
        (counted positiveOnly logical[2 * core + 1]?).toList := by
  have single (reading : Option Binary32) :
      kept positiveOnly reading.toList = (counted positiveOnly reading).toList :=
    Option.toList_filter.symm
  rw [siblings_eq, kept_append, single, single]

theorem getElem?_fold (positiveOnly : Bool) (logical : List Binary32) (core : Nat) :
    (fold positiveOnly logical).toList[core]? =
      if core < 16 ∧ 2 * core < logical.length then
        some (pairMean (counted positiveOnly logical[2 * core]?)
          (counted positiveOnly logical[2 * core + 1]?))
      else none := by
  have room : maxCores = 16 := rfl
  split
  next listed =>
      have within : core < min ((logical.length + 1) / 2) maxCores := by omega
      rw [getElem?_toList_fold positiveOnly logical within, kept_siblings, mean_eq_pairMean]
  next unlisted =>
      have count := length_toList_fold positiveOnly logical
      exact List.getElem?_eq_none (by omega)

theorem fold_congr {positiveOnly : Bool} {logical other : List Binary32}
    (cores : ∀ core < 16, 2 * core < other.length ↔ 2 * core < logical.length)
    (means : ∀ core < 16,
      pairMean (counted positiveOnly other[2 * core]?)
          (counted positiveOnly other[2 * core + 1]?) =
        pairMean (counted positiveOnly logical[2 * core]?)
          (counted positiveOnly logical[2 * core + 1]?)) :
    fold positiveOnly other = fold positiveOnly logical := by
  apply CoreArray.ext_toList
  apply List.ext_getElem?
  intro core
  rw [getElem?_fold, getElem?_fold]
  by_cases within : core < 16
  · simp only [within, true_and, cores core within, means core within]
  · simp only [within, false_and, if_false]

section Locality

variable (positiveOnly : Bool)

theorem getElem?_fold_congr {logical other : List Binary32} {core : Nat}
    (first : other[2 * core]? = logical[2 * core]?)
    (second : other[2 * core + 1]? = logical[2 * core + 1]?) :
    (fold positiveOnly other).toList[core]? = (fold positiveOnly logical).toList[core]? := by
  have absent : other.length ≤ 2 * core ↔ logical.length ≤ 2 * core := by
    rw [← List.getElem?_eq_none_iff, first, List.getElem?_eq_none_iff]
  have present : 2 * core < other.length ↔ 2 * core < logical.length := by omega
  rw [getElem?_fold, getElem?_fold, first, second]
  simp only [present]

theorem fold_take (logical : List Binary32) :
    fold positiveOnly (logical.take 32) = fold positiveOnly logical := by
  have kept : ∀ cpu < 32, (logical.take 32)[cpu]? = logical[cpu]? := fun cpu within =>
    List.getElem?_take_of_lt within
  apply fold_congr
  · intro core within
    rw [List.length_take]
    omega
  · intro core within
    rw [kept (2 * core) (by omega), kept (2 * core + 1) (by omega)]

theorem fold_swap (front : List Binary32) (first second : Binary32) (back : List Binary32)
    (paired : front.length % 2 = 0) :
    fold positiveOnly (front ++ second :: first :: back) =
      fold positiveOnly (front ++ first :: second :: back) := by
  have lengths : (front ++ second :: first :: back).length =
      (front ++ first :: second :: back).length := by simp
  -- Only the two places after the even front differ.
  have elsewhere : ∀ cpu, cpu ≠ front.length → cpu ≠ front.length + 1 →
      (front ++ second :: first :: back)[cpu]? = (front ++ first :: second :: back)[cpu]? := by
    intro cpu notFirst notSecond
    rw [List.getElem?_append, List.getElem?_append]
    split
    next => rfl
    next after =>
        obtain ⟨past, place⟩ : ∃ past, cpu - front.length = past + 2 :=
          ⟨cpu - front.length - 2, by omega⟩
        rw [place]
        rfl
  apply fold_congr
  · intro core _
    rw [lengths]
  · intro core _
    by_cases here : 2 * core = front.length
    · rw [here, pairMean_comm]
      simp
    · rw [elsewhere (2 * core) here (by omega), elsewhere (2 * core + 1) (by omega) (by omega)]

theorem fold_alone (front : List Binary32) (last : Binary32) {core : Nat}
    (before : front.length = 2 * core) (within : core < 16) :
    (fold positiveOnly (front ++ [last])).toList[core]? =
      some (pairMean (counted positiveOnly (some last)) none) := by
  have here : (front ++ [last])[2 * core]? = some last := by
    rw [← before, List.getElem?_concat_length]
  have past : (front ++ [last])[2 * core + 1]? = none := by
    apply List.getElem?_eq_none
    simp [before]
  have listed : core < 16 ∧ 2 * core < (front ++ [last]).length := ⟨within, by simp [before]⟩
  rw [getElem?_fold, if_pos listed, here, past]
  rfl

theorem fold_set_of_idle {logical : List Binary32} {cpu : Nat} {held value : Binary32}
    (present : logical[cpu]? = some held) (heldIdle : IsIdle held) (valueIdle : IsIdle value) :
    fold true (logical.set cpu value) = fold true logical := by
  have same (other : Nat) : counted true (logical.set cpu value)[other]? =
      counted true logical[other]? := by
    by_cases changed : cpu = other
    · subst changed
      rw [List.getElem?_set_self (List.getElem?_eq_some_iff.mp present).1, present,
        counted_of_idle heldIdle, counted_of_idle valueIdle]
    · rw [List.getElem?_set_ne changed]
  apply fold_congr
  · intro core _
    rw [List.length_set]
  · intro core _
    rw [same, same]

end Locality

/-- Each two processors make a core, as far as sixteen cores go, and its reading is the mean over
those of the two that count. So a core's reading is settled by the two places of its pair,
whichever of its processors comes first; processors from the thirty-third on are of no account; a
last processor without a sibling is its own mean, but for a negative zero. Where only positive
readings count, the others may be exchanged for one another. -/
theorem cores_average_their_pairs (positiveOnly : Bool) (logical : List Binary32) :
    (fold positiveOnly logical).toList.length = min ((logical.length + 1) / 2) 16 ∧
    (∀ core < min ((logical.length + 1) / 2) 16,
      (fold positiveOnly logical).toList[core]? =
        some (pairMean (counted positiveOnly logical[2 * core]?)
          (counted positiveOnly logical[2 * core + 1]?))) ∧
    (∀ (other : List Binary32) (core : Nat), other[2 * core]? = logical[2 * core]? →
      other[2 * core + 1]? = logical[2 * core + 1]? →
      (fold positiveOnly other).toList[core]? = (fold positiveOnly logical).toList[core]?) ∧
    (∀ front first second back, logical = front ++ first :: second :: back →
      front.length % 2 = 0 →
      fold positiveOnly (front ++ second :: first :: back) = fold positiveOnly logical) ∧
    fold positiveOnly (logical.take 32) = fold positiveOnly logical ∧
    (∀ front last core, logical = front ++ [last] → front.length = 2 * core → core < 16 →
      (fold positiveOnly logical).toList[core]? =
        some (pairMean (counted positiveOnly (some last)) none)) ∧
    (∀ reading, reading.isNaN = false → reading ≠ negativeZero →
      pairMean (some reading) none = reading) ∧
    (∀ first second, first ≠ negativeZero ∨ second ≠ negativeZero →
      pairMean (some first) (some second) = (first + second) / 2) ∧
    ∀ (cpu : Nat) held value, logical[cpu]? = some held → IsIdle held → IsIdle value →
      fold true (logical.set cpu value) = fold true logical := by
  refine ⟨length_toList_fold positiveOnly logical, ?_, ?_, ?_, fold_take positiveOnly logical,
    ?_, ?_, fun _ _ => pairMean_both, ?_⟩
  · intro core within
    have listed : core < 16 ∧ 2 * core < logical.length := by omega
    rw [getElem?_fold, if_pos listed]
  · intro other core first second
    exact getElem?_fold_congr positiveOnly first second
  · rintro front first second back rfl paired
    exact fold_swap positiveOnly front first second back paired
  · rintro front last core rfl before within
    exact fold_alone positiveOnly front last before within
  · intro reading number signed
    exact pairMean_alone number signed
  · intro cpu held value present heldIdle valueIdle
    exact fold_set_of_idle present heldIdle valueIdle

/-- Five processors, the first without a number: its core shows the second one, the next two
share a core in either order, and the fifth stands alone. -/
theorem cores_average_five_processors :
    let logical : List Binary32 := [nan, 10, 4, 6, 7]
    let cores := (fold true logical).toList
    cores.length = 3 ∧ cores[0]? = some 10 ∧ cores[1]? = some 5 ∧ cores[2]? = some 7 ∧
      fold true [nan, 10, 6, 4, 7] = fold true logical ∧
      fold true [negativeZero, 10, 4, 6, 7] = fold true logical ∧
      (fold true [3, 3, 4, 6, 3]).toList[1]? = cores[1]? := by
  intro logical cores
  obtain ⟨count, means, settled, swapped, -, alone, -, -, idle⟩ :=
    cores_average_their_pairs true logical
  have first : pairMean (counted true logical[2 * 0]?) (counted true logical[2 * 0 + 1]?) = 10 := by
    decide +kernel
  have second : pairMean (counted true logical[2 * 1]?) (counted true logical[2 * 1 + 1]?) = 5 := by
    decide +kernel
  have third : pairMean (counted true (some 7)) none = 7 := by decide +kernel
  refine ⟨count.trans (by decide), ?_, ?_, ?_, swapped [nan, 10] 4 6 [7] rfl rfl,
    idle 0 nan negativeZero rfl (Or.inl rfl) (Or.inr (Or.inl (by decide))), settled _ 1 rfl rfl⟩
  · rw [← first]
    exact means 0 (by decide)
  · rw [← second]
    exact means 1 (by decide)
  · rw [← third]
    exact alone [nan, 10, 4, 6] 7 2 rfl rfl (by decide)

end SmuTelemetry.SmtPairs
