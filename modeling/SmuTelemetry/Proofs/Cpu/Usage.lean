import SmuTelemetry.Cpu.SmtPairs
import SmuTelemetry.Proofs.Binary32.Interval
import SmuTelemetry.Proofs.Cpu.Statistics

/-!
Usage between two samples as a percentage. A counter other than zero converts to a finite number
other than zero, so the idle share of the ticks is a number however the counters moved, and
clamping leaves it between 0 and 100. A mean over a core's processors stays there. The usage of a
processor is told by its own two entries.
-/

namespace SmuTelemetry

set_option autoImplicit false

open Binary32

def IsPercentage (reading : Binary32) : Prop :=
  reading.isNaN = false ∧ 0 ≤ reading ∧ reading ≤ 100

theorem isPercentage_zero : IsPercentage 0 := ⟨isNaN_ofNat 0, by decide, by decide⟩

theorem isPercentage_of_between {reading : Binary32} (between : 0 ≤ reading ∧ reading ≤ 100) :
    IsPercentage reading := ⟨between.1.2.1, between⟩

namespace StatSample

theorem isInfinite_counter (counter : UInt64) : (ofNat counter.toNat).isInfinite = false := by
  -- Magnitude bits of the number of counter values, which the largest counter may round to.
  have finite : 0x5F800000 < infinityMagnitude := by decide
  have values : magnitudeUnits 0x5F800000 = UInt64.size * unitsPerOne := by decide
  apply isInfinite_ofNat finite
  rw [values]
  exact Nat.mul_le_mul_right unitsPerOne (Nat.le_of_lt (UInt64.toNat_lt counter))

/-- The idle share may be above one, and no share is a NaN. -/
theorem isNaN_busyShare (idle : UInt64) {total : UInt64} (moved : total ≠ 0) :
    ((1 - ofNat idle.toNat / ofNat total.toNat) * 100).isNaN = false := by
  have positive : 0 < total.toNat := Nat.pos_of_ne_zero (UInt64.toNat_inj.ne.mpr moved)
  have idleShare : (ofNat idle.toNat / ofNat total.toNat).isNaN = false :=
    isNaN_div (isNaN_ofNat _) (isNaN_ofNat _) (isInfinite_counter total) (isZero_ofNat positive)
  have busyShare : (1 - ofNat idle.toNat / ofNat total.toNat).isNaN = false :=
    isNaN_sub_of_finite (isNaN_ofNat 1) (by decide) idleShare
  exact isNaN_mul busyShare (isNaN_ofNat 100) (by decide) (by decide)

theorem busyPercent_of_total_eq {before now : CpuTimes} (same : now.total = before.total) :
    busyPercent before now = 0 := by
  have unmoved : now.total - before.total = 0 := sub_eq_zero.mpr same
  exact if_pos unmoved

theorem busyPercent_of_total_ne {before now : CpuTimes} (moved : now.total ≠ before.total) :
    busyPercent before now = clamp 0 100
      ((1 - ofNat (now.idle - before.idle).toNat / ofNat (now.total - before.total).toNat) * 100) :=
  if_neg (sub_ne_zero.mpr moved)

theorem isPercentage_busyPercent (before now : CpuTimes) :
    IsPercentage (busyPercent before now) := by
  by_cases same : now.total = before.total
  · rw [busyPercent_of_total_eq same]
    exact isPercentage_zero
  · have number := isNaN_busyShare (now.idle - before.idle) (sub_ne_zero.mpr same)
    rw [busyPercent_of_total_ne same]
    exact isPercentage_of_between (clamp_between (by decide) number)

def usageOf (before now : Option CpuTimes) : Binary32 :=
  (before.bind fun before => now.map (busyPercent before)).getD 0

theorem isPercentage_usageOf (before now : Option CpuTimes) : IsPercentage (usageOf before now) := by
  cases before with
  | none => exact isPercentage_zero
  | some before =>
      cases now with
      | none => exact isPercentage_zero
      | some now => exact isPercentage_busyPercent before now

section Usages

variable (sample : StatSample) (earlier : Option StatSample)

theorem usageSince_eq_map : sample.usageSince earlier =
    (List.range sample.length).map fun cpu =>
      usageOf (earlier.bind fun sample => sample.get? cpu) (sample.get? cpu) := by
  unfold usageSince
  refine List.map_congr_left fun cpu _ => ?_
  cases sample.get? cpu with
  | none => cases earlier.bind fun sample => sample.get? cpu <;> rfl
  | some now => cases earlier.bind fun sample => sample.get? cpu <;> rfl

theorem length_usageSince : (sample.usageSince earlier).length = sample.length := by
  rw [usageSince_eq_map, List.length_map, List.length_range]

theorem getElem?_usageSince (cpu : Nat) : (sample.usageSince earlier)[cpu]? =
    if cpu < sample.length then
      some (usageOf (earlier.bind fun sample => sample.get? cpu) (sample.get? cpu))
    else none := by
  rw [usageSince_eq_map, List.getElem?_map]
  split
  next inside => rw [List.getElem?_range inside, Option.map_some]
  next past =>
      rw [List.getElem?_eq_none (by rw [List.length_range]; omega), Option.map_none]

theorem isPercentage_of_mem_usageSince {usage : Binary32}
    (member : usage ∈ sample.usageSince earlier) : IsPercentage usage := by
  rw [usageSince_eq_map] at member
  obtain ⟨cpu, -, rfl⟩ := List.mem_map.mp member
  exact isPercentage_usageOf _ _

end Usages

end StatSample

namespace SmtPairs

def hundredMagnitude : Nat := 0x42C80000

theorem isPercentage_iff_upTo (reading : Binary32) :
    IsPercentage reading ↔ UpTo hundredMagnitude reading := by
  have hundred : (100 : Binary32) = ofMagnitude false hundredMagnitude := by decide
  rw [IsPercentage, UpTo, ← hundred]
  constructor
  · intro percentage
    exact percentage.2
  · exact isPercentage_of_between

/-- Sums of one and of two percentages stay below 100 and 200. -/
theorem isPercentage_mean {readings : List Binary32} (pair : readings.length ≤ 2)
    (percentages : ∀ reading ∈ readings, IsPercentage reading) : IsPercentage (mean readings) := by
  have one : ofNat 1 = ofMagnitude false 0x3F800000 := by decide
  have two : ofNat 2 = ofMagnitude false 0x40000000 := by decide
  simp only [isPercentage_iff_upTo] at percentages
  match readings with
  | [] => exact isPercentage_zero
  | [single] =>
      have sum : UpTo hundredMagnitude (0 + single) :=
        upTo_zero.add (by decide) (by decide) (percentages single List.mem_cons_self)
      change IsPercentage ((0 + single) / ofNat 1)
      rw [isPercentage_iff_upTo, one]
      exact sum.div (by decide) (by decide) (by decide) (by decide) (by decide)
  | [first, second] =>
      have sum : UpTo hundredMagnitude (0 + first) :=
        upTo_zero.add (by decide) (by decide) (percentages first List.mem_cons_self)
      have total : UpTo 0x43480000 (0 + first + second) :=
        sum.add (by decide) (by decide)
          (percentages second (List.mem_cons_of_mem _ List.mem_cons_self))
      change IsPercentage ((0 + first + second) / ofNat 2)
      rw [isPercentage_iff_upTo, two]
      exact total.div (by decide) (by decide) (by decide) (by decide) (by decide)
  | _ :: _ :: _ :: _ => simp at pair

theorem isPercentage_of_mem_fold {logical : List Binary32} (positiveOnly : Bool)
    (percentages : ∀ reading ∈ logical, IsPercentage reading) {reading : Binary32}
    (member : reading ∈ (fold positiveOnly logical).toList) : IsPercentage reading := by
  rw [fold, CoreArray.toList_ofList] at member
  obtain ⟨core, -, rfl⟩ := List.mem_map.mp (List.mem_of_mem_take member)
  apply isPercentage_mean
  · have pair : (siblings logical core).length ≤ 2 := List.length_take_le _ _
    exact Nat.le_trans (List.length_filter_le _ _) pair
  · intro sibling counted
    have among : sibling ∈ siblings logical core := List.mem_of_mem_filter counted
    exact percentages sibling (List.mem_of_mem_drop (List.mem_of_mem_take among))

end SmtPairs

namespace StatSample

section Texts

def entryIn (text : Option (List Char)) (cpu : Nat) : Option CpuTimes :=
  (text.map parse).bind fun sample => sample.get? cpu

/-- The usage between two texts, of which the earlier may be missing. -/
def usages (now : List Char) (earlier : Option (List Char)) : List Binary32 :=
  (parse now).usageSince (earlier.map parse)

def isAbout (cpu : Nat) (line : List Char) : Bool :=
  match entry? line with
  | some entry => entry.1 == cpu
  | none => false

def linesAbout (cpu : Nat) (text : Option (List Char)) : List (List Char) :=
  (text.elim [] Text.lines).filter (isAbout cpu)

theorem timesAt_entriesOf_filter (lines : List (List Char)) (cpu : Nat) :
    timesAt (entriesOf (lines.filter (isAbout cpu))) cpu = timesAt (entriesOf lines) cpu := by
  induction lines using List.reverseRecOn with
  | nil => rfl
  | append_singleton lines line ih =>
      rw [List.filter_append]
      cases read : entry? line with
      | none =>
          have silent := (entry?_eq_none_iff line).mp read
          have other : isAbout cpu line = false := by rw [isAbout, read]
          rw [List.filter_cons_of_neg (Bool.eq_false_iff.mp other), List.filter_nil,
            List.append_nil, ih, entriesOf_concat_of_silent silent]
      | some entry =>
          have tells := (entry?_eq_some_iff line entry.1 entry.2).mp read
          have named : isAbout cpu line = (entry.1 == cpu) := by rw [isAbout, read]
          by_cases about : entry.1 = cpu
          · rw [List.filter_cons_of_pos (named.trans (beq_iff_eq.mpr about)), List.filter_nil,
              entriesOf_concat_of_tells _ tells, entriesOf_concat_of_tells _ tells, timesAt_store,
              timesAt_store, about, Function.update_self, Function.update_self]
          · have other : isAbout cpu line = false := named.trans (beq_eq_false_iff_ne.mpr about)
            rw [List.filter_cons_of_neg (Bool.eq_false_iff.mp other), List.filter_nil,
              List.append_nil, ih, entriesOf_concat_of_tells _ tells, timesAt_store,
              Function.update_of_ne (Ne.symm about)]

theorem entryIn_eq_timesAt (text : Option (List Char)) (cpu : Nat) :
    entryIn text cpu = timesAt (entriesOf (linesAbout cpu text)) cpu := by
  rw [linesAbout, timesAt_entriesOf_filter]
  cases text with
  | none => rfl
  | some text =>
      rw [Option.elim_some, ← cpus_parse]
      rfl

theorem entryIn_of_linesAbout {text other : Option (List Char)} {cpu : Nat}
    (same : linesAbout cpu other = linesAbout cpu text) : entryIn other cpu = entryIn text cpu := by
  rw [entryIn_eq_timesAt, entryIn_eq_timesAt, same]

def SameProcessors (text other : List Char) : Prop :=
  ∀ cpu, (entryIn (some other) cpu).isSome ↔ (entryIn (some text) cpu).isSome

variable {now other : List Char} {earlier otherEarlier : Option (List Char)} {cpu : Nat}

theorem sameProcessors_of_map
    (held : (parse other).cpus.map Option.isSome = (parse now).cpus.map Option.isSome) :
    SameProcessors now other := by
  intro cpu
  have present (cpus : List (Option CpuTimes)) :
      (timesAt cpus cpu).isSome = ((cpus.map Option.isSome)[cpu]?).getD false := by
    rw [List.getElem?_map, timesAt]
    cases cpus[cpu]? <;> rfl
  change (timesAt (parse other).cpus cpu).isSome ↔ (timesAt (parse now).cpus cpu).isSome
  rw [present, present, held]

theorem getElem?_usages_of_inside (inside : cpu < (parse now).length) :
    (usages now earlier)[cpu]? = some (usageOf (entryIn earlier cpu) (entryIn (some now) cpu)) := by
  rw [usages, getElem?_usageSince, if_pos inside]
  rfl

theorem getElem?_usages_of_missing (inside : cpu < (parse now).length)
    (missing : entryIn (some now) cpu = none ∨ entryIn earlier cpu = none) :
    (usages now earlier)[cpu]? = some 0 := by
  rw [getElem?_usages_of_inside inside]
  rcases missing with missing | missing
  · rw [missing]
    cases entryIn earlier cpu <;> rfl
  · rw [missing]
    rfl

theorem getElem?_usages_of_present {before after : CpuTimes}
    (held : entryIn (some now) cpu = some after) (heldBefore : entryIn earlier cpu = some before) :
    (usages now earlier)[cpu]? = some (busyPercent before after) := by
  have inside : cpu < (parse now).length := by
    apply lt_length_of_isSome
    change (entryIn (some now) cpu).isSome = true
    rw [held, Option.isSome_some]
  rw [getElem?_usages_of_inside inside, held, heldBefore]
  rfl

theorem getElem?_usages_congr (processors : SameProcessors now other)
    (entry : entryIn (some other) cpu = entryIn (some now) cpu)
    (entryEarlier : entryIn otherEarlier cpu = entryIn earlier cpu) :
    (usages other otherEarlier)[cpu]? = (usages now earlier)[cpu]? := by
  have lengths : (parse other).length = (parse now).length :=
    (settled_parse other).length_eq (settled_parse now) processors
  by_cases inside : cpu < (parse now).length
  · rw [getElem?_usages_of_inside inside, getElem?_usages_of_inside (lengths ▸ inside), entry,
      entryEarlier]
  · rw [usages, usages, getElem?_usageSince, getElem?_usageSince, if_neg inside,
      if_neg (lengths ▸ inside)]

/-- There is a usage for each processor of the newer text up to its last one, and each is a
percentage, however the counters moved. It is zero where a text lacks the processor or its total
is unchanged. Two pairs of texts that agree on a processor agree on its usage, whatever they tell
of the others, as long as the newer texts have the same processors. A core's mean is a percentage
too. -/
theorem usages_are_percentages (now : List Char) (earlier : Option (List Char)) :
    (usages now earlier).length = (parse now).length ∧
    (∀ usage ∈ usages now earlier, IsPercentage usage) ∧
    (∀ cpu < (parse now).length, entryIn (some now) cpu = none ∨ entryIn earlier cpu = none →
      (usages now earlier)[cpu]? = some 0) ∧
    (∀ cpu before after, entryIn earlier cpu = some before → entryIn (some now) cpu = some after →
      (usages now earlier)[cpu]? = some (busyPercent before after) ∧
      (after.total = before.total → (usages now earlier)[cpu]? = some 0)) ∧
    (∀ other otherEarlier cpu, SameProcessors now other →
      entryIn (some other) cpu = entryIn (some now) cpu →
      entryIn otherEarlier cpu = entryIn earlier cpu →
      (usages other otherEarlier)[cpu]? = (usages now earlier)[cpu]?) ∧
    (∀ other otherEarlier cpu, SameProcessors now other →
      linesAbout cpu (some other) = linesAbout cpu (some now) →
      linesAbout cpu otherEarlier = linesAbout cpu earlier →
      (usages other otherEarlier)[cpu]? = (usages now earlier)[cpu]?) ∧
    ∀ core ∈ (SmtPairs.fold false (usages now earlier)).toList, IsPercentage core := by
  have percentages : ∀ usage ∈ usages now earlier, IsPercentage usage := fun _ member =>
    isPercentage_of_mem_usageSince _ _ member
  refine ⟨length_usageSince _ _, percentages, fun cpu inside missing => ?_, ?_, ?_, ?_, ?_⟩
  · exact getElem?_usages_of_missing inside missing
  · intro cpu before after heldBefore held
    have usage := getElem?_usages_of_present held heldBefore
    refine ⟨usage, fun same => ?_⟩
    rw [usage, busyPercent_of_total_eq same]
  · intro other otherEarlier cpu processors entry entryEarlier
    exact getElem?_usages_congr processors entry entryEarlier
  · intro other otherEarlier cpu processors lines linesEarlier
    exact getElem?_usages_congr processors (entryIn_of_linesAbout lines)
      (entryIn_of_linesAbout linesEarlier)
  · intro core member
    exact SmtPairs.isPercentage_of_mem_fold false percentages member

/-- The total of the last processor went backwards and that of the second did not change; the
other texts agree with these on the last processor only. -/
theorem usages_of_backward_counter :
    let earlier := "cpu0 50 0 0 50\ncpu1 1 0 0 3\ncpu2 200 0 0 800\n".toList
    let now := "cpu0 75 0 0 75\ncpu1 1 0 0 3\ncpu2 0 0 0 900\n".toList
    let otherEarlier := "cpu2 200 0 0 800\ncpu7 1 1 1 1\n".toList
    let other := "cpu2 0 0 0 900\ncpu1 9 9 9 9\ncpu0 1 2 3 4\n".toList
    usages now (some earlier) = [50, 0, 100] ∧ (usages now none)[0]? = some 0 ∧
      (usages now (some earlier))[1]? = some 0 ∧ SameProcessors now other ∧
      (usages other (some otherEarlier))[2]? = (usages now (some earlier))[2]? := by
  intro earlier now otherEarlier other
  have processors : SameProcessors now other := sameProcessors_of_map (by decide)
  have first := usages_are_percentages now none
  have second := usages_are_percentages now (some earlier)
  refine ⟨by decide, ?_, ?_, processors, ?_⟩
  · exact first.2.2.1 0 (by decide) (Or.inr rfl)
  · exact (second.2.2.2.1 1 ⟨3, 4⟩ ⟨3, 4⟩ (by decide) (by decide)).2 rfl
  · exact second.2.2.2.2.2.1 other (some otherEarlier) 2 processors (by decide) (by decide)

end Texts

end StatSample

end SmuTelemetry
