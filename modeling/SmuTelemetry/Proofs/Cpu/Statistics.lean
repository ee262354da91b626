import SmuTelemetry.Cpu.Times
import SmuTelemetry.Proofs.Text.Blank
import SmuTelemetry.Proofs.Text.Natural

/-!
Processor times told by the lines of a text. A line tells the times of one processor or nothing
at all, and a sample holds for each processor what the last line about it tells. It is no longer
than the processors need, so the times alone decide it; where no two lines are about one
processor, their order does not matter.
-/

namespace SmuTelemetry

set_option autoImplicit false

theorem toNat_saturatingSum (counters : List UInt64) :
    (saturatingSum counters).toNat = min (counterSum counters) (UInt64.size - 1) := by
  have small : min (counterSum counters) (UInt64.size - 1) < UInt64.size :=
    Nat.lt_of_le_of_lt (Nat.min_le_right _ _) (by decide)
  exact UInt64.toNat_ofNat_of_lt' small

theorem counterSum_le_of_sublist {some all : List UInt64} (among : List.Sublist some all) :
    counterSum some ≤ counterSum all := by
  induction among with
  | slnil => exact Nat.le_refl _
  | cons counter _ ih => exact Nat.le_trans ih (Nat.le_add_left _ _)
  | cons_cons counter _ ih => exact Nat.add_le_add_left ih _

namespace StatSample

open Text (IsNumeral HasWords)

/-- The fields begin with these counters, and no further counter follows them directly. -/
def LeadsWith (fields : List (List Char)) (counters : List UInt64) : Prop :=
  ∃ numerals rest, fields = numerals ++ rest ∧
    List.Forall₂ (fun word counter => IsNumeral 10 word counter.toNat) numerals counters ∧
    ∀ word, rest.head? = some word → ∀ value, IsNumeral 10 word value → UInt64.size ≤ value

/-- What some counters tell: at least four of them, of which the fourth and fifth count idle
ticks; sums stop at the largest counter, and the total is not zero. -/
structure HasTimes (counters : List UInt64) (times : CpuTimes) : Prop where
  enough : 4 ≤ counters.length
  total : times.total.toNat = min (counterSum counters) (UInt64.size - 1)
  idle : times.idle.toNat = min (counterSum ((counters.drop 3).take 2)) (UInt64.size - 1)
  running : 0 < times.total

/-- The line names a tracked processor and tells its times by at most ten counters. -/
structure Tells (line : List Char) (cpu : Nat) (times : CpuTimes) : Prop where
  tracked : cpu < 256
  told : ∃ digits fields counters, HasWords line (("cpu".toList ++ digits) :: fields) ∧
    IsNumeral 10 digits cpu ∧ LeadsWith fields counters ∧ HasTimes (counters.take 10) times

def LastTells (lines : List (List Char)) (cpu : Nat) (times : CpuTimes) : Prop :=
  ∃ before line after, lines = before ++ line :: after ∧ Tells line cpu times ∧
    ∀ other ∈ after, ∀ others, ¬Tells other cpu others

def Apart (lines : List (List Char)) : Prop :=
  lines.Pairwise fun first second =>
    ∀ cpu times others, Tells first cpu times → ¬Tells second cpu others

section Line

theorem leadingCounters_eq_iff (fields : List (List Char)) (counters : List UInt64) :
    leadingCounters fields = counters ↔ LeadsWith fields counters := by
  induction fields generalizing counters with
  | nil =>
      constructor
      · intro same
        subst same
        exact ⟨[], [], rfl, .nil, fun word head => by cases head⟩
      · intro leads
        obtain ⟨numerals, rest, parts, spelled, -⟩ := leads
        obtain ⟨rfl, -⟩ := List.append_eq_nil_iff.mp parts.symm
        cases spelled
        rfl
  | cons word fields ih =>
      rw [leadingCounters]
      cases here : Text.u64? word with
      | none =>
          have noCounter := (Text.u64?_eq_none_iff word).mp here
          constructor
          · intro same
            subst same
            refine ⟨[], word :: fields, rfl, .nil, fun first head => ?_⟩
            cases head
            exact noCounter
          · intro leads
            obtain ⟨numerals, rest, parts, spelled, -⟩ := leads
            cases spelled with
            | nil => rfl
            | cons numeral _ =>
                cases parts
                exact absurd (noCounter _ numeral) (Nat.not_le.mpr (UInt64.toNat_lt _))
      | some counter =>
          have numeral := (Text.u64?_eq_some_iff word counter).mp here
          constructor
          · intro same
            subst same
            obtain ⟨numerals, rest, rfl, spelled, boundary⟩ := (ih _).mp rfl
            exact ⟨word :: numerals, rest, rfl, .cons numeral spelled, boundary⟩
          · intro leads
            obtain ⟨numerals, rest, parts, spelled, boundary⟩ := leads
            cases spelled with
            | nil =>
                cases parts
                exact absurd (boundary word rfl _ numeral) (Nat.not_le.mpr (UInt64.toNat_lt _))
            | cons first others =>
                cases parts
                have same := (Text.u64?_eq_some_iff word _).mpr first
                rw [here] at same
                cases same
                exact congrArg _ ((ih _).mpr ⟨_, rest, rfl, others, boundary⟩)

theorem times?_eq_some_iff (counters : List UInt64) (times : CpuTimes) :
    times? counters = some times ↔ HasTimes counters times := by
  have positive (total : UInt64) : total ≠ 0 ↔ 0 < total := by
    rw [UInt64.lt_iff_toNat_lt, ← UInt64.toNat_inj.ne]
    exact Nat.pos_iff_ne_zero.symm
  rw [times?, Option.ite_none_left_eq_some, Option.ite_none_left_eq_some, Option.some.injEq,
    ← ne_eq, positive]
  constructor
  · intro read
    obtain ⟨enough, running, rfl⟩ := read
    exact ⟨Nat.not_lt.mp enough, toNat_saturatingSum _, toNat_saturatingSum _, running⟩
  · intro told
    have total : saturatingSum counters = times.total := by
      rw [← UInt64.toNat_inj, toNat_saturatingSum, told.total]
    have idle : saturatingSum ((counters.drop 3).take 2) = times.idle := by
      rw [← UInt64.toNat_inj, toNat_saturatingSum, told.idle]
    refine ⟨Nat.not_lt.mpr told.enough, total ▸ told.running, ?_⟩
    rw [total, idle]

theorem cpuId?_eq_some_iff (word : List Char) (cpu : Nat) :
    cpuId? word = some cpu ↔
      ∃ digits, word = "cpu".toList ++ digits ∧ IsNumeral 10 digits cpu ∧ cpu < UInt64.size := by
  rw [cpuId?]
  cases found : Text.after? "cpu".toList word with
  | none =>
      have other := (Text.after?_eq_none_iff _ _).mp found
      constructor
      · intro read
        cases read
      · intro named
        obtain ⟨digits, rfl, -⟩ := named
        exact absurd (List.prefix_append _ digits) other
  | some digits =>
      obtain rfl := (Text.after?_eq_some_iff _ _ _).mp found
      simp only [Text.natural?_eq_some_iff, List.append_cancel_left_eq, exists_eq_left']

theorem entry?_eq_some_iff (line : List Char) (cpu : Nat) (times : CpuTimes) :
    entry? line = some (cpu, times) ↔ Tells line cpu times := by
  constructor
  · intro read
    unfold entry? at read
    cases pieces : Text.words line with
    | nil =>
        rw [pieces] at read
        cases read
    | cons name fields =>
        simp only [pieces] at read
        cases named : cpuId? name with
        | none =>
            rw [named] at read
            cases read
        | some id =>
            simp only [named] at read
            rw [Option.ite_none_right_eq_some, Option.map_eq_some_iff] at read
            obtain ⟨tracked, _, told, same⟩ := read
            cases same
            obtain ⟨digits, rfl, numeral, -⟩ := (cpuId?_eq_some_iff name cpu).mp named
            exact ⟨tracked, digits, fields, _, (Text.words_eq_iff line _).mp pieces, numeral,
              (leadingCounters_eq_iff fields _).mp rfl, (times?_eq_some_iff _ _).mp told⟩
  · intro tells
    obtain ⟨tracked, digits, fields, counters, pieces, numeral, leads, told⟩ := tells
    have small : cpu < UInt64.size := Nat.lt_trans tracked (by decide)
    have named := (cpuId?_eq_some_iff _ cpu).mpr ⟨digits, rfl, numeral, small⟩
    have read := (times?_eq_some_iff _ times).mpr told
    have inside : cpu < maxCpus := tracked
    simp only [named, entry?, (Text.words_eq_iff line _).mpr pieces, if_pos inside,
      (leadingCounters_eq_iff fields counters).mpr leads]
    rw [usedCounters, read, Option.map_some]

theorem entry?_eq_none_iff (line : List Char) :
    entry? line = none ↔ ∀ cpu times, ¬Tells line cpu times := by
  simp only [Option.eq_none_iff_forall_ne_some, ne_eq, Prod.forall, entry?_eq_some_iff]

theorem Tells.unique {line : List Char} {cpu other : Nat} {times others : CpuTimes}
    (one : Tells line cpu times) (second : Tells line other others) :
    cpu = other ∧ times = others := by
  have read := (entry?_eq_some_iff line cpu times).mpr one
  rw [(entry?_eq_some_iff line other others).mpr second] at read
  exact Prod.mk.inj (Option.some.inj read.symm)

/-- The idle counters are among those of the total, so a saturated sum holds both. -/
theorem HasTimes.idle_le {counters : List UInt64} {times : CpuTimes}
    (told : HasTimes counters times) : times.idle ≤ times.total := by
  have among : List.Sublist ((counters.drop 3).take 2) counters :=
    (List.take_sublist 2 _).trans (List.drop_sublist 3 _)
  have sums := counterSum_le_of_sublist among
  rw [UInt64.le_iff_toNat_le, told.idle, told.total]
  exact Nat.le_min.mpr
    ⟨Nat.le_trans (Nat.min_le_left _ _) sums, Nat.min_le_right _ _⟩

end Line

section Store

def timesAt (cpus : List (Option CpuTimes)) (cpu : Nat) : Option CpuTimes := (cpus[cpu]?).join

theorem length_store (cpus : List (Option CpuTimes)) (cpu : Nat) (times : CpuTimes) :
    (store cpus cpu times).length = max cpus.length (cpu + 1) := by
  rw [store, List.length_set, List.length_append, List.length_replicate]
  omega

theorem timesAt_store (cpus : List (Option CpuTimes)) (cpu : Nat) (times : CpuTimes) :
    timesAt (store cpus cpu times) = Function.update (timesAt cpus) cpu (some times) := by
  funext other
  have room : cpu < (cpus ++ List.replicate (cpu + 1 - cpus.length) none).length := by
    rw [List.length_append, List.length_replicate]
    omega
  by_cases same : other = cpu
  · subst same
    rw [Function.update_self, timesAt, store, List.getElem?_set_self room]
    rfl
  · rw [Function.update_of_ne same, timesAt, timesAt, store, List.getElem?_set_ne (Ne.symm same)]
    -- Entries that were added for room hold nothing, as those past the end do.
    rcases Nat.lt_or_ge other cpus.length with held | past
    · rw [List.getElem?_append_left held]
    · rw [List.getElem?_append_right past, List.getElem?_eq_none past, List.getElem?_replicate]
      split <;> rfl

/-- No entry is past the last tracked processor, and the last one is present. -/
structure Settled (cpus : List (Option CpuTimes)) : Prop where
  bounded : cpus.length ≤ 256
  last : cpus.length ≠ 0 → (timesAt cpus (cpus.length - 1)).isSome

theorem settled_nil : Settled [] := ⟨by decide, fun some => absurd rfl some⟩

theorem settled_store {cpus : List (Option CpuTimes)} (settled : Settled cpus) {cpu : Nat}
    (tracked : cpu < 256) (times : CpuTimes) : Settled (store cpus cpu times) := by
  have bounded := settled.bounded
  constructor
  · rw [length_store]
    omega
  · intro _
    rw [length_store, timesAt_store]
    by_cases last : max cpus.length (cpu + 1) - 1 = cpu
    · rw [last, Function.update_self]
      rfl
    · have same : max cpus.length (cpu + 1) - 1 = cpus.length - 1 := by omega
      rw [Function.update_of_ne last, same]
      exact settled.last (by omega)

theorem lt_length_of_isSome {cpus : List (Option CpuTimes)} {cpu : Nat}
    (present : (timesAt cpus cpu).isSome) : cpu < cpus.length := by
  by_contra past
  rw [timesAt, List.getElem?_eq_none (Nat.not_lt.mp past)] at present
  cases present

theorem Settled.length_le {cpus others : List (Option CpuTimes)} (settled : Settled cpus)
    (present : ∀ cpu, (timesAt cpus cpu).isSome → (timesAt others cpu).isSome) :
    cpus.length ≤ others.length := by
  by_cases empty : cpus.length = 0
  · omega
  · have inside := lt_length_of_isSome (present _ (settled.last empty))
    omega

theorem Settled.length_eq {cpus others : List (Option CpuTimes)} (settled : Settled cpus)
    (settledOthers : Settled others)
    (present : ∀ cpu, (timesAt cpus cpu).isSome ↔ (timesAt others cpu).isSome) :
    cpus.length = others.length :=
  Nat.le_antisymm (settled.length_le fun cpu => (present cpu).mp)
    (settledOthers.length_le fun cpu => (present cpu).mpr)

theorem Settled.ext {cpus others : List (Option CpuTimes)} (settled : Settled cpus)
    (settledOthers : Settled others) (same : timesAt cpus = timesAt others) : cpus = others := by
  have lengths : cpus.length = others.length :=
    settled.length_eq settledOthers fun cpu => by rw [same]
  refine List.ext_getElem lengths fun cpu inside insideOthers => ?_
  have here := congrFun same cpu
  rwa [timesAt, timesAt, List.getElem?_eq_getElem inside, List.getElem?_eq_getElem insideOthers]
    at here

end Store

section Lines

def entriesOf (lines : List (List Char)) : List (Option CpuTimes) :=
  (lines.filterMap entry?).foldl (fun cpus entry => store cpus entry.1 entry.2) []

/-- A line is read by its words alone. -/
def entryOf : List (List Char) → Option (Nat × CpuTimes)
  | [] => none
  | first :: rest =>
      match cpuId? first with
      | none => none
      | some cpu =>
          if cpu < maxCpus then
            (times? ((leadingCounters rest).take usedCounters)).map fun times => (cpu, times)
          else none

theorem entry?_eq_entryOf : entry? = fun line => entryOf (Text.words line) := rfl

theorem cpus_parse (text : List Char) : (parse text).cpus = entriesOf (Text.lines text) := by
  rw [parse, entriesOf, entry?_eq_entryOf, Text.filterMap_lines entryOf rfl]

theorem entriesOf_concat_of_silent {lines : List (List Char)} {line : List Char}
    (silent : ∀ cpu times, ¬Tells line cpu times) : entriesOf (lines ++ [line]) = entriesOf lines := by
  rw [entriesOf, List.filterMap_append, List.filterMap_cons_none ((entry?_eq_none_iff line).mpr silent),
    List.filterMap_nil, List.append_nil, entriesOf]

theorem entriesOf_concat_of_tells (lines : List (List Char)) {line : List Char} {cpu : Nat}
    {times : CpuTimes} (tells : Tells line cpu times) :
    entriesOf (lines ++ [line]) = store (entriesOf lines) cpu times := by
  rw [entriesOf, List.filterMap_append,
    List.filterMap_cons_some ((entry?_eq_some_iff line cpu times).mpr tells), List.filterMap_nil,
    List.foldl_concat, entriesOf]

theorem settled_entriesOf (lines : List (List Char)) : Settled (entriesOf lines) := by
  induction lines using List.reverseRecOn with
  | nil => exact settled_nil
  | append_singleton lines line ih =>
      cases read : entry? line with
      | none =>
          rw [entriesOf_concat_of_silent ((entry?_eq_none_iff line).mp read)]
          exact ih
      | some entry =>
          have tells := (entry?_eq_some_iff line entry.1 entry.2).mp read
          rw [entriesOf_concat_of_tells lines tells]
          exact settled_store ih tells.tracked entry.2

theorem lastTells_concat_of_silent {lines : List (List Char)} {line : List Char} {cpu : Nat}
    (silent : ∀ others, ¬Tells line cpu others) (times : CpuTimes) :
    LastTells (lines ++ [line]) cpu times ↔ LastTells lines cpu times := by
  constructor
  · intro last
    obtain ⟨before, told, after, parts, tells, none⟩ := last
    cases after using List.reverseRecOn with
    | nil =>
        obtain ⟨-, same⟩ := List.append_inj' parts rfl
        cases same
        exact absurd tells (silent times)
    | append_singleton after final =>
        rw [← List.cons_append, ← List.append_assoc] at parts
        obtain ⟨rfl, -⟩ := List.append_inj' parts rfl
        exact ⟨before, told, after, rfl, tells, fun other member =>
          none other (List.mem_append_left _ member)⟩
  · intro last
    obtain ⟨before, told, after, rfl, tells, none⟩ := last
    refine ⟨before, told, after ++ [line], ?_, tells, fun other member => ?_⟩
    · rw [List.append_assoc, List.cons_append]
    · rcases List.mem_append.mp member with member | member
      · exact none other member
      · rw [List.mem_singleton.mp member]
        exact silent

theorem lastTells_concat_of_tells (lines : List (List Char)) {line : List Char} {cpu : Nat}
    {times : CpuTimes} (tells : Tells line cpu times) (others : CpuTimes) :
    LastTells (lines ++ [line]) cpu others ↔ others = times := by
  constructor
  · intro last
    obtain ⟨before, told, after, parts, tellsOthers, none⟩ := last
    cases after using List.reverseRecOn with
    | nil =>
        obtain ⟨-, same⟩ := List.append_inj' parts rfl
        cases same
        exact (tellsOthers.unique tells).2
    | append_singleton after final =>
        rw [← List.cons_append, ← List.append_assoc] at parts
        obtain ⟨-, same⟩ := List.append_inj' parts rfl
        cases same
        exact absurd tells (none line (List.mem_append_right _ List.mem_cons_self) times)
  · intro same
    subst same
    exact ⟨lines, line, [], rfl, tells, fun _ member => absurd member List.not_mem_nil⟩

/-- The last line about a processor decides what the entries hold for it; lines that tell nothing
about it leave that as it is. -/
theorem timesAt_entriesOf_eq_some_iff (lines : List (List Char)) (cpu : Nat) (times : CpuTimes) :
    timesAt (entriesOf lines) cpu = some times ↔ LastTells lines cpu times := by
  induction lines using List.reverseRecOn with
  | nil =>
      constructor
      · intro held
        cases held
      · intro last
        obtain ⟨before, line, after, parts, -⟩ := last
        exact absurd parts (List.append_ne_nil_of_right_ne_nil _ (List.cons_ne_nil _ _)).symm
  | append_singleton lines line ih =>
      by_cases about : ∃ others, Tells line cpu others
      · obtain ⟨others, tells⟩ := about
        rw [entriesOf_concat_of_tells lines tells, timesAt_store, Function.update_self,
          lastTells_concat_of_tells lines tells, Option.some.injEq, eq_comm]
      · have silent := not_exists.mp about
        rw [lastTells_concat_of_silent silent, ← ih]
        cases read : entry? line with
        | none => rw [entriesOf_concat_of_silent ((entry?_eq_none_iff line).mp read)]
        | some entry =>
            have tells := (entry?_eq_some_iff line entry.1 entry.2).mp read
            have other : cpu ≠ entry.1 := by
              intro same
              exact silent entry.2 (same ▸ tells)
            rw [entriesOf_concat_of_tells lines tells, timesAt_store, Function.update_of_ne other]

theorem exists_lastTells {lines : List (List Char)} {cpu : Nat}
    (told : ∃ line ∈ lines, ∃ times, Tells line cpu times) : ∃ times, LastTells lines cpu times := by
  induction lines using List.reverseRecOn with
  | nil =>
      obtain ⟨line, member, -⟩ := told
      exact absurd member List.not_mem_nil
  | append_singleton lines line ih =>
      by_cases about : ∃ others, Tells line cpu others
      · obtain ⟨others, tells⟩ := about
        exact ⟨others, (lastTells_concat_of_tells lines tells others).mpr rfl⟩
      · have silent := not_exists.mp about
        simp only [lastTells_concat_of_silent silent]
        obtain ⟨earlier, member, times, tells⟩ := told
        rcases List.mem_append.mp member with member | member
        · exact ih ⟨earlier, member, times, tells⟩
        · rw [List.mem_singleton.mp member] at tells
          exact absurd tells (silent times)

theorem lastTells_iff_of_apart {lines : List (List Char)} (apart : Apart lines) (cpu : Nat)
    (times : CpuTimes) :
    LastTells lines cpu times ↔ ∃ line ∈ lines, Tells line cpu times := by
  constructor
  · intro last
    obtain ⟨before, line, after, rfl, tells, -⟩ := last
    exact ⟨line, List.mem_append_right _ List.mem_cons_self, tells⟩
  · intro told
    obtain ⟨line, member, tells⟩ := told
    obtain ⟨before, after, rfl⟩ := List.append_of_mem member
    have behind := (List.pairwise_cons.mp (List.pairwise_append.mp apart).2.1).1
    exact ⟨before, line, after, rfl, tells, fun other later others =>
      behind other later cpu times others tells⟩

theorem Apart.perm {lines others : List (List Char)} (reordered : others.Perm lines)
    (apart : Apart lines) : Apart others := by
  refine (reordered.pairwise_iff ?_).mpr apart
  intro first second separate cpu times others tells tellsFirst
  exact separate cpu others times tellsFirst tells

theorem entriesOf_perm {lines others : List (List Char)} (reordered : others.Perm lines)
    (apart : Apart lines) : entriesOf others = entriesOf lines := by
  refine (settled_entriesOf others).ext (settled_entriesOf lines) ?_
  funext cpu
  refine Option.ext fun times => ?_
  simp only [timesAt_entriesOf_eq_some_iff, lastTells_iff_of_apart apart,
    lastTells_iff_of_apart (apart.perm reordered), reordered.mem_iff]

end Lines

section Sample

theorem get?_parse_eq_some_iff (text : List Char) (cpu : Nat) (times : CpuTimes) :
    (parse text).get? cpu = some times ↔ LastTells (Text.lines text) cpu times := by
  rw [get?, cpus_parse]
  exact timesAt_entriesOf_eq_some_iff _ cpu times

theorem isSome_get?_parse_iff (text : List Char) (cpu : Nat) :
    ((parse text).get? cpu).isSome ↔ ∃ line ∈ Text.lines text, ∃ times, Tells line cpu times := by
  rw [Option.isSome_iff_exists]
  simp only [get?_parse_eq_some_iff]
  constructor
  · intro held
    obtain ⟨times, before, line, after, parts, tells, -⟩ := held
    refine ⟨line, ?_, times, tells⟩
    rw [parts]
    exact List.mem_append_right _ List.mem_cons_self
  · exact exists_lastTells

theorem settled_parse (text : List Char) : Settled (parse text).cpus := by
  rw [cpus_parse]
  exact settled_entriesOf _

theorem idle_le_of_get?_parse {text : List Char} {cpu : Nat} {times : CpuTimes}
    (held : (parse text).get? cpu = some times) :
    0 < times.total ∧ times.idle ≤ times.total := by
  obtain ⟨_, _, _, -, tells, -⟩ := (get?_parse_eq_some_iff text cpu times).mp held
  obtain ⟨_, _, _, -, -, -, told⟩ := tells.told
  exact ⟨told.running, told.idle_le⟩

theorem apart_of_nodup {lines : List (List Char)}
    (distinct : ((lines.filterMap entry?).map Prod.fst).Nodup) : Apart lines := by
  rw [List.nodup_iff_pairwise_ne, List.pairwise_map, List.pairwise_filterMap] at distinct
  refine distinct.imp fun {first second} different cpu times others tells tellsSecond => ?_
  exact different _ ((entry?_eq_some_iff first cpu times).mpr tells) _
    ((entry?_eq_some_iff second cpu others).mpr tellsSecond) rfl

theorem parse_eq_of_perm {text other : List Char}
    (reordered : (Text.lines other).Perm (Text.lines text)) (apart : Apart (Text.lines text)) :
    parse other = parse text := by
  have same := entriesOf_perm reordered apart
  rw [← cpus_parse, ← cpus_parse] at same
  exact congrArg StatSample.mk same

/-- A sample has at most 256 entries and ends with one that is present. A present entry has the
times of the last line about its processor, whatever other lines say, and such times have no more
idle ticks than ticks. Reordered lines give the same sample where each processor has one line. -/
theorem parse_keeps_last_times (text : List Char) :
    (parse text).length ≤ 256 ∧
    ((parse text).length ≠ 0 → ((parse text).get? ((parse text).length - 1)).isSome) ∧
    (∀ cpu times, (parse text).get? cpu = some times →
      0 < times.total ∧ times.idle ≤ times.total) ∧
    (∀ cpu, ((parse text).get? cpu).isSome ↔
      ∃ line ∈ Text.lines text, ∃ times, Tells line cpu times) ∧
    (∀ cpu times, (parse text).get? cpu = some times ↔ LastTells (Text.lines text) cpu times) ∧
    ∀ other, (Text.lines other).Perm (Text.lines text) → Apart (Text.lines text) →
      parse other = parse text :=
  ⟨(settled_parse text).bounded, (settled_parse text).last, fun _ _ => idle_le_of_get?_parse,
    isSome_get?_parse_iff text, get?_parse_eq_some_iff text, fun _ => parse_eq_of_perm⟩

/-- Among the lines are one for all processors, one with a number that is too large, one whose
counters saturate, and one that tells nothing after a line for the same processor. -/
theorem parse_of_reordered_lines :
    let text := "cpu  9 9 9 9\ncpu2 1 2 3 4 5 x\r\ncpu0 18446744073709551615 0 0 1 2\n".toList ++
      "cpu256 1 1 1 1\ncpu2 1 2 x 4\n".toList
    let other := "cpu0 18446744073709551615 0 0 1 2\ncpu2 1 2 x 4\ncpu256 1 1 1 1\n".toList ++
      "cpu2 1 2 3 4 5 x\ncpu  9 9 9 9".toList
    (Text.lines other).Perm (Text.lines text) ∧ parse other = parse text ∧
      parse text = { cpus :=
        [some { idle := 3, total := 18446744073709551615 }, none,
          some { idle := 9, total := 15 }] } := by
  intro text other
  have reordered : (Text.lines other).Perm (Text.lines text) := by decide
  have apart : Apart (Text.lines text) := apart_of_nodup (by decide)
  exact ⟨reordered, (parse_keeps_last_times text).2.2.2.2.2 other reordered apart, by decide⟩

end Sample

end StatSample

end SmuTelemetry
