import SmuTelemetry.Proofs.Dram.RoundTrip

/-!
Which refresh register a channel's counts come from. Firmware programs some bank groups and
leaves the registers of the others at a default, so a count is worth reporting only if it was
programmed. The newer generation has four candidates and takes the first programmed one; the
older one has two and looks at the second only in place of an unprogrammed first.
-/

namespace SmuTelemetry.Dram

set_option autoImplicit false

theorem find?_ofFn_cases {α : Type} {count : Nat} (family : Fin count → α) (test : α → Bool) :
    (∃ index, IsLeast {index | test (family index) = true} index ∧
        (List.ofFn family).find? test = some (family index)) ∨
      (∀ index, test (family index) = false) ∧ (List.ofFn family).find? test = none := by
  cases found : (List.ofFn family).find? test with
  | none =>
      right
      refine ⟨fun index => ?_, rfl⟩
      have fails := List.find?_eq_none.mp found (family index) (List.mem_ofFn.mpr ⟨index, rfl⟩)
      exact Bool.eq_false_iff.mpr fails
  | some item =>
      left
      obtain ⟨passes, place, within, held, earlier⟩ := List.find?_eq_some_iff_getElem.mp found
      rw [List.getElem_ofFn] at held
      subst held
      refine ⟨_, ⟨passes, fun other passed => ?_⟩, rfl⟩
      by_contra before
      have fails := earlier other (not_le.mp before)
      rw [List.getElem_ofFn, Bool.not_eq_true'] at fails
      exact absurd passed (ne_true_of_eq_false fails)

def groupRegister (start : UInt32) (group : Fin 4) : UInt32 := start + 4 * UInt32.ofNat group

theorem refreshCycles_eq_ofFn : refreshCycles = List.ofFn (groupRegister 0x50260) := by decide

theorem sameBankRefresh_eq_ofFn : sameBankRefresh = List.ofFn (groupRegister 0x502C0) := by decide

/-- The refresh counts are those of a word: two halves on the newer generation, two fields of
eleven bits on the older one. -/
def CountsOf : DramGeneration → UInt32 → RefreshCycles → Prop
  | .ddr5, word, counts =>
      counts.rfc.toNat = word.toNat % 2 ^ 16 ∧ counts.rfc2.toNat = word.toNat / 2 ^ 16
  | .ddr4, word, counts =>
      counts.rfc.toNat = word.toNat % 2 ^ 11 ∧ counts.rfc2.toNat = word.toNat / 2 ^ 11 % 2 ^ 11

/-- Counts of the newer generation for the words of its four refresh cycle registers and of its
four same-bank registers, of which only the low eleven bits count. -/
structure SelectsProgrammed (cycles sameBank : Fin 4 → UInt32) (counts : RefreshCycles) :
    Prop where
  programmed : ∀ group, IsLeast {group | cycles group ≠ 0x00C00138} group →
    CountsOf .ddr5 (cycles group) counts
  unprogrammed : (∀ group, cycles group = 0x00C00138) → counts.rfc = 0 ∧ counts.rfc2 = 0
  neverDefault : ¬CountsOf .ddr5 0x00C00138 counts
  counted : ∀ group, IsLeast {group | (sameBank group).toNat % 2 ^ 11 ≠ 0} group →
    counts.rfcsb.toNat = (sameBank group).toNat % 2 ^ 11
  uncounted : (∀ group, (sameBank group).toNat % 2 ^ 11 = 0) → counts.rfcsb = 0

structure PrefersProgrammed (first second : UInt32) (counts : RefreshCycles) : Prop where
  ofFirst : first ≠ 0x21060138 ∨ second = first → CountsOf .ddr4 first counts
  ofSecond : first = 0x21060138 → second ≠ first → CountsOf .ddr4 second counts
  defaultOnly : ∃ word, CountsOf .ddr4 word counts ∧ (word = first ∨ word = second) ∧
    (word = 0x21060138 → first = 0x21060138 ∧ second = 0x21060138)

theorem countsOf_refresh (generation : DramGeneration) (registers : Registers)
    (channel : UInt8) :
    CountsOf generation (refreshWord generation registers channel)
      (refresh generation registers channel) := by
  cases generation with
  | ddr4 =>
      simp [CountsOf, refresh, BitRange.slice_eq_div_mod, allBankRange, doubleRateRange,
        BitRange.width]
  | ddr5 =>
      have bound := (refreshWord .ddr5 registers channel).toNat_lt
      simp only [CountsOf, refresh, BitRange.slice_eq_div_mod, allBankRange, doubleRateRange,
        BitRange.width]
      omega

theorem countsOf_ddr5_unique {first second : UInt32} {counts : RefreshCycles}
    (ofFirst : CountsOf .ddr5 first counts) (ofSecond : CountsOf .ddr5 second counts) :
    first = second := by
  obtain ⟨low, high⟩ := ofFirst
  rw [ofSecond.1] at low
  rw [ofSecond.2] at high
  apply UInt32.toNat_inj.mp
  omega

section Selection

variable (registers : Registers) (channel : UInt8)

/-- What the register of a bank group holds in a channel, which has `2^20` addresses. -/
def groupWord (start : Nat) (group : Fin 4) : UInt32 :=
  registers (UInt32.ofNat (channel.toNat * 2 ^ 20 + start + 4 * group))

theorem registers_groupRegister (start : UInt32) (low : start.toNat + 16 ≤ 2 ^ 20)
    (group : Fin 4) :
    registers (registerAddress channel (groupRegister start group)) =
      groupWord registers channel start.toNat group := by
  have step : (UInt32.ofNat group).toNat = group :=
    UInt32.toNat_ofNat_of_lt' (Nat.lt_trans group.isLt (by decide))
  have place : (groupRegister start group).toNat = start.toNat + 4 * group := by
    have four : (4 : UInt32).toNat = 4 := rfl
    rw [groupRegister, UInt32.toNat_add, UInt32.toNat_mul, step, four]
    omega
  have address := registerAddress_toNat channel (groupRegister start group) (by omega)
  rw [channelAddress, place, ← Nat.add_assoc] at address
  rw [groupWord, ← address, UInt32.ofNat_toNat]

theorem refreshWord_ddr5_eq :
    refreshWord .ddr5 registers channel =
      ((List.ofFn (groupWord registers channel 0x50260)).find? fun word =>
        word != unprogrammedRefresh .ddr5).getD 0 := by
  have words := funext (registers_groupRegister registers channel 0x50260 (by decide))
  rw [refreshWord, refreshCycles_eq_ofFn, List.map_ofFn]
  exact congrArg (fun family => ((List.ofFn family).find? fun word =>
    word != unprogrammedRefresh .ddr5).getD 0) words

theorem sameBankCycles_eq :
    sameBankCycles registers channel =
      ((List.ofFn fun group =>
        sameBankRange.slice (groupWord registers channel 0x502C0 group)).find? fun count =>
          count != 0).getD 0 := by
  have words := funext (registers_groupRegister registers channel 0x502C0 (by decide))
  rw [sameBankCycles, sameBankRefresh_eq_ofFn, List.map_ofFn]
  exact congrArg (fun family => ((List.ofFn fun group =>
    sameBankRange.slice (family group)).find? fun count => count != 0).getD 0) words

theorem refreshWord_ddr5_cases :
    (∃ group, IsLeast {group | groupWord registers channel 0x50260 group ≠ 0x00C00138} group ∧
        refreshWord .ddr5 registers channel = groupWord registers channel 0x50260 group) ∨
      (∀ group, groupWord registers channel 0x50260 group = 0x00C00138) ∧
        refreshWord .ddr5 registers channel = 0 := by
  have search := find?_ofFn_cases (groupWord registers channel 0x50260)
    fun word => word != unprogrammedRefresh .ddr5
  rw [refreshWord_ddr5_eq]
  simp only [bne_iff_ne, bne_eq_false_iff_eq] at search
  rcases search with ⟨group, least, found⟩ | ⟨unprogrammed, missing⟩
  · left
    refine ⟨group, least, ?_⟩
    rw [found, Option.getD_some]
  · right
    refine ⟨unprogrammed, ?_⟩
    rw [missing, Option.getD_none]

theorem slice_sameBankRange (word : UInt32) :
    (sameBankRange.slice word).toNat = word.toNat % 2 ^ 11 := by
  simp [BitRange.slice_eq_div_mod, sameBankRange, BitRange.width]

theorem sameBankCycles_cases :
    (∃ group,
        IsLeast {group | (groupWord registers channel 0x502C0 group).toNat % 2 ^ 11 ≠ 0} group ∧
        (sameBankCycles registers channel).toNat =
          (groupWord registers channel 0x502C0 group).toNat % 2 ^ 11) ∨
      (∀ group, (groupWord registers channel 0x502C0 group).toNat % 2 ^ 11 = 0) ∧
        sameBankCycles registers channel = 0 := by
  have search := find?_ofFn_cases
    (fun group => sameBankRange.slice (groupWord registers channel 0x502C0 group))
    fun count => count != 0
  rw [sameBankCycles_eq]
  simp only [bne_iff_ne, bne_eq_false_iff_eq, ne_eq, ← UInt32.toNat_inj,
    slice_sameBankRange] at search
  rcases search with ⟨group, least, found⟩ | ⟨uncounted, missing⟩
  · left
    refine ⟨group, least, ?_⟩
    rw [found, Option.getD_some, slice_sameBankRange]
  · right
    refine ⟨uncounted, ?_⟩
    rw [missing, Option.getD_none]

theorem refresh_ddr5_selectsProgrammed :
    SelectsProgrammed (groupWord registers channel 0x50260) (groupWord registers channel 0x502C0)
      (refresh .ddr5 registers channel) := by
  have counts := countsOf_refresh .ddr5 registers channel
  have word := refreshWord_ddr5_cases registers channel
  have sameBank := sameBankCycles_cases registers channel
  constructor
  case programmed =>
    intro group least
    rcases word with ⟨first, isFirst, selected⟩ | ⟨unprogrammed, -⟩
    · rwa [selected, isFirst.unique least] at counts
    · exact absurd (unprogrammed group) least.1
  case unprogrammed =>
    intro unprogrammed
    rcases word with ⟨first, isFirst, -⟩ | ⟨-, selected⟩
    · exact absurd (unprogrammed first) isFirst.1
    · rw [selected] at counts
      exact ⟨UInt32.toNat_inj.mp counts.1, UInt32.toNat_inj.mp counts.2⟩
  case neverDefault =>
    intro default
    have same := countsOf_ddr5_unique counts default
    rcases word with ⟨first, isFirst, selected⟩ | ⟨-, selected⟩
    · exact isFirst.1 (selected.symm.trans same)
    · rw [selected] at same
      exact absurd same (by decide)
  case counted =>
    intro group least
    rcases sameBank with ⟨first, isFirst, selected⟩ | ⟨uncounted, -⟩
    · rwa [isFirst.unique least] at selected
    · exact absurd (uncounted group) least.1
  case uncounted =>
    intro uncounted
    rcases sameBank with ⟨first, isFirst, -⟩ | ⟨-, selected⟩
    · exact absurd (uncounted first) isFirst.1
    · exact selected

theorem refresh_ddr4_prefersProgrammed :
    PrefersProgrammed (groupWord registers channel 0x50260 0) (groupWord registers channel 0x50260 1)
      (refresh .ddr4 registers channel) := by
  have counts := countsOf_refresh .ddr4 registers channel
  have first : registers (registerAddress channel 0x50260) =
      groupWord registers channel 0x50260 0 :=
    registers_groupRegister registers channel 0x50260 (by decide) 0
  have second : registers (registerAddress channel 0x50264) =
      groupWord registers channel 0x50260 1 :=
    registers_groupRegister registers channel 0x50260 (by decide) 1
  have selected : refreshWord .ddr4 registers channel =
      if groupWord registers channel 0x50260 0 ≠ groupWord registers channel 0x50260 1 ∧
          groupWord registers channel 0x50260 0 = 0x21060138 then
        groupWord registers channel 0x50260 1
      else groupWord registers channel 0x50260 0 := by
    rw [← first, ← second]
    rfl
  rw [selected] at counts
  generalize groupWord registers channel 0x50260 0 = first at counts ⊢
  generalize groupWord registers channel 0x50260 1 = second at counts ⊢
  split at counts
  next replaced =>
    obtain ⟨differ, default⟩ := replaced
    constructor
    case ofFirst =>
      intro kept
      rcases kept with programmed | same
      · exact absurd default programmed
      · exact absurd same.symm differ
    case ofSecond => exact fun _ _ => counts
    case defaultOnly =>
      refine ⟨second, counts, Or.inr rfl, fun also => ⟨default, also⟩⟩
  next kept =>
    have same (default : first = 0x21060138) : second = first := by
      by_contra differ
      exact kept ⟨Ne.symm differ, default⟩
    constructor
    case ofFirst => exact fun _ => counts
    case ofSecond => exact fun default differ => absurd (same default) differ
    case defaultOnly =>
      refine ⟨first, counts, Or.inl rfl, fun default => ⟨default, ?_⟩⟩
      exact (same default).trans default

/-- Refresh counts of a channel come from a programmed register wherever there is one. On the
newer generation the default of an unprogrammed register is never decoded, and bits above a
same-bank count are of no account; on the older one the default is decoded only when both
registers hold it. -/
theorem refresh_from_programmed_register (registers : Registers) (channel : UInt8) :
    SelectsProgrammed (groupWord registers channel 0x50260) (groupWord registers channel 0x502C0)
        (channelTimings .ddr5 registers channel).refresh ∧
      PrefersProgrammed (groupWord registers channel 0x50260 0)
        (groupWord registers channel 0x50260 1)
        (channelTimings .ddr4 registers channel).refresh := by
  rw [channelTimings_refresh, channelTimings_refresh]
  exact ⟨refresh_ddr5_selectsProgrammed registers channel,
    refresh_ddr4_prefersProgrammed registers channel⟩

end Selection

end SmuTelemetry.Dram
