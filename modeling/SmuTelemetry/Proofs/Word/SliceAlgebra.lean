import Mathlib
import SmuTelemetry.Proofs.Word.BitRange

/-!
Slices as the inverse of placement. A value placed into clear bits is sliced back, ranges that
share no bit do not see each other's values, and a slice is put together from the slices of
its two halves. A 32-bit machine slices by a shift and a mask; on the same bounds it gives the
same word, and none of its steps leaves the machine's numbers.
-/

namespace SmuTelemetry

set_option autoImplicit false

theorem shiftAmount_toNat {count : Nat} (inWord : count < 32) :
    (UInt32.ofNat count).toNat % 32 = count := by
  rw [UInt32.toNat_ofNat_of_lt' (Nat.lt_trans inWord (by decide)), Nat.mod_eq_of_lt inWord]

namespace BitRange

def Disjoint (first second : BitRange) : Prop := first.hi < second.lo ∨ second.hi < first.lo

def Clear (range : BitRange) (word : UInt32) : Prop :=
  ∀ bit, range.lo ≤ bit → bit ≤ range.hi → word.toNat.testBit bit = false

instance (first second : BitRange) : Decidable (first.Disjoint second) :=
  inferInstanceAs (Decidable (_ ∨ _))

theorem lo_add_width (range : BitRange) : range.lo + range.width = range.hi + 1 := by
  have ordered := range.lo_le_hi
  simp only [width]
  omega

theorem place_toNat (range : BitRange) (value : UInt32) :
    (range.place value).toNat = (value.toNat % 2 ^ range.width) <<< range.lo := by
  have cut : value.toNat % 2 ^ range.width < 2 ^ range.width :=
    Nat.mod_lt _ (Nat.two_pow_pos _)
  have fits : (value.toNat % 2 ^ range.width) <<< range.lo < UInt32.size := by
    rw [Nat.shiftLeft_eq]
    calc value.toNat % 2 ^ range.width * 2 ^ range.lo
        < 2 ^ range.width * 2 ^ range.lo :=
          Nat.mul_lt_mul_of_pos_right cut (Nat.two_pow_pos _)
      _ = 2 ^ (range.lo + range.width) := by rw [← Nat.pow_add, Nat.add_comm]
      _ ≤ 2 ^ 32 := Nat.pow_le_pow_right (by decide) range.width_le
  rw [place, Nat.one_shiftLeft]
  exact UInt32.toNat_ofNat_of_lt' fits

theorem place_testBit (range : BitRange) (value : UInt32) (bit : Nat) :
    (range.place value).toNat.testBit bit =
      (decide (range.lo ≤ bit ∧ bit ≤ range.hi) && value.toNat.testBit (bit - range.lo)) := by
  have ends := range.lo_add_width
  rw [place_toNat, Nat.testBit_shiftLeft, Nat.testBit_mod_two_pow, ← Bool.and_assoc,
    ← Bool.decide_and]
  congr 2
  apply propext
  omega

theorem shiftLeft_eq_place {range : BitRange} {value : UInt32}
    (fits : value.toNat < 2 ^ range.width) :
    value <<< UInt32.ofNat range.lo = range.place value := by
  have inWord : range.lo < 32 := Nat.lt_of_le_of_lt range.lo_le_hi range.hi_lt_width
  have placed := range.place_toNat value
  rw [Nat.mod_eq_of_lt fits] at placed
  apply UInt32.toNat_inj.mp
  rw [UInt32.toNat_shiftLeft, shiftAmount_toNat inWord, ← placed, Nat.mod_eq_of_lt (range.place value).toNat_lt]

theorem slice_or_place {range : BitRange} {word value : UInt32} (clear : range.Clear word)
    (fits : value.toNat < 2 ^ range.width) : range.slice (word ||| range.place value) = value := by
  have ends := range.lo_add_width
  apply range.slice_eq_of_bits _ _ fits
  intro bit inside
  have within : range.lo ≤ range.lo + bit ∧ range.lo + bit ≤ range.hi := by omega
  rw [UInt32.toNat_or, Nat.testBit_or, clear _ within.1 within.2, Bool.false_or, place_testBit,
    decide_eq_true within, Bool.true_and, Nat.add_sub_cancel_left]

theorem slice_or_place_of_disjoint {range other : BitRange} (apart : range.Disjoint other)
    (word value : UInt32) : other.slice (word ||| range.place value) = other.slice word := by
  have ends := other.lo_add_width
  apply other.slice_eq_of_bits _ _ (other.slice_lt word)
  intro bit inside
  have outside : ¬(range.lo ≤ other.lo + bit ∧ other.lo + bit ≤ range.hi) := by
    unfold Disjoint at apart
    omega
  rw [UInt32.toNat_or, Nat.testBit_or, place_testBit, decide_eq_false outside, Bool.false_and,
    Bool.or_false, slice_testBit, decide_eq_true inside, Bool.true_and]

theorem slice_split (whole low high : BitRange) (start : low.lo = whole.lo)
    (middle : high.lo = low.hi + 1) (stop : high.hi = whole.hi) (word : UInt32) :
    (whole.slice word).toNat =
      (low.slice word).toNat + 2 ^ low.width * (high.slice word).toNat := by
  have wholeEnds := whole.lo_add_width
  have lowEnds := low.lo_add_width
  have highEnds := high.lo_add_width
  have widths : whole.width = low.width + high.width := by omega
  have starts : high.lo = whole.lo + low.width := by omega
  rw [slice_eq_div_mod, slice_eq_div_mod, slice_eq_div_mod, widths, Nat.pow_add, Nat.mod_mul,
    Nat.div_div_eq_div_mul, ← Nat.pow_add, ← starts, start]

theorem ofBounds?_self (range : BitRange) : ofBounds? range.hi range.lo = some range := by
  have ordered := range.lo_le_hi
  have bounded := range.hi_lt_width
  have inside : (0 : Int) ≤ range.lo ∧ (range.lo : Int) ≤ range.hi ∧ (range.hi : Int) < 32 := by
    omega
  rw [ofBounds?, dif_pos inside]
  rfl

theorem ofBounds?_outside {hi lo : Int} (outside : ¬(0 ≤ lo ∧ lo ≤ hi ∧ hi ≤ 31)) :
    ofBounds? hi lo = none :=
  dif_neg (by omega)

theorem exists_of_bounds {hi lo : Int} (inside : 0 ≤ lo ∧ lo ≤ hi ∧ hi ≤ 31) :
    ∃ range : BitRange, hi = range.hi ∧ lo = range.lo :=
  ⟨⟨hi.toNat, lo.toNat, by omega, by omega⟩, by simp only; omega, by simp only; omega⟩

end BitRange

theorem bitSlice_range (word : UInt32) (range : BitRange) :
    bitSlice word range.hi range.lo = range.slice word := by
  rw [bitSlice, range.ofBounds?_self]

theorem bitSlice_outside {hi lo : Int} (word : UInt32)
    (outside : ¬(0 ≤ lo ∧ lo ≤ hi ∧ hi ≤ 31)) : bitSlice word hi lo = 0 := by
  rw [bitSlice, BitRange.ofBounds?_outside outside]

/-- Steps that 32-bit arithmetic has no result for: a number outside the type, and a shift by
a negative amount or by the whole word. -/
inductive WordTrap where
  | overflow (exact : Int)
  | shift (amount : Int)
deriving DecidableEq, Repr

namespace WordTrap

def signed (exact : Int) : Except WordTrap Int32 :=
  if -2 ^ 31 ≤ exact ∧ exact < 2 ^ 31 then .ok (Int32.ofInt exact) else .error (overflow exact)

def unsigned (exact : Int) : Except WordTrap UInt32 :=
  if 0 ≤ exact ∧ exact < 2 ^ 32 then .ok (UInt32.ofNat exact.toNat) else .error (overflow exact)

def shiftBy (move : UInt32 → UInt32 → UInt32) (word : UInt32) (amount : Int32) :
    Except WordTrap UInt32 :=
  if 0 ≤ amount.toInt ∧ amount.toInt < 32 then .ok (move word (UInt32.ofNat amount.toInt.toNat))
  else .error (shift amount.toInt)

theorem ok_bind {α β : Type} (value : α) (next : α → Except WordTrap β) :
    (Except.ok value >>= next) = next value := rfl

theorem exists_signed (exact : Int) (low : -2 ^ 31 ≤ exact) (high : exact < 2 ^ 31) :
    ∃ number, signed exact = .ok number ∧ number.toInt = exact :=
  ⟨Int32.ofInt exact, if_pos ⟨low, high⟩, Int32.toInt_ofInt_of_le low high⟩

theorem exists_unsigned (exact : Int) (low : 0 ≤ exact) (high : exact < 2 ^ 32) :
    ∃ number, unsigned exact = .ok number ∧ number.toNat = exact.toNat := by
  have fits : exact.toNat < UInt32.size := (Int.toNat_lt low).mpr high
  exact ⟨UInt32.ofNat exact.toNat, if_pos ⟨low, high⟩, UInt32.toNat_ofNat_of_lt' fits⟩

theorem shiftBy_of_inWord {amount : Int32} {count : Nat} (counts : amount.toInt = count)
    (inWord : count < 32) (move : UInt32 → UInt32 → UInt32) (word : UInt32) :
    shiftBy move word amount = .ok (move word (UInt32.ofNat count)) := by
  rw [shiftBy, if_pos (by omega), counts, Int.toNat_natCast]

end WordTrap

/-- As many low ones as the width says; the mask of a whole word is a constant, since one
cannot be shifted by 32. -/
def onesMask (width : Int32) : Except WordTrap UInt32 :=
  if width = 32 then .ok 0xFFFFFFFF
  else do
    let bit ← WordTrap.shiftBy (· <<< ·) 1 width
    WordTrap.unsigned (bit.toNat - 1)

theorem exists_onesMask {width : Int32} {count : Nat} (counts : width.toInt = count)
    (positive : 0 < count) (bound : count ≤ 32) :
    ∃ mask, onesMask width = .ok mask ∧ mask.toNat = 2 ^ count - 1 := by
  by_cases whole : width = 32
  · have full : (count : Int) = 32 := by
      rw [← counts, whole]
      rfl
    obtain rfl : count = 32 := by omega
    exact ⟨0xFFFFFFFF, if_pos whole, rfl⟩
  · have partly : count < 32 := by
      refine Nat.lt_of_le_of_ne bound fun full => whole ?_
      rw [← Int32.toInt_inj, counts, full]
      rfl
    have power : 2 ^ count < 2 ^ 32 := Nat.pow_lt_pow_right (by decide) partly
    have one : 0 < 2 ^ count := Nat.two_pow_pos count
    have bit : ((1 : UInt32) <<< UInt32.ofNat count).toNat = 2 ^ count := by
      rw [UInt32.toNat_shiftLeft, shiftAmount_toNat partly, UInt32.toNat_one, Nat.one_shiftLeft,
        Nat.mod_eq_of_lt power]
    obtain ⟨mask, fits, isMask⟩ :=
      WordTrap.exists_unsigned (((1 : UInt32) <<< UInt32.ofNat count).toNat - 1) (by omega)
        (by omega)
    refine ⟨mask, ?_, by omega⟩
    rw [onesMask, if_neg whole, WordTrap.shiftBy_of_inWord counts partly, WordTrap.ok_bind, fits]

def maskedSlice (word : UInt32) (hi lo : Int32) : Except WordTrap UInt32 :=
  if lo < 0 ∨ 31 < hi ∨ hi < lo then .ok 0
  else do
    let span ← WordTrap.signed (hi.toInt - lo.toInt)
    let width ← WordTrap.signed (span.toInt + 1)
    let mask ← onesMask width
    let moved ← WordTrap.shiftBy (· >>> ·) word lo
    return moved &&& mask

theorem refused_iff {hi lo : Int32} :
    (lo < 0 ∨ 31 < hi ∨ hi < lo) ↔
      ¬(0 ≤ lo.toInt ∧ lo.toInt ≤ hi.toInt ∧ hi.toInt ≤ 31) := by
  have last : (31 : Int32).toInt = 31 := rfl
  simp only [Int32.lt_iff_toInt_lt, Int32.toInt_zero, last]
  omega

theorem maskedSlice_range (word : UInt32) {hi lo : Int32} (range : BitRange)
    (isHi : hi.toInt = range.hi) (isLo : lo.toInt = range.lo) :
    maskedSlice word hi lo = .ok (range.slice word) := by
  have ordered := range.lo_le_hi
  have bounded := range.hi_lt_width
  have ends := range.lo_add_width
  have inWord : range.lo < 32 := Nat.lt_of_le_of_lt ordered bounded
  have accepted : ¬(lo < 0 ∨ 31 < hi ∨ hi < lo) := by
    rw [refused_iff, not_not]
    omega
  obtain ⟨span, spans, isSpan⟩ :=
    WordTrap.exists_signed (hi.toInt - lo.toInt) (by omega) (by omega)
  obtain ⟨width, widths, isWidth⟩ :=
    WordTrap.exists_signed (span.toInt + 1) (by omega) (by omega)
  have counts : width.toInt = range.width := by omega
  obtain ⟨mask, masks, isMask⟩ := exists_onesMask counts (by omega) (by omega)
  have same : word >>> UInt32.ofNat range.lo &&& mask = range.slice word := by
    apply UInt32.toNat_inj.mp
    rw [UInt32.toNat_and, isMask, UInt32.toNat_shiftRight, shiftAmount_toNat inWord,
      Nat.and_two_pow_sub_one_eq_mod, range.slice_toNat, Nat.one_shiftLeft]
  rw [maskedSlice, if_neg accepted, spans, WordTrap.ok_bind, widths, WordTrap.ok_bind, masks,
    WordTrap.ok_bind, WordTrap.shiftBy_of_inWord isLo inWord, WordTrap.ok_bind, same]
  rfl

/-- Past the guard no step leaves the machine's numbers, so slicing never stops. -/
theorem maskedSlice_eq (word : UInt32) (hi lo : Int32) :
    maskedSlice word hi lo = .ok (bitSlice word hi.toInt lo.toInt) := by
  by_cases inside : 0 ≤ lo.toInt ∧ lo.toInt ≤ hi.toInt ∧ hi.toInt ≤ 31
  · obtain ⟨range, isHi, isLo⟩ := BitRange.exists_of_bounds inside
    rw [maskedSlice_range word range isHi isLo, isHi, isLo, bitSlice_range]
  · rw [maskedSlice, if_pos (refused_iff.mpr inside), bitSlice_outside word inside]

/-- Slicing against placement, for every word and every range of its bits: what is placed into
clear bits is sliced back, a range apart from it sees no difference, and a slice splits at any
bit. Bounds that name no range give zero, and no bounds at all take the machine's steps out of
its numbers. -/
theorem bitSlice_inverts_placement (word : UInt32) :
    (∀ (range : BitRange) (value : UInt32), value.toNat < 2 ^ range.width →
      let placed := word ||| value <<< UInt32.ofNat range.lo
      (range.Clear word → bitSlice placed range.hi range.lo = value) ∧
      ∀ other : BitRange, range.Disjoint other →
        bitSlice placed other.hi other.lo = bitSlice word other.hi other.lo) ∧
    (∀ (range : BitRange) (middle : Nat), range.lo ≤ middle → middle < range.hi →
      (bitSlice word range.hi range.lo).toNat =
        (bitSlice word middle range.lo).toNat +
          2 ^ (middle + 1 - range.lo) * (bitSlice word range.hi (middle + 1 : Nat)).toNat) ∧
    (∀ hi lo : Int, ¬(0 ≤ lo ∧ lo ≤ hi ∧ hi ≤ 31) → bitSlice word hi lo = 0) ∧
    ∀ hi lo : Int32, maskedSlice word hi lo = .ok (bitSlice word hi.toInt lo.toInt) := by
  refine ⟨?_, ?_, fun hi lo outside => bitSlice_outside word outside, maskedSlice_eq word⟩
  · intro range value fits placed
    have shifted : placed = word ||| range.place value :=
      congrArg (word ||| ·) (BitRange.shiftLeft_eq_place fits)
    rw [shifted]
    constructor
    · intro clear
      rw [bitSlice_range, BitRange.slice_or_place clear fits]
    · intro other apart
      rw [bitSlice_range, bitSlice_range, BitRange.slice_or_place_of_disjoint apart]
  · intro range middle above below
    have bounded := range.hi_lt_width
    let low : BitRange := ⟨middle, range.lo, above, by omega⟩
    let high : BitRange := ⟨range.hi, middle + 1, by omega, bounded⟩
    have width : low.width = middle + 1 - range.lo := by
      simp only [BitRange.width, low]
      omega
    rw [bitSlice_range word range, bitSlice_range word low, bitSlice_range word high, ← width]
    exact BitRange.slice_split range low high rfl rfl rfl word

/-- Bits 8 to 15 of a word that has all others set, beside the bits above them, cut after
bit 11, and the widest and the most negative bounds. -/
theorem bitSlice_inverts_placement_in_second_byte :
    let range : BitRange := { hi := 15, lo := 8 }
    let other : BitRange := { hi := 31, lo := 16 }
    let word : UInt32 := 0xFFFF00FF
    let placed : UInt32 := word ||| 0xA5 <<< UInt32.ofNat 8
    (0xA5 : UInt32).toNat < 2 ^ range.width ∧ range.Clear word ∧ bitSlice placed 15 8 = 0xA5 ∧
      range.Disjoint other ∧ bitSlice placed 31 16 = 0xFFFF ∧
      (8 ≤ 11 ∧ 11 < 15) ∧
      (bitSlice placed 15 8).toNat =
        (bitSlice placed 11 8).toNat + 2 ^ 4 * (bitSlice placed 15 12).toNat ∧
      ¬((0 : Int) ≤ -0x80000000 ∧ (-0x80000000 : Int) ≤ 0x7FFFFFFF ∧ (0x7FFFFFFF : Int) ≤ 31) ∧
      bitSlice word 0x7FFFFFFF (-0x80000000) = 0 := by
  intro range other word placed
  have fits : (0xA5 : UInt32).toNat < 2 ^ range.width := by decide
  have clear : range.Clear word := by
    intro bit above below
    have position : bit < 32 := Nat.lt_of_le_of_lt below (by decide)
    revert above below
    interval_cases bit <;> decide
  have apart : range.Disjoint other := by decide
  have outside : ¬((0 : Int) ≤ -0x80000000 ∧ (-0x80000000 : Int) ≤ 0x7FFFFFFF ∧
      (0x7FFFFFFF : Int) ≤ 31) := by decide
  obtain ⟨placing, -, refused, -⟩ := bitSlice_inverts_placement word
  obtain ⟨-, splitting, -, -⟩ := bitSlice_inverts_placement placed
  obtain ⟨back, beside⟩ := placing range 0xA5 fits
  have above : bitSlice placed 31 16 = 0xFFFF := (beside other apart).trans (by decide)
  exact ⟨fits, clear, back clear, apart, above, by decide, splitting range 11 (by decide)
    (by decide), outside, refused _ _ outside⟩

end SmuTelemetry
