import Mathlib
import SmuTelemetry.Word.BitRange

/-!
Bits of a register word. Slicing moves the bits of a range down to bit zero, and
overwriting replaces a run of bits and nothing else. A run is given by its lowest bit
and its length, so a register can be described without any `BitRange`.
-/

namespace SmuTelemetry

set_option autoImplicit false

namespace BitRange

theorem slice_testBit (range : BitRange) (word : UInt32) (bit : Nat) :
    (range.slice word).toNat.testBit bit =
      (decide (bit < range.width) && word.toNat.testBit (range.lo + bit)) := by
  rw [slice_toNat, Nat.one_shiftLeft, Nat.testBit_mod_two_pow, Nat.testBit_shiftRight]

theorem slice_eq_div_mod (range : BitRange) (word : UInt32) :
    (range.slice word).toNat = word.toNat / 2 ^ range.lo % 2 ^ range.width := by
  rw [slice_toNat, Nat.one_shiftLeft, Nat.shiftRight_eq_div_pow]

theorem slice_lt (range : BitRange) (word : UInt32) :
    (range.slice word).toNat < 2 ^ range.width := by
  rw [slice_toNat, Nat.one_shiftLeft]
  exact Nat.mod_lt _ (Nat.two_pow_pos _)

theorem slice_eq_of_bits (range : BitRange) (word value : UInt32)
    (fits : value.toNat < 2 ^ range.width)
    (held : ∀ bit, bit < range.width →
      word.toNat.testBit (range.lo + bit) = value.toNat.testBit bit) :
    range.slice word = value := by
  apply UInt32.toNat_inj.mp
  apply Nat.eq_of_testBit_eq
  intro bit
  rw [slice_testBit]
  by_cases inside : bit < range.width
  · simp [inside, held bit inside]
  · have past : value.toNat.testBit bit = false :=
      Nat.testBit_lt_two_pow
        (lt_of_lt_of_le fits (Nat.pow_le_pow_right (by decide) (Nat.le_of_not_lt inside)))
    simp [inside, past]

end BitRange

theorem bitSet_eq_testBit (word : UInt32) (position : Nat) (inWord : position < 32) :
    bitSet word position = word.toNat.testBit position := by
  let single : BitRange := ⟨position, position, le_refl _, inWord⟩
  have bounds : BitRange.ofBounds? position position = some single := by
    have ordered : (0 : Int) ≤ position ∧ (position : Int) ≤ position ∧ (position : Int) < 32 := by
      omega
    simp [BitRange.ofBounds?, ordered, single]
  have width : single.width = 1 := by simp [BitRange.width, single]
  have held := single.slice_toNat word
  rw [width] at held
  have one : single.slice word = 1 ↔ word.toNat / 2 ^ position % 2 = 1 := by
    rw [← UInt32.toNat_inj, held, ← Nat.shiftRight_eq_div_pow]
    rfl
  rw [Nat.testBit_eq_decide_div_mod_eq, bitSet, bitSlice, bounds]
  exact decide_eq_decide.mpr one

/-- The word with `length` bits from bit `low` on replaced by a value of that length. -/
def overwriteBits (low length : Nat) (value word : UInt32) : UInt32 :=
  let run := BitVec.allOnes 32 >>> (32 - length) <<< low
  ⟨word.toBitVec &&& ~~~run ||| value.toBitVec <<< low⟩

theorem overwriteBits_testBit (low length : Nat) (value word : UInt32) (bit : Nat)
    (inWord : low + length ≤ 32) (fits : value.toNat < 2 ^ length) :
    (overwriteBits low length value word).toNat.testBit bit =
      if low ≤ bit ∧ bit < low + length then value.toNat.testBit (bit - low)
      else word.toNat.testBit bit := by
  have above (position : Nat) (past : length ≤ position) :
      value.toBitVec.getLsbD position = false :=
    Nat.testBit_lt_two_pow (lt_of_lt_of_le fits (Nat.pow_le_pow_right (by decide) past))
  change (overwriteBits low length value word).toBitVec.getLsbD bit =
    if low ≤ bit ∧ bit < low + length then value.toBitVec.getLsbD (bit - low)
      else word.toBitVec.getLsbD bit
  simp only [overwriteBits, BitVec.getLsbD_or, BitVec.getLsbD_and, BitVec.getLsbD_not,
    BitVec.getLsbD_shiftLeft, BitVec.getLsbD_ushiftRight, BitVec.getLsbD_allOnes]
  by_cases inside : low ≤ bit ∧ bit < low + length
  · have bound : bit < 32 := by omega
    have notBelow : ¬bit < low := by omega
    have shifted : 32 - length + (bit - low) < 32 := by omega
    rw [if_pos inside]
    simp [bound, notBelow, shifted]
  · rw [if_neg inside]
    by_cases below : bit < low
    · simpa [below] using fun set => BitVec.lt_of_getLsbD set
    · have past := above (bit - low) (by omega)
      have outside : ¬32 - length + (bit - low) < 32 := by omega
      simpa [past, below, outside] using fun set => BitVec.lt_of_getLsbD set

end SmuTelemetry
