import Mathlib
import SmuTelemetry.Word.LittleEndian

/-!
Little-endian words and their bytes determine each other. A reader at an offset therefore
answers with a word exactly when that word's bytes stand there, as long as the offset of their
end is a 64-bit address.
-/

namespace SmuTelemetry

set_option autoImplicit false

namespace Bytes

theorem littleEndian_lt (bytes : Bytes) : littleEndian bytes < 256 ^ bytes.length := by
  induction bytes with
  | nil => decide
  | cons byte rest ih =>
      have small := byte.toNat_lt
      simp only [littleEndian, List.length_cons, Nat.pow_succ]
      omega

theorem littleEndian_take_lt (bytes : Bytes) (count : Nat) :
    littleEndian (bytes.take count) < 256 ^ count :=
  Nat.lt_of_lt_of_le (littleEndian_lt _)
    (Nat.pow_le_pow_right (by decide) (List.length_take_le count bytes))

theorem ofLittleEndian_littleEndian (bytes : Bytes) :
    ofLittleEndian bytes.length (littleEndian bytes) = bytes := by
  induction bytes with
  | nil => rfl
  | cons byte rest ih =>
      have small : byte.toNat < 256 := byte.toNat_lt
      have low : (byte.toNat + 256 * littleEndian rest) % 256 = byte.toNat := by omega
      have high : (byte.toNat + 256 * littleEndian rest) / 256 = littleEndian rest := by omega
      simp only [littleEndian, List.length_cons, ofLittleEndian]
      rw [low, high, ih, UInt8.ofNat_toNat]

theorem window?_past {bytes : Bytes} {offset count : Nat}
    (past : addressLimit ≤ offset + count) : bytes.window? offset count = none :=
  if_neg (Nat.not_lt.mpr past)

theorem window?_eq_some_iff {bytes window : Bytes} {offset count : Nat} :
    bytes.window? offset count = some window ↔
      offset + count < addressLimit ∧ window.length = count ∧ window <+: bytes.drop offset := by
  by_cases fits : offset + count < addressLimit
  · rw [List.prefix_iff_eq_take, window?, if_pos fits]
    simp only [fits, true_and]
    constructor
    · intro read
      split at read
      next whole =>
        obtain rfl := Option.some.inj read
        exact ⟨whole, by rw [whole]⟩
      next => cases read
    · intro start
      obtain ⟨whole, taken⟩ := start
      rw [whole] at taken
      rw [← taken, if_pos whole]
  · rw [window?_past (Nat.not_lt.mp fits)]
    simp only [fits, false_and, reduceCtorEq]

theorem window?_start_eq_some_iff {bytes window : Bytes} {count : Nat}
    (small : count < addressLimit) :
    bytes.window? 0 count = some window ↔ window.length = count ∧ window <+: bytes := by
  rw [window?_eq_some_iff, Nat.zero_add, List.drop_zero]
  exact and_iff_right small

theorem map_window?_eq_some_iff {α : Type} {bytes encoded : Bytes} {offset count : Nat}
    {decode : Bytes → α} {value : α} (length : encoded.length = count)
    (decoded : ∀ window : Bytes, window.length = count →
      (decode window = value ↔ window = encoded)) :
    (bytes.window? offset count).map decode = some value ↔
      offset + count < addressLimit ∧ encoded <+: bytes.drop offset := by
  rw [Option.map_eq_some_iff]
  constructor
  · intro read
    obtain ⟨window, found, same⟩ := read
    rcases window?_eq_some_iff.mp found with ⟨fits, whole, start⟩
    rw [(decoded window whole).mp same] at start
    exact ⟨fits, start⟩
  · intro stands
    obtain ⟨fits, start⟩ := stands
    exact ⟨encoded, window?_eq_some_iff.mpr ⟨fits, length, start⟩,
      (decoded encoded length).mpr rfl⟩

theorem ofNat_littleEndian_eq_iff_u32 (window : Bytes) (word : UInt32)
    (length : window.length = 4) :
    UInt32.ofNat window.littleEndian = word ↔ window = ofU32 word := by
  have bound := littleEndian_lt window
  rw [length] at bound
  constructor
  · intro same
    subst same
    rw [ofU32, UInt32.toNat_ofNat_of_lt' bound, ← length, ofLittleEndian_littleEndian]
  · intro same
    subst same
    rw [ofU32, littleEndian_ofLittleEndian]
    apply UInt32.toNat_inj.mp
    have whole : word.toNat < Nat.pow 256 4 := word.toNat_lt
    rw [Nat.mod_eq_of_lt whole, UInt32.ofNat_toNat]

theorem ofNat_littleEndian_eq_iff_u64 (window : Bytes) (word : UInt64)
    (length : window.length = 8) :
    UInt64.ofNat window.littleEndian = word ↔ window = ofU64 word := by
  have bound := littleEndian_lt window
  rw [length] at bound
  constructor
  · intro same
    subst same
    rw [ofU64, UInt64.toNat_ofNat_of_lt' bound, ← length, ofLittleEndian_littleEndian]
  · intro same
    subst same
    rw [ofU64, littleEndian_ofLittleEndian]
    apply UInt64.toNat_inj.mp
    have whole : word.toNat < Nat.pow 256 8 := word.toNat_lt
    rw [Nat.mod_eq_of_lt whole, UInt64.ofNat_toNat]

theorem u32At?_eq_some_iff {bytes : Bytes} {offset : Nat} {word : UInt32} :
    bytes.u32At? offset = some word ↔
      offset + 4 < addressLimit ∧ ofU32 word <+: bytes.drop offset :=
  map_window?_eq_some_iff (length_ofLittleEndian 4 _) fun window whole =>
    ofNat_littleEndian_eq_iff_u32 window word whole

theorem u64At?_eq_some_iff {bytes : Bytes} {offset : Nat} {word : UInt64} :
    bytes.u64At? offset = some word ↔
      offset + 8 < addressLimit ∧ ofU64 word <+: bytes.drop offset :=
  map_window?_eq_some_iff (length_ofLittleEndian 8 _) fun window whole =>
    ofNat_littleEndian_eq_iff_u64 window word whole

theorem u32At?_start_eq_some_iff (bytes : Bytes) (word : UInt32) :
    bytes.u32At? 0 = some word ↔ ofU32 word <+: bytes :=
  u32At?_eq_some_iff.trans (and_iff_right (by decide))

theorem u64At?_start_eq_some_iff (bytes : Bytes) (word : UInt64) :
    bytes.u64At? 0 = some word ↔ ofU64 word <+: bytes :=
  u64At?_eq_some_iff.trans (and_iff_right (by decide))

theorem u32At?_past {bytes : Bytes} {offset : Nat} (past : addressLimit ≤ offset + 4) :
    bytes.u32At? offset = none := by
  rw [u32At?, window?_past past, Option.map_none]

theorem u64At?_past {bytes : Bytes} {offset : Nat} (past : addressLimit ≤ offset + 8) :
    bytes.u64At? offset = none := by
  rw [u64At?, window?_past past, Option.map_none]

end Bytes

end SmuTelemetry
