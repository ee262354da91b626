import Mathlib
import SmuTelemetry.Binary32.Basic
import SmuTelemetry.Proofs.Word.LittleEndian

/-!
The readers of little-endian words agree. A reader at an offset answers with a word exactly
when that word's bytes stand there and end at a 64-bit address, so a sequence of words, a
single word and a double word can be compared through the bytes that they find.
-/

namespace SmuTelemetry

set_option autoImplicit false

namespace Bytes

theorem ofLittleEndian_append (count rest low high : Nat) (small : low < 256 ^ count) :
    ofLittleEndian count low ++ ofLittleEndian rest high =
      ofLittleEndian (count + rest) (low + 256 ^ count * high) := by
  induction count generalizing low with
  | zero =>
      have zero : low = 0 := by simpa using small
      simp [zero, ofLittleEndian]
  | succ count ih =>
      have fewer : low / 256 < 256 ^ count :=
        Nat.div_lt_of_lt_mul (by rwa [← Nat.pow_succ'])
      have number : low + 256 ^ (count + 1) * high = low + 256 * (256 ^ count * high) := by
        rw [Nat.pow_succ', Nat.mul_assoc]
      rw [number, Nat.add_right_comm, ofLittleEndian, ofLittleEndian,
        Nat.add_mul_mod_self_left, Nat.add_mul_div_left _ _ (by decide), List.cons_append,
        ih _ fewer]

theorem ofU64_of_halves {word : UInt64} {low high : UInt32}
    (halves : word.toNat = low.toNat + 2 ^ 32 * high.toNat) :
    ofU64 word = ofU32 low ++ ofU32 high := by
  have small : low.toNat < 256 ^ 4 := low.toNat_lt
  rw [ofU64, halves, ofU32, ofU32]
  exact (ofLittleEndian_append 4 4 low.toNat high.toNat small).symm

theorem exists_halves (word : UInt64) :
    ∃ low high : UInt32, word.toNat = low.toNat + 2 ^ 32 * high.toNat := by
  have bound := word.toNat_lt
  have lowFits : word.toNat % 2 ^ 32 < UInt32.size := Nat.mod_lt _ (by decide)
  have highFits : word.toNat / 2 ^ 32 < UInt32.size :=
    Nat.div_lt_of_lt_mul bound
  refine ⟨UInt32.ofNat (word.toNat % 2 ^ 32), UInt32.ofNat (word.toNat / 2 ^ 32), ?_⟩
  rw [UInt32.toNat_ofNat_of_lt' lowFits, UInt32.toNat_ofNat_of_lt' highFits, Nat.mod_add_div]

theorem append_prefix_iff {front back bytes : Bytes} :
    front ++ back <+: bytes ↔ front <+: bytes ∧ back <+: bytes.drop front.length := by
  constructor
  · rintro ⟨rest, rfl⟩
    rw [List.append_assoc, List.drop_left]
    exact ⟨List.prefix_append _ _, List.prefix_append _ _⟩
  · rintro ⟨⟨rest, rfl⟩, second⟩
    rw [List.drop_left] at second
    exact (List.prefix_append_right_inj front).mpr second

theorem u64At?_of_halves {bytes : Bytes} {offset : Nat} {word : UInt64} {low high : UInt32}
    (halves : word.toNat = low.toNat + 2 ^ 32 * high.toNat) :
    bytes.u64At? offset = some word ↔
      bytes.u32At? offset = some low ∧ bytes.u32At? (offset + 4) = some high := by
  have length : (ofU32 low).length = 4 := length_ofLittleEndian 4 _
  rw [u64At?_eq_some_iff, u32At?_eq_some_iff, u32At?_eq_some_iff, ofU64_of_halves halves,
    append_prefix_iff, length, List.drop_drop]
  constructor
  · rintro ⟨fits, first, second⟩
    exact ⟨⟨by omega, first⟩, by omega, second⟩
  · rintro ⟨⟨-, first⟩, fits, second⟩
    exact ⟨by omega, first, second⟩

theorem length_lt_of_no_word {bytes : Bytes}
    (none : ∀ b0 b1 b2 b3 rest, bytes = b0 :: b1 :: b2 :: b3 :: rest → False) :
    bytes.length < 4 := by
  by_contra long
  obtain ⟨first, rest, split, length⟩ : ∃ first rest, bytes = first ++ rest ∧ first.length = 4 :=
    ⟨bytes.take 4, bytes.drop 4, (List.take_append_drop 4 bytes).symm,
      List.length_take_of_le (Nat.not_lt.mp long)⟩
  obtain ⟨b0, b1, b2, b3, rfl⟩ := List.length_eq_four.mp length
  exact none b0 b1 b2 b3 rest split

theorem words_of_short {bytes : Bytes} (short : bytes.length < 4) : bytes.words = [] := by
  unfold words
  split
  next => simp at short; omega
  next => rfl

theorem words_ofU32_append (word : UInt32) (rest : Bytes) :
    words (ofU32 word ++ rest) = word :: rest.words := by
  have read : UInt32.ofNat (littleEndian (ofU32 word)) = word :=
    (ofNat_littleEndian_eq_iff_u32 _ _ (length_ofLittleEndian 4 _)).mpr rfl
  change UInt32.ofNat (littleEndian (ofU32 word)) :: rest.words = word :: rest.words
  rw [read]

theorem words_flatMap_ofU32 (items : List UInt32) {tail : Bytes} (short : tail.length < 4) :
    words (items.flatMap ofU32 ++ tail) = items := by
  induction items with
  | nil => exact words_of_short short
  | cons word items ih => rw [List.flatMap_cons, List.append_assoc, words_ofU32_append, ih]

/-- The induction is on the words of the string: each takes four bytes off its front. -/
theorem getElem?_words_eq_some_iff {bytes : Bytes} {index : Nat} {word : UInt32} :
    bytes.words[index]? = some word ↔ ofU32 word <+: bytes.drop (4 * index) := by
  induction bytes using words.induct generalizing index with
  | case1 b0 b1 b2 b3 rest ih =>
      cases index with
      | zero =>
          rw [← u32At?_start_eq_some_iff]
          rfl
      | succ index =>
          rw [Nat.mul_succ, words, List.getElem?_cons_succ, ih]
          rfl
  | case2 bytes none =>
      have short := length_lt_of_no_word none
      have encoded : (ofU32 word).length = 4 := length_ofLittleEndian 4 _
      rw [words_of_short short]
      constructor
      · intro held
        cases held
      · intro start
        have fits := start.length_le
        rw [encoded, List.length_drop] at fits
        omega

theorem getElem?_words {bytes : Bytes} (small : bytes.length < addressLimit) (index : Nat) :
    bytes.words[index]? = bytes.u32At? (4 * index) := by
  apply Option.ext
  intro word
  rw [getElem?_words_eq_some_iff, u32At?_eq_some_iff]
  constructor
  · intro held
    have fits := held.length_le
    rw [ofU32, length_ofLittleEndian, List.length_drop] at fits
    exact ⟨by omega, held⟩
  · intro read
    exact read.2

end Bytes

namespace Binary32

theorem ofBytes_flatMap_toBytes (numbers : List Binary32) {tail : Bytes}
    (short : tail.length < 4) : ofBytes (numbers.flatMap toBytes ++ tail) = numbers := by
  have encoded : numbers.flatMap toBytes = (numbers.map bits).flatMap Bytes.ofU32 := by
    rw [List.flatMap_map]
    rfl
  rw [ofBytes, encoded, Bytes.words_flatMap_ofU32 _ short, List.map_map]
  exact List.map_id numbers

end Binary32

namespace Bytes

/-- The three readers of little-endian words. Numbers survive encoding bit by bit, whatever
partial word follows them. The elements of a string that memory can hold are the words at four
times their indices, and there is no element where there is no such word. A double word is the
word at its offset and the one after it. No reader answers at an offset whose end is no 64-bit
address. -/
theorem little_endian_readers_agree :
    (∀ (numbers : List Binary32) (tail : Bytes), tail.length ≤ 3 →
      Binary32.ofBytes (numbers.flatMap Binary32.toBytes ++ tail) = numbers) ∧
    (∀ bytes : Bytes, bytes.length < addressLimit → ∀ index : Nat,
      (Binary32.ofBytes bytes)[index]? = (bytes.u32At? (4 * index)).map Binary32.mk) ∧
    (∀ (bytes : Bytes) (offset : Nat),
      (∀ word, bytes.u64At? offset = some word ↔
        ∃ low high, bytes.u32At? offset = some low ∧ bytes.u32At? (offset + 4) = some high ∧
          word.toNat = low.toNat + 2 ^ 32 * high.toNat) ∧
      (addressLimit ≤ offset + 4 → bytes.u32At? offset = none) ∧
      (addressLimit ≤ offset + 8 → bytes.u64At? offset = none)) := by
  refine ⟨?_, ?_, fun bytes offset => ⟨?_, u32At?_past, u64At?_past⟩⟩
  · intro numbers tail short
    exact Binary32.ofBytes_flatMap_toBytes numbers (Nat.lt_succ_of_le short)
  · intro bytes small index
    rw [Binary32.ofBytes, List.getElem?_map, getElem?_words small]
  · intro word
    constructor
    · intro read
      obtain ⟨low, high, halves⟩ := exists_halves word
      obtain ⟨first, second⟩ := (u64At?_of_halves halves).mp read
      exact ⟨low, high, first, second, halves⟩
    · rintro ⟨low, high, first, second, halves⟩
      exact (u64At?_of_halves halves).mpr ⟨first, second⟩

/-- A signalling and a negative NaN before a partial word, read back, read one by one and as a
double word. -/
theorem little_endian_readers_agree_at_nans :
    let numbers : List Binary32 := [⟨0x7F800001⟩, ⟨0xFFC12345⟩]
    let tail : Bytes := [0xAA, 0xBB, 0xCC]
    let bytes : Bytes := numbers.flatMap Binary32.toBytes ++ tail
    tail.length ≤ 3 ∧ Binary32.ofBytes bytes = numbers ∧
      bytes.length < addressLimit ∧ (bytes.u32At? (4 * 1)).map Binary32.mk = some ⟨0xFFC12345⟩ ∧
      bytes.u64At? 0 = some 0xFFC123457F800001 ∧
      addressLimit ≤ (2 ^ 64 - 4) + 4 ∧ bytes.u32At? (2 ^ 64 - 4) = none ∧
      addressLimit ≤ (2 ^ 64 - 4) + 8 ∧ bytes.u64At? (2 ^ 64 - 4) = none := by
  intro numbers tail bytes
  obtain ⟨roundTrip, elements, doubles⟩ := little_endian_readers_agree
  have small : bytes.length < addressLimit := by decide
  have whole := roundTrip numbers tail (by decide)
  have second := elements bytes small 1
  have past := (doubles bytes (2 ^ 64 - 4)).2
  have double := ((doubles bytes 0).1 0xFFC123457F800001).mpr
    ⟨0x7F800001, 0xFFC12345, by decide, by decide, by decide⟩
  rw [whole] at second
  exact ⟨by decide, whole, small, second.symm, double, by decide, past.1 (by decide), by decide,
    past.2 (by decide)⟩

end Bytes

end SmuTelemetry
