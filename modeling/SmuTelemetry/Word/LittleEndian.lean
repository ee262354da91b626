/-!
Little-endian words inside byte strings. Readers take a byte offset and answer
nothing when the word would leave the string, or when its end would not be a
64-bit address. Writers stand beside the readers.
-/

namespace SmuTelemetry

set_option autoImplicit false

abbrev Bytes := List UInt8

namespace Bytes

/-- Offsets and lengths stay below this bound. -/
def addressLimit : Nat := UInt64.size

def littleEndian : Bytes → Nat
  | [] => 0
  | byte :: rest => byte.toNat + 256 * littleEndian rest

def ofLittleEndian : Nat → Nat → Bytes
  | 0, _ => []
  | count + 1, value => UInt8.ofNat (value % 256) :: ofLittleEndian count (value / 256)

def window? (bytes : Bytes) (offset count : Nat) : Option Bytes :=
  if offset + count < addressLimit then
    let window := (bytes.drop offset).take count
    if window.length = count then some window else none
  else
    none

def u32At? (bytes : Bytes) (offset : Nat) : Option UInt32 :=
  (bytes.window? offset 4).map fun window => UInt32.ofNat window.littleEndian

def u64At? (bytes : Bytes) (offset : Nat) : Option UInt64 :=
  (bytes.window? offset 8).map fun window => UInt64.ofNat window.littleEndian

def ofU32 (word : UInt32) : Bytes := ofLittleEndian 4 word.toNat

def ofU64 (word : UInt64) : Bytes := ofLittleEndian 8 word.toNat

/-- Consecutive 32-bit words; a last partial word is dropped. -/
def words : Bytes → List UInt32
  | b0 :: b1 :: b2 :: b3 :: rest =>
      UInt32.ofNat (littleEndian [b0, b1, b2, b3]) :: words rest
  | _ => []

theorem length_ofLittleEndian (count value : Nat) :
    (ofLittleEndian count value).length = count := by
  induction count generalizing value with
  | zero => rfl
  | succ count ih => simp [ofLittleEndian, ih]

theorem littleEndian_ofLittleEndian (count value : Nat) :
    littleEndian (ofLittleEndian count value) = value % Nat.pow 256 count := by
  induction count generalizing value with
  | zero => simp [ofLittleEndian, littleEndian, Nat.mod_one]
  | succ count ih =>
      have low : (UInt8.ofNat (value % 256)).toNat = value % 256 := by
        simp
      simp only [ofLittleEndian, littleEndian, ih, low, Nat.pow_eq]
      rw [Nat.pow_succ, Nat.mul_comm (256 ^ count) 256, Nat.mod_mul]

end Bytes

end SmuTelemetry
