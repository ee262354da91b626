/-!
Inclusive bit ranges of a 32-bit register word. A range is a pair of bounds that
already lies inside the word, so slicing and placing never meet a bad shift; the
check on loose bounds is a separate function that may refuse.
-/

namespace SmuTelemetry

set_option autoImplicit false

/-- Bits `lo` to `hi`, both included, of a 32-bit word. -/
structure BitRange where
  hi : Nat
  lo : Nat
  lo_le_hi : lo ≤ hi := by decide
  hi_lt_width : hi < 32 := by decide
deriving DecidableEq, Repr

namespace BitRange

/-- A range from loose bounds, refused when they are out of order or leave the word. -/
def ofBounds? (hi lo : Int) : Option BitRange :=
  if h : 0 ≤ lo ∧ lo ≤ hi ∧ hi < 32 then
    some { hi := hi.toNat, lo := lo.toNat, lo_le_hi := by omega, hi_lt_width := by omega }
  else
    none

def width (range : BitRange) : Nat := range.hi - range.lo + 1

def slice (range : BitRange) (word : UInt32) : UInt32 :=
  UInt32.ofNat (word.toNat >>> range.lo % 1 <<< range.width)

def place (range : BitRange) (value : UInt32) : UInt32 :=
  UInt32.ofNat ((value.toNat % 1 <<< range.width) <<< range.lo)

theorem width_le (range : BitRange) : range.lo + range.width ≤ 32 := by
  have ordered := range.lo_le_hi
  have bounded := range.hi_lt_width
  simp only [width]
  omega

theorem slice_toNat (range : BitRange) (word : UInt32) :
    (range.slice word).toNat = word.toNat >>> range.lo % 1 <<< range.width := by
  have wide := range.width_le
  have bound : word.toNat >>> range.lo % 1 <<< range.width < 1 <<< range.width :=
    Nat.mod_lt _ (by rw [Nat.one_shiftLeft]; exact Nat.two_pow_pos _)
  have fits : 1 <<< range.width ≤ UInt32.size := by
    rw [Nat.one_shiftLeft]
    exact Nat.pow_le_pow_right (by decide) (by omega : range.width ≤ 32)
  simp only [slice]
  exact UInt32.toNat_ofNat_of_lt' (Nat.lt_of_lt_of_le bound fits)

end BitRange

/-- Bits `lo` to `hi` of a word, right-aligned; loose bounds that name no range give zero. -/
def bitSlice (word : UInt32) (hi lo : Int) : UInt32 :=
  match BitRange.ofBounds? hi lo with
  | some range => range.slice word
  | none => 0

/-- Whether one bit is set; a position outside the word never is. -/
def bitSet (word : UInt32) (bit : Int) : Bool :=
  bitSlice word bit bit == 1

end SmuTelemetry
