import SmuTelemetry.Word.LittleEndian

/-!
IEEE 754 binary32 numbers, kept as their 32 bits so that every NaN payload
survives a copy. Order is read off the bits: the magnitude bits of a number that
is not a NaN rank it, and the sign mirrors the ranking around zero. `units` is the
exact value of a finite number, counted in the smallest subnormal `2^-149`.
-/

namespace SmuTelemetry

set_option autoImplicit false

structure Binary32 where
  bits : UInt32
deriving DecidableEq, Repr, Inhabited

namespace Binary32

/-- Magnitude bits of infinity; larger ones are NaNs. -/
def infinityMagnitude : Nat := 0x7F800000

def signBit : Nat := 0x80000000

/-- Weight of the significand bit that normal numbers do not store; also one step of the
exponent among the magnitude bits. -/
def hiddenBit : Nat := 0x800000

def isNegative (x : Binary32) : Bool := decide (signBit ≤ x.bits.toNat)

def magnitude (x : Binary32) : Nat := x.bits.toNat % signBit

def isNaN (x : Binary32) : Bool := decide (infinityMagnitude < x.magnitude)

def isInfinite (x : Binary32) : Bool := decide (x.magnitude = infinityMagnitude)

def isFinite (x : Binary32) : Bool := decide (x.magnitude < infinityMagnitude)

def ofMagnitude (negative : Bool) (magnitude : Nat) : Binary32 :=
  ⟨UInt32.ofNat (if negative then signBit + magnitude else magnitude)⟩

def zero : Binary32 := ⟨0⟩
def one : Binary32 := ⟨0x3F800000⟩
def nan : Binary32 := ⟨0x7FC00000⟩

def signedZero (negative : Bool) : Binary32 := ofMagnitude negative 0

def infinity (negative : Bool) : Binary32 := ofMagnitude negative infinityMagnitude

def neg (x : Binary32) : Binary32 := ofMagnitude (!x.isNegative) x.magnitude

/-- Place of a number on the ordered line; both zeros share place zero. -/
def rank (x : Binary32) : Int := if x.isNegative then -(x.magnitude : Int) else x.magnitude

/-- A NaN is neither below, equal to nor above anything. -/
instance : LE Binary32 := ⟨fun x y => x.isNaN = false ∧ y.isNaN = false ∧ x.rank ≤ y.rank⟩
instance : LT Binary32 := ⟨fun x y => x.isNaN = false ∧ y.isNaN = false ∧ x.rank < y.rank⟩

instance (x y : Binary32) : Decidable (x ≤ y) :=
  inferInstanceAs (Decidable (x.isNaN = false ∧ y.isNaN = false ∧ x.rank ≤ y.rank))
instance (x y : Binary32) : Decidable (x < y) :=
  inferInstanceAs (Decidable (x.isNaN = false ∧ y.isNaN = false ∧ x.rank < y.rank))

/-- The larger of two numbers; a NaN gives way to the other operand. -/
def larger (x y : Binary32) : Binary32 :=
  if x.isNaN then y else if x < y then y else x

/-- The nearest point of a range with ordered bounds; a NaN stays as it is. -/
def clamp (low high x : Binary32) : Binary32 :=
  let raised := if x < low then low else x
  if high < raised then high else raised

def significand (magnitude : Nat) : Nat :=
  if magnitude < hiddenBit then magnitude else hiddenBit + magnitude % hiddenBit

/-- Exact size of a finite magnitude, in units of `2^-149`. -/
def magnitudeUnits (magnitude : Nat) : Nat :=
  significand magnitude <<< (magnitude / hiddenBit - 1)

def units (x : Binary32) : Int :=
  if x.isNegative then -(magnitudeUnits x.magnitude : Int) else magnitudeUnits x.magnitude

def ofBytes (bytes : Bytes) : List Binary32 := bytes.words.map Binary32.mk

def toBytes (x : Binary32) : Bytes := Bytes.ofU32 x.bits

end Binary32

end SmuTelemetry
