import SmuTelemetry.Binary32.Rounding

/-!
Sum, difference, product and quotient of binary32 numbers. A NaN operand, or an
undefined combination of zeros and infinities, gives the quiet NaN; all else is
the exact value rounded once.
-/

namespace SmuTelemetry

set_option autoImplicit false

namespace Binary32

def isZero (x : Binary32) : Bool := decide (x.magnitude = 0)

/-- The sum of two finite numbers; an exact zero is negative only if both operands are. -/
def addFinite (x y : Binary32) : Binary32 :=
  let sum := x.units + y.units
  if sum = 0 then signedZero (x.isNegative && y.isNegative)
  else ofRatio (decide (sum < 0)) sum.natAbs 1

def add (x y : Binary32) : Binary32 :=
  if x.isNaN || y.isNaN then nan
  else if x.isInfinite then
    if y.isInfinite && x.isNegative != y.isNegative then nan else x
  else if y.isInfinite then y
  else addFinite x y

def sub (x y : Binary32) : Binary32 := add x y.neg

def mul (x y : Binary32) : Binary32 :=
  let negative := x.isNegative != y.isNegative
  if x.isNaN || y.isNaN then nan
  else if x.isInfinite || y.isInfinite then
    if x.isZero || y.isZero then nan else infinity negative
  else
    ofRatio negative (magnitudeUnits x.magnitude * magnitudeUnits y.magnitude) unitsPerOne

def div (x y : Binary32) : Binary32 :=
  let negative := x.isNegative != y.isNegative
  if x.isNaN || y.isNaN then nan
  else if x.isInfinite then
    if y.isInfinite then nan else infinity negative
  else if y.isInfinite then signedZero negative
  else if y.isZero then
    if x.isZero then nan else infinity negative
  else
    ofRatio negative (magnitudeUnits x.magnitude * unitsPerOne) (magnitudeUnits y.magnitude)

instance : Add Binary32 := ⟨add⟩
instance : Sub Binary32 := ⟨sub⟩
instance : Mul Binary32 := ⟨mul⟩
instance : Div Binary32 := ⟨div⟩

instance (n : Nat) : OfNat Binary32 n := ⟨ofNat n⟩

end Binary32

end SmuTelemetry
