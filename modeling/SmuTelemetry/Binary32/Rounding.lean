import SmuTelemetry.Binary32.Basic

/-!
Rounding of exact ratios. Every arithmetic result is an exact ratio of natural
numbers in units of `2^-149`, rounded once to the nearest binary32 number with
ties to the even neighbour. One formula covers subnormal and normal results: above
`2^24` units the spacing doubles with each further bit, and a carry out of the
significand moves into the exponent by plain addition.
-/

namespace SmuTelemetry

set_option autoImplicit false

def roundHalfEven (numerator denominator : Nat) : Nat :=
  let quotient := numerator / denominator
  let doubled := 2 * (numerator % denominator)
  if doubled < denominator then quotient
  else if denominator < doubled then quotient + 1
  else quotient + quotient % 2

namespace Binary32

/-- How many bits the spacing of numbers near `size` units exceeds one unit. -/
def spacing (size : Nat) : Nat := size.log2 - 23

/-- Magnitude bits nearest to `numerator / denominator` units; infinity above the range. -/
def roundedMagnitude (numerator denominator : Nat) : Nat :=
  let shift := spacing (numerator / denominator)
  min infinityMagnitude (shift * hiddenBit + roundHalfEven numerator (denominator <<< shift))

def ofRatio (negative : Bool) (numerator denominator : Nat) : Binary32 :=
  ofMagnitude negative (roundedMagnitude numerator denominator)

def unitsPerOne : Nat := 1 <<< 149

def ofFraction (numerator denominator : Nat) : Binary32 :=
  ofRatio false (numerator * unitsPerOne) denominator

def ofNat (value : Nat) : Binary32 := ofFraction value 1

end Binary32

end SmuTelemetry
