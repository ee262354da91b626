import SmuTelemetry.Binary32.Rounding

/-!
Binary32 numbers written with a fixed count of decimal places. The exact value is
rounded to the last place with ties to even; the sign of zero, and of a value that
rounds to zero, is kept.
-/

namespace SmuTelemetry

set_option autoImplicit false

def paddedDigits (width value : Nat) : List Char :=
  let digits := Nat.toDigits 10 value
  List.replicate (width - digits.length) '0' ++ digits

def fixedPoint (places steps : Nat) : List Char :=
  let whole := Nat.toDigits 10 (steps / Nat.pow 10 places)
  if places = 0 then whole else whole ++ '.' :: paddedDigits places (steps % Nat.pow 10 places)

namespace Binary32

def toFixed (places : Nat) (x : Binary32) : String :=
  if x.isNaN then "NaN"
  else
    let size :=
      if x.isInfinite then "inf".toList
      else
        fixedPoint places
          (roundHalfEven (magnitudeUnits x.magnitude * Nat.pow 10 places) unitsPerOne)
    String.ofList (if x.isNegative then '-' :: size else size)

end Binary32

end SmuTelemetry
