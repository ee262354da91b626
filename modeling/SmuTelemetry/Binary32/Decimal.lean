import SmuTelemetry.Binary32.Rounding

/-!
Decimal numerals and the binary32 numbers they denote. A numeral has an optional
sign, digits with an optional point among or around them, and an optional decimal
exponent; the words for infinity and NaN are read in any letter case. The value is
the exact decimal, rounded once.
-/

namespace SmuTelemetry

set_option autoImplicit false

/-- A decimal numeral: `digits * 10^exponent`, or one of the two special words. -/
inductive Numeral where
  | finite (negative : Bool) (digits : Nat) (exponent : Int)
  | infinity (negative : Bool)
  | nan
deriving DecidableEq, Repr

namespace Numeral

def ofDigits (digits : List Char) : Nat :=
  digits.foldl (fun value c => 10 * value + (c.toNat - '0'.toNat)) 0

/-- A leading sign, true for minus, and what follows it. -/
def splitSign : List Char → Bool × List Char
  | '-' :: rest => (true, rest)
  | '+' :: rest => (false, rest)
  | text => (false, text)

/-- The exponent that ends a numeral: nothing at all, or a mark, a sign and digits. -/
def exponent? : List Char → Option Int
  | [] => some 0
  | mark :: rest =>
      let (negative, digits) := splitSign rest
      if (mark = 'e' ∨ mark = 'E') ∧ digits ≠ [] ∧ digits.all Char.isDigit then
        let size : Int := ofDigits digits
        some (if negative then -size else size)
      else
        none

def unsigned? (negative : Bool) (text : List Char) : Option Numeral :=
  let whole := text.takeWhile Char.isDigit
  let afterWhole := text.dropWhile Char.isDigit
  let tail := match afterWhole with
    | '.' :: rest => rest
    | _ => []
  let hasPoint := afterWhole.head? = some '.'
  let fraction := if hasPoint then tail.takeWhile Char.isDigit else []
  let suffix := if hasPoint then tail.dropWhile Char.isDigit else afterWhole
  if whole ++ fraction = [] then none
  else (exponent? suffix).map fun exponent =>
    .finite negative (ofDigits (whole ++ fraction)) (exponent - fraction.length)

def parse? (text : List Char) : Option Numeral :=
  let (negative, rest) := splitSign text
  match unsigned? negative rest with
  | some numeral => some numeral
  | none =>
      let word := rest.map Char.toLower
      if word = "inf".toList ∨ word = "infinity".toList then some (.infinity negative)
      else if word = "nan".toList then some .nan
      else none

/-- The number nearest to the numeral. Decimals beyond `10^40`, and decimals below half
the smallest unit, are settled by their digit counts alone. -/
def toBinary32 : Numeral → Binary32
  | .nan => Binary32.nan
  | .infinity negative => Binary32.infinity negative
  | .finite negative digits exponent =>
      if digits = 0 then Binary32.signedZero negative
      else if 40 < exponent then Binary32.infinity negative
      else if 0 ≤ exponent then
        Binary32.ofRatio negative (digits * Nat.pow 10 exponent.toNat * Binary32.unitsPerOne) 1
      else if digits.log2 + 151 ≤ 3 * exponent.natAbs then Binary32.signedZero negative
      else Binary32.ofRatio negative (digits * Binary32.unitsPerOne) (Nat.pow 10 exponent.natAbs)

end Numeral

def Binary32.ofDecimal? (text : List Char) : Option Binary32 :=
  (Numeral.parse? text).map Numeral.toBinary32

end SmuTelemetry
