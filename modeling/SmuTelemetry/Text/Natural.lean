/-!
Whole numbers in text. A natural number is an optional plus sign and at least one
digit; an integer may have a minus sign instead. Numbers outside the stated bounds are
refused, so no reading ever wraps. Digits are the ASCII ones.
-/

namespace SmuTelemetry.Text

set_option autoImplicit false

/-- The value of a digit in the given radix, up to sixteen; letters count in either case. -/
def digit? (radix : Nat) (c : Char) : Option Nat :=
  let code := c.toNat
  let value :=
    if 0x30 ≤ code ∧ code ≤ 0x39 then some (code - 0x30)
    else if 0x61 ≤ code ∧ code ≤ 0x66 then some (code - 0x57)
    else if 0x41 ≤ code ∧ code ≤ 0x46 then some (code - 0x37)
    else none
  value.filter fun digit => digit < radix

def digitsFrom? (radix : Nat) : Nat → List Char → Option Nat
  | value, [] => some value
  | value, c :: rest =>
      match digit? radix c with
      | some digit => digitsFrom? radix (radix * value + digit) rest
      | none => none

def digits? (radix : Nat) (text : List Char) : Option Nat :=
  if text.isEmpty then none else digitsFrom? radix 0 text

def dropPlus : List Char → List Char
  | '+' :: rest => rest
  | text => text

def natural? (radix limit : Nat) (text : List Char) : Option Nat :=
  (digits? radix (dropPlus text)).filter fun value => value < limit

def integer? (limit : Nat) (text : List Char) : Option Int :=
  match text with
  | '-' :: rest =>
      ((digits? 10 rest).filter fun size => size ≤ limit).map fun size => -(size : Int)
  | _ => (natural? 10 limit text).map fun value => (value : Int)

def u64? (text : List Char) : Option UInt64 :=
  (natural? 10 UInt64.size text).map UInt64.ofNat

end SmuTelemetry.Text
