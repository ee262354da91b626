import SmuTelemetry.Word.LittleEndian

/-!
UTF-8. Bytes fall into well-formed characters and malformed runs; a malformed run is
the longest beginning of a well-formed character, or one byte that begins none. The
strict reading refuses malformed runs, the lenient one shows each as U+FFFD.
-/

namespace SmuTelemetry.Text.Utf8

set_option autoImplicit false

def isContinuation (byte : UInt8) : Bool := decide (0x80 ≤ byte ∧ byte ≤ 0xBF)

/-- How many bytes follow a leading byte, and the bounds of the first of them. Overlong
forms, surrogates and code points above U+10FFFF are shut out by these bounds. -/
def follow? (lead : UInt8) : Option (Nat × UInt8 × UInt8) :=
  if lead < 0x80 then some (0, 0x80, 0xBF)
  else if lead < 0xC2 then none
  else if lead < 0xE0 then some (1, 0x80, 0xBF)
  else if lead = 0xE0 then some (2, 0xA0, 0xBF)
  else if lead = 0xED then some (2, 0x80, 0x9F)
  else if lead < 0xF0 then some (2, 0x80, 0xBF)
  else if lead = 0xF0 then some (3, 0x90, 0xBF)
  else if lead < 0xF4 then some (3, 0x80, 0xBF)
  else if lead = 0xF4 then some (3, 0x80, 0x8F)
  else none

/-- The continuation bytes that belong to a leading byte, as far as they are well formed. -/
def continuations (lead : UInt8) (rest : Bytes) : Bytes :=
  match follow? lead with
  | none => []
  | some (count, low, high) =>
      match rest.take count with
      | [] => []
      | first :: others =>
          if low ≤ first ∧ first ≤ high then first :: others.takeWhile isContinuation else []

def leadBits (lead : UInt8) (count : Nat) : Nat :=
  if count = 0 then lead.toNat else lead.toNat % 1 <<< (6 - count)

def codePoint (lead : UInt8) (others : Bytes) : Nat :=
  others.foldl (fun code byte => 64 * code + byte.toNat % 64) (leadBits lead others.length)

def character? (lead : UInt8) (others : Bytes) : Option Char :=
  match follow? lead with
  | none => none
  | some (count, _, _) =>
      if others.length = count then some (Char.ofNat (codePoint lead others)) else none

/-- The characters of a byte string in order, with `none` for each malformed run. -/
def characters : Bytes → List (Option Char)
  | [] => []
  | lead :: rest =>
      let others := continuations lead rest
      character? lead others :: characters (rest.drop others.length)
termination_by bytes => bytes.length
decreasing_by simp only [List.length_drop, List.length_cons]; omega

def decode? (bytes : Bytes) : Option (List Char) := (characters bytes).mapM id

def decodeLossy (bytes : Bytes) : List Char :=
  (characters bytes).map fun character => character.getD '\uFFFD'

end SmuTelemetry.Text.Utf8
