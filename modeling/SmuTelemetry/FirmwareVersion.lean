import SmuTelemetry.Text.Blank
import SmuTelemetry.Text.Utf8

/-!
Firmware version text in memory images. A fixed marker announces the version; the
version is the first run of letters, digits, spaces, points and hyphens after it, without
spaces at its ends.
-/

namespace SmuTelemetry.FirmwareVersion

set_option autoImplicit false

def marker : Bytes := [0x41, 0x47, 0x45, 0x53, 0x41, 0x21, 0x56, 0x39]

def isVersionByte (byte : UInt8) : Bool :=
  decide (0x30 ≤ byte ∧ byte ≤ 0x39) || decide (0x41 ≤ byte ∧ byte ≤ 0x5A) ||
    decide (0x61 ≤ byte ∧ byte ≤ 0x7A) || byte == 0x20 || byte == 0x2E || byte == 0x2D

def afterMarker? : Bytes → Option Bytes
  | [] => none
  | byte :: rest =>
      if marker.isPrefixOf (byte :: rest) then some ((byte :: rest).drop marker.length)
      else afterMarker? rest

def run? (image : Bytes) : Option Bytes :=
  (afterMarker? image).map fun rest =>
    (rest.dropWhile fun byte => !isVersionByte byte).takeWhile isVersionByte

def find? (image : Bytes) : Option String :=
  match run? image with
  | none => none
  | some run =>
      let text := Text.trim (Text.Utf8.decodeLossy run)
      if text.isEmpty then none else some (String.ofList text)

/-- Where a legacy system keeps its firmware image, and how long the image is. -/
def shadowAddress : UInt64 := 0xE0000
def shadowLength : Nat := 0x20000

end SmuTelemetry.FirmwareVersion
