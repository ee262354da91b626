import SmuTelemetry.Error
import SmuTelemetry.Text.Utf8
import SmuTelemetry.Text.Blank
import SmuTelemetry.Text.Natural

/-!
Secondary system description tables. A table is a header of 36 bytes and a body of
bytecode; the length field of the header bounds the body, and bytes past it are
ignored. The writer beside the reader keeps the remaining header bytes free.
-/

namespace SmuTelemetry

set_option autoImplicit false

/-- A table reduced to the identifier of its maker's choice and its body. -/
structure Ssdt where
  tableId : Bytes
  body : Bytes
deriving DecidableEq, Repr

namespace Ssdt

def headerLength : Nat := 36

def signature : Bytes := [0x53, 0x53, 0x44, 0x54]

/-- Where the identifier lies in the header, and its length. -/
def tableIdOffset : Nat := 16
def tableIdLength : Nat := 8

/-- The value of the length field: the whole table, header included. -/
def declaredLength (raw : Bytes) : Nat := Bytes.littleEndian ((raw.drop 4).take 4)

def parse (raw : Bytes) : Except TableFault Ssdt :=
  let found := raw.take 4
  let declared := declaredLength raw
  if raw.length < headerLength then .error (.shorterThanHeader raw.length)
  else if found ≠ signature then
    .error (.wrongSignature (String.ofList (Text.Utf8.decodeLossy found)))
  else if declared < headerLength ∨ raw.length < declared then
    .error (.lengthMismatch declared raw.length)
  else
    .ok
      { tableId := (raw.drop tableIdOffset).take tableIdLength
        body := (raw.take declared).drop headerLength }

def tableIdText (table : Ssdt) : String := String.ofList (Text.Utf8.decodeLossy table.tableId)

/-- Header bytes that a reader does not look at. -/
structure HeaderRest where
  /-- Revision, checksum and maker, between length and identifier. -/
  beforeId : Bytes
  /-- Revisions and creator, after the identifier. -/
  afterId : Bytes
  beforeId_length : beforeId.length = 8
  afterId_length : afterId.length = 12

def encode (rest : HeaderRest) (table : Ssdt) : Bytes :=
  signature ++ Bytes.ofLittleEndian 4 (headerLength + table.body.length) ++ rest.beforeId ++
    table.tableId ++ rest.afterId ++ table.body

def fileWord : List Char := "SSDT".toList

def dropFileWords (name : List Char) : List Char :=
  match Text.after? fileWord name with
  | none => name
  | some rest => if rest.length < name.length then dropFileWords rest else rest
termination_by name.length

def isTableFile (name : String) : Bool := fileWord.isPrefixOf name.toList

/-- Tables are taken in the order of the number that ends their file name; a name without
a 32-bit number counts as zero. -/
def fileOrder (name : String) : Nat :=
  (Text.natural? 10 UInt32.size (dropFileWords name.toList)).getD 0

def tableFiles (names : List String) : List String :=
  (names.filter isTableFile).mergeSort fun first second =>
    decide (fileOrder first ≤ fileOrder second)

/-- The tables of a directory listing; files that cannot be read or parsed are skipped. -/
def load (names : List String) (read : String → Except Fault Bytes) : List Ssdt :=
  (tableFiles names).filterMap fun name =>
    match read name with
    | .ok raw => (parse raw).toOption
    | .error _ => none

end Ssdt

end SmuTelemetry
