import SmuTelemetry.Text.Quoted
import SmuTelemetry.Event

/-!
Causes of failure and their wording. A failure of the operating system keeps its
number; the messages, the kinds and the structural text of an error are functions of
the cause.
-/

namespace SmuTelemetry

set_option autoImplicit false

inductive OsError where
  | noEntry
  | outOfMemory
  | noDevice
  | notDirectory
  | isDirectory
  | invalidArgument
  | noSpace
  | nameTooLong
  | overflow
deriving DecidableEq, Repr

inductive FaultKind where
  | notFound
  | notADirectory
  | isADirectory
  | outOfMemory
  | storageFull
  | invalidFilename
  | uncategorized
  | invalidData
  | invalidInput
  | unexpectedEof
  | writeZero
  | other
deriving DecidableEq, Repr

def FaultKind.identifier : FaultKind → String
  | notFound => "NotFound"
  | notADirectory => "NotADirectory"
  | isADirectory => "IsADirectory"
  | outOfMemory => "OutOfMemory"
  | storageFull => "StorageFull"
  | invalidFilename => "InvalidFilename"
  | uncategorized => "Uncategorized"
  | invalidData => "InvalidData"
  | invalidInput => "InvalidInput"
  | unexpectedEof => "UnexpectedEof"
  | writeZero => "WriteZero"
  | other => "Other"

namespace OsError

def code : OsError → Nat
  | noEntry => 2
  | outOfMemory => 12
  | noDevice => 19
  | notDirectory => 20
  | isDirectory => 21
  | invalidArgument => 22
  | noSpace => 28
  | nameTooLong => 36
  | overflow => 75

def message : OsError → String
  | noEntry => "No such file or directory"
  | outOfMemory => "Cannot allocate memory"
  | noDevice => "No such device"
  | notDirectory => "Not a directory"
  | isDirectory => "Is a directory"
  | invalidArgument => "Invalid argument"
  | noSpace => "No space left on device"
  | nameTooLong => "File name too long"
  | overflow => "Value too large for defined data type"

def kind : OsError → FaultKind
  | noEntry => .notFound
  | outOfMemory => .outOfMemory
  | noDevice => .uncategorized
  | notDirectory => .notADirectory
  | isDirectory => .isADirectory
  | invalidArgument => .invalidInput
  | noSpace => .storageFull
  | nameTooLong => .invalidFilename
  | overflow => .uncategorized

end OsError

inductive Fault where
  | os (error : OsError)
  /-- A text file whose bytes are not UTF-8. -/
  | notText
  /-- A path with the zero character, which ends paths and so cannot be in one. -/
  | zeroInPath
  /-- A failure found by a reader itself. -/
  | custom (kind : FaultKind) (message : String)
deriving DecidableEq, Repr

namespace Fault

def kind : Fault → FaultKind
  | os error => error.kind
  | notText => .invalidData
  | zeroInPath => .invalidInput
  | custom kind _ => kind

def message : Fault → String
  | os error =>
      let text := error.message
      let code := toString error.code
      s!"{text} (os error {code})"
  | notText => "stream did not contain valid UTF-8"
  | zeroInPath => "file name contained an unexpected NUL byte"
  | custom _ message => message

/-- A fault with a fixed message, written with its parts. -/
def inspectPlain (fault : Fault) : String :=
  let kind := fault.kind.identifier
  let text := Text.quote fault.message
  s!"Error \x7b kind: {kind}, message: {text} \x7d"

def inspect : Fault → String
  | os error =>
      let code := toString error.code
      let kind := error.kind.identifier
      let text := Text.quote error.message
      s!"Os \x7b code: {code}, kind: {kind}, message: {text} \x7d"
  | notText => inspectPlain .notText
  | zeroInPath => inspectPlain .zeroInPath
  | custom kind message =>
      let name := kind.identifier
      let text := Text.quote message
      s!"Custom \x7b kind: {name}, error: {text} \x7d"

end Fault

inductive TableFault where
  | shorterThanHeader (available : Nat)
  /-- The signature, read leniently as text. -/
  | wrongSignature (signature : String)
  | lengthMismatch (declared available : Nat)
  | other (text : String)
deriving DecidableEq, Repr

def TableFault.message : TableFault → String
  | shorterThanHeader available =>
      let count := toString available
      s!"{count} bytes is shorter than an SDT header"
  | wrongSignature signature =>
      let shown := Text.quote signature
      s!"signature {shown} is not SSDT"
  | lengthMismatch declared available =>
      let length := toString declared
      let count := toString available
      s!"declared length {length} does not fit {count} available bytes"
  | other text => text

inductive ConfigFault where
  | malformedRange (key value : String)
  | malformedOffsets (key value : String)
  | other (text : String)
deriving DecidableEq, Repr

def ConfigFault.message : ConfigFault → String
  | malformedRange key value =>
      let shown := Text.quote value
      s!"{key}={shown}, expected min:max with min <= max"
  | malformedOffsets key value =>
      let shown := Text.quote value
      s!"{key}={shown}, expected three comma-separated byte offsets"
  | other text => text

inductive TelemetryError where
  | io (fault : Fault)
  | driverNotLoaded (path : String)
  | invalidTable (fault : TableFault)
  | regionNotFound
  | map (address : UInt64) (fault : Fault)
  | invalidConfig (fault : ConfigFault)
deriving DecidableEq, Repr

namespace TelemetryError

def message : TelemetryError → String
  | io fault =>
      let text := fault.message
      s!"I/O Error: {text}"
  | driverNotLoaded path => s!"ryzen_smu driver not loaded (missing {path})"
  | invalidTable fault =>
      let text := fault.message
      s!"Invalid ACPI table: {text}"
  | regionNotFound => "AOD OperationRegion not found"
  | map address fault =>
      let start := hexDigits 0 address.toNat
      let text := fault.message
      s!"Failed to map physical address 0x{start}: {text}"
  | invalidConfig fault =>
      let text := fault.message
      s!"Invalid configuration: {text}"

def source? : TelemetryError → Option Fault
  | io fault | map _ fault => some fault
  | _ => none

def inspect : TelemetryError → String
  | io fault =>
      let inner := fault.inspect
      s!"Io({inner})"
  | driverNotLoaded path =>
      let shown := Text.quote path
      s!"DriverNotLoaded({shown})"
  | invalidTable fault =>
      let shown := Text.quote fault.message
      s!"InvalidTable({shown})"
  | regionNotFound => "RegionNotFound"
  | map address fault =>
      let start := toString address.toNat
      let inner := fault.inspect
      s!"Map \x7b addr: {start}, source: {inner} \x7d"
  | invalidConfig fault =>
      let shown := Text.quote fault.message
      s!"InvalidConfig({shown})"

end TelemetryError

end SmuTelemetry
