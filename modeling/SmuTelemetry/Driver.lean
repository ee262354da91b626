import SmuTelemetry.Dram.Timings
import SmuTelemetry.PmTable.Decoder
import SmuTelemetry.Files.Access
import SmuTelemetry.Text.Natural

/-!
The kernel driver's files. Attributes are read anew each time; the register file is
opened once, and a register is read by writing its address there and reading the value
back.
-/

namespace SmuTelemetry

set_option autoImplicit false

structure SmuDriver where
  root : String
  registerFile : Option Handle
deriving DecidableEq, Repr

namespace SmuDriver

/-- Opens the driver's files under a directory; its version file must exist. -/
def open? (tree : FileTree) (root : String) : Except TelemetryError SmuDriver :=
  let version := joinPath root "version"
  if tree.exists? version then
    .ok { root := root, registerFile := (tree.openReadWrite (joinPath root "smn")).toOption }
  else
    .error (.driverNotLoaded version)

def textFile (driver : SmuDriver) (tree : FileTree) (name : String) :
    Except Fault (List Char) :=
  (tree.readText (joinPath driver.root name)).map Text.trim

def version (driver : SmuDriver) (tree : FileTree) : Except Fault String :=
  (driver.textFile tree "version").map String.ofList

def codename (driver : SmuDriver) (tree : FileTree) : Codename :=
  match driver.textFile tree "codename" with
  | .error _ => .unknown
  | .ok text => match Text.integer? 0x80000000 text with
    | some index => Codename.ofIndex index
    | none => .unknown

def tableVersion (driver : SmuDriver) (tree : FileTree) : UInt32 :=
  match tree.readBytes (joinPath driver.root "pm_table_version") with
  | .error _ => 0
  | .ok bytes => (bytes.u32At? 0).getD 0

def table (driver : SmuDriver) (tree : FileTree) : Except Fault PmTable :=
  (tree.readBytes (joinPath driver.root "pm_table")).map Binary32.ofBytes

/-- Reads one register: its address is written, then its value is read. -/
def readRegister (driver : SmuDriver) (tree : FileTree) (address : UInt32) :
    Except Fault UInt32 × FileTree :=
  match driver.registerFile with
  | none => (.error (.custom .notFound "SMN interface not available"), tree)
  | some handle => match handle.writeAt tree 0 (Bytes.ofU32 address) with
    | (.error error, written) => (.error (.os error), written)
    | (.ok count, written) =>
        if count ≠ 4 then (.error (.custom .writeZero "short SMN address write"), written)
        else match handle.readAt written 0 4 with
          | .error error => (.error (.os error), written)
          | .ok bytes =>
              if bytes.length = 4 then (.ok (UInt32.ofNat bytes.littleEndian), written)
              else (.error (.custom .unexpectedEof "short SMN value read"), written)

def readOrZero (driver : SmuDriver) (tree : FileTree) (address : UInt32) : UInt32 × FileTree :=
  match driver.readRegister tree address with
  | (.ok value, written) => (value, written)
  | (.error _, written) => (0, written)

def captureRow (driver : SmuDriver) (tree : FileTree) (channel : UInt8)
    (settles : UInt32 → Bool) : List UInt32 → List (UInt32 × UInt32) × FileTree
  | [] => ([], tree)
  | register :: rest =>
      let address := Dram.registerAddress channel register
      let (value, written) := driver.readOrZero tree address
      if settles value then ([(address, value)], written)
      else
        let (values, final) := captureRow driver written channel settles rest
        ((address, value) :: values, final)

def capture (driver : SmuDriver) (tree : FileTree) (channel : UInt8) :
    List Dram.RegisterRow → List (UInt32 × UInt32) × FileTree
  | [] => ([], tree)
  | row :: rest =>
      let (values, written) := driver.captureRow tree channel row.settles row.registers
      let (others, final) := capture driver written channel rest
      (values ++ others, final)

/-- The timings of one channel, decoded from a capture of the registers they are read from. -/
def channelTimings (driver : SmuDriver) (tree : FileTree) (generation : DramGeneration)
    (channel : UInt8) : DramTimings × FileTree :=
  let (values, final) := driver.capture tree channel (Dram.registerRows generation)
  (Dram.channelTimings generation (fun address => (values.lookup address).getD 0) channel, final)

def timings (driver : SmuDriver) (tree : FileTree) (codename : Codename) :
    DramTimings × FileTree :=
  match codename.dramGeneration? with
  | some generation => driver.channelTimings tree generation 0
  | none => ({}, tree)

end SmuDriver

end SmuTelemetry
