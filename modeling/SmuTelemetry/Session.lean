import SmuTelemetry.Configuration
import SmuTelemetry.Cpu.Frequency
import SmuTelemetry.Cpu.Times
import SmuTelemetry.Driver
import SmuTelemetry.Files.PhysicalWindow
import SmuTelemetry.FirmwareVersion
import SmuTelemetry.Msr

/-!
A session ties the driver, the decoders and the configuration together. It holds the
previous processor sample, so that usage is a difference between polls. A session and the
files it looks at form a machine; every operation is a function on machines or on files.
-/

namespace SmuTelemetry

set_option autoImplicit false

structure Summary where
  codename : Codename
  smuVersion : Option String
  tableVersion : UInt32
  metrics : Metrics
  timings : DramTimings
  memoryType : MemoryType
  memoryFrequency : Option Binary32

structure Session where
  configuration : Configuration
  driver : SmuDriver
  previous : Option StatSample := none
deriving DecidableEq, Repr

structure Machine where
  tree : FileTree
  session : Session

namespace Session

def statPath : String := "/proc/stat"

/-- Tables that may announce the firmware version when the firmware image does not. -/
def versionTables : List String := ["DSDT", "FACP", "XSDT", "RSDT"]
def inventoryPaths : List String :=
  ["/sys/firmware/dmi/tables/DMI", "/sys/firmware/dmi/tables/smbios_entry_point"]

def open? (tree : FileTree) (configuration : Configuration) : Except TelemetryError Session :=
  (SmuDriver.open? tree configuration.paths.smu).map fun driver =>
    { configuration := configuration, driver := driver }

def referenceClock? (session : Session) (tree : FileTree) : Option Binary32 :=
  let paths := session.configuration.paths
  match Msr.read? tree paths.msr ReferenceClock.performanceState0,
      Frequency.reference? tree paths.cpufreq with
  | some state, some megahertz => ReferenceClock.decode? state megahertz
  | _, _ => none

def sample? (tree : FileTree) : Option StatSample := (StatSample.read tree statPath).toOption

def loadTables (tree : FileTree) (directory : String) : Except TelemetryError (List Ssdt) :=
  match tree.list directory with
  | .error fault => .error (.io fault)
  | .ok names => .ok (Ssdt.load names fun name => tree.readBytes (joinPath directory name))

def locateRegion (session : Session) (tree : FileTree) : Except TelemetryError MemoryRegion :=
  match loadTables tree session.configuration.paths.acpiTables with
  | .error error => .error error
  | .ok tables => match (Aml.locate tables).1 with
    | some region => .ok region
    | none => .error .regionNotFound

def regionBytes (session : Session) (tree : FileTree) : Except TelemetryError Bytes :=
  match session.locateRegion tree with
  | .error error => .error error
  | .ok region =>
      tree.mapWindow session.configuration.paths.memory region.address region.size.toNat

def railVoltages (session : Session) (tree : FileTree) : Except TelemetryError RailVoltages :=
  (session.regionBytes tree).map fun region =>
    OverclockingRegion.voltages region session.configuration.railOffsets

def railCandidates (session : Session) (tree : FileTree) :
    Except TelemetryError (List RailCandidate) :=
  (session.regionBytes tree).map fun region =>
    OverclockingRegion.scan region session.configuration.limits.voltage

def dumpField (session : Session) (tree : FileTree) (field : RegionField) :
    Except TelemetryError (List DumpRow) :=
  (session.regionBytes tree).map fun region => OverclockingRegion.dump region field

/-- The firmware version: in the firmware image, else in the first file that announces one. -/
def firmwareVersion? (session : Session) (tree : FileTree) : Option String :=
  let paths := session.configuration.paths
  let image :=
    tree.mapWindow paths.memory FirmwareVersion.shadowAddress FirmwareVersion.shadowLength
  let files := versionTables.map (joinPath paths.acpiTables) ++ inventoryPaths
  (image.toOption.bind FirmwareVersion.find?).or
    (files.findSome? fun path =>
      (tree.readBytes path).toOption.bind FirmwareVersion.find?)

end Session

namespace Machine

/-- The memory frequency and the timings that agree with it: the ratio's data rate when it is
positive, else on the older generation the memory clock of the table when it is. -/
def memoryFrequency (memoryType : MemoryType) (timings : DramTimings) (mclk : Binary32) :
    Option Binary32 × DramTimings :=
  match timings.frequencyHint.filter fun frequency => 0 < frequency with
  | some frequency => (some frequency, timings)
  | none =>
      if memoryType = .ddr4 ∧ 0 < mclk then (some mclk, timings.applyFrequency mclk)
      else (none, timings)

def withSystemReadings (machine : Machine) (sample : Option StatSample) (metrics : Metrics) :
    Metrics :=
  let session := machine.session
  { metrics with
    coreUsage := match sample with
      | some sample => SmtPairs.fold false (sample.usageSince session.previous)
      | none => metrics.coreUsage
    coreFrequencies :=
      Frequency.cores machine.tree session.configuration.paths.cpufreq
    bclk := session.referenceClock? machine.tree }

/-- One poll. Only an unreadable table fails it, and then nothing has changed. -/
def poll (machine : Machine) : Except TelemetryError Summary × Machine :=
  let session := machine.session
  let driver := session.driver
  match driver.table machine.tree with
  | .error fault => (.error (.io fault), machine)
  | .ok table =>
      let codename := driver.codename machine.tree
      let tableVersion := driver.tableVersion machine.tree
      let sample := Session.sample? machine.tree
      let metrics := machine.withSystemReadings sample
        (table.decode session.configuration.limits tableVersion codename)
      let (registerTimings, tree) := driver.timings machine.tree codename
      let (frequency, timings) :=
        memoryFrequency codename.memoryType registerTimings metrics.mclk
      let summary : Summary :=
        { codename := codename
          smuVersion := (driver.version tree).toOption
          tableVersion := tableVersion
          metrics := metrics
          timings := timings
          memoryType := codename.memoryType
          memoryFrequency := frequency }
      (.ok summary,
        { tree := tree, session := { session with previous := sample.or session.previous } })

end Machine

end SmuTelemetry
