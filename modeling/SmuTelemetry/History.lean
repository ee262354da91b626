import SmuTelemetry.Session

/-!
Histories of a machine: steps that a caller or the outside world takes, one answer per
step, and runs of many steps.
-/

namespace SmuTelemetry

set_option autoImplicit false

inductive Step where
  | change (change : Change)
  | poll
  | referenceClock
  | locateRegion
  | railVoltages
  | railCandidates
  | dumpField (field : RegionField)
  | firmwareVersion
  | smuVersion
  | codename
  | tableVersion
  | table
  /-- A register read that may fail. -/
  | readRegister (address : UInt32)
  | readOrZero (address : UInt32)
  | paths

inductive Answer where
  | changed
  | summary (result : Except TelemetryError Summary)
  | referenceClock (megahertz : Option Binary32)
  | region (result : Except TelemetryError MemoryRegion)
  | railVoltages (result : Except TelemetryError RailVoltages)
  | railCandidates (result : Except TelemetryError (List RailCandidate))
  | rows (result : Except TelemetryError (List DumpRow))
  | firmwareVersion (version : Option String)
  | smuVersion (result : Except Fault String)
  | codename (codename : Codename)
  | tableVersion (version : UInt32)
  | table (result : Except Fault PmTable)
  | register (result : Except Fault UInt32)
  | registerOrZero (value : UInt32)
  | paths (paths : InterfacePaths)

namespace Machine

def step (machine : Machine) : Step → Answer × Machine
  | .change change => (.changed, { machine with tree := machine.tree.apply change })
  | .poll =>
      let (result, next) := machine.poll
      (.summary result, next)
  | .referenceClock =>
      (.referenceClock (machine.session.referenceClock? machine.tree), machine)
  | .locateRegion => (.region (machine.session.locateRegion machine.tree), machine)
  | .railVoltages => (.railVoltages (machine.session.railVoltages machine.tree), machine)
  | .railCandidates => (.railCandidates (machine.session.railCandidates machine.tree), machine)
  | .dumpField field => (.rows (machine.session.dumpField machine.tree field), machine)
  | .firmwareVersion =>
      (.firmwareVersion (machine.session.firmwareVersion? machine.tree), machine)
  | .smuVersion => (.smuVersion (machine.session.driver.version machine.tree), machine)
  | .codename => (.codename (machine.session.driver.codename machine.tree), machine)
  | .tableVersion => (.tableVersion (machine.session.driver.tableVersion machine.tree), machine)
  | .table => (.table (machine.session.driver.table machine.tree), machine)
  | .readRegister address =>
      let (result, tree) := machine.session.driver.readRegister machine.tree address
      (.register result, { machine with tree := tree })
  | .readOrZero address =>
      let (value, tree) := machine.session.driver.readOrZero machine.tree address
      (.registerOrZero value, { machine with tree := tree })
  | .paths => (.paths machine.session.configuration.paths, machine)

def run (machine : Machine) : List Step → List Answer × Machine
  | [] => ([], machine)
  | first :: rest =>
      let (answer, next) := machine.step first
      let (answers, final) := run next rest
      (answer :: answers, final)

end Machine

end SmuTelemetry
