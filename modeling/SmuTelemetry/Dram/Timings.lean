import SmuTelemetry.Dram.Register
import SmuTelemetry.Binary32.Arithmetic
import SmuTelemetry.Event

/-!
Timings of one memory channel. Cycle counts come from the register map, refresh
cycles from the first bank group that firmware has programmed, and times in
nanoseconds from the cycles and a memory frequency. The newer generation also tells its
data rate by a ratio; the older one does not, so its times stay zero until a frequency
is supplied.
-/

namespace SmuTelemetry

set_option autoImplicit false

inductive CommandRate where
  | oneT
  | twoT
deriving DecidableEq, Repr

def CommandRate.name : CommandRate → String
  | oneT => "1T"
  | twoT => "2T"

/-- Refresh cycle counts: all banks, all banks at double rate, same bank. -/
structure RefreshCycles where
  rfc : UInt32 := 0
  rfc2 : UInt32 := 0
  rfcsb : UInt32 := 0
deriving DecidableEq, Repr

structure RefreshTimes where
  trefi : Binary32 := Binary32.zero
  trfc : Binary32 := Binary32.zero
  trfc2 : Binary32 := Binary32.zero
  trfcsb : Binary32 := Binary32.zero
deriving DecidableEq, Repr

structure DramTimings where
  cycles : Timing → UInt32 := fun _ => 0
  refresh : RefreshCycles := {}
  times : RefreshTimes := {}
  gearDown : Bool := false
  powerDown : Bool := false
  commandRate : Option CommandRate := none
  frequencyHint : Option Binary32 := none

/-- A cycle count in nanoseconds at a memory frequency. A result above the count shows that
the frequency was the half-rate clock, so it is halved. -/
def nanoseconds (cycles : UInt32) (megahertz : Binary32) : Binary32 :=
  if megahertz ≤ 0 then 0
  else
    let count := Binary32.ofNat cycles.toNat
    let time := count * 2000 / megahertz
    if count < time then time / 2 else time

namespace DramTimings

def applyFrequency (timings : DramTimings) (megahertz : Binary32) : DramTimings :=
  { timings with
    times :=
      { trefi := nanoseconds (timings.cycles .refi) megahertz
        trfc := nanoseconds timings.refresh.rfc megahertz
        trfc2 := nanoseconds timings.refresh.rfc2 megahertz
        trfcsb := nanoseconds timings.refresh.rfcsb megahertz } }

end DramTimings

namespace Dram

def fieldCycles (registers : Registers) (channel : UInt8) (timing : Timing) : UInt32 :=
  timing.field.read registers channel

/-- A timing as the controller applies it: a write delay of zero stands for the read delay,
and a write recovery of zero for the short write-to-read delay. -/
def timingCycles (registers : Registers) (channel : UInt8) (timing : Timing) : UInt32 :=
  let held := fieldCycles registers channel timing
  match timing with
  | .trcdWr => if held = 0 then fieldCycles registers channel .trcdRd else held
  | .twr => if held = 0 then fieldCycles registers channel .wtrs else held
  | _ => held

def unprogrammedRefresh : DramGeneration → UInt32
  | .ddr4 => 0x21060138
  | .ddr5 => 0x00C00138

/-- The refresh cycle word: on the newer generation the first programmed one of all bank
groups, else zero; on the older one the first, unless only the second is programmed. -/
def refreshWord (generation : DramGeneration) (registers : Registers) (channel : UInt8) :
    UInt32 :=
  let held := fun register => registers (registerAddress channel register)
  let default := unprogrammedRefresh generation
  match generation with
  | .ddr5 => ((refreshCycles.map held).find? fun word => word != default).getD 0
  | .ddr4 =>
      let first := held 0x50260
      let second := held 0x50264
      if first ≠ second ∧ first = default then second else first

def sameBankCycles (registers : Registers) (channel : UInt8) : UInt32 :=
  let counts := sameBankRefresh.map fun register =>
    sameBankRange.slice (registers (registerAddress channel register))
  (counts.find? fun count => count != 0).getD 0

def refresh (generation : DramGeneration) (registers : Registers) (channel : UInt8) :
    RefreshCycles :=
  let word := refreshWord generation registers channel
  { rfc := (allBankRange generation).slice word
    rfc2 := (doubleRateRange generation).slice word
    rfcsb := match generation with
      | .ddr4 => 0
      | .ddr5 => sameBankCycles registers channel }

def gearDownBit : Nat := 18
def commandRateBit : Nat := 17
def powerDownBit : Nat := 28

/-- The data rate of a ratio, which counts hundredths of a 200 MHz reference. -/
def ratioFrequency (ratio : UInt32) : Binary32 :=
  Binary32.ofNat ratio.toNat / 100 * 200

def channelTimings (generation : DramGeneration) (registers : Registers) (channel : UInt8) :
    DramTimings :=
  let timings : DramTimings :=
    { cycles := timingCycles registers channel
      refresh := refresh generation registers channel }
  match generation with
  | .ddr4 => timings
  | .ddr5 =>
      let control := registers (registerAddress channel ratioControl)
      let frequency := ratioFrequency (ratioRange.slice control)
      let rate := if bitSet control commandRateBit then CommandRate.twoT else CommandRate.oneT
      { timings with
        gearDown := bitSet control gearDownBit
        powerDown := bitSet (registers (registerAddress channel refreshControl)) powerDownBit
        commandRate := some rate
        frequencyHint := some frequency }.applyFrequency frequency

/-- Channel zero of a family; a family without a known controller has all timings zero. -/
def timings (codename : Codename) (registers : Registers) : DramTimings :=
  match codename.dramGeneration? with
  | some generation => channelTimings generation registers 0
  | none => {}

def timingEvents (codename : Codename) : List Event :=
  match codename.dramGeneration? with
  | some _ => []
  | none => [.noTimingLayout codename]

/-- Registers read in a row, up to the first word that settles what they are read for. -/
structure RegisterRow where
  registers : List UInt32
  settles : UInt32 → Bool := fun _ => false

def registerRows : DramGeneration → List RegisterRow
  | .ddr4 => [{ registers := timingRegisters ++ refreshCycles.take 2 }]
  | .ddr5 =>
      [{ registers := ratioControl :: refreshControl :: timingRegisters },
        { registers := refreshCycles
          settles := fun word => word != unprogrammedRefresh .ddr5 },
        { registers := sameBankRefresh
          settles := fun word => sameBankRange.slice word != 0 }]

def mappedRegisters (generation : DramGeneration) : List UInt32 :=
  (registerRows generation).flatMap RegisterRow.registers

end Dram

end SmuTelemetry
