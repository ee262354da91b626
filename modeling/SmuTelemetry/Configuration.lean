import SmuTelemetry.Binary32.Decimal
import SmuTelemetry.OverclockingRegion

/-!
Configuration: where the hardware interfaces are, how strictly readings are filtered
and where the memory rails lie. Each part has a default and one variable that
overrides it; a malformed override is an error, and the first one in a fixed order is
reported.
-/

namespace SmuTelemetry

set_option autoImplicit false

structure InterfacePaths where
  smu : String := "/sys/kernel/ryzen_smu_drv"
  acpiTables : String := "/sys/firmware/acpi/tables"
  /-- Physical memory as a file. -/
  memory : String := "/dev/mem"
  msr : String := "/dev/cpu/0/msr"
  cpufreq : String := "/sys/devices/system/cpu"
deriving DecidableEq, Repr

structure Configuration where
  paths : InterfacePaths := {}
  limits : PlausibilityLimits := {}
  railOffsets : RailOffsets := {}
deriving DecidableEq, Repr

abbrev Settings := String → Option String

namespace Configuration

def smuPathKey : String := "RYZEN_SMU_PATH"
def acpiTablesPathKey : String := "RYZEN_ACPI_TABLES_PATH"
def memoryPathKey : String := "RYZEN_DEVMEM_PATH"
def msrPathKey : String := "RYZEN_MSR_PATH"
def cpufreqPathKey : String := "RYZEN_CPUFREQ_PATH"
def railOffsetsKey : String := "RYZEN_AOD_OFFSETS"
def voltageKey : String := "RYZEN_LIMIT_VOLTAGE_MV"
def powerKey : String := "RYZEN_LIMIT_POWER_W"
def currentKey : String := "RYZEN_LIMIT_CURRENT_A"
def temperatureKey : String := "RYZEN_LIMIT_TEMP_C"
def coreClockKey : String := "RYZEN_LIMIT_CORE_CLOCK_GHZ"

def bound? (text : List Char) : Option Binary32 :=
  (Binary32.ofDecimal? (Text.trim text)).filter Binary32.isFinite

def bounds? (text : List Char) : Option Bounds :=
  match Text.splitOnce ':' text with
  | none => none
  | some (low, high) =>
      match bound? low, bound? high with
      | some low, some high => if low ≤ high then some ⟨low, high⟩ else none
      | _, _ => none

/-- An address in decimal, or in hexadecimal after its mark, with blanks around it. -/
def address? (text : List Char) : Option Nat :=
  match Text.trim text with
  | '0' :: 'x' :: digits => Text.natural? 16 Bytes.addressLimit digits
  | '0' :: 'X' :: digits => Text.natural? 16 Bytes.addressLimit digits
  | digits => Text.natural? 10 Bytes.addressLimit digits

def offsets? (text : List Char) : Option RailOffsets :=
  match (Text.splitOn ',' text).map address? with
  | [some vddio, some vddq, some vpp] => some { vddio := vddio, vddq := vddq, vpp := vpp }
  | _ => none

/-- The value of an optional override, or a fault that quotes the malformed text. -/
def override {α : Type} (settings : Settings) (key : String) (default : α)
    (parse? : List Char → Option α) (fault : String → String → ConfigFault) :
    Except ConfigFault α :=
  match settings key with
  | none => .ok default
  | some text =>
      match parse? text.toList with
      | some value => .ok value
      | none => .error (fault key text)

def overrideBounds (settings : Settings) (key : String) (default : Bounds) :
    Except ConfigFault Bounds :=
  override settings key default bounds? .malformedRange

def pathsOf (settings : Settings) : InterfacePaths :=
  let default : InterfacePaths := {}
  { smu := (settings smuPathKey).getD default.smu
    acpiTables := (settings acpiTablesPathKey).getD default.acpiTables
    memory := (settings memoryPathKey).getD default.memory
    msr := (settings msrPathKey).getD default.msr
    cpufreq := (settings cpufreqPathKey).getD default.cpufreq }

def ofSettings (settings : Settings) : Except ConfigFault Configuration := do
  let default : PlausibilityLimits := {}
  let railOffsets ← override settings railOffsetsKey {} offsets? .malformedOffsets
  let voltage ← overrideBounds settings voltageKey default.voltage
  let power ← overrideBounds settings powerKey default.power
  let current ← overrideBounds settings currentKey default.current
  let temperature ← overrideBounds settings temperatureKey default.temperature
  let coreClock ← overrideBounds settings coreClockKey default.coreClock
  return {
    paths := pathsOf settings
    limits :=
      { voltage := voltage, power := power, current := current, temperature := temperature,
        coreClock := coreClock }
    railOffsets := railOffsets }

end Configuration

end SmuTelemetry
