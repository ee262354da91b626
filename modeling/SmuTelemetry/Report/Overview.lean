import SmuTelemetry.Report.Transcript

/-!
The overview: power, voltages, clocks, temperatures, cores and memory.
-/

namespace SmuTelemetry.Report.Overview

set_option autoImplicit false

def reading (value : Option Binary32) (unit : String) : String :=
  match value with
  | some value =>
      let text := value.toFixed 2
      s!"{text} {unit}"
  | none => "n/a"

def alignRight (width : Nat) (text : String) : String :=
  String.ofList (List.replicate (width - text.length) ' ') ++ text

def alignLeft (width : Nat) (text : String) : String :=
  text ++ String.ofList (List.replicate (width - text.length) ' ')

def sayCores (label : String) (cores : CoreArray) (unit : String) : Writing Unit :=
  if cores.isEmpty then pure ()
  else
    let start := alignLeft 14 label
    let columns := String.join (cores.toList.map fun value => " " ++ alignRight 6 (value.toFixed 1))
    say s!"    {start}{columns} {unit}"

def saySummary (summary : Summary) : Writing Unit := do
  let codename := summary.codename.name
  let version := summary.smuVersion.getD "n/a"
  let tag := capitalHexDigits 8 summary.tableVersion.toNat
  say s!"    Codename:      {codename}"
  say s!"    SMU Version:   {version}"
  say s!"    PM Table:      0x{tag}"

def sayMetrics (metrics : Metrics) : Writing Unit := do
  let package := reading metrics.packagePower "W"
  let ppt := reading metrics.ppt "W"
  let current := reading metrics.packageCurrent "A"
  say "\n[+] Power"
  say s!"    Package:       {package}"
  say s!"    PPT:           {ppt}"
  say s!"    Current:       {current}"
  let vcore := metrics.vcore.toFixed 4
  let vsoc := metrics.vsoc.toFixed 4
  let vddp := metrics.vddp.toFixed 4
  let ccd := metrics.vddgCcd.toFixed 4
  let iod := metrics.vddgIod.toFixed 4
  let vid := reading metrics.vid "V"
  say "\n[+] Voltages"
  say s!"    VCore:         {vcore} V"
  say s!"    VSoC:          {vsoc} V"
  say s!"    VDDP:          {vddp} V"
  say s!"    VDDG CCD/IOD:  {ccd} / {iod} V"
  say s!"    VID:           {vid}"
  let core := reading metrics.coreClock "MHz"
  let fclk := metrics.fclk.toFixed 0
  let uclk := metrics.uclk.toFixed 0
  let mclk := metrics.mclk.toFixed 0
  let bclk := reading metrics.bclk "MHz"
  say "\n[+] Clocks"
  say s!"    Core (max):    {core}"
  say s!"    FCLK/UCLK/MCLK: {fclk} / {uclk} / {mclk} MHz"
  say s!"    BCLK:          {bclk}"
  let cpu := reading metrics.cpuTemp "C"
  let die := reading metrics.tdie "C"
  let hotspot := reading metrics.iodHotspot "C"
  say "\n[+] Temperatures"
  say s!"    CPU:           {cpu}"
  say s!"    Tdie:          {die}"
  say s!"    IOD Hotspot:   {hotspot}"
  say "\n[+] Per Core"
  sayCores "Clock" metrics.coreClocks "GHz"
  sayCores "Temp" metrics.coreTemps "C"
  sayCores "Voltage" metrics.coreVoltages "V"
  sayCores "Usage" metrics.coreUsage "%"
  sayCores "Freq" metrics.coreFrequencies "MHz"

/-- Polls twice, because usage is a difference, and shows the second poll. The changes are
those that the files see between the polls. -/
def report (tree : FileTree) (settings : Settings) (changes : List Change) : Writing Unit := do
  banner "              Ryzen SMU - PM Table Metrics                  "
  say "[+] Opening ryzen_smu driver..."
  match openSession tree settings with
  | .error error =>
      let text := error.message
      warn s!"[-] {text}"
      warn "    (Ensure the 'ryzen_smu' kernel module is loaded and you are root)"
      throw error
  | .ok session =>
      let (first, afterFirst) := Machine.poll { tree := tree, session := session }
      let _ ← attempt first
      let (second, machine) :=
        Machine.poll { afterFirst with tree := changes.foldl FileTree.apply afterFirst.tree }
      let summary ← attempt second
      saySummary summary
      sayMetrics summary.metrics
      let memory := summary.memoryType.name
      let frequency := reading summary.memoryFrequency "MHz"
      say "\n[+] Memory"
      say s!"    Type:          {memory}"
      say s!"    Frequency:     {frequency}"
      match machine.session.firmwareVersion? machine.tree with
      | some version => say s!"    AGESA:         {version}"
      | none => pure ()

end SmuTelemetry.Report.Overview
