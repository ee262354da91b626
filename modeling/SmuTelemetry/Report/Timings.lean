import SmuTelemetry.Report.Transcript

/-!
The report of memory timings, with the primary timings of another channel on request.
-/

namespace SmuTelemetry.Report.Timings

set_option autoImplicit false

def channelKey : String := "RYZEN_DRAM_CHANNEL"

def joined (mark : String) (counts : List UInt32) : String :=
  mark.intercalate (counts.map fun count => toString count.toNat)

def primary (timings : DramTimings) : String :=
  joined "-" ([.tcl, .trcdRd, .trcdWr, .trp, .tras].map timings.cycles)

def slashed (timings : DramTimings) (which : List Timing) : String :=
  joined " / " (which.map timings.cycles)

def refreshRow (count : UInt32) (time : Binary32) : String :=
  let cycles := toString count.toNat
  let text := time.toFixed 1
  s!"{cycles} ({text} ns)"

def flag (set : Bool) : String := if set then "true" else "false"

def sayPrimary (timings : DramTimings) : Writing Unit := do
  let order := primary timings
  let trc := joined "" [timings.cycles .trc]
  let gearDown := flag timings.gearDown
  let powerDown := flag timings.powerDown
  say "\n[+] Primary"
  say s!"    {order}  tRC {trc}"
  match timings.commandRate with
  | some rate =>
      let text := rate.name
      say s!"    Command Rate:  {text}"
  | none => pure ()
  say s!"    GDM:           {gearDown}"
  say s!"    Power Down:    {powerDown}"

def saySecondary (timings : DramTimings) : Writing Unit := do
  let trrd := slashed timings [.trrds, .trrdl]
  let tfaw := slashed timings [.tfaw]
  let write := slashed timings [.twr, .tcwl]
  let trtp := slashed timings [.rtp]
  let twtr := slashed timings [.wtrs, .wtrl]
  let turn := slashed timings [.rdwr, .wrrd]
  let reads := slashed timings [.rdrdScl, .rdrdSc, .rdrdSd, .rdrdDd]
  let writes := slashed timings [.wrwrScl, .wrwrSc, .wrwrSd, .wrwrDd]
  say "\n[+] Secondary"
  say s!"    tRRDS/L:       {trrd}"
  say s!"    tFAW:          {tfaw}"
  say s!"    tWR / tCWL:    {write}"
  say s!"    tRTP:          {trtp}"
  say s!"    tWTRS/L:       {twtr}"
  say s!"    tRDWR/tWRRD:   {turn}"
  say s!"    RDRD SCL/SC/SD/DD: {reads}"
  say s!"    WRWR SCL/SC/SD/DD: {writes}"

def sayRefresh (timings : DramTimings) : Writing Unit := do
  let trefi := refreshRow (timings.cycles .refi) timings.times.trefi
  let trfc := refreshRow timings.refresh.rfc timings.times.trfc
  let trfc2 := refreshRow timings.refresh.rfc2 timings.times.trfc2
  let trfcsb := refreshRow timings.refresh.rfcsb timings.times.trfcsb
  say "\n[+] Refresh"
  say s!"    tREFI:         {trefi}"
  say s!"    tRFC:          {trfc}"
  say s!"    tRFC2:         {trfc2}"
  say s!"    tRFCsb:        {trfcsb}"

def requestedChannel? (settings : Settings) : Option UInt8 :=
  ((settings channelKey).bind fun text => Text.natural? 10 256 text.toList).map UInt8.ofNat

def sayChannel (channel : UInt8) (timings : DramTimings) : Writing Unit := do
  let number := toString channel.toNat
  let order := primary timings
  let trfc := toString timings.refresh.rfc.toNat
  say s!"\n[+] Channel {number}"
  say s!"    {order}  tRFC {trfc}"

def report (tree : FileTree) (settings : Settings) : Writing Unit := do
  banner "              Ryzen UMC - DRAM Timings (SMN)                "
  let session ← attempt (openSession tree settings)
  let (result, machine) := Machine.poll { tree := tree, session := session }
  let summary ← attempt result
  let codename := summary.codename.name
  let memory := summary.memoryType.name
  say s!"[+] {codename} / {memory}"
  match summary.memoryFrequency with
  | some frequency =>
      let text := frequency.toFixed 0
      say s!"    Frequency:     {text} MHz"
  | none => say "    Frequency:     unknown"
  sayPrimary summary.timings
  saySecondary summary.timings
  sayRefresh summary.timings
  match requestedChannel? settings, summary.codename.dramGeneration? with
  | some channel, some generation =>
      let (timings, _) :=
        machine.session.driver.channelTimings machine.tree generation channel
      sayChannel channel timings
  | _, _ => pure ()

end SmuTelemetry.Report.Timings
