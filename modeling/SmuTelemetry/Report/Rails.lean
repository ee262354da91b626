import SmuTelemetry.Report.Transcript

/-!
The report of memory rails: where the overclocking region lies and what it holds.
-/

namespace SmuTelemetry.Report.Rails

set_option autoImplicit false

def rail (millivolts : Option UInt32) : String :=
  match millivolts with
  | some value =>
      let whole := toString value.toNat
      let volts := String.ofList (fixedPoint 3 value.toNat)
      s!"{whole} mV ({volts} V)"
  | none => "n/a"

def sayCandidate (candidate : RailCandidate) : Writing Unit :=
  let offset := capitalHexDigits 4 candidate.offset
  let field := candidate.field.name
  let value := toString candidate.millivolts.toNat
  say s!"    0x{offset} [{field}] {value} mV"

def sayRow (row : DumpRow) : Writing Unit :=
  let offset := capitalHexDigits 4 row.offset
  let words := " ".intercalate (row.words.map fun word => capitalHexDigits 8 word.toNat)
  say s!"    {offset}: {words}"

def sayField (session : Session) (tree : FileTree) (field : RegionField) : Writing Unit := do
  let name := field.name
  let start := capitalHexDigits 4 field.start
  let length := toString (field.stop - field.start)
  say s!"\n[+] {name} (0x{start}, {length} bytes)"
  let rows ← attempt (session.dumpField tree field)
  rows.forM sayRow

def report (tree : FileTree) (settings : Settings) (arguments : List String) :
    Writing Unit := do
  banner "              AMD Overclocking Data - Memory Rails          "
  let session ← attempt (openSession tree settings)
  let tables := session.configuration.paths.acpiTables
  say s!"[+] Searching SSDTs in {tables}"
  let located := session.locateRegion tree
  if located.toOption.isNone && (located matches .error .regionNotFound) then
    warn "[-] No AOD OperationRegion on this firmware"
  let region ← attempt located
  let address := hexDigits 0 region.address.toNat
  let size := toString region.size.toNat
  say s!"    AODE:          0x{address} ({size} bytes)"
  let voltages ← attempt (session.railVoltages tree)
  let vddio := rail voltages.vddio
  let vddq := rail voltages.vddq
  let vpp := rail voltages.vpp
  say "\n[+] Memory Rails"
  say s!"    MEM VDDIO:     {vddio}"
  say s!"    MEM VDDQ:      {vddq}"
  say s!"    MEM VPP:       {vpp}"
  if arguments.contains "--scan" then
    say "\n[+] Candidate millivolt values"
    let candidates ← attempt (session.railCandidates tree)
    candidates.forM sayCandidate
  if arguments.contains "--raw" then
    [RegionField.outb, RegionField.wcns].forM (sayField session tree)

end SmuTelemetry.Report.Rails
