import SmuTelemetry.Files.Hierarchy
import SmuTelemetry.Report.Overview
import SmuTelemetry.Report.Rails
import SmuTelemetry.Report.Timings

/-!
Command line. The first argument names a report, the rest are its options. The files
that the report may look at are captured first, and once more after a pause where the
report polls twice; the report runs on what was captured.
Memory and register files are captured only where a setting points to a stand-in, because
the device nodes at the default paths cannot be read as a whole.
-/

namespace SmuTelemetry.CommandLine

set_option autoImplicit false

def settingKeys : List String :=
  [Configuration.smuPathKey, Configuration.acpiTablesPathKey, Configuration.memoryPathKey,
    Configuration.msrPathKey, Configuration.cpufreqPathKey, Configuration.railOffsetsKey,
    Configuration.voltageKey, Configuration.powerKey, Configuration.currentKey,
    Configuration.temperatureKey, Configuration.coreClockKey, Report.Timings.channelKey]

/-- Names of table files, which the kernel numbers from one. -/
def tableNames : List String :=
  "SSDT" :: (List.range' 1 63).map fun number => "SSDT" ++ toString number

def capturedPaths (settings : Settings) : List String :=
  let paths := Configuration.pathsOf settings
  let driver := ["version", "codename", "pm_table_version", "pm_table"]
  let standIns := [Configuration.memoryPathKey, Configuration.msrPathKey].filterMap settings ++
    ((settings Configuration.smuPathKey).map fun root => joinPath root "smn").toList
  let processors := (List.range Frequency.maxCpus).map (Frequency.currentPath paths.cpufreq)
  driver.map (joinPath paths.smu) ++
    (tableNames ++ Session.versionTables).map (joinPath paths.acpiTables) ++
    processors ++ Frequency.referenceFiles.map (joinPath paths.cpufreq) ++
    Session.statPath :: Session.inventoryPaths ++ standIns

def readSettings : IO Settings := do
  let values ← settingKeys.mapM fun key => return (key, ← IO.getEnv key)
  return fun key => (values.lookup key).join

def capture (path : String) : IO (Option Change) := do
  try
    let bytes ← IO.FS.readBinFile path
    return some (.store path (Content.ofBytes bytes.toList))
  catch _ => return none

def captureAll (settings : Settings) : IO (List Change) :=
  (capturedPaths settings).filterMapM capture

def pause : UInt32 := 500

def usage : String := "usage: smutelemetry metrics | rails [--scan] [--raw] | timings"

/-- The report that the arguments ask for, on files that see the changes while it runs. -/
def report? (tree : FileTree) (settings : Settings) (changes : List Change) :
    List String → Option (Report.Writing Unit)
  | "metrics" :: _ => some (Report.Overview.report tree settings changes)
  | "rails" :: options => some (Report.Rails.report tree settings options)
  | "timings" :: _ => some (Report.Timings.report tree settings)
  | _ => none

def run (arguments : List String) : IO UInt32 := do
  let settings ← readSettings
  let start := FileTree.standard.enter (toString (← IO.currentDir))
  let tree := (← captureAll settings).foldl FileTree.apply start
  if arguments.head? = some "metrics" then IO.sleep pause
  let changes ← captureAll settings
  match report? tree settings changes arguments with
  | none =>
      IO.eprintln usage
      return 2
  | some report =>
      let outcome := Report.finish report
      for line in outcome.transcript.output do IO.println line
      for line in outcome.transcript.diagnostics do IO.eprintln line
      return outcome.exitCode

end SmuTelemetry.CommandLine

def main (arguments : List String) : IO UInt32 := SmuTelemetry.CommandLine.run arguments
