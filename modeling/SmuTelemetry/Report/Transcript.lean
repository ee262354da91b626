import SmuTelemetry.Session
import SmuTelemetry.Binary32.FixedPoint

/-!
Transcripts of reports. A report writes lines of output and of diagnostics and may fail;
what it wrote before the failure stays, and the failure becomes the last diagnostic.
-/

namespace SmuTelemetry.Report

set_option autoImplicit false

structure Transcript where
  output : List String := []
  diagnostics : List String := []
deriving DecidableEq, Repr

abbrev Writing := ExceptT TelemetryError (StateM Transcript)

def asLines (text : String) : List String :=
  (Text.lines (text.toList ++ ['\n'])).map String.ofList

def say (text : String) : Writing Unit :=
  modify fun transcript => { transcript with output := transcript.output ++ asLines text }

def warn (text : String) : Writing Unit :=
  modify fun transcript =>
    { transcript with diagnostics := transcript.diagnostics ++ asLines text }

def attempt {α : Type} (result : Except TelemetryError α) : Writing α :=
  match result with
  | .ok value => pure value
  | .error error => throw error

def banner (title : String) : Writing Unit := do
  let rule := String.ofList (List.replicate 60 '=')
  say rule
  say title
  say rule

structure Outcome where
  exitCode : UInt32
  transcript : Transcript
deriving DecidableEq, Repr

def finish (report : Writing Unit) : Outcome :=
  match report.run {} with
  | (.ok (), transcript) => { exitCode := 0, transcript := transcript }
  | (.error error, transcript) =>
      let text := error.inspect
      { exitCode := 1
        transcript :=
          { transcript with
            diagnostics := transcript.diagnostics ++ asLines s!"Error: {text}" } }

def openSession (tree : FileTree) (settings : Settings) : Except TelemetryError Session :=
  match Configuration.ofSettings settings with
  | .error fault => .error (.invalidConfig fault)
  | .ok configuration => Session.open? tree configuration

end SmuTelemetry.Report
