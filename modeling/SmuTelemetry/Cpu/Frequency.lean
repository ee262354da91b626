import SmuTelemetry.Cpu.ReferenceClock
import SmuTelemetry.Cpu.SmtPairs
import SmuTelemetry.Files.Access
import SmuTelemetry.Text.Natural

/-!
Processor frequencies from attribute files. An attribute counts when it is text for a
positive number of kilohertz; anything else is as good as a missing file.
-/

namespace SmuTelemetry.Frequency

set_option autoImplicit false

def kilohertz? (tree : FileTree) (path : String) : Option Nat :=
  match tree.readText path with
  | .error _ => none
  | .ok text =>
      (Text.natural? 10 UInt64.size (Text.trim text)).filter fun kilohertz => 0 < kilohertz

def currentPath (root : String) (cpu : Nat) : String :=
  let number := toString cpu
  joinPath root s!"cpu{number}/cpufreq/scaling_cur_freq"

def reading (tree : FileTree) (root : String) (cpu : Nat) : Binary32 :=
  match kilohertz? tree (currentPath root cpu) with
  | some kilohertz => ReferenceClock.megahertz kilohertz
  | none => 0

def isUsable (tree : FileTree) (root : String) (cpu : Nat) : Bool :=
  (kilohertz? tree (currentPath root cpu)).isSome

/-- Processors with larger numbers are not tracked. -/
def maxCpus : Nat := 256

/-- The processors before the first gap, which only the first processor may leave. -/
def consecutive (tree : FileTree) (root : String) : List Nat :=
  0 :: (List.range' 1 (maxCpus - 1)).takeWhile (isUsable tree root)

def logical (tree : FileTree) (root : String) : List Binary32 :=
  let readings := (consecutive tree root).map (reading tree root)
  (readings.reverse.dropWhile fun megahertz => megahertz == 0).reverse

def cores (tree : FileTree) (root : String) : CoreArray := SmtPairs.fold true (logical tree root)

/-- Attributes of the first processor that tell a frequency at its multiplier, best first. -/
def referenceFiles : List String :=
  ["cpu0/cpufreq/cpuinfo_max_freq", "cpu0/cpufreq/scaling_max_freq",
    "cpu0/cpufreq/scaling_cur_freq"]

def reference? (tree : FileTree) (root : String) : Option Binary32 :=
  (referenceFiles.findSome? fun name => kilohertz? tree (joinPath root name)).map
    ReferenceClock.megahertz

end SmuTelemetry.Frequency
