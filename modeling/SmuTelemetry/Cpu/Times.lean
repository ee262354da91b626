import SmuTelemetry.Binary32.Arithmetic
import SmuTelemetry.Files.Access
import SmuTelemetry.Text.Blank
import SmuTelemetry.Text.Natural

/-!
Processor times from the kernel's statistics text. A sample holds the idle and total
ticks of each logical processor by its number; usage is the busy share of the ticks
between two samples.
-/

namespace SmuTelemetry

set_option autoImplicit false

/-- Ticks of one logical processor since boot; waiting for devices counts as idle. -/
structure CpuTimes where
  idle : UInt64
  total : UInt64
deriving DecidableEq, Repr

/-- Times by processor number; a processor without a usable line has none. -/
structure StatSample where
  cpus : List (Option CpuTimes) := []
deriving DecidableEq, Repr

def counterSum (counters : List UInt64) : Nat :=
  counters.foldr (fun counter sum => counter.toNat + sum) 0

def saturatingSum (counters : List UInt64) : UInt64 :=
  UInt64.ofNat (min (counterSum counters) (UInt64.size - 1))

namespace StatSample

def maxCpus : Nat := 256

/-- Counters of a line that are looked at, and how many of them a line must have. -/
def usedCounters : Nat := 10
def neededCounters : Nat := 4

def leadingCounters : List (List Char) → List UInt64
  | [] => []
  | word :: rest =>
      match Text.u64? word with
      | some counter => counter :: leadingCounters rest
      | none => []

def times? (counters : List UInt64) : Option CpuTimes :=
  if counters.length < neededCounters then none
  else
    let total := saturatingSum counters
    if total = 0 then none
    else some { idle := saturatingSum ((counters.drop 3).take 2), total := total }

def cpuId? (word : List Char) : Option Nat :=
  match Text.after? "cpu".toList word with
  | some digits => Text.natural? 10 UInt64.size digits
  | none => none

def entry? (line : List Char) : Option (Nat × CpuTimes) :=
  match Text.words line with
  | [] => none
  | first :: rest =>
      match cpuId? first with
      | none => none
      | some cpu =>
          if cpu < maxCpus then
            (times? ((leadingCounters rest).take usedCounters)).map fun times => (cpu, times)
          else none

/-- Stores the times of a processor, with room for all processors before it. -/
def store (cpus : List (Option CpuTimes)) (cpu : Nat) (times : CpuTimes) :
    List (Option CpuTimes) :=
  (cpus ++ List.replicate (cpu + 1 - cpus.length) none).set cpu (some times)

/-- The sample of a text; of several usable lines for one processor the last one counts. -/
def parse (text : List Char) : StatSample where
  cpus := ((Text.splitOn '\n' text).filterMap entry?).foldl
    (fun cpus entry => store cpus entry.1 entry.2) []

def read (tree : FileTree) (path : String) : Except Fault StatSample :=
  (tree.readText path).map parse

def length (sample : StatSample) : Nat := sample.cpus.length

def get? (sample : StatSample) (cpu : Nat) : Option CpuTimes := (sample.cpus[cpu]?).join

/-- The busy share of the ticks between two readings, from 0 to 100. Counters that went
backwards are taken to have wrapped. -/
def busyPercent (before now : CpuTimes) : Binary32 :=
  let total := now.total - before.total
  if total = 0 then 0
  else
    let idle := now.idle - before.idle
    let busy := 1 - Binary32.ofNat idle.toNat / Binary32.ofNat total.toNat
    Binary32.clamp 0 100 (busy * 100)

/-- The usage of each processor since an earlier sample; zero where a reading is missing. -/
def usageSince (sample : StatSample) (earlier : Option StatSample) : List Binary32 :=
  (List.range sample.length).map fun cpu =>
    match sample.get? cpu, earlier.bind fun sample => sample.get? cpu with
    | some now, some before => busyPercent before now
    | _, _ => 0

end StatSample

end SmuTelemetry
