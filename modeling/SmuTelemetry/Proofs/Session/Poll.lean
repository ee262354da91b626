import Mathlib
import SmuTelemetry.History

/-!
What a poll does, by whether the table can be read. A readable table gives a summary
whose parts are each read on their own; an unreadable one gives its fault and changes
nothing.
-/

namespace SmuTelemetry

set_option autoImplicit false

namespace SmuDriver

theorem timings_of_registers (driver : SmuDriver) (tree : FileTree) (codename : Codename) :
    ∃ registers, (driver.timings tree codename).1 = Dram.timings codename registers := by
  unfold timings Dram.timings
  cases codename.dramGeneration? with
  | none => exact ⟨fun _ => 0, rfl⟩
  | some generation => exact ⟨_, rfl⟩

end SmuDriver

namespace Machine

def polledMetrics (machine : Machine) (table : PmTable) : Metrics :=
  let driver := machine.session.driver
  machine.withSystemReadings (Session.sample? machine.tree)
    (table.decode machine.session.configuration.limits (driver.tableVersion machine.tree)
      (driver.codename machine.tree))

def polledSummary (machine : Machine) (table : PmTable) : Summary :=
  let driver := machine.session.driver
  let codename := driver.codename machine.tree
  let metrics := machine.polledMetrics table
  let read := driver.timings machine.tree codename
  let chosen := memoryFrequency codename.memoryType read.1 metrics.mclk
  { codename := codename
    smuVersion := (driver.version read.2).toOption
    tableVersion := driver.tableVersion machine.tree
    metrics := metrics
    timings := chosen.2
    memoryType := codename.memoryType
    memoryFrequency := chosen.1 }

def afterPoll (machine : Machine) : Machine :=
  let session := machine.session
  let codename := session.driver.codename machine.tree
  { tree := (session.driver.timings machine.tree codename).2
    session := { session with previous := (Session.sample? machine.tree).or session.previous } }

theorem poll_of_readable {machine : Machine} {table : PmTable}
    (readable : machine.session.driver.table machine.tree = .ok table) :
    machine.poll = (.ok (machine.polledSummary table), machine.afterPoll) := by
  unfold poll
  simp only [readable]
  rfl

theorem poll_of_unreadable {machine : Machine} {fault : Fault}
    (unreadable : machine.session.driver.table machine.tree = .error fault) :
    machine.poll = (.error (.io fault), machine) := by
  unfold poll
  simp only [unreadable]

theorem step_poll (machine : Machine) :
    machine.step .poll = (.summary machine.poll.1, machine.poll.2) := by
  unfold step
  rfl

theorem poll_ok {machine next : Machine} {summary : Summary}
    (polled : machine.poll = (.ok summary, next)) :
    ∃ table, machine.session.driver.table machine.tree = .ok table ∧
      summary = machine.polledSummary table ∧ next = machine.afterPoll := by
  cases outcome : machine.session.driver.table machine.tree with
  | error fault =>
      rw [poll_of_unreadable outcome] at polled
      simp at polled
  | ok table =>
      rw [poll_of_readable outcome] at polled
      simp only [Prod.mk.injEq, Except.ok.injEq] at polled
      exact ⟨table, rfl, polled.1.symm, polled.2.symm⟩

end Machine

end SmuTelemetry
