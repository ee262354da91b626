import SmuTelemetry.Proofs.Driver.RegisterReads
import SmuTelemetry.Proofs.Session.MemoryFrequency

/-!
The register file over whole runs. It is chosen when the session is opened and no step
changes the choice, so register reads have the same answers all along, whatever becomes of
the path, and polls of the same silicon at the same memory clock have the same timings.
-/

namespace SmuTelemetry

set_option autoImplicit false

theorem Session.open?_registerFile {tree : FileTree} {configuration : Configuration}
    {session : Session} (opened : Session.open? tree configuration = .ok session) :
    session.driver.registerFile =
      (tree.openReadWrite (joinPath configuration.paths.smu "smn")).toOption := by
  by_cases present : tree.exists? (joinPath configuration.paths.smu "version")
  · simp only [Session.open?, SmuDriver.open?, present, if_true] at opened
    cases opened
    rfl
  · simp only [Session.open?, SmuDriver.open?, present] at opened
    cases opened

namespace Machine

theorem step_driver (machine : Machine) (step : Step) :
    (machine.step step).2.session.driver = machine.session.driver := by
  cases step with
  | poll =>
      rw [step_poll]
      cases outcome : machine.session.driver.table machine.tree with
      | error fault => rw [poll_of_unreadable outcome]
      | ok table => rw [poll_of_readable outcome, afterPoll]
  | _ => rfl

theorem run_driver (machine : Machine) (steps : List Step) :
    (machine.run steps).2.session.driver = machine.session.driver := by
  induction steps generalizing machine with
  | nil => rfl
  | cons first rest ih => exact (ih _).trans (machine.step_driver first)

theorem run_getElem? (machine : Machine) (steps : List Step) (position : Nat) :
    (machine.run steps).1[position]? =
      (steps[position]?).map fun step =>
        ((machine.run (steps.take position)).2.step step).1 := by
  induction steps generalizing machine position with
  | nil => rfl
  | cons first rest ih =>
      cases position with
      | zero => rfl
      | succ position => exact ih (machine.step first).2 position

theorem run_getElem?_of_step {machine : Machine} {steps : List Step} {position : Nat}
    {step : Step} (taken : steps[position]? = some step) :
    ∃ reached : Machine, reached.session.driver = machine.session.driver ∧
      (machine.run steps).1[position]? = some (reached.step step).1 := by
  refine ⟨(machine.run (steps.take position)).2, run_driver machine _, ?_⟩
  rw [run_getElem?, taken]
  rfl

theorem run_getElem?_of_poll {machine reached : Machine} {steps : List Step} {position : Nat}
    {table : PmTable} (taken : steps[position]? = some .poll)
    (led : (machine.run (steps.take position)).2 = reached)
    (readable : reached.session.driver.table reached.tree = .ok table) :
    (machine.run steps).1[position]? = some (.summary (.ok (reached.polledSummary table))) := by
  rw [run_getElem?, taken, Option.map_some, led, step_poll, poll_of_readable readable]

theorem polled_of_answer {machine : Machine} {steps : List Step} {position : Nat}
    {summary : Summary}
    (answered : (machine.run steps).1[position]? = some (.summary (.ok summary))) :
    ∃ (reached : Machine) (table : PmTable),
      reached.session.driver = machine.session.driver ∧
        summary = reached.polledSummary table := by
  rw [run_getElem?] at answered
  obtain ⟨step, -, same⟩ := Option.map_eq_some_iff.mp answered
  refine ⟨(machine.run (steps.take position)).2, ?_⟩
  generalize reached : (machine.run (steps.take position)).2 = final at same
  have driver : final.session.driver = machine.session.driver := by
    rw [← reached, run_driver]
  cases step with
  | poll =>
      rw [step_poll] at same
      injection same with result
      have polled : final.poll = (.ok summary, final.poll.2) := Prod.ext result rfl
      obtain ⟨table, -, made, -⟩ := poll_ok polled
      exact ⟨table, driver, made⟩
  | _ => cases same

theorem polledSummary_timings (machine : Machine) (table : PmTable) :
    let summary := machine.polledSummary table
    summary.timings =
      (memoryFrequency summary.codename.memoryType
        (Dram.timings summary.codename machine.session.driver.answers)
        summary.metrics.mclk).2 := by
  unfold polledSummary
  simp only [SmuDriver.timings_fst]

def RegistersRead (machine : Machine) (steps : List Step)
    (result : UInt32 → Except Fault UInt32) (value : Registers) : Prop :=
  ∀ (position : Nat) (address : UInt32),
    (steps[position]? = some (Step.readRegister address) →
      (machine.run steps).1[position]? = some (Answer.register (result address))) ∧
    (steps[position]? = some (Step.readOrZero address) →
      (machine.run steps).1[position]? = some (Answer.registerOrZero (value address)))

theorem registersRead_of_driver {machine : Machine}
    {result : UInt32 → Except Fault UInt32}
    (results : ∀ tree address,
      (machine.session.driver.readRegister tree address).1 = result address)
    (steps : List Step) : machine.RegistersRead steps result machine.session.driver.answers := by
  intro position address
  constructor
  · intro taken
    obtain ⟨reached, driver, answered⟩ := run_getElem?_of_step taken
    rw [answered, ← results reached.tree address, ← driver]
    rfl
  · intro taken
    obtain ⟨reached, driver, answered⟩ := run_getElem?_of_step taken
    rw [answered, ← driver, ← SmuDriver.readOrZero_fst _ reached.tree]
    rfl

theorem registersRead_of_file {machine : Machine} {id : FileId}
    (plain : machine.session.driver.registerFile = some (.file id)) (steps : List Step) :
    machine.RegistersRead steps .ok fun address => address := by
  rw [← SmuDriver.answers_of_file plain]
  apply registersRead_of_driver
  intro tree address
  rw [SmuDriver.readRegister_of_file plain]

theorem registersRead_of_none {machine : Machine}
    (unopened : machine.session.driver.registerFile = none) (steps : List Step) :
    machine.RegistersRead steps
      (fun _ => .error (.custom .notFound "SMN interface not available")) fun _ => 0 := by
  have missing : ∀ id, machine.session.driver.registerFile ≠ some (.file id) := by
    simp [unopened]
  rw [← SmuDriver.answers_of_not_file missing]
  apply registersRead_of_driver
  intro tree address
  rw [SmuDriver.readRegister_of_none unopened]

/-- Clocks that are equal as numbers: the same one, or zeros of either sign. -/
def SameClock (first second : Binary32) : Prop :=
  first = second ∨ (first.isZero ∧ second.isZero)

theorem memoryFrequency_timings_congr (memoryType : MemoryType) (timings : DramTimings)
    {first second : Binary32} (same : SameClock first second) :
    (memoryFrequency memoryType timings first).2 =
      (memoryFrequency memoryType timings second).2 := by
  rcases same with rfl | ⟨firstZero, secondZero⟩
  · rfl
  · have firstStopped := Summary.not_positive_of_unusable (.inr (.inl firstZero))
    have secondStopped := Summary.not_positive_of_unusable (.inr (.inl secondZero))
    simp only [memoryFrequency, firstStopped, secondStopped, and_false, if_false]

theorem timings_eq_of_answers {machine : Machine} {steps : List Step}
    {position other : Nat} {first second : Summary}
    (firstAnswer : (machine.run steps).1[position]? = some (.summary (.ok first)))
    (secondAnswer : (machine.run steps).1[other]? = some (.summary (.ok second)))
    (codename : first.codename = second.codename)
    (mclk : SameClock first.metrics.mclk second.metrics.mclk) :
    first.timings = second.timings := by
  obtain ⟨earlier, firstTable, firstDriver, rfl⟩ := polled_of_answer firstAnswer
  obtain ⟨later, secondTable, secondDriver, rfl⟩ := polled_of_answer secondAnswer
  rw [polledSummary_timings, polledSummary_timings, codename, firstDriver, secondDriver]
  exact memoryFrequency_timings_congr _ _ mclk

/-- The register file is what was at its path when the session was opened, for every run. A
plain file answers every register with its address, a path that could not be opened fails
every read, and either way polls that agree on silicon and memory clock agree on timings. -/
theorem register_file_fixed_at_open (tree : FileTree) (configuration : Configuration)
    (session : Session) (opened : Session.open? tree configuration = .ok session)
    (steps : List Step) :
    let path := joinPath configuration.paths.smu "smn"
    let machine : Machine := { tree := tree, session := session }
    (∀ id, tree.resolve path = .ok (.file id) →
      machine.RegistersRead steps .ok fun address => address) ∧
    (∀ fault, tree.openReadWrite path = .error fault →
      machine.RegistersRead steps
        (fun _ => .error (.custom .notFound "SMN interface not available")) fun _ => 0) ∧
    ∀ (position other : Nat) (first second : Summary),
      (machine.run steps).1[position]? = some (.summary (.ok first)) →
      (machine.run steps).1[other]? = some (.summary (.ok second)) →
      first.codename = second.codename →
      SameClock first.metrics.mclk second.metrics.mclk → first.timings = second.timings := by
  intro path machine
  have held := Session.open?_registerFile opened
  refine ⟨?_, ?_, fun _ _ _ _ => timings_eq_of_answers⟩
  · intro id plain
    apply registersRead_of_file
    · rw [held, FileTree.openReadWrite, plain]
      rfl
  · intro fault missing
    apply registersRead_of_none
    rw [held, missing]
    rfl

/-- The file is removed before the first read and the runs go on with it. Without a file at
opening, one that appears later is never read. -/
theorem register_file_fixed_of_removed_file :
    let contents : FileId → Content := fun id =>
      if id = 2 then .filled 320 0x44 else .ofBytes [0x31, 0x32]
    let without : FileTree :=
      { nodes := [(["smu"], .directory), (["smu", "version"], .file 0),
          (["smu", "codename"], .file 0), (["smu", "pm_table"], .file 2)]
        contents := contents, nextId := 3 }
    let tree : FileTree := { without with nodes := without.nodes ++ [(["smu", "smn"], .file 1)] }
    let configuration : Configuration := { paths := { smu := "/smu" } }
    let session (registerFile : Option Handle) : Session :=
      { configuration := configuration
        driver := { root := "/smu", registerFile := registerFile } }
    let machine : Machine := { tree := tree, session := session (some (.file 1)) }
    let steps : List Step :=
      [.change (.remove "/smu/smn"), .readRegister 0x50204, .poll, .readOrZero 7, .poll]
    let late : Machine := { tree := without, session := session none }
    let lateSteps : List Step :=
      [.change (.store "/smu/smn" (.filled 4 0)), .readRegister 0x50204, .readOrZero 7]
    let answers : List Answer := (machine.run steps).1
    let lateAnswers : List Answer := (late.run lateSteps).1
    answers[1]? = some (Answer.register (.ok 0x50204)) ∧
      answers[3]? = some (Answer.registerOrZero 7) ∧
      (∃ first second : Summary, answers[2]? = some (Answer.summary (.ok first)) ∧
        answers[4]? = some (Answer.summary (.ok second)) ∧ first.timings = second.timings) ∧
      lateAnswers[1]? = some (Answer.register
        (.error (.custom .notFound "SMN interface not available"))) ∧
      lateAnswers[2]? = some (Answer.registerOrZero 0) := by
  intro contents without tree configuration session machine steps late lateSteps answers
    lateAnswers
  obtain ⟨plain, -, polls⟩ := register_file_fixed_at_open tree configuration _
    (by decide +kernel : Session.open? tree configuration = .ok machine.session) steps
  obtain ⟨-, unopened, -⟩ := register_file_fixed_at_open without configuration _
    (by decide +kernel : Session.open? without configuration = .ok late.session) lateSteps
  have reads := plain 1 (by decide +kernel)
  have lateReads := unopened (.os .noEntry) (by decide +kernel)
  let table : PmTable := List.replicate 80 ⟨0x44444444⟩
  let earlier := (machine.run (steps.take 2)).2
  let later := (machine.run (steps.take 4)).2
  have firstTable : earlier.session.driver.table earlier.tree = .ok table := by decide +kernel
  have secondTable : later.session.driver.table later.tree = .ok table := by decide +kernel
  have firstAnswer : answers[2]? = some (.summary (.ok (earlier.polledSummary table))) :=
    run_getElem?_of_poll rfl rfl firstTable
  have secondAnswer : answers[4]? = some (.summary (.ok (later.polledSummary table))) :=
    run_getElem?_of_poll rfl rfl secondTable
  refine ⟨(reads 1 0x50204).1 rfl, (reads 3 7).2 rfl, ⟨_, _, firstAnswer, secondAnswer, ?_⟩,
    (lateReads 1 0x50204).1 rfl, (lateReads 2 7).2 rfl⟩
  exact polls 2 4 _ _ firstAnswer secondAnswer (by decide +kernel) (.inl (by decide +kernel))

end Machine

end SmuTelemetry
