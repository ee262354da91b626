import SmuTelemetry.Proofs.Cpu.Frequencies
import SmuTelemetry.Proofs.Driver.RegisterReads
import SmuTelemetry.Proofs.Session.Poll

/-!
A poll as a function of what it reads. Every file but the table gives one reading, which
falls back when the file is missing, unreadable or garbled, and the summary is a function
of the readings; so a missing file changes its own reading and nothing else.
-/

namespace SmuTelemetry

set_option autoImplicit false

structure PollReadings where
  table : PmTable
  codename : Codename
  tableVersion : UInt32
  smuVersion : Option String
  registers : Registers
  sample : Option StatSample
  /-- Megahertz by processor number. -/
  frequencies : List Binary32
  referenceClock : Option Binary32

def Session.summarize (session : Session) (readings : PollReadings) : Summary :=
  let codename := readings.codename
  let decoded :=
    readings.table.decode session.configuration.limits readings.tableVersion codename
  let metrics : Metrics :=
    { decoded with
      coreUsage := readings.sample.elim decoded.coreUsage fun sample =>
        SmtPairs.fold false (sample.usageSince session.previous)
      coreFrequencies := SmtPairs.fold true readings.frequencies
      bclk := readings.referenceClock }
  let timings := Dram.timings codename readings.registers
  let chosen := Machine.memoryFrequency codename.memoryType timings metrics.mclk
  { codename := codename
    smuVersion := readings.smuVersion
    tableVersion := readings.tableVersion
    metrics := metrics
    timings := chosen.2
    memoryType := codename.memoryType
    memoryFrequency := chosen.1 }

def FileTree.HoldsInteger (tree : FileTree) (path : String) (value : Int) : Prop :=
  ∃ text, tree.HoldsText path text ∧
    Text.integer? 0x80000000 (Text.trim text) = some value

def Session.HoldsPerformance (session : Session) (tree : FileTree) (held : UInt64 × Nat) :
    Prop :=
  let paths := session.configuration.paths
  tree.HoldsRegister paths.msr 0xC0010064 held.1 ∧
    Frequency.HoldsReference tree paths.cpufreq held.2

/-- Each reading is settled by its own file alone, and falls back without it. The version
text is read last, when registers have been read already. -/
structure PollReadings.ReadFrom (readings : PollReadings) (session : Session)
    (tree written : FileTree) : Prop where
  codename :
    ReadOr (tree.HoldsInteger (joinPath session.driver.root "codename")) Codename.ofIndex
      .unknown readings.codename
  tableVersion :
    ReadOr (tree.HoldsWord (joinPath session.driver.root "pm_table_version")) id 0
      readings.tableVersion
  smuVersion :
    ReadOr (written.HoldsText (joinPath session.driver.root "version"))
      (fun text => some (String.ofList (Text.trim text))) none readings.smuVersion
  registers :
    ReadOr (fun id => session.driver.registerFile = some (.file id)) (fun _ address => address)
      (fun _ => 0) readings.registers
  sample :
    ReadOr (tree.HoldsText Session.statPath) (fun text => some (StatSample.parse text)) none
      readings.sample
  frequencies :
    Frequency.ToldBy tree session.configuration.paths.cpufreq readings.frequencies
  referenceClock :
    ReadOr (session.HoldsPerformance tree)
      (fun held => ReferenceClock.decode? held.1 (Binary32.ofNat held.2 / 1000)) none
      readings.referenceClock

namespace SmuDriver

theorem codename_readOr (driver : SmuDriver) (tree : FileTree) :
    ReadOr (tree.HoldsInteger (joinPath driver.root "codename")) Codename.ofIndex .unknown
      (driver.codename tree) := by
  let source := (tree.readText (joinPath driver.root "codename")).toOption.bind fun text =>
    Text.integer? 0x80000000 (Text.trim text)
  have value : driver.codename tree = source.elim .unknown Codename.ofIndex := by
    unfold codename textFile
    simp only [source]
    cases tree.readText (joinPath driver.root "codename") with
    | error fault => rfl
    | ok text =>
        simp only [Except.map, Except.toOption, Option.bind_some]
        cases Text.integer? 0x80000000 (Text.trim text) <;> rfl
  have exact : ∀ index, source = some index ↔
      tree.HoldsInteger (joinPath driver.root "codename") index := by
    intro index
    unfold FileTree.HoldsInteger
    simp only [source, Option.bind_eq_some_iff, FileTree.toOption_readText_eq_some_iff]
  rw [value]
  exact readOr_of_option exact _ _

theorem tableVersion_readOr (driver : SmuDriver) (tree : FileTree) :
    ReadOr (tree.HoldsWord (joinPath driver.root "pm_table_version")) id 0
      (driver.tableVersion tree) := by
  let source := (tree.readBytes (joinPath driver.root "pm_table_version")).toOption.bind
    fun bytes => bytes.u32At? 0
  have value : driver.tableVersion tree = source.elim 0 id := by
    unfold tableVersion
    simp only [source]
    cases tree.readBytes (joinPath driver.root "pm_table_version") with
    | error fault => rfl
    | ok bytes =>
        simp only [Except.toOption, Option.bind_some]
        cases bytes.u32At? 0 <;> rfl
  rw [value]
  exact readOr_of_option (fun _ => FileTree.bind_u32At?_eq_some_iff) _ _

theorem version_readOr (driver : SmuDriver) (tree : FileTree) :
    ReadOr (tree.HoldsText (joinPath driver.root "version"))
      (fun text => some (String.ofList (Text.trim text))) none
      (driver.version tree).toOption := by
  have value : (driver.version tree).toOption =
      (tree.readText (joinPath driver.root "version")).toOption.elim none
        fun text => some (String.ofList (Text.trim text)) := by
    unfold version textFile
    cases tree.readText (joinPath driver.root "version") <;> rfl
  rw [value]
  exact readOr_of_option (fun _ => FileTree.toOption_readText_eq_some_iff) _ _

theorem answers_readOr (driver : SmuDriver) :
    ReadOr (fun id => driver.registerFile = some (.file id)) (fun _ address => address)
      (fun _ => 0) driver.answers :=
  ⟨fun _ plain => answers_of_file plain, answers_of_not_file⟩

end SmuDriver

namespace Session

theorem sample?_readOr (tree : FileTree) :
    ReadOr (tree.HoldsText statPath) (fun text => some (StatSample.parse text)) none
      (sample? tree) := by
  have value : sample? tree =
      (tree.readText statPath).toOption.elim none fun text =>
        some (StatSample.parse text) := by
    unfold sample? StatSample.read
    cases tree.readText statPath <;> rfl
  rw [value]
  exact readOr_of_option (fun _ => FileTree.toOption_readText_eq_some_iff) _ _

theorem referenceClock?_readOr (session : Session) (tree : FileTree) :
    ReadOr (session.HoldsPerformance tree)
      (fun held => ReferenceClock.decode? held.1 (Binary32.ofNat held.2 / 1000)) none
      (session.referenceClock? tree) := by
  unfold HoldsPerformance
  simp only [← FileTree.read?_eq_some_iff]
  constructor
  · rintro ⟨state, kilohertz⟩ ⟨held, holds⟩
    have read : Msr.read? tree session.configuration.paths.msr
        ReferenceClock.performanceState0 = some state := held
    have told : Frequency.reference? tree session.configuration.paths.cpufreq =
        some (ReferenceClock.megahertz kilohertz) :=
      Frequency.reference?_eq_some_iff.mpr ⟨kilohertz, holds, rfl⟩
    unfold referenceClock?
    simp only [read, told]
    rfl
  · intro nothing
    unfold referenceClock?
    simp only
    split
    next state megahertz read told =>
      obtain ⟨kilohertz, holds, -⟩ := Frequency.reference?_eq_some_iff.mp told
      exact absurd ⟨read, holds⟩ (nothing (state, kilohertz))
    next => rfl

end Session

namespace Machine

def readings (machine : Machine) (table : PmTable) : PollReadings :=
  let session := machine.session
  { table := table
    codename := session.driver.codename machine.tree
    tableVersion := session.driver.tableVersion machine.tree
    smuVersion := (session.driver.version machine.afterPoll.tree).toOption
    registers := session.driver.answers
    sample := Session.sample? machine.tree
    frequencies := Frequency.logical machine.tree session.configuration.paths.cpufreq
    referenceClock := session.referenceClock? machine.tree }

theorem polledSummary_eq_summarize (machine : Machine) (table : PmTable) :
    machine.polledSummary table = machine.session.summarize (machine.readings table) := by
  have metrics : machine.polledMetrics table =
      (machine.session.summarize (machine.readings table)).metrics := by
    unfold polledMetrics withSystemReadings Session.summarize readings
    cases Session.sample? machine.tree <;> rfl
  unfold polledSummary
  simp only [SmuDriver.timings_fst, metrics]
  rfl

theorem readings_readFrom (machine : Machine) (table : PmTable) :
    (machine.readings table).ReadFrom machine.session machine.tree
      machine.afterPoll.tree where
  codename := machine.session.driver.codename_readOr machine.tree
  tableVersion := machine.session.driver.tableVersion_readOr machine.tree
  smuVersion := machine.session.driver.version_readOr machine.afterPoll.tree
  registers := machine.session.driver.answers_readOr
  sample := Session.sample?_readOr machine.tree
  frequencies := Frequency.logical_toldBy machine.tree _
  referenceClock := machine.session.referenceClock?_readOr machine.tree

end Machine

end SmuTelemetry
