import SmuTelemetry.Proofs.Session.PollReadings

/-!
Failed polls. A poll fails exactly when the table's file cannot be read, and a failed poll
leaves the machine as it was, so the polls that fail can be deleted from a run without a
difference to its other answers.
-/

namespace SmuTelemetry

set_option autoImplicit false

def Answer.isFailedPoll : Answer → Bool
  | .summary (.error _) => true
  | _ => false

namespace SmuDriver

theorem table_of_ok {driver : SmuDriver} {tree : FileTree} {bytes : Bytes}
    (read : tree.readBytes (joinPath driver.root "pm_table") = .ok bytes) :
    driver.table tree = .ok (Binary32.ofBytes bytes) := by
  unfold table
  rw [read]
  rfl

theorem table_of_error {driver : SmuDriver} {tree : FileTree} {fault : Fault}
    (unreadable : tree.readBytes (joinPath driver.root "pm_table") = .error fault) :
    driver.table tree = .error fault := by
  unfold table
  rw [unreadable]
  rfl

end SmuDriver

namespace Machine

theorem poll_fails_iff (machine : Machine) (error : TelemetryError) :
    machine.poll.1 = .error error ↔
      ∃ fault, machine.tree.readBytes (joinPath machine.session.driver.root "pm_table") =
        .error fault ∧ error = .io fault := by
  cases read : machine.tree.readBytes (joinPath machine.session.driver.root "pm_table") with
  | error fault =>
      rw [poll_of_unreadable (SmuDriver.table_of_error read)]
      constructor
      · intro failed
        cases failed
        exact ⟨fault, rfl, rfl⟩
      · rintro ⟨_, same, rfl⟩
        cases same
        rfl
  | ok bytes =>
      rw [poll_of_readable (SmuDriver.table_of_ok read)]
      constructor
      · intro failed
        cases failed
      · rintro ⟨fault, other, -⟩
        cases other

theorem poll_of_failed {machine : Machine} {error : TelemetryError}
    (failed : machine.poll.1 = .error error) : machine.poll.2 = machine := by
  obtain ⟨fault, unreadable, -⟩ := (machine.poll_fails_iff error).mp failed
  rw [poll_of_unreadable (SmuDriver.table_of_error unreadable)]

theorem poll_of_bytes {machine : Machine} {bytes : Bytes}
    (read : machine.tree.readBytes (joinPath machine.session.driver.root "pm_table") =
      .ok bytes) :
    let readings := machine.readings (Binary32.ofBytes bytes)
    machine.poll =
      (.ok (machine.session.summarize readings),
        { tree := machine.afterPoll.tree
          session := { machine.session with
            previous := readings.sample.or machine.session.previous } }) := by
  rw [poll_of_readable (SmuDriver.table_of_ok read), polledSummary_eq_summarize]
  rfl

theorem step_of_failed {machine : Machine} {step : Step}
    (failed : (machine.step step).1.isFailedPoll = true) :
    step = .poll ∧ (machine.step step).2 = machine := by
  cases step with
  | poll =>
      rw [step_poll] at failed ⊢
      apply And.intro rfl
      cases outcome : machine.poll.1 with
      | error error => exact poll_of_failed outcome
      | ok summary =>
          rw [outcome] at failed
          cases failed
  | _ => cases failed

/-- The steps without the polls that fail as the steps are taken. -/
def withoutFailedPolls (machine : Machine) : List Step → List Step
  | [] => []
  | first :: rest =>
      let (answer, next) := machine.step first
      if answer.isFailedPoll then withoutFailedPolls next rest
      else first :: withoutFailedPolls next rest

theorem run_withoutFailedPolls (machine : Machine) (steps : List Step) :
    machine.run (machine.withoutFailedPolls steps) =
      ((machine.run steps).1.filter fun answer => !answer.isFailedPoll,
        (machine.run steps).2) := by
  induction steps generalizing machine with
  | nil => rfl
  | cons first rest ih =>
      unfold withoutFailedPolls
      simp only [run]
      cases outcome : (machine.step first).1.isFailedPoll with
      | true =>
          have unchanged := (step_of_failed outcome).2
          rw [if_pos rfl, List.filter_cons_of_neg (by simp [outcome]), unchanged]
          exact ih machine
      | false =>
          rw [if_neg (by simp), List.filter_cons_of_pos (by simp [outcome])]
          simp only [run]
          rw [ih]

/-- A poll fails exactly when the table's file cannot be read, and then nothing changes.
Otherwise every other file settles its own reading, with a fallback, and a poll changes
nothing but the content of the open register file and the previous sample. Runs do not
depend on the polls in them that fail. -/
theorem poll_falls_back_per_file (machine : Machine) :
    let session := machine.session
    let path := joinPath session.driver.root "pm_table"
    (∀ error, machine.poll.1 = .error error ↔
      ∃ fault, machine.tree.readBytes path = .error fault ∧ error = .io fault) ∧
    (∀ error, machine.poll.1 = .error error → machine.poll.2 = machine) ∧
    (∀ bytes, machine.tree.readBytes path = .ok bytes →
      ∃ (readings : PollReadings) (written : FileTree),
        readings.table = Binary32.ofBytes bytes ∧
        readings.ReadFrom session machine.tree written ∧
        FileTree.SameBut session.driver.registerFile machine.tree written ∧
        machine.poll =
          (.ok (session.summarize readings),
            { tree := written
              session := { session with
                previous := readings.sample.or session.previous } })) ∧
    ∀ steps, machine.run (machine.withoutFailedPolls steps) =
      ((machine.run steps).1.filter fun answer => !answer.isFailedPoll,
        (machine.run steps).2) := by
  intro session path
  refine ⟨machine.poll_fails_iff, fun _ => poll_of_failed, ?_, machine.run_withoutFailedPolls⟩
  intro bytes read
  refine ⟨machine.readings (Binary32.ofBytes bytes), machine.afterPoll.tree, rfl, ?_, ?_, ?_⟩
  · exact machine.readings_readFrom _
  · exact session.driver.timings_sameBut machine.tree _
  · exact poll_of_bytes read

/-- With the table alone every other reading falls back; once the table is removed, polls
fail and count for nothing. -/
theorem poll_falls_back_of_table_alone :
    let tree : FileTree :=
      { nodes := [(["smu"], .directory), (["smu", "pm_table"], .file 0)]
        contents := fun _ => .filled 320 0x44, nextId := 1 }
    let session : Session :=
      { configuration := { paths := { smu := "/smu" } }
        driver := { root := "/smu", registerFile := none } }
    let machine : Machine := { tree := tree, session := session }
    let steps : List Step := [.change (.remove "/smu/pm_table"), .poll, .codename, .poll]
    let shorter := machine.withoutFailedPolls steps
    (∃ readings, machine.poll.1 = .ok (session.summarize readings) ∧
      readings.table.length = 80 ∧ readings.codename = .unknown ∧
      readings.tableVersion = 0 ∧ readings.smuVersion = none ∧
      readings.registers = (fun _ => 0) ∧ readings.sample = none ∧
      readings.referenceClock = none) ∧
      shorter.length = 2 ∧
      (machine.run shorter).1 = (machine.run steps).1.filter fun answer =>
        !answer.isFailedPoll := by
  intro tree session machine steps shorter
  obtain ⟨-, -, polls, runs⟩ := poll_falls_back_per_file machine
  have holdsTable : tree.readBytes (joinPath "/smu" "pm_table") =
      .ok (List.replicate 320 0x44) := by decide +kernel
  have missing : ∀ name ∈ ["codename", "pm_table_version", "version"],
      tree.readBytes (joinPath "/smu" name) = .error (.os .noEntry) := by decide +kernel
  have noStatistics : tree.readBytes Session.statPath = .error (.os .noEntry) := by
    decide +kernel
  have noRegisters : tree.openRead "/dev/cpu/0/msr" = .error (.os .noEntry) := by
    decide +kernel
  obtain ⟨readings, written, table, read, same, polled⟩ := polls _ holdsTable
  have noVersion : written.readBytes (joinPath "/smu" "version") = .error (.os .noEntry) := by
    rw [same.readBytes_eq (by simp [machine, session])]
    exact missing "version" (by simp)
  refine ⟨⟨readings, by rw [polled], by rw [table]; decide +kernel, ?_, ?_, ?_, ?_, ?_, ?_⟩,
    by decide +kernel, by rw [runs]⟩
  · apply read.codename.2
    rintro index ⟨text, holds, -⟩
    exact FileTree.not_holdsText_of_error (missing "codename" (by simp)) text holds
  · apply read.tableVersion.2
    exact FileTree.not_holdsWord_of_error (missing "pm_table_version" (by simp))
  · exact read.smuVersion.2 (FileTree.not_holdsText_of_error noVersion)
  · apply read.registers.2
    simp [machine, session]
  · exact read.sample.2 (FileTree.not_holdsText_of_error noStatistics)
  · apply read.referenceClock.2
    rintro held ⟨holds, -⟩
    exact FileTree.not_holdsRegister_of_error noRegisters _ _ holds

end Machine

end SmuTelemetry
