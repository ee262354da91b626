import SmuTelemetry.Proofs.Dram.Channels
import SmuTelemetry.Proofs.Files.SameBut
import SmuTelemetry.Proofs.Word.LittleEndian
import SmuTelemetry.Driver

/-!
Register reads through the driver. What a register answers is settled by what was opened:
a plain file answers with the address that was just written to it, and anything else
answers zero, whatever the tree holds at the time of the read. Timings read through the
driver are therefore those of a fixed register file, and reading them changes at most the
contents of the open file.
-/

namespace SmuTelemetry.SmuDriver

set_option autoImplicit false

def answers (driver : SmuDriver) : Registers := fun address =>
  match driver.registerFile with
  | some (.file _) => address
  | _ => 0

section Registers

variable {driver : SmuDriver}

theorem answers_of_file {id : FileId} (plain : driver.registerFile = some (.file id)) :
    driver.answers = fun address => address := by
  unfold answers
  rw [plain]

theorem answers_of_not_file (missing : ∀ id, driver.registerFile ≠ some (.file id)) :
    driver.answers = fun _ => 0 := by
  unfold answers
  split
  next id plain => exact absurd plain (missing id)
  next => rfl

theorem readRegister_of_none (unopened : driver.registerFile = none) (tree : FileTree)
    (address : UInt32) :
    driver.readRegister tree address =
      (.error (.custom .notFound "SMN interface not available"), tree) := by
  unfold readRegister
  rw [unopened]

/-- The value is the address, because it is read from where the address was written. -/
theorem readRegister_of_file {id : FileId} (plain : driver.registerFile = some (.file id))
    (tree : FileTree) (address : UInt32) :
    driver.readRegister tree address =
      (.ok address,
        tree.setContent id ((tree.contents id).write 0 (Bytes.ofU32 address))) := by
  have length : (Bytes.ofU32 address).length = 4 := Bytes.length_ofLittleEndian 4 _
  have echoed : ((tree.contents id).write 0 (Bytes.ofU32 address)).read 0 4 =
      Bytes.ofU32 address := by
    rw [← length]
    exact Content.read_write _ _ _
  have decoded : UInt32.ofNat (Bytes.ofU32 address).littleEndian = address :=
    (Bytes.ofNat_littleEndian_eq_iff_u32 _ _ length).mpr rfl
  unfold readRegister
  simp only [plain, Handle.writeAt, Handle.readAt, FileTree.setContent, length, if_true,
    echoed, decoded]
  simp

theorem readOrZero_of_not_file (missing : ∀ id, driver.registerFile ≠ some (.file id))
    (tree : FileTree) (address : UInt32) : driver.readOrZero tree address = (0, tree) := by
  have length : (Bytes.ofU32 address).length = 4 := Bytes.length_ofLittleEndian 4 _
  unfold readOrZero readRegister
  cases opened : driver.registerFile with
  | none => rfl
  | some handle =>
      cases handle with
      | file id => exact absurd opened (missing id)
      | directory => rfl
      | device device =>
          cases device with
          | full => rfl
          | null => simp [Handle.writeAt, Handle.readAt, length]
          | zero => simp [Handle.writeAt, Handle.readAt, length, Bytes.littleEndian]

theorem readOrZero_fst (driver : SmuDriver) (tree : FileTree) (address : UInt32) :
    (driver.readOrZero tree address).1 = driver.answers address := by
  by_cases plain : ∃ id, driver.registerFile = some (.file id)
  · obtain ⟨id, plain⟩ := plain
    unfold readOrZero
    rw [readRegister_of_file plain, answers_of_file plain]
  · have missing := not_exists.mp plain
    rw [readOrZero_of_not_file missing, answers_of_not_file missing]

theorem readOrZero_sameBut (driver : SmuDriver) (tree : FileTree) (address : UInt32) :
    FileTree.SameBut driver.registerFile tree (driver.readOrZero tree address).2 := by
  by_cases plain : ∃ id, driver.registerFile = some (.file id)
  · obtain ⟨id, plain⟩ := plain
    unfold readOrZero
    rw [readRegister_of_file plain, plain]
    exact .setContent tree id _
  · rw [readOrZero_of_not_file (not_exists.mp plain)]
    exact .refl _ tree

end Registers

section Captures

variable (driver : SmuDriver) (channel : UInt8)

theorem captureRow_cons (tree : FileTree) (settles : UInt32 → Bool) (register : UInt32)
    (rest : List UInt32) :
    driver.captureRow tree channel settles (register :: rest) =
      let address := Dram.registerAddress channel register
      let value := driver.answers address
      let written := (driver.readOrZero tree address).2
      if settles value then ([(address, value)], written)
      else
        let later := driver.captureRow written channel settles rest
        ((address, value) :: later.1, later.2) := by
  simp only [← driver.readOrZero_fst tree]
  rfl

theorem captureRow_values (tree : FileTree) (settles : UInt32 → Bool) (row : List UInt32) :
    ∀ pair ∈ (driver.captureRow tree channel settles row).1,
      pair.2 = driver.answers pair.1 := by
  induction row generalizing tree with
  | nil => simp [captureRow]
  | cons register rest ih =>
      simp only [captureRow_cons]
      split_ifs
      · simp
      · rw [List.forall_mem_cons]
        exact ⟨rfl, ih _⟩

theorem captureRow_sameBut (tree : FileTree) (settles : UInt32 → Bool) (row : List UInt32) :
    FileTree.SameBut driver.registerFile tree
      (driver.captureRow tree channel settles row).2 := by
  induction row generalizing tree with
  | nil => exact .refl _ tree
  | cons register rest ih =>
      have first := driver.readOrZero_sameBut tree (Dram.registerAddress channel register)
      simp only [captureRow_cons]
      split_ifs
      · exact first
      · exact first.trans (ih _)

/-- A register file that gives back what was captured cannot be told apart from the
driver's by reading the row. -/
theorem agreeUntil_of_captureRow (tree : FileTree) (settles : UInt32 → Bool)
    (row : List UInt32) (seen : Registers)
    (captured : ∀ pair ∈ (driver.captureRow tree channel settles row).1,
      seen pair.1 = pair.2) :
    Dram.AgreeUntil settles (Dram.channelView driver.answers channel)
      (Dram.channelView seen channel) row := by
  induction row generalizing tree with
  | nil => trivial
  | cons register rest ih =>
      simp only [captureRow_cons] at captured
      split_ifs at captured with settled
      · rw [List.forall_mem_singleton] at captured
        refine ⟨captured.symm, fun unsettled => ?_⟩
        exact absurd settled (ne_true_of_eq_false unsettled)
      · rw [List.forall_mem_cons] at captured
        exact ⟨captured.1.symm, fun _ => ih _ captured.2⟩

theorem capture_values (tree : FileTree) (rows : List Dram.RegisterRow) :
    ∀ pair ∈ (driver.capture tree channel rows).1, pair.2 = driver.answers pair.1 := by
  induction rows generalizing tree with
  | nil => simp [capture]
  | cons row rest ih =>
      unfold capture
      rw [List.forall_mem_append]
      exact ⟨driver.captureRow_values channel tree _ _, ih _⟩

theorem capture_sameBut (tree : FileTree) (rows : List Dram.RegisterRow) :
    FileTree.SameBut driver.registerFile tree (driver.capture tree channel rows).2 := by
  induction rows generalizing tree with
  | nil => exact .refl _ tree
  | cons row rest ih => exact (driver.captureRow_sameBut channel tree _ _).trans (ih _)

theorem agreeUntil_of_capture (tree : FileTree) (rows : List Dram.RegisterRow)
    (seen : Registers)
    (captured : ∀ pair ∈ (driver.capture tree channel rows).1, seen pair.1 = pair.2) :
    ∀ row ∈ rows, Dram.AgreeUntil row.settles (Dram.channelView driver.answers channel)
      (Dram.channelView seen channel) row.registers := by
  induction rows generalizing tree with
  | nil => simp
  | cons row rest ih =>
      unfold capture at captured
      rw [List.forall_mem_append] at captured
      rw [List.forall_mem_cons]
      exact ⟨driver.agreeUntil_of_captureRow channel tree _ _ seen captured.1,
        ih _ captured.2⟩

theorem lookup_of_values {values : List (UInt32 × UInt32)} {registers : Registers}
    (held : ∀ pair ∈ values, pair.2 = registers pair.1) {pair : UInt32 × UInt32}
    (member : pair ∈ values) : values.lookup pair.1 = some pair.2 := by
  induction values with
  | nil => cases member
  | cons first rest ih =>
      rw [List.forall_mem_cons] at held
      rw [List.lookup_cons]
      by_cases same : pair.1 = first.1
      · have value : pair.2 = first.2 := by
          rcases List.mem_cons.mp member with rfl | later
          · rfl
          · rw [held.1, held.2 pair later, same]
        rw [same, beq_self_eq_true, value]
      · have later : pair ∈ rest := by
          rcases List.mem_cons.mp member with rfl | later
          · exact absurd rfl same
          · exact later
        rw [beq_eq_false_iff_ne.mpr same]
        exact ih held.2 later

theorem channelTimings_fst (tree : FileTree) (generation : DramGeneration) :
    (driver.channelTimings tree generation channel).1 =
      Dram.channelTimings generation driver.answers channel := by
  symm
  apply Dram.channelTimings_congr
  apply driver.agreeUntil_of_capture channel tree
  intro pair member
  rw [lookup_of_values (driver.capture_values channel tree _) member]
  rfl

end Captures

theorem timings_fst (driver : SmuDriver) (tree : FileTree) (codename : Codename) :
    (driver.timings tree codename).1 = Dram.timings codename driver.answers := by
  unfold timings Dram.timings
  cases codename.dramGeneration? with
  | none => rfl
  | some generation => exact driver.channelTimings_fst 0 tree generation

theorem timings_sameBut (driver : SmuDriver) (tree : FileTree) (codename : Codename) :
    FileTree.SameBut driver.registerFile tree (driver.timings tree codename).2 := by
  unfold timings
  cases codename.dramGeneration? with
  | none => exact .refl _ tree
  | some generation => exact driver.capture_sameBut 0 tree _

end SmuTelemetry.SmuDriver
