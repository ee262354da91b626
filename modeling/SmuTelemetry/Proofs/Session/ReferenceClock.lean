import SmuTelemetry.Proofs.Cpu.ReferenceClock
import SmuTelemetry.Proofs.Session.PollReadings

/-!
The reference clock of a session from its files. It needs the register of the first performance
state and one of three attributes, of which the first that tells a frequency is taken. Nothing of
the register but its two codes makes a difference.
-/

namespace SmuTelemetry.Session

set_option autoImplicit false

open ReferenceClock

variable {session : Session} {tree other : FileTree}

theorem referenceClock?_eq_some_iff {clock : Binary32} :
    session.referenceClock? tree = some clock ↔
      ∃ held, session.HoldsPerformance tree held ∧ Derives held.1 (megahertz held.2) clock := by
  obtain ⟨told, missing⟩ := session.referenceClock?_readOr tree
  constructor
  · intro found
    by_cases holds : ∃ held, session.HoldsPerformance tree held
    · obtain ⟨held, holding⟩ := holds
      rw [told held holding] at found
      exact ⟨held, holding, decode?_eq_some_iff.mp found⟩
    · rw [missing fun held holding => holds ⟨held, holding⟩] at found
      cases found
  · rintro ⟨held, holding, derives⟩
    rw [told held holding]
    exact decode?_eq_some_iff.mpr derives

/-- Two runs: the attributes have the same texts, and the registers agree in the codes. -/
theorem referenceClock?_congr {state changed : UInt64}
    (held : tree.HoldsRegister session.configuration.paths.msr performanceState0 state)
    (otherHeld : other.HoldsRegister session.configuration.paths.msr performanceState0 changed)
    (low : changed.toNat % 0x4000 = state.toNat % 0x4000)
    (same : ∀ name ∈ Frequency.referenceFiles,
      other.readText (joinPath session.configuration.paths.cpufreq name) =
        tree.readText (joinPath session.configuration.paths.cpufreq name)) :
    session.referenceClock? other = session.referenceClock? tree := by
  rw [← FileTree.read?_eq_some_iff] at held otherHeld
  unfold referenceClock?
  simp only [held, otherHeld, Frequency.reference?_congr same]
  cases Frequency.reference? tree session.configuration.paths.cpufreq with
  | none => rfl
  | some frequency => exact decode?_congr low frequency

/-- A session knows the reference clock exactly when the register file holds the eight bytes of
the first performance state, some attribute of the first processor tells a frequency, and the
first one that does is the state's multiplier times a clock inside the window. What an attribute
does not tell is passed over in one of four ways. The bits above the codes have no influence, and
no frequency that is a NaN, infinite, zero or negative gives a clock. -/
theorem reference_clock_of_first_frequency (session : Session) :
    let paths := session.configuration.paths
    let attributes := ["cpu0/cpufreq/cpuinfo_max_freq", "cpu0/cpufreq/scaling_max_freq",
      "cpu0/cpufreq/scaling_cur_freq"]
    (∀ tree clock, session.referenceClock? tree = some clock ↔
      ∃ state, tree.HoldsRegister paths.msr 0xC0010064 state ∧
      ∃ better name worse, attributes = better ++ name :: worse ∧
        (∀ other ∈ better, tree.PassedOver (joinPath paths.cpufreq other)) ∧
      ∃ kilohertz, tree.HoldsKilohertz (joinPath paths.cpufreq name) kilohertz ∧
        Derives state (Binary32.ofNat kilohertz / 1000) clock) ∧
    (∀ (tree : FileTree) (path : String),
      tree.PassedOver path ↔ ∀ kilohertz, ¬tree.HoldsKilohertz path kilohertz) ∧
    (∀ (tree other : FileTree) (state changed : UInt64),
      tree.HoldsRegister paths.msr 0xC0010064 state →
      other.HoldsRegister paths.msr 0xC0010064 changed →
      changed.toNat % 0x4000 = state.toNat % 0x4000 →
      (∀ name ∈ attributes,
        other.readText (joinPath paths.cpufreq name) =
          tree.readText (joinPath paths.cpufreq name)) →
      session.referenceClock? other = session.referenceClock? tree) ∧
    ∀ (state : UInt64) (frequency : Binary32),
      frequency.isNaN = true ∨ frequency.isInfinite = true ∨ frequency ≤ 0 →
      decode? state frequency = none := by
  intro paths attributes
  refine ⟨?_, Frequency.passedOver_iff, ?_, ?_⟩
  · intro tree clock
    rw [referenceClock?_eq_some_iff]
    constructor
    · rintro ⟨⟨state, kilohertz⟩, ⟨held, reference⟩, derives⟩
      obtain ⟨better, name, worse, order, passed, holds⟩ :=
        Frequency.holdsReference_iff.mp reference
      exact ⟨state, held, better, name, worse, order, passed, kilohertz, holds, derives⟩
    · rintro ⟨state, held, better, name, worse, order, passed, kilohertz, holds, derives⟩
      have reference := Frequency.holdsReference_iff.mpr ⟨better, name, worse, order, passed, holds⟩
      exact ⟨(state, kilohertz), ⟨held, reference⟩, derives⟩
  · intro tree other state changed held otherHeld low same
    exact referenceClock?_congr held otherHeld low same
  · intro state frequency unusable
    exact decode?_eq_none unusable

/-- A missing attribute and one of zero before 3.4 gigahertz at a multiplier of 34, and the same
with other bits set above the codes. -/
theorem reference_clock_of_third_attribute :
    let session : Session :=
      { configuration := { paths := { msr := "/msr", cpufreq := "/cpu" } }
        driver := { root := "/smu", registerFile := none } }
    let directory := ["cpu", "cpu0", "cpufreq"]
    let register (second last : UInt8) : Content :=
      { size := 0xC001006C
        byte := fun place =>
          if place = 0xC0010064 then 0x88 else if place = 0xC0010065 then second
          else if place = 0xC001006B then last else 0 }
    let files (second last : UInt8) : FileTree :=
      { nodes := [(["msr"], .file 0), (["cpu"], .directory), (["cpu", "cpu0"], .directory),
          (directory, .directory), (directory ++ ["scaling_max_freq"], .file 1),
          (directory ++ ["scaling_cur_freq"], .file 2)]
        contents := fun id =>
          if id = 0 then register second last
          else if id = 1 then .ofBytes [0x30, 0x0A]
          else .ofBytes [0x33, 0x34, 0x30, 0x30, 0x30, 0x30, 0x30, 0x0A] }
    session.referenceClock? (files 0x08 0) = some 100 ∧
      session.referenceClock? (files 0xC8 0x80) = some 100 ∧
      decode? 0x0888 Binary32.nan = none := by
  intro session directory register files
  obtain ⟨derived, -, unaffected, refused⟩ := reference_clock_of_first_frequency session
  have state : (files 0x08 0).HoldsRegister "/msr" 0xC0010064 0x0888 :=
    ⟨.file 0, by decide +kernel, by decide +kernel⟩
  have changed : (files 0xC8 0x80).HoldsRegister "/msr" 0xC0010064 0x800000000000C888 :=
    ⟨.file 0, by decide +kernel, by decide +kernel⟩
  have missing : (files 0x08 0).PassedOver (joinPath "/cpu" "cpu0/cpufreq/cpuinfo_max_freq") :=
    .unread (.os .noEntry) (by decide +kernel)
  have zero : (files 0x08 0).PassedOver (joinPath "/cpu" "cpu0/cpufreq/scaling_max_freq") :=
    .zero ['0', '\n'] (FileTree.toOption_readText_eq_some_iff.mp (by decide +kernel))
      ((Text.natural?_eq_some_iff 10 1 0 _).mp (by decide +kernel)).1
  have third : (files 0x08 0).HoldsKilohertz (joinPath "/cpu" "cpu0/cpufreq/scaling_cur_freq")
      3400000 :=
    ⟨"3400000\n".toList, FileTree.toOption_readText_eq_some_iff.mp (by decide +kernel),
      by decide +kernel, by decide⟩
  have derives : Derives 0x0888 (Binary32.ofNat 3400000 / 1000) 100 :=
    ⟨⟨34, ⟨by decide, by decide, by decide +kernel, by decide, by decide⟩, by decide +kernel⟩,
      by decide, by decide⟩
  have clock : session.referenceClock? (files 0x08 0) = some 100 := by
    refine (derived _ _).mpr ⟨0x0888, state,
      ["cpu0/cpufreq/cpuinfo_max_freq", "cpu0/cpufreq/scaling_max_freq"],
      "cpu0/cpufreq/scaling_cur_freq", [], rfl, ?_, 3400000, third, derives⟩
    intro other before
    rcases List.mem_pair.mp before with rfl | rfl
    · exact missing
    · exact zero
  refine ⟨clock, ?_, refused _ _ (Or.inl (by decide))⟩
  rw [unaffected _ _ _ _ state changed (by decide) (by decide +kernel), clock]

end SmuTelemetry.Session
