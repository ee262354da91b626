import SmuTelemetry.Proofs.Dram.RegisterImage

/-!
Channels of the memory controller. Decoding a channel looks at the registers of that
channel alone, row by row and in each row no further than the word that settles it, so
channels do not disturb each other and all of them are decoded alike.
-/

namespace SmuTelemetry.Dram

set_option autoImplicit false

def channelView (registers : Registers) (channel : UInt8) : Registers := fun register =>
  registers (registerAddress channel register)

/-- Two register files that cannot be told apart by reading a row. -/
def AgreeUntil (settles : UInt32 → Bool) (first second : Registers) : List UInt32 → Prop
  | [] => True
  | register :: rest =>
      first register = second register ∧
        (settles (first register) = false → AgreeUntil settles first second rest)

def RowsAgree (generation : DramGeneration) (first second : Registers) : Prop :=
  ∀ row ∈ registerRows generation, AgreeUntil row.settles first second row.registers

section Rows

variable {settles : UInt32 → Bool} {first second : Registers} {row : List UInt32}

theorem agreeUntil_of_agree (agree : ∀ register ∈ row, first register = second register) :
    AgreeUntil settles first second row := by
  induction row with
  | nil => trivial
  | cons register rest ih =>
      rw [List.forall_mem_cons] at agree
      exact ⟨agree.1, fun _ => ih agree.2⟩

theorem agree_of_agreeUntil_never (agree : AgreeUntil (fun _ => false) first second row) :
    ∀ register ∈ row, first register = second register := by
  induction row with
  | nil => simp
  | cons register rest ih =>
      rw [List.forall_mem_cons]
      exact ⟨agree.1, ih (agree.2 rfl)⟩

/-- The word that settles a row is the same, because all words before it are read too. -/
theorem find?_of_agreeUntil (agree : AgreeUntil settles first second row) :
    (row.map first).find? settles = (row.map second).find? settles := by
  induction row with
  | nil => rfl
  | cons register rest ih =>
      obtain ⟨same, later⟩ := agree
      rw [List.map_cons, List.map_cons, List.find?_cons, List.find?_cons, ← same]
      cases settled : settles (first register) with
      | true => rfl
      | false => exact ih (later settled)

end Rows

section Views

variable {first second : Registers} {channel other : UInt8}

theorem timingCycles_congr
    (agree : ∀ register ∈ timingRegisters,
      channelView first channel register = channelView second other register) :
    timingCycles first channel = timingCycles second other := by
  have fields (timing : Timing) :
      fieldCycles first channel timing = fieldCycles second other timing := by
    unfold fieldCycles RegisterField.read
    apply congrArg
    exact agree _ timing.field_register_mem
  funext timing
  unfold timingCycles
  simp only [fields]

theorem refresh_ddr4_congr
    (agree : ∀ register ∈ refreshCycles.take 2,
      channelView first channel register = channelView second other register) :
    refresh .ddr4 first channel = refresh .ddr4 second other := by
  have word : refreshWord .ddr4 first channel = refreshWord .ddr4 second other := by
    have opening := agree 0x50260 (by decide)
    have following := agree 0x50264 (by decide)
    unfold channelView at opening following
    simp only [refreshWord, opening, following]
  unfold refresh
  rw [word]

theorem refreshWord_ddr5_congr
    (agree : AgreeUntil (fun word => word != unprogrammedRefresh .ddr5)
      (channelView first channel) (channelView second other) refreshCycles) :
    refreshWord .ddr5 first channel = refreshWord .ddr5 second other :=
  congrArg (fun word => Option.getD word 0) (find?_of_agreeUntil agree)

theorem sameBankCycles_congr
    (agree : AgreeUntil (fun word => sameBankRange.slice word != 0)
      (channelView first channel) (channelView second other) sameBankRefresh) :
    sameBankCycles first channel = sameBankCycles second other := by
  -- Counts are sliced from the words, so the first count is that of the first word.
  have counts (registers : Registers) (channel : UInt8) :
      sameBankCycles registers channel =
        (((sameBankRefresh.map (channelView registers channel)).find? fun word =>
          sameBankRange.slice word != 0).map sameBankRange.slice).getD 0 := by
    calc
      sameBankCycles registers channel =
          ((((sameBankRefresh.map (channelView registers channel)).map
            sameBankRange.slice).find? fun count => count != 0)).getD 0 := by
        rw [List.map_map]
        rfl
      _ = _ := by
        rw [List.find?_map]
        rfl
  rw [counts, counts, find?_of_agreeUntil agree]

/-- Timings depend on what the rows are read from, wherever the channels lie. -/
theorem channelTimings_congr {generation : DramGeneration}
    (agree : RowsAgree generation (channelView first channel) (channelView second other)) :
    channelTimings generation first channel = channelTimings generation second other := by
  unfold RowsAgree registerRows at agree
  cases generation with
  | ddr4 =>
      have all := agree_of_agreeUntil_never (agree _ List.mem_cons_self)
      rw [List.forall_mem_append] at all
      unfold channelTimings
      simp only [timingCycles_congr all.1, refresh_ddr4_congr all.2]
  | ddr5 =>
      simp only [List.forall_mem_cons] at agree
      obtain ⟨always, refreshRow, sameBankRow, -⟩ := agree
      have all := agree_of_agreeUntil_never always
      rw [List.forall_mem_cons, List.forall_mem_cons] at all
      obtain ⟨control, power, timings⟩ := all
      unfold channelView at control power
      unfold channelTimings refresh
      simp only [timingCycles_congr timings, refreshWord_ddr5_congr refreshRow,
        sameBankCycles_congr sameBankRow, control, power]

end Views

theorem mappedRegisters_bound (generation : DramGeneration) :
    ∀ register ∈ mappedRegisters generation, register.toNat < 2 ^ 20 := by
  -- Checked entry by entry: deciding the statement itself would run through all words.
  have bound : (mappedRegisters generation).all fun register => register.toNat < 2 ^ 20 := by
    cases generation <;> rfl
  simpa using bound

theorem rowsAgree_of_mapped {generation : DramGeneration} {first second : Registers}
    (agree : ∀ register ∈ mappedRegisters generation, first register = second register) :
    RowsAgree generation first second := by
  intro row member
  apply agreeUntil_of_agree
  intro register inRow
  exact agree register (List.mem_flatMap.mpr ⟨row, member, inRow⟩)

theorem channelBase_toNat (channel : UInt8) :
    (channelBase channel).toNat = channel.toNat * 2 ^ 20 := by
  have first := registerAddress_toNat channel 0 (by decide)
  unfold registerAddress channelAddress at first
  rw [UInt32.or_zero, UInt32.toNat_zero, Nat.add_zero] at first
  exact first

theorem registerAddress_channel {generation : DramGeneration} {register : UInt32}
    (mapped : register ∈ mappedRegisters generation) (channel : UInt8) :
    (registerAddress channel register).toNat / 2 ^ 20 = channel.toNat := by
  have bound := mappedRegisters_bound generation register mapped
  rw [registerAddress_toNat channel register bound]
  unfold channelAddress
  omega

theorem channelTimings_of_channel {generation : DramGeneration} {first second : Registers}
    {channel : UInt8}
    (agree : ∀ address : UInt32, address.toNat / 2 ^ 20 = channel.toNat →
      first address = second address) :
    channelTimings generation first channel = channelTimings generation second channel := by
  apply channelTimings_congr
  apply rowsAgree_of_mapped
  intro register mapped
  unfold channelView
  exact agree _ (registerAddress_channel mapped channel)

theorem channelTimings_of_moved {generation : DramGeneration} {registers moved : Registers}
    {channel : UInt8}
    (moves : ∀ address : UInt32, address.toNat < 2 ^ 20 →
      moved address = registers (UInt32.ofNat (address.toNat + channel.toNat * 2 ^ 20))) :
    channelTimings generation registers channel = channelTimings generation moved 0 := by
  apply channelTimings_congr
  apply rowsAgree_of_mapped
  intro register mapped
  have bound := mappedRegisters_bound generation register mapped
  have own : registerAddress channel register =
      UInt32.ofNat (register.toNat + channel.toNat * 2 ^ 20) := by
    apply UInt32.toNat_inj.mp
    rw [registerAddress_toNat channel register bound, channelAddress, Nat.add_comm,
      UInt32.toNat_ofNat_of_lt']
    have byte := channel.toNat_lt
    unfold UInt32.size
    omega
  have first : registerAddress 0 register = register := by
    apply UInt32.toNat_inj.mp
    rw [registerAddress_toNat 0 register bound]
    unfold channelAddress
    simp
  unfold channelView
  rw [own, first, moves register bound]

/-- A channel is decoded from its own registers, and as the first channel would be from the
same registers at its own addresses. Other channels may hold anything. -/
theorem channels_isolated (generation : DramGeneration) (registers : Registers)
    (channel : UInt8) :
    (∀ moved : Registers,
      (∀ address : UInt32, address.toNat < 2 ^ 20 →
        moved address = registers (UInt32.ofNat (address.toNat + channel.toNat * 2 ^ 20))) →
      channelTimings generation registers channel = channelTimings generation moved 0) ∧
    (∀ others : Registers,
      (∀ address : UInt32, address.toNat / 2 ^ 20 = channel.toNat →
        others address = registers address) →
      channelTimings generation others channel = channelTimings generation registers channel) ∧
    (∀ (other : UInt8) (changed : Registers), other ≠ channel →
      (∀ address : UInt32, address.toNat / 2 ^ 20 ≠ other.toNat →
        changed address = registers address) →
      channelTimings generation changed channel =
        channelTimings generation registers channel) ∧
    (channelBase channel).toNat = channel.toNat * 2 ^ 20 ∧
    ∀ register ∈ mappedRegisters generation,
      (registerAddress channel register).toNat = channel.toNat * 2 ^ 20 + register.toNat := by
  refine ⟨fun _ => channelTimings_of_moved, fun _ => channelTimings_of_channel, ?_,
    channelBase_toNat channel, ?_⟩
  · intro other changed distinct elsewhere
    apply channelTimings_of_channel
    intro address own
    apply elsewhere
    rw [own]
    intro same
    exact distinct (UInt8.toNat_inj.mp same.symm)
  · intro register mapped
    exact registerAddress_toNat channel register (mappedRegisters_bound generation _ mapped)

/-- Clearing the first channel changes its own timings and not those of the last one. -/
theorem last_channel_isolated :
    let registers : Registers := fun _ => 0x01010101
    let cleared : Registers := fun address =>
      if address.toNat / 2 ^ 20 = 0 then 0 else registers address
    channelTimings .ddr5 cleared 255 = channelTimings .ddr5 registers 255 ∧
      (channelTimings .ddr5 cleared 0).cycles .tcl ≠
        (channelTimings .ddr5 registers 0).cycles .tcl := by
  intro registers cleared
  have isolated := channels_isolated .ddr5 registers 255
  refine ⟨isolated.2.2.1 0 cleared (by decide) ?_, by decide⟩
  intro address elsewhere
  exact if_neg elsewhere

end SmuTelemetry.Dram
