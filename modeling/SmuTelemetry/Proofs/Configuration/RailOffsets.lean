import SmuTelemetry.Proofs.Configuration.Overrides

/-!
Offsets of the memory rails. However three addresses are written, in decimal or in hexadecimal,
with zeros in front and blanks around them, the setting that holds them between commas yields
these addresses, and it is refused as soon as one of them needs more than 64 bits. What is
accepted is always such a list of three.
-/

namespace SmuTelemetry

set_option autoImplicit false

namespace Configuration

/-- The text writes the address in decimal, or in hexadecimal after a mark. -/
inductive WritesAddress : List Char → Nat → Prop where
  | decimal {letters : List Char} {address : Nat} (written : Text.Writes 10 letters address) :
      WritesAddress letters address
  | hexadecimal {mark : Char} {letters : List Char} {address : Nat}
      (letter : mark = 'x' ∨ mark = 'X') (written : Text.Writes 16 letters address) :
      WritesAddress ('0' :: mark :: letters) address

def HoldsAddress (text : List Char) (address : Nat) : Prop :=
  ∃ before core after, text = before ++ (core ++ after) ∧
    (∀ c ∈ before, Text.isBlank c = true) ∧ (∀ c ∈ after, Text.isBlank c = true) ∧
    WritesAddress core address

theorem WritesAddress.code {core : List Char} {address : Nat}
    (written : WritesAddress core address) {c : Char} (member : c ∈ core) :
    0x30 ≤ c.toNat ∧ c.toNat ≤ 0x78 := by
  cases written with
  | decimal written =>
      have range := written.code (by decide) (by decide) member
      omega
  | hexadecimal letter written =>
      rcases List.mem_cons.mp member with rfl | member
      · decide
      · rcases List.mem_cons.mp member with rfl | member
        · rcases letter with rfl | rfl <;> decide
        · have range := written.code (by decide) (by decide) member
          omega

theorem isBlank_of_code {c : Char} (range : 0x30 ≤ c.toNat ∧ c.toNat ≤ 0x78) :
    Text.isBlank c = false := by
  simp only [Text.isBlank]
  grind

theorem HoldsAddress.no_comma {text : List Char} {address : Nat}
    (holds : HoldsAddress text address) : ',' ∉ text := by
  obtain ⟨before, core, after, rfl, blankBefore, blankAfter, written⟩ := holds
  simp only [List.mem_append, not_or]
  refine ⟨?_, ?_, ?_⟩
  · intro member
    cases blankBefore ',' member
  · intro member
    exact absurd (written.code member) (by decide)
  · intro member
    cases blankAfter ',' member

theorem WritesAddress.address?_eq {text core : List Char} {address : Nat}
    (written : WritesAddress core address) (trimmed : Text.trim text = core) :
    address? text = if address < 2 ^ 64 then some address else none := by
  rw [address?, trimmed]
  cases written with
  | decimal written =>
      have numeral := written.isNumeral (by decide) (by decide)
      split
      next digits => exact absurd numeral (not_isNumeral_marked (Or.inl rfl) digits address)
      next digits => exact absurd numeral (not_isNumeral_marked (Or.inr rfl) digits address)
      next => exact Text.natural?_of_isNumeral numeral _
  | hexadecimal letter written =>
      have numeral := written.isNumeral (by decide) (by decide)
      rcases letter with rfl | rfl
      · exact Text.natural?_of_isNumeral numeral _
      · exact Text.natural?_of_isNumeral numeral _

theorem HoldsAddress.address?_eq {text : List Char} {address : Nat}
    (holds : HoldsAddress text address) :
    address? text = if address < 2 ^ 64 then some address else none := by
  obtain ⟨before, core, after, split, blankBefore, blankAfter, written⟩ := holds
  have visible : ∀ c ∈ core, Text.isBlank c = false := fun c member =>
    isBlank_of_code (written.code member)
  apply written.address?_eq
  rw [Text.trim_eq_iff]
  constructor
  · exact ⟨before, after, split, blankBefore, blankAfter⟩
  · intro c first
    exact visible c (List.mem_of_head? first)
  · intro c last
    exact visible c (List.mem_of_getLast? last)

theorem offsets?_of_holds {first second third : List Char} {vddio vddq vpp : Nat}
    (holdsFirst : HoldsAddress first vddio) (holdsSecond : HoldsAddress second vddq)
    (holdsThird : HoldsAddress third vpp) :
    offsets? (first ++ ',' :: (second ++ ',' :: third)) =
      if vddio < 2 ^ 64 ∧ vddq < 2 ^ 64 ∧ vpp < 2 ^ 64 then some ⟨vddio, vddq, vpp⟩
      else none := by
  have pieces := splitOn_three
    ⟨holdsFirst.no_comma, holdsSecond.no_comma, holdsThird.no_comma⟩
  simp only [offsets?, pieces, List.map_cons, List.map_nil, holdsFirst.address?_eq,
    holdsSecond.address?_eq, holdsThird.address?_eq]
  generalize 2 ^ 64 = limit
  by_cases smallFirst : vddio < limit
  · by_cases smallSecond : vddq < limit
    · by_cases smallThird : vpp < limit <;> simp [smallFirst, smallSecond, smallThird]
    · simp [smallSecond]
  · simp [smallFirst]

/-- The offsets by themselves are never at fault when they are spelled. -/
theorem ofSettings_of_offsets {settings : Settings} {text : String} {offsets : RailOffsets}
    (held : settings "RYZEN_AOD_OFFSETS" = some text)
    (spelled : SpellsOffsets text.toList offsets)
    (limits : ∀ which : LimitSetting, ¬(Setting.limit which).Malformed settings) :
    ∃ configuration, ofSettings settings = .ok configuration ∧
      configuration.railOffsets = offsets := by
  have clean : ¬∃ fault, ofSettings settings = .error fault := by
    rw [exists_error_iff]
    intro found
    obtain ⟨setting, -, malformed⟩ := found
    cases setting with
    | path which =>
        obtain ⟨path, -, unspelled⟩ := malformed
        exact unspelled path rfl
    | railOffsets =>
        obtain ⟨other, known, unspelled⟩ := malformed
        obtain rfl := Option.some.inj (held.symm.trans known)
        exact unspelled offsets spelled
    | limit which => exact limits which malformed
  cases read : ofSettings settings with
  | error fault => exact absurd ⟨fault, read⟩ clean
  | ok configuration =>
      have takes := (ofSettings_eq_ok_iff settings configuration).mp read .railOffsets
      have taken := takes.set text held
      refine ⟨configuration, rfl, ?_⟩
      have found := (offsets?_eq_some_iff _ _).mpr spelled
      exact Option.some.inj (((offsets?_eq_some_iff _ _).mpr taken).symm.trans found)

theorem ofSettings_of_unspelled {settings : Settings} {text : String}
    (held : settings "RYZEN_AOD_OFFSETS" = some text)
    (unspelled : ∀ offsets, ¬SpellsOffsets text.toList offsets) :
    ofSettings settings = .error (.malformedOffsets "RYZEN_AOD_OFFSETS" text) := by
  rw [ofSettings_eq_error_iff]
  refine ⟨.railOffsets, text, ⟨⟨text, held, unspelled⟩, [], _, rfl, ?_⟩, held, rfl⟩
  intro earlier member
  cases member

/-- A setting of three written addresses yields them if they fit into 64 bits and is refused if
one does not; a setting is accepted just when it spells three addresses, and those are taken. -/
theorem rail_offsets_read_exactly (settings : Settings) (text : String)
    (held : settings "RYZEN_AOD_OFFSETS" = some text) :
    (∀ first second third vddio vddq vpp,
      text.toList = first ++ ',' :: (second ++ ',' :: third) →
      HoldsAddress first vddio → HoldsAddress second vddq → HoldsAddress third vpp →
      (vddio < 2 ^ 64 ∧ vddq < 2 ^ 64 ∧ vpp < 2 ^ 64 →
        (∀ which : LimitSetting, ¬(Setting.limit which).Malformed settings) →
        ∃ configuration, ofSettings settings = .ok configuration ∧
          configuration.railOffsets = ⟨vddio, vddq, vpp⟩) ∧
      (¬(vddio < 2 ^ 64 ∧ vddq < 2 ^ 64 ∧ vpp < 2 ^ 64) →
        ofSettings settings = .error (.malformedOffsets "RYZEN_AOD_OFFSETS" text))) ∧
    (∀ offsets, SpellsOffsets text.toList offsets →
      (∀ which : LimitSetting, ¬(Setting.limit which).Malformed settings) →
      ∃ configuration, ofSettings settings = .ok configuration ∧
        configuration.railOffsets = offsets) ∧
    (∀ configuration, ofSettings settings = .ok configuration →
      SpellsOffsets text.toList configuration.railOffsets) ∧
    ((∀ offsets, ¬SpellsOffsets text.toList offsets) →
      ofSettings settings = .error (.malformedOffsets "RYZEN_AOD_OFFSETS" text)) := by
  refine ⟨?_, fun offsets => ofSettings_of_offsets held, ?_, ofSettings_of_unspelled held⟩
  · intro first second third vddio vddq vpp joined holdsFirst holdsSecond holdsThird
    have parsed := offsets?_of_holds holdsFirst holdsSecond holdsThird
    rw [← joined] at parsed
    constructor
    · intro small limits
      rw [if_pos small, offsets?_eq_some_iff] at parsed
      exact ofSettings_of_offsets held parsed limits
    · intro large
      rw [if_neg large] at parsed
      apply ofSettings_of_unspelled held
      intro offsets spelled
      rw [← offsets?_eq_some_iff, parsed] at spelled
      cases spelled
  · intro configuration read
    exact ((ofSettings_eq_ok_iff settings configuration).mp read .railOffsets).set text held

/-- A hexadecimal address in mixed case after zeros, a decimal one and one behind a tabulator. -/
theorem rail_offsets_read_in_mixed_forms :
    ∃ configuration,
      ofSettings (fun key =>
        if key = "RYZEN_AOD_OFFSETS" then some "0X0023eC, 0009088,\t0x2384 " else none) =
          .ok configuration ∧
        configuration.railOffsets = ⟨9196, 9088, 9092⟩ := by
  have first : HoldsAddress "0X0023eC".toList 9196 :=
    ⟨[], '0' :: 'X' :: "0023eC".toList, [], rfl, by simp, by simp,
      .hexadecimal (Or.inr rfl) ⟨2, by decide⟩⟩
  have second : HoldsAddress " 0009088".toList 9088 :=
    ⟨[' '], "0009088".toList, [], rfl, by simp [Text.isBlank], by simp, .decimal ⟨3, by decide⟩⟩
  have third : HoldsAddress "\t0x2384 ".toList 9092 :=
    ⟨['\t'], '0' :: 'x' :: "2384".toList, [' '], rfl, by simp [Text.isBlank],
      by simp [Text.isBlank], .hexadecimal (Or.inl rfl) ⟨0, by decide⟩⟩
  apply ((rail_offsets_read_exactly _ "0X0023eC, 0009088,\t0x2384 " rfl).1
    _ _ _ _ _ _ rfl first second third).1
  · decide
  · intro which malformed
    obtain ⟨other, set, -⟩ := malformed
    cases which <;> cases set

end Configuration

end SmuTelemetry
