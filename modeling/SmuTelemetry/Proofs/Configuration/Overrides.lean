import SmuTelemetry.Proofs.Configuration.Spelling

/-!
Settings override the configuration one by one. Each setting has its own key, its own part of
the configuration and its own default; what the other settings hold is of no account for it,
except that the first malformed one, in a fixed order, is the one that is reported.
-/

namespace SmuTelemetry

set_option autoImplicit false

namespace Configuration

inductive PathSetting where
  | smu
  | acpiTables
  | memory
  | msr
  | cpufreq
deriving DecidableEq, Repr

inductive LimitSetting where
  | voltage
  | power
  | current
  | temperature
  | coreClock
deriving DecidableEq, Repr

inductive Setting where
  | path (which : PathSetting)
  | railOffsets
  | limit (which : LimitSetting)
deriving DecidableEq, Repr

namespace PathSetting

def key : PathSetting → String
  | smu => "RYZEN_SMU_PATH"
  | acpiTables => "RYZEN_ACPI_TABLES_PATH"
  | memory => "RYZEN_DEVMEM_PATH"
  | msr => "RYZEN_MSR_PATH"
  | cpufreq => "RYZEN_CPUFREQ_PATH"

def value (paths : InterfacePaths) : PathSetting → String
  | smu => paths.smu
  | acpiTables => paths.acpiTables
  | memory => paths.memory
  | msr => paths.msr
  | cpufreq => paths.cpufreq

end PathSetting

namespace LimitSetting

def key : LimitSetting → String
  | voltage => "RYZEN_LIMIT_VOLTAGE_MV"
  | power => "RYZEN_LIMIT_POWER_W"
  | current => "RYZEN_LIMIT_CURRENT_A"
  | temperature => "RYZEN_LIMIT_TEMP_C"
  | coreClock => "RYZEN_LIMIT_CORE_CLOCK_GHZ"

def value (limits : PlausibilityLimits) : LimitSetting → Bounds
  | voltage => limits.voltage
  | power => limits.power
  | current => limits.current
  | temperature => limits.temperature
  | coreClock => limits.coreClock

end LimitSetting

namespace Setting

def key : Setting → String
  | path which => which.key
  | railOffsets => "RYZEN_AOD_OFFSETS"
  | limit which => which.key

def Value : Setting → Type
  | path _ => String
  | railOffsets => RailOffsets
  | limit _ => Bounds

def value (configuration : Configuration) : (setting : Setting) → setting.Value
  | path which => which.value configuration.paths
  | railOffsets => configuration.railOffsets
  | limit which => which.value configuration.limits

def Spells : (setting : Setting) → String → setting.Value → Prop
  | path _, text, value => value = text
  | railOffsets, text, value => SpellsOffsets text.toList value
  | limit _, text, value => SpellsBounds text.toList value

/-- The settings whose text may be malformed, in the order in which they are checked. -/
def checked : List Setting :=
  [railOffsets, limit .voltage, limit .power, limit .current, limit .temperature,
    limit .coreClock]

def fault (setting : Setting) (text : String) : ConfigFault :=
  match setting with
  | railOffsets => .malformedOffsets setting.key text
  | _ => .malformedRange setting.key text

def expectation : Setting → String
  | railOffsets => "expected three comma-separated byte offsets"
  | _ => "expected min:max with min <= max"

/-- The setting's part of the configuration is its default, or what its text spells. -/
structure Takes (setting : Setting) (held : Option String) (value : setting.Value) : Prop where
  unset : held = none → value = setting.value {}
  set : ∀ text, held = some text → setting.Spells text value

def Malformed (settings : Settings) (setting : Setting) : Prop :=
  ∃ text, settings setting.key = some text ∧ ∀ value, ¬setting.Spells text value

def FirstMalformed (settings : Settings) (setting : Setting) : Prop :=
  Malformed settings setting ∧
    ∃ before after, checked = before ++ setting :: after ∧
      ∀ earlier ∈ before, ¬Malformed settings earlier

def read (settings : Settings) : (setting : Setting) → Except ConfigFault setting.Value
  | path which => .ok (which.value (pathsOf settings))
  | railOffsets => override settings railOffsetsKey {} offsets? .malformedOffsets
  | limit which => overrideBounds settings which.key (which.value {})

end Setting

theorem PathSetting.value_pathsOf (settings : Settings) (which : PathSetting) :
    which.value (pathsOf settings) = (settings which.key).getD (which.value {}) := by
  cases which <;> rfl

namespace Setting

section Override

variable (settings : Settings) (setting : Setting) {parse? : List Char → Option setting.Value}
  (parses : ∀ text value, parse? text.toList = some value ↔ setting.Spells text value)
  (report : String → String → ConfigFault)

include parses

theorem override_eq_ok_iff (value : setting.Value) :
    override settings setting.key (setting.value {}) parse? report = .ok value ↔
      setting.Takes (settings setting.key) value := by
  rw [override]
  constructor
  · intro reads
    constructor
    · intro unset
      rw [unset] at reads
      exact (Except.ok.inj reads).symm
    · intro text held
      rw [held] at reads
      rw [← parses]
      cases parsed : parse? text.toList with
      | none => simp [parsed] at reads
      | some found => simpa [parsed] using reads
  · intro takes
    cases held : settings setting.key with
    | none => rw [takes.unset held]
    | some text => simp [(parses text value).mpr (takes.set text held)]

theorem override_eq_error_iff (fault : ConfigFault) :
    override settings setting.key (setting.value {}) parse? report = .error fault ↔
      ∃ text, settings setting.key = some text ∧ (∀ value, ¬setting.Spells text value) ∧
        fault = report setting.key text := by
  simp only [override, ← parses, ← ne_eq, ← Option.eq_none_iff_forall_ne_some]
  cases held : settings setting.key with
  | none => simp
  | some text => cases parsed : parse? text.toList <;> simp [parsed, eq_comm]

end Override

theorem read_eq_ok_iff (settings : Settings) (setting : Setting) (value : setting.Value) :
    setting.read settings = .ok value ↔ setting.Takes (settings setting.key) value := by
  cases setting with
  | path which =>
      have taken := PathSetting.value_pathsOf settings which
      constructor
      · intro reads
        obtain rfl := Except.ok.inj reads
        constructor
        · intro unset
          exact taken.trans (congrArg (Option.getD · _) unset)
        · intro text held
          exact taken.trans (congrArg (Option.getD · _) held)
      · intro takes
        apply congrArg Except.ok
        cases held : settings which.key with
        | none => rw [takes.unset held, taken, held]; rfl
        | some text => rw [takes.set text held, taken, held]; rfl
  | railOffsets =>
      exact override_eq_ok_iff settings railOffsets
        (fun text => offsets?_eq_some_iff text.toList) _ value
  | limit which =>
      exact override_eq_ok_iff settings (limit which)
        (fun text => bounds?_eq_some_iff text.toList) _ value

theorem read_eq_error_iff (settings : Settings) (setting : Setting) (fault : ConfigFault) :
    setting.read settings = .error fault ↔
      ∃ text, settings setting.key = some text ∧ (∀ value, ¬setting.Spells text value) ∧
        fault = setting.fault text := by
  cases setting with
  | path which =>
      constructor
      · intro reads
        cases reads
      · intro malformed
        obtain ⟨text, -, unspelled, -⟩ := malformed
        exact absurd rfl (unspelled text)
  | railOffsets =>
      exact override_eq_error_iff settings railOffsets
        (fun text => offsets?_eq_some_iff text.toList) _ fault
  | limit which =>
      exact override_eq_error_iff settings (limit which)
        (fun text => bounds?_eq_some_iff text.toList) _ fault

theorem Takes.unique {setting : Setting} {held : Option String} {first second : setting.Value}
    (takesFirst : setting.Takes held first) (takesSecond : setting.Takes held second) :
    first = second := by
  have firstRead := (read_eq_ok_iff (fun _ => held) setting first).mpr takesFirst
  have secondRead := (read_eq_ok_iff (fun _ => held) setting second).mpr takesSecond
  exact Except.ok.inj (firstRead.symm.trans secondRead)

def fault? (settings : Settings) (setting : Setting) : Option ConfigFault :=
  match setting.read settings with
  | .ok _ => none
  | .error fault => some fault

theorem fault?_eq_some_iff (settings : Settings) (setting : Setting) (fault : ConfigFault) :
    setting.fault? settings = some fault ↔ setting.read settings = .error fault := by
  rw [fault?]
  cases setting.read settings <;> simp

theorem fault?_eq_none_iff (settings : Settings) (setting : Setting) :
    setting.fault? settings = none ↔ ¬setting.Malformed settings := by
  have malformed : setting.Malformed settings ↔ ∃ fault, setting.fault? settings = some fault := by
    simp only [fault?_eq_some_iff, read_eq_error_iff, Malformed]
    constructor
    · intro known
      obtain ⟨text, held, unspelled⟩ := known
      exact ⟨_, text, held, unspelled, rfl⟩
    · intro known
      obtain ⟨_, text, held, unspelled, -⟩ := known
      exact ⟨text, held, unspelled⟩
  rw [malformed, ← Option.isSome_iff_exists, Option.not_isSome_iff_eq_none]

theorem eq_of_value_eq {first second : Configuration}
    (same : ∀ setting : Setting, setting.value first = setting.value second) :
    first = second := by
  obtain ⟨firstPaths, firstLimits, firstOffsets⟩ := first
  obtain ⟨secondPaths, secondLimits, secondOffsets⟩ := second
  have paths : firstPaths = secondPaths := by
    have same := fun which => same (path which)
    cases firstPaths
    cases secondPaths
    exact (InterfacePaths.mk.injEq ..).mpr
      ⟨same .smu, same .acpiTables, same .memory, same .msr, same .cpufreq⟩
  have limits : firstLimits = secondLimits := by
    have same := fun which => same (limit which)
    cases firstLimits
    cases secondLimits
    exact (PlausibilityLimits.mk.injEq ..).mpr
      ⟨same .voltage, same .power, same .current, same .temperature, same .coreClock⟩
  exact (Configuration.mk.injEq ..).mpr ⟨paths, limits, same railOffsets⟩

end Setting

/-- The checked settings are read one after the other, and the first fault ends the reading. -/
theorem ofSettings_cases (settings : Settings) :
    (∃ fault, ofSettings settings = .error fault ∧
        Setting.checked.findSome? (Setting.fault? settings) = some fault) ∨
      ∃ configuration, ofSettings settings = .ok configuration ∧
        ∀ setting : Setting, setting.read settings = .ok (setting.value configuration) := by
  have chain : ofSettings settings = do
      let railOffsets ← Setting.read settings .railOffsets
      let voltage ← Setting.read settings (.limit .voltage)
      let power ← Setting.read settings (.limit .power)
      let current ← Setting.read settings (.limit .current)
      let temperature ← Setting.read settings (.limit .temperature)
      let coreClock ← Setting.read settings (.limit .coreClock)
      return ⟨pathsOf settings, ⟨voltage, power, current, temperature, coreClock⟩,
        railOffsets⟩ := rfl
  rw [chain]
  -- The first reading that fails ends both the reading and the search through the checks.
  simp only [Setting.checked, List.findSome?_cons, Setting.fault?]
  cases offsets : Setting.read settings .railOffsets with
  | error fault => exact Or.inl ⟨fault, rfl, rfl⟩
  | ok railOffsets =>
  cases voltages : Setting.read settings (.limit .voltage) with
  | error fault => exact Or.inl ⟨fault, rfl, rfl⟩
  | ok voltage =>
  cases powers : Setting.read settings (.limit .power) with
  | error fault => exact Or.inl ⟨fault, rfl, rfl⟩
  | ok power =>
  cases currents : Setting.read settings (.limit .current) with
  | error fault => exact Or.inl ⟨fault, rfl, rfl⟩
  | ok current =>
  cases temperatures : Setting.read settings (.limit .temperature) with
  | error fault => exact Or.inl ⟨fault, rfl, rfl⟩
  | ok temperature =>
  cases coreClocks : Setting.read settings (.limit .coreClock) with
  | error fault => exact Or.inl ⟨fault, rfl, rfl⟩
  | ok coreClock =>
  refine Or.inr ⟨_, rfl, ?_⟩
  intro setting
  cases setting with
  | path which => rfl
  | railOffsets => exact offsets
  | limit which =>
      cases which with
      | voltage => exact voltages
      | power => exact powers
      | current => exact currents
      | temperature => exact temperatures
      | coreClock => exact coreClocks

theorem ofSettings_eq_ok_iff (settings : Settings) (configuration : Configuration) :
    ofSettings settings = .ok configuration ↔
      ∀ setting : Setting, setting.Takes (settings setting.key) (setting.value configuration) := by
  simp only [← Setting.read_eq_ok_iff]
  obtain ⟨fault, failed, first⟩ | ⟨found, succeeded, reads⟩ := ofSettings_cases settings
  · constructor
    · intro same
      rw [failed] at same
      cases same
    · intro reads
      obtain ⟨setting, -, faulty⟩ := List.exists_of_findSome?_eq_some first
      rw [Setting.fault?_eq_some_iff, reads setting] at faulty
      cases faulty
  · rw [succeeded, Except.ok.injEq]
    constructor
    · intro same
      subst same
      exact reads
    · intro others
      apply Setting.eq_of_value_eq
      intro setting
      exact Except.ok.inj ((reads setting).symm.trans (others setting))

theorem ofSettings_eq_error_iff (settings : Settings) (fault : ConfigFault) :
    ofSettings settings = .error fault ↔
      ∃ (setting : Setting) (text : String), setting.FirstMalformed settings ∧
        settings setting.key = some text ∧ fault = setting.fault text := by
  have search : ofSettings settings = .error fault ↔
      Setting.checked.findSome? (Setting.fault? settings) = some fault := by
    obtain ⟨found, failed, first⟩ | ⟨configuration, succeeded, reads⟩ := ofSettings_cases settings
    · rw [failed, first, Except.error.injEq, Option.some.injEq]
    · have clean : Setting.checked.findSome? (Setting.fault? settings) = none := by
        rw [List.findSome?_eq_none_iff]
        intro setting _
        rw [Setting.fault?, reads setting]
      simp [succeeded, clean]
  rw [search, List.findSome?_eq_some_iff]
  simp only [Setting.fault?_eq_some_iff, Setting.read_eq_error_iff, Setting.fault?_eq_none_iff]
  constructor
  · intro found
    obtain ⟨before, setting, after, order, ⟨text, held, unspelled, same⟩, clean⟩ := found
    exact ⟨setting, text, ⟨⟨text, held, unspelled⟩, before, after, order, clean⟩, held, same⟩
  · intro found
    obtain ⟨setting, text, ⟨⟨other, held, unspelled⟩, before, after, order, clean⟩, known, same⟩ :=
      found
    obtain rfl := Option.some.inj (held.symm.trans known)
    exact ⟨before, setting, after, order, ⟨other, held, unspelled, same⟩, clean⟩

/-- The power is checked before the temperature, whatever the order of the settings. -/
example : ofSettings (fun key =>
    if key = "RYZEN_LIMIT_TEMP_C" then some "nan:150"
    else if key = "RYZEN_LIMIT_POWER_W" then some "400:0.5" else none) =
      .error (.malformedRange "RYZEN_LIMIT_POWER_W" "400:0.5") := by decide

theorem exists_error_iff (settings : Settings) :
    (∃ fault, ofSettings settings = .error fault) ↔
      ∃ setting ∈ Setting.checked, setting.Malformed settings := by
  obtain ⟨fault, failed, first⟩ | ⟨configuration, succeeded, reads⟩ := ofSettings_cases settings
  · obtain ⟨setting, checked, faulty⟩ := List.exists_of_findSome?_eq_some first
    have malformed : setting.Malformed settings := by
      rw [← not_not (a := setting.Malformed settings), ← Setting.fault?_eq_none_iff, faulty]
      exact Option.some_ne_none fault
    exact iff_of_true ⟨fault, failed⟩ ⟨setting, checked, malformed⟩
  · apply iff_of_false
    · simp [succeeded]
    · intro found
      obtain ⟨setting, -, malformed⟩ := found
      apply (Setting.fault?_eq_none_iff settings setting).mp _ malformed
      rw [Setting.fault?, reads setting]

theorem Setting.message_fault {setting : Setting} (checked : setting ∈ Setting.checked)
    (text : String) :
    (setting.fault text).message =
      setting.key ++ "=" ++ Text.quote text ++ ", " ++ setting.expectation := by
  cases setting with
  | path which => simp [Setting.checked] at checked
  | railOffsets => simp [fault, ConfigFault.message, expectation, toString, String.append_assoc]
  | limit which => simp [fault, ConfigFault.message, expectation, toString, String.append_assoc]

def ProperBounds (bounds : Bounds) : Prop :=
  bounds.low.isFinite = true ∧ bounds.high.isFinite = true ∧ bounds.low ≤ bounds.high

theorem properBounds_of_spells {text : List Char} {bounds : Bounds}
    (spells : SpellsBounds text bounds) : ProperBounds bounds := by
  obtain ⟨_, _, -, -, ⟨_, -, -, lowFinite⟩, ⟨_, -, -, highFinite⟩, ordered⟩ := spells
  exact ⟨lowFinite, highFinite, ordered⟩

theorem properBounds_default (which : LimitSetting) : ProperBounds (which.value {}) := by
  unfold ProperBounds
  cases which <;> decide

theorem properBounds_of_takes {which : LimitSetting} {held : Option String} {bounds : Bounds}
    (takes : (Setting.limit which).Takes held bounds) : ProperBounds bounds := by
  cases held with
  | none => exact takes.unset rfl ▸ properBounds_default which
  | some text => exact properBounds_of_spells (takes.set text rfl)

/-- Reading the settings fails just when a checked one is malformed, and the first such one is
named; otherwise every part of the configuration comes from its own setting alone, or is its
default, and every limit has finite bounds in order. -/
theorem settings_override_independently (settings : Settings) :
    ((∃ fault, ofSettings settings = .error fault) ↔
        ∃ setting ∈ Setting.checked, setting.Malformed settings) ∧
      (∀ fault, ofSettings settings = .error fault ↔
        ∃ (setting : Setting) (text : String), setting.FirstMalformed settings ∧
          settings setting.key = some text ∧ fault = setting.fault text) ∧
      (∀ setting ∈ Setting.checked, ∀ text, (setting.fault text).message =
        setting.key ++ "=" ++ Text.quote text ++ ", " ++ setting.expectation) ∧
      (∀ configuration, ofSettings settings = .ok configuration ↔
        ∀ setting : Setting,
          setting.Takes (settings setting.key) (setting.value configuration)) ∧
      (∀ others first second, ofSettings settings = .ok first → ofSettings others = .ok second →
        ∀ setting : Setting, settings setting.key = others setting.key →
          setting.value first = setting.value second) ∧
      ∀ configuration, ofSettings settings = .ok configuration →
        ∀ which : LimitSetting, ProperBounds (which.value configuration.limits) := by
  refine ⟨exists_error_iff settings, ofSettings_eq_error_iff settings, ?_,
    ofSettings_eq_ok_iff settings, ?_, ?_⟩
  · intro setting checked text
    exact Setting.message_fault checked text
  · intro others first second readFirst readSecond setting same
    have takesFirst := (ofSettings_eq_ok_iff settings first).mp readFirst setting
    have takesSecond := (ofSettings_eq_ok_iff others second).mp readSecond setting
    rw [same] at takesFirst
    exact takesFirst.unique takesSecond
  · intro configuration read which
    exact properBounds_of_takes
      ((ofSettings_eq_ok_iff settings configuration).mp read (.limit which))

end Configuration

end SmuTelemetry
