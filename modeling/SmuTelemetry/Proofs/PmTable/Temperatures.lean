import SmuTelemetry.Proofs.Binary32.Unsigned
import SmuTelemetry.Proofs.PmTable.PlausibleReadings

/-!
Die and processor temperature. The die temperature is that of the first plausible sensor of
two, else the mean of both where both are positive; the processor temperature repeats a
positive die temperature and is otherwise searched for. Where only positive temperatures are
plausible every die temperature is positive, so the processor temperature always repeats it
and the search never decides between the two.
-/

namespace SmuTelemetry

set_option autoImplicit false

namespace Bounds

theorem positive_of_mem {bounds : Bounds} (low : 0 < bounds.low) {value : Binary32}
    (inside : value ∈ bounds) : 0 < value :=
  Binary32.lt_of_lt_of_le low inside.1

end Bounds

namespace PmTable

theorem dieTemperature?_of_short {table : PmTable} (short : table.length < 450)
    (bounds : Bounds) : table.dieTemperature? bounds = none := by
  have missing : table[dieSensors.2]? = none := List.getElem?_eq_none (Nat.le_of_lt_succ short)
  rw [dieTemperature?, missing]
  split <;> simp_all

theorem dieTemperature?_of_held {table : PmTable} {first second : Binary32}
    (firstHeld : table[448]? = some first) (secondHeld : table[449]? = some second)
    (bounds : Bounds) :
    table.dieTemperature? bounds =
      if first ∈ bounds then some first
      else if second ∈ bounds then some second
      else if 0 < first ∧ 0 < second then some ((first + second) * .ofFraction 1 2)
      else none := by
  have firstSensor : table[dieSensors.1]? = some first := firstHeld
  have secondSensor : table[dieSensors.2]? = some second := secondHeld
  rw [dieTemperature?, firstSensor, secondSensor]
  simp only [Bounds.contains_iff_mem]

theorem dieTemperature?_outside {bounds : Bounds} {table : PmTable} {die : Binary32}
    (found : table.dieTemperature? bounds = some die) (outside : die ∉ bounds) :
    ∃ first second, table[448]? = some first ∧ table[449]? = some second ∧
      first ∉ bounds ∧ second ∉ bounds ∧ 0 < first ∧ 0 < second ∧
      die = (first + second) * .ofFraction 1 2 := by
  obtain ⟨first, second, firstHeld, secondHeld, -⟩ := dieTemperature?_eq_some found
  refine ⟨first, second, firstHeld, secondHeld, ?_⟩
  rw [dieTemperature?_of_held firstHeld secondHeld] at found
  split_ifs at found with firstInside secondInside positive
  · cases found
    exact absurd firstInside outside
  · cases found
    exact absurd secondInside outside
  · exact ⟨firstInside, secondInside, positive.1, positive.2, (Option.some.inj found).symm⟩

theorem dieTemperature?_positive {bounds : Bounds} (low : 0 < bounds.low) {table : PmTable}
    {die : Binary32} (found : table.dieTemperature? bounds = some die) : 0 < die := by
  obtain ⟨first, second, -, -, origin⟩ := dieTemperature?_eq_some found
  rcases origin with ⟨rfl, inside⟩ | ⟨rfl, inside⟩ | ⟨rfl, firstPositive, secondPositive⟩
  · exact Bounds.positive_of_mem low inside
  · exact Bounds.positive_of_mem low inside
  · exact Binary32.mean_positive firstPositive secondPositive

theorem cpuTemperature?_of_positive {die : Binary32} (positive : 0 < die) (bounds : Bounds)
    (table : PmTable) : table.cpuTemperature? bounds (some die) = some die :=
  if_pos positive

theorem cpuTemperature?_of_not_positive {die : Option Binary32}
    (notPositive : ∀ sensed, die = some sensed → ¬0 < sensed) (bounds : Bounds)
    (table : PmTable) :
    table.cpuTemperature? bounds die = table.firstPlausible? temperatureCandidates bounds := by
  cases die with
  | none => rfl
  | some sensed => exact if_neg (notPositive sensed rfl)

theorem dieTemperature?_set (bounds : Bounds) (table : PmTable) (value : Binary32) :
    dieTemperature? bounds (table.set 1 value) = table.dieTemperature? bounds := by
  have first : (table.set 1 value)[dieSensors.1]? = table[dieSensors.1]? :=
    List.getElem?_set_ne (by decide)
  have second : (table.set 1 value)[dieSensors.2]? = table[dieSensors.2]? :=
    List.getElem?_set_ne (by decide)
  rw [dieTemperature?, dieTemperature?, first, second]

/-- Where a decoder takes the two temperatures of a table from. -/
structure FollowsSensors (bounds : Bounds) (decoded : PmTable → Metrics) (table : PmTable) :
    Prop where
  dieMissing : table.length < 450 → (decoded table).tdie = none
  dieChosen : ∀ first second, table[448]? = some first → table[449]? = some second →
    (decoded table).tdie =
      if first ∈ bounds then some first
      else if second ∈ bounds then some second
      else if 0 < first ∧ 0 < second then some ((first + second) * .ofFraction 1 2)
      else none
  cpuRepeats : ∀ die, (decoded table).tdie = some die → 0 < die →
    (decoded table).cpuTemp = some die
  cpuSearched : (∀ die, (decoded table).tdie = some die → ¬0 < die) →
    SelectsFirst (fun index => some (table[index]?.getD 0)) [1, 448, 449] bounds
      (decoded table).cpuTemp
  cpuRepeatsAlways : 0 < bounds.low → ∀ die, (decoded table).tdie = some die →
    (decoded table).cpuTemp = some die
  preferredUnused : 0 < bounds.low → (decoded table).tdie ≠ none → ∀ value,
    (decoded (table.set 1 value)).cpuTemp = (decoded table).cpuTemp
  cpuOutside : 0 < bounds.low → ∀ temperature, (decoded table).cpuTemp = some temperature →
    temperature ∉ bounds →
      ∃ first second, table[448]? = some first ∧ table[449]? = some second ∧
        first ∉ bounds ∧ second ∉ bounds ∧ 0 < first ∧ 0 < second ∧
        temperature = (first + second) * .ofFraction 1 2

end PmTable

namespace Layout

variable (layout : Layout) (named : List NamedSlot) (addressing : Addressing)
  (limits : PlausibilityLimits) {table : PmTable}

theorem tdie_metrics (long : PmTable.minLength ≤ table.length) :
    (layout.metrics named addressing limits table).tdie =
      table.dieTemperature? limits.temperature := by
  rw [metrics, if_neg (Nat.not_lt.mpr long)]
  rfl

theorem cpuTemp_metrics (long : PmTable.minLength ≤ table.length) :
    (layout.metrics named addressing limits table).cpuTemp =
      table.cpuTemperature? limits.temperature (layout.metrics named addressing limits table).tdie := by
  rw [metrics, if_neg (Nat.not_lt.mpr long)]
  rfl

theorem cpuTemp_metrics_of_die (low : 0 < limits.temperature.low)
    (long : PmTable.minLength ≤ table.length) {die : Binary32}
    (found : (layout.metrics named addressing limits table).tdie = some die) :
    (layout.metrics named addressing limits table).cpuTemp = some die := by
  rw [cpuTemp_metrics layout named addressing limits long, found]
  rw [tdie_metrics layout named addressing limits long] at found
  exact PmTable.cpuTemperature?_of_positive (PmTable.dieTemperature?_positive low found) _ _

theorem metrics_followsSensors (long : PmTable.minLength ≤ table.length) :
    PmTable.FollowsSensors limits.temperature (layout.metrics named addressing limits) table := by
  have die := tdie_metrics layout named addressing limits long
  have cpu := cpuTemp_metrics layout named addressing limits long
  have repeated : 0 < limits.temperature.low → ∀ temperature,
      (layout.metrics named addressing limits table).tdie = some temperature →
        (layout.metrics named addressing limits table).cpuTemp = some temperature :=
    fun low _ => cpuTemp_metrics_of_die layout named addressing limits low long
  constructor
  case dieMissing =>
    intro short
    rw [die]
    exact PmTable.dieTemperature?_of_short short _
  case dieChosen =>
    intro first second firstHeld secondHeld
    rw [die]
    exact PmTable.dieTemperature?_of_held firstHeld secondHeld _
  case cpuRepeats =>
    intro temperature found positive
    rw [cpu, found]
    exact PmTable.cpuTemperature?_of_positive positive _ _
  case cpuSearched =>
    intro notPositive
    rw [cpu, PmTable.cpuTemperature?_of_not_positive notPositive]
    exact table.firstPlausible?_selectsFirst PmTable.temperatureCandidates _
  case cpuRepeatsAlways => exact repeated
  case preferredUnused =>
    intro low present value
    obtain ⟨temperature, found⟩ := Option.ne_none_iff_exists'.mp present
    have longer : PmTable.minLength ≤ (table.set 1 value).length := by rwa [List.length_set]
    have same : (layout.metrics named addressing limits (table.set 1 value)).tdie =
        some temperature := by
      rw [tdie_metrics layout named addressing limits longer, PmTable.dieTemperature?_set, ← die,
        found]
    rw [repeated low temperature found,
      cpuTemp_metrics_of_die layout named addressing limits low longer same]
  case cpuOutside =>
    intro low temperature found outside
    cases sensed : (layout.metrics named addressing limits table).tdie with
    | none =>
        rw [cpu, sensed] at found
        have inside := Bounds.contains_iff_mem.mp (Bounds.contains_of_first? found)
        exact absurd inside outside
    | some taken =>
        rw [repeated low taken sensed] at found
        rw [← Option.some.inj found] at outside ⊢
        exact PmTable.dieTemperature?_outside (die.symm.trans sensed) outside

/-- The die temperature is that of the first plausible sensor, else the mean of two positive
ones; the processor temperature repeats it where it is positive and is else the first plausible
candidate. Under positive bounds it always repeats a die temperature, whatever the preferred
candidate holds, and only a mean can lie outside the bounds. -/
theorem decoded_temperatures (limits : PlausibilityLimits) (table : PmTable)
    (long : 4 ≤ table.length) :
    (∀ (layout : Layout) (named : List NamedSlot) (addressing : Addressing),
      layout.WindowsFit → ∃ decoded : PmTable → Metrics,
        (∀ other, layout.decode named addressing limits other = .ok (decoded other)) ∧
          PmTable.FollowsSensors limits.temperature decoded table) ∧
      ∀ version codename, PmTable.FollowsSensors limits.temperature
        (PmTable.decode limits version codename) table := by
  constructor
  · intro layout named addressing fit
    refine ⟨layout.metrics named addressing limits, ?_,
      metrics_followsSensors layout named addressing limits long⟩
    intro other
    exact decode_eq_metrics fit named addressing limits other
  · intro version codename
    obtain ⟨layout, named, addressing, selected⟩ := exists_decode_eq_metrics version codename
    rw [selected]
    exact metrics_followsSensors layout named addressing limits long

/-- Both sensors are hotter than plausible, and their mean is shown beside a preferred candidate
of 50 degrees. A table too short for the sensors shows that candidate. -/
theorem decoded_temperatures_of_hot_sensors :
    let table : PmTable := List.replicate 448 50 ++ [200, 300]
    let short : PmTable := [10, 50, 20, 30]
    4 ≤ table.length ∧ graniteRidge.WindowsFit ∧
      ∃ decoded : PmTable → Metrics,
        (∀ other, graniteRidge.decode graniteRidge.named .floatIndex {} other =
          .ok (decoded other)) ∧
        PmTable.FollowsSensors ({} : PlausibilityLimits).temperature decoded table ∧
        (decoded table).tdie = some 250 ∧ (decoded table).cpuTemp = some 250 ∧
        4 ≤ short.length ∧ (PmTable.decode {} 0x380804 .vermeer short).tdie = none ∧
        (PmTable.decode {} 0x380804 .vermeer short).cpuTemp = some 50 := by
  intro table short
  have long : 4 ≤ table.length := by decide +kernel
  have first : table[448]? = some 200 := by decide +kernel
  have second : table[449]? = some 300 := by decide +kernel
  have fit : graniteRidge.WindowsFit := ⟨by decide, by decide⟩
  obtain ⟨decoded, decodes, follows⟩ :=
    (decoded_temperatures {} table long).1 graniteRidge graniteRidge.named .floatIndex fit
  have die : (decoded table).tdie = some 250 :=
    (follows.dieChosen 200 300 first second).trans (by decide)
  have searches := (decoded_temperatures {} short (by decide)).2 0x380804 .vermeer
  have missing := searches.dieMissing (by decide)
  have chosen := ((searches.cpuSearched (by simp [missing])).chosen 50).mpr
    ⟨[], 1, [448, 449], rfl, rfl, by decide, by simp⟩
  exact ⟨long, fit, decoded, decodes, follows, die,
    follows.cpuRepeatsAlways (by decide) 250 die, by decide, missing, chosen⟩

end Layout

end SmuTelemetry
