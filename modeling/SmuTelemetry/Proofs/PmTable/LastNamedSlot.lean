import SmuTelemetry.Proofs.Files.Readings
import SmuTelemetry.Proofs.PmTable.PlausibleReadings

/-!
The slot that settles a named field. A list may name a field several times or not at all: a
rail or a clock shows the last slot that names it, and the hotspot the last of its slots whose
value is plausible. So the order of slots of different fields is of no account, and neither is
whether slots count entries or bytes.
-/

namespace SmuTelemetry

set_option autoImplicit false

namespace NamedSlot

def IsLast (condition : NamedSlot → Prop) (named : List NamedSlot) (slot : NamedSlot) : Prop :=
  ∃ before after, named = before ++ slot :: after ∧ condition slot ∧
    ∀ later ∈ after, ¬condition later

variable {condition : NamedSlot → Prop} {named : List NamedSlot}

theorem exists_isLast (met : ∃ slot ∈ named, condition slot) :
    ∃ slot, IsLast condition named slot := by
  induction named using List.reverseRecOn with
  | nil =>
      obtain ⟨slot, member, -⟩ := met
      cases member
  | append_singleton front last ih =>
      by_cases meets : condition last
      · exact ⟨last, front, [], rfl, meets, by simp⟩
      · obtain ⟨slot, member, holds⟩ := met
        have earlier : slot ∈ front := by
          rcases List.mem_append.mp member with inFront | isLast
          · exact inFront
          · rw [List.mem_singleton.mp isLast] at holds
            exact absurd holds meets
        obtain ⟨found, before, after, split, foundMeets, rest⟩ := ih ⟨slot, earlier, holds⟩
        refine ⟨found, before, after ++ [last], by rw [split]; simp, foundMeets, ?_⟩
        intro later laterMember
        rcases List.mem_append.mp laterMember with inAfter | isLast
        · exact rest later inAfter
        · rw [List.mem_singleton.mp isLast]
          exact meets

theorem not_met_of_no_last (absent : ∀ slot, ¬IsLast condition named slot) :
    ∀ slot ∈ named, ¬condition slot := by
  intro slot member meets
  obtain ⟨last, isLast⟩ := exists_isLast ⟨slot, member, meets⟩
  exact absent last isLast

def inBytes (slot : NamedSlot) : NamedSlot := { slot with slot := slot.slot * 4 }

theorem index_inBytes (slot : NamedSlot) :
    slot.inBytes.index .byteOffset = slot.index .floatIndex :=
  Nat.mul_div_cancel slot.slot (by decide)

end NamedSlot

namespace Metrics

section Pass

variable (limits : PlausibilityLimits) (addressing : Addressing) (table : PmTable)

def Sets (field : MetricField) (slot : NamedSlot) : Prop :=
  slot.field = field ∧ accepted? limits field (table.entry (slot.index addressing)) ≠ none

theorem accepted?_eq_some {field : MetricField} {value : Binary32}
    (accepted : accepted? limits field value ≠ none) :
    accepted? limits field value = some value := by
  unfold accepted? at accepted ⊢
  split at accepted
  next hotspot =>
      rw [if_pos hotspot]
      unfold Option.guard at accepted ⊢
      split at accepted
      next inside => rw [if_pos inside]
      next => exact absurd rfl accepted
  next other => rw [if_neg other]

theorem sets_of_rail {field : MetricField} (rail : field ≠ .iodHotspot) :
    Sets limits addressing table field = fun slot => slot.field = field := by
  funext slot
  unfold Sets accepted?
  rw [if_neg rail]
  simp

theorem sets_iodHotspot :
    Sets limits addressing table .iodHotspot = fun slot =>
      slot.field = .iodHotspot ∧ table.entry (slot.index addressing) ∈ limits.temperature := by
  funext slot
  have taken : accepted? limits .iodHotspot (table.entry (slot.index addressing)) ≠ none ↔
      table.entry (slot.index addressing) ∈ limits.temperature := by
    rw [← Bounds.contains_iff_mem]
    cases inside : limits.temperature.contains (table.entry (slot.index addressing)) <;>
      simp [accepted?, Option.guard, inside]
  rw [Sets, taken]

theorem assignNamed_append (front back : List NamedSlot) (metrics : Metrics) :
    assignNamed limits (front ++ back) addressing table metrics =
      assignNamed limits back addressing table
        (assignNamed limits front addressing table metrics) := by
  rw [assignNamed, List.foldl_append]
  rfl

theorem reading_assignNamed_of_unset {named : List NamedSlot} {field : MetricField}
    (unset : ∀ slot ∈ named, ¬Sets limits addressing table field slot) (metrics : Metrics) :
    (assignNamed limits named addressing table metrics).reading field =
      metrics.reading field := by
  have refused : ((NamedSlot.indicesOf named addressing field).map table.entry).findSome?
      (accepted? limits field) = none := by
    rw [List.findSome?_map, List.findSome?_eq_none_iff]
    intro index member
    obtain ⟨slot, slotMember, names, place⟩ := NamedSlot.mem_indicesOf.mp member
    by_contra accepted
    exact unset slot slotMember ⟨names, place ▸ accepted⟩
  rw [reading_assignNamed, refused, Option.none_or]

theorem reading_assignNamed_of_last {named : List NamedSlot} {field : MetricField}
    {slot : NamedSlot}
    (last : NamedSlot.IsLast (Sets limits addressing table field) named slot)
    (metrics : Metrics) :
    (assignNamed limits named addressing table metrics).reading field =
      some (table.entry (slot.index addressing)) := by
  obtain ⟨before, after, rfl, ⟨rfl, accepted⟩, later⟩ := last
  have split : before ++ slot :: after = before ++ [slot] ++ after := by simp
  rw [split, assignNamed_append, reading_assignNamed_of_unset limits addressing table later,
    assignNamed_append]
  change ((assignNamed limits before addressing table metrics).assign limits slot.field
    (table.entry (slot.index addressing))).reading slot.field = _
  rw [reading_assign_self, accepted?_eq_some limits accepted, Option.some_or]

theorem reading_assignNamed_readOr (named : List NamedSlot) (field : MetricField)
    (metrics : Metrics) :
    ReadOr (NamedSlot.IsLast (Sets limits addressing table field) named)
      (fun slot => some (table.entry (slot.index addressing))) (metrics.reading field)
      ((assignNamed limits named addressing table metrics).reading field) := by
  constructor
  · intro slot last
    exact reading_assignNamed_of_last limits addressing table last metrics
  · intro absent
    have unset := NamedSlot.not_met_of_no_last absent
    exact reading_assignNamed_of_unset limits addressing table unset metrics

end Pass

end Metrics

namespace Layout

/-- A rail or a clock is the entry of the last slot that names it, and zero when none does. The
hotspot is the entry of the last of its slots that is plausible, else the shared entry when that
is plausible. -/
structure ReadsLast (named : List NamedSlot) (addressing : Addressing)
    (limits : PlausibilityLimits) (table : PmTable) (metrics : Metrics) : Prop where
  rail : ∀ field, field ≠ .iodHotspot →
    ReadOr (NamedSlot.IsLast (fun slot => slot.field = field) named)
      (fun slot => some (slot.held table addressing)) (some 0) (metrics.reading field)
  hotspot :
    ReadOr
      (NamedSlot.IsLast (fun slot => slot.field = .iodHotspot ∧
        slot.held table addressing ∈ limits.temperature) named)
      (fun slot => some (slot.held table addressing))
      (if table[11]?.getD 0 ∈ limits.temperature then some (table[11]?.getD 0) else none)
      metrics.iodHotspot

section Decoding

variable (layout : Layout) (named : List NamedSlot) (addressing : Addressing)
  (limits : PlausibilityLimits) (table : PmTable)

theorem reading_empty_of_rail {field : MetricField} (rail : field ≠ .iodHotspot) :
    ({} : Metrics).reading field = some 0 := by
  rw [Binary32.zero_eq]
  cases field <;> first | rfl | exact absurd rfl rail

theorem hotspot_fallback (bounds : Bounds) (found : Option Binary32) :
    table.hotspot? bounds found =
      found.or (if table[11]?.getD 0 ∈ bounds then some (table[11]?.getD 0) else none) := by
  have index : PmTable.iodHotspotIndex = 11 := rfl
  rw [PmTable.hotspot?, index, PmTable.entry_eq, Option.filter_some]
  simp only [Bounds.contains_iff_mem]

theorem readings_readsLast :
    ReadsLast named addressing limits table (layout.readings named addressing limits table) where
  rail := by
    intro field rail
    have pass := Metrics.reading_assignNamed_readOr limits addressing table named field {}
    rw [Metrics.sets_of_rail limits addressing table rail, reading_empty_of_rail rail] at pass
    simp only [NamedSlot.entry_index] at pass
    rw [reading_readings layout named addressing limits table rail]
    exact pass
  hotspot := by
    obtain ⟨ofLast, ofNone⟩ :=
      Metrics.reading_assignNamed_readOr limits addressing table named .iodHotspot {}
    rw [Metrics.sets_iodHotspot] at ofLast ofNone
    simp only [NamedSlot.entry_index] at ofLast ofNone
    have shown : (layout.readings named addressing limits table).iodHotspot =
        table.hotspot? limits.temperature
          ((Metrics.assignNamed limits named addressing table {}).reading .iodHotspot) := rfl
    rw [shown, hotspot_fallback]
    constructor
    · intro slot last
      rw [ofLast slot last, Option.some_or]
    · intro absent
      rw [ofNone absent]
      rfl

theorem decode_congr {other : List NamedSlot} {otherAddressing : Addressing}
    (same : Metrics.assignNamed limits other otherAddressing table {} =
      Metrics.assignNamed limits named addressing table {}) :
    layout.decode other otherAddressing limits table =
      layout.decode named addressing limits table := by
  rw [decode, decode, readings_congr layout limits table same]

theorem decode_of_perm {other : List NamedSlot} (same : named.Perm other)
    (once : (named.map NamedSlot.field).Nodup) :
    layout.decode other addressing limits table =
      layout.decode named addressing limits table := by
  apply decode_congr
  have fields : (Metrics.targets named addressing).map Prod.snd = named.map NamedSlot.field := by
    rw [Metrics.targets, List.map_map]
    rfl
  exact (Metrics.assignNamed_of_perm limits table {} (same.map _) (fields ▸ once)).symm

theorem decode_inBytes :
    layout.decode (named.map NamedSlot.inBytes) .byteOffset limits table =
      layout.decode named .floatIndex limits table := by
  apply decode_congr
  have targets : Metrics.targets (named.map NamedSlot.inBytes) .byteOffset =
      Metrics.targets named .floatIndex := by
    rw [Metrics.targets, List.map_map, Metrics.targets]
    apply List.map_congr_left
    intro slot _
    exact congrArg (·, slot.field) slot.index_inBytes
  rw [Metrics.assignNamed_eq_targets, Metrics.assignNamed_eq_targets, targets]

theorem exists_decode_iff_windowsFit (long : PmTable.minLength ≤ table.length) :
    (∃ metrics, layout.decode named addressing limits table = .ok metrics) ↔
      layout.WindowsFit := by
  constructor
  · rintro ⟨metrics, decoded⟩
    rw [decode, if_neg (Nat.not_lt.mpr long)] at decoded
    cases bad : layout.badWindow? with
    | some start =>
        rw [bad] at decoded
        cases decoded
    | none =>
        have ends : layout.coreTempStart + layout.cores < Bytes.addressLimit ∧
            layout.coreVoltageStart + layout.cores < Bytes.addressLimit := by
          simpa [badWindow?] using bad
        exact ⟨ends.1, ends.2⟩
  · intro fit
    exact ⟨_, decode_of_windowsFit fit named addressing limits long⟩

end Decoding

/-- Whatever list of slots is decoded, each named field shows the last slot that sets it. The
order of slots that name different fields makes no difference, and a list of byte offsets is
decoded as the list of entries that start there. -/
theorem last_named_slot_prevails (layout : Layout) (named : List NamedSlot)
    (addressing : Addressing) (limits : PlausibilityLimits) (table : PmTable)
    (long : 4 ≤ table.length) :
    ((∃ metrics, layout.decode named addressing limits table = .ok metrics) ↔
      layout.WindowsFit) ∧
    (∀ metrics, layout.decode named addressing limits table = .ok metrics →
      ReadsLast named addressing limits table metrics) ∧
    (∀ other, named.Perm other → (named.map NamedSlot.field).Nodup →
      layout.decode other addressing limits table =
        layout.decode named addressing limits table) ∧
    layout.decode (named.map NamedSlot.inBytes) .byteOffset limits table =
      layout.decode named .floatIndex limits table := by
  refine ⟨exists_decode_iff_windowsFit layout named addressing limits table long, ?_, ?_,
    decode_inBytes layout named limits table⟩
  · intro metrics decoded
    have fit := (exists_decode_iff_windowsFit layout named addressing limits table long).mp
      ⟨metrics, decoded⟩
    rw [decode_of_windowsFit fit named addressing limits long] at decoded
    rw [← Except.ok.inj decoded]
    exact readings_readsLast layout named addressing limits table
  · intro other same once
    exact decode_of_perm layout named addressing limits table same once

/-- The last hotspot of the list is hotter than plausible, so the one before it is shown; the
last clock is shown whatever it holds, and a rail that lies outside the table is zero. -/
theorem last_named_slot_prevails_over_implausible_hotspot :
    let table : PmTable := [10, 20, 500, 40]
    let repeated : List NamedSlot :=
      [⟨0, .fclk⟩, ⟨0, .iodHotspot⟩, ⟨9, .vsoc⟩, ⟨1, .fclk⟩, ⟨2, .iodHotspot⟩]
    let single : List NamedSlot := [⟨3, .iodHotspot⟩, ⟨1, .fclk⟩]
    4 ≤ table.length ∧
      (∃ metrics, graniteRidge.decode repeated .floatIndex {} table = .ok metrics ∧
        metrics.fclk = 20 ∧ metrics.vsoc = 0 ∧ metrics.iodHotspot = some 10) ∧
      graniteRidge.decode single.reverse .floatIndex {} table =
        graniteRidge.decode single .floatIndex {} table := by
  intro table repeated single
  have long : 4 ≤ table.length := by decide
  obtain ⟨fits, shown, -, -⟩ :=
    last_named_slot_prevails graniteRidge repeated .floatIndex {} table long
  obtain ⟨metrics, decoded⟩ := fits.mpr ⟨by decide, by decide⟩
  have reads := shown metrics decoded
  have clock := (reads.rail .fclk (by decide)).1 ⟨1, .fclk⟩
    ⟨repeated.take 3, repeated.drop 4, rfl, rfl, by decide⟩
  have rail := (reads.rail .vsoc (by decide)).1 ⟨9, .vsoc⟩
    ⟨repeated.take 2, repeated.drop 3, rfl, rfl, by decide⟩
  have hotspot := reads.hotspot.1 ⟨0, .iodHotspot⟩
    ⟨repeated.take 1, repeated.drop 2, rfl, by decide, by decide⟩
  refine ⟨long, ⟨metrics, decoded, Option.some.inj clock, Option.some.inj rail, hotspot⟩, ?_⟩
  exact (last_named_slot_prevails graniteRidge single .floatIndex {} table long).2.2.1
    single.reverse (List.reverse_perm single).symm (by decide)

end Layout

end SmuTelemetry
