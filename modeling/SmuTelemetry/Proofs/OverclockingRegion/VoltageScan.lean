import SmuTelemetry.Proofs.OverclockingRegion.FieldDumps

/-!
The scan for rail voltages against the dumps of the fields. The scan lists what the dumps
show within the bounds, from its start on, with one exception: the dumps stop after the
last whole word of the region and the scan before it when nothing follows that word.
-/

namespace SmuTelemetry

set_option autoImplicit false

namespace RailCandidate

def ofEntry (entry : Nat × UInt32) : RailCandidate where
  offset := entry.1
  field := .ofOffset entry.1
  millivolts := entry.2

def Precedes (earlier later : RailCandidate) : Prop := earlier.offset < later.offset

instance : Std.Irrefl Precedes := ⟨fun candidate => Nat.lt_irrefl candidate.offset⟩

instance : Std.Antisymm Precedes :=
  ⟨fun _ _ before after => absurd before (Nat.lt_asymm after)⟩

end RailCandidate

namespace OverclockingRegion

def IsRail (bounds : Bounds) (word : UInt32) : Prop := Binary32.ofNat word.toNat ∈ bounds

instance (bounds : Bounds) (word : UInt32) : Decidable (IsRail bounds word) :=
  inferInstanceAs (Decidable (Binary32.ofNat word.toNat ∈ bounds))

def dumpedRails (region : Bytes) (bounds : Bounds) : List RailCandidate :=
  ((dumpedWords region).filter fun entry => 4 ≤ entry.1 ∧ IsRail bounds entry.2).map
    RailCandidate.ofEntry

def railAt? (region : Bytes) (bounds : Bounds) (offset : Nat) : Option RailCandidate :=
  match region.u32At? offset with
  | some word => if IsRail bounds word then some (.ofEntry (offset, word)) else none
  | none => none

theorem scan_eq_filterMap (region : Bytes) (bounds : Bounds) :
    scan region bounds =
      (wordOffsets scanStart (extent region - 4)).filterMap (railAt? region bounds) := by
  unfold scan railAt?
  simp only [Bounds.contains_iff_mem]
  rfl

theorem railAt?_eq_some_iff {region : Bytes} {bounds : Bounds} {offset : Nat}
    {candidate : RailCandidate} :
    railAt? region bounds offset = some candidate ↔
      ∃ word, region.u32At? offset = some word ∧ IsRail bounds word ∧
        candidate = .ofEntry (offset, word) := by
  unfold railAt?
  cases region.u32At? offset with
  | none => simp
  | some word => simp [eq_comm]

theorem mem_scan {region : Bytes} {bounds : Bounds} {candidate : RailCandidate} :
    candidate ∈ scan region bounds ↔
      4 ∣ candidate.offset ∧ scanStart ≤ candidate.offset ∧
        candidate.offset + 4 < extent region ∧
        region.u32At? candidate.offset = some candidate.millivolts ∧
        IsRail bounds candidate.millivolts ∧
        candidate.field = .ofOffset candidate.offset := by
  simp only [scan_eq_filterMap, List.mem_filterMap, mem_wordOffsets, railAt?_eq_some_iff,
    scanStart]
  constructor
  · rintro ⟨offset, ⟨position, place, bound⟩, word, read, rail, rfl⟩
    have aligned : 4 ∣ offset := by omega
    have after : 4 ≤ offset := by omega
    have before : offset + 4 < extent region := by omega
    exact ⟨aligned, after, before, read, rail, rfl⟩
  · rintro ⟨⟨quarter, aligned⟩, after, before, read, rail, label⟩
    refine ⟨candidate.offset, ⟨quarter - 1, by omega, by omega⟩, candidate.millivolts, read,
      rail, ?_⟩
    unfold RailCandidate.ofEntry
    simp only [← label]

theorem scan_increasing (region : Bytes) (bounds : Bounds) :
    (scan region bounds).Pairwise RailCandidate.Precedes := by
  have offsets : (wordOffsets scanStart (extent region - 4)).Pairwise (· < ·) := by
    unfold wordOffsets
    rw [List.pairwise_map]
    apply List.pairwise_lt_range.imp
    intro earlier later before
    omega
  rw [scan_eq_filterMap]
  apply List.Pairwise.filterMap _ _ offsets
  intro earlier later before first firstListed second secondListed
  obtain ⟨_, -, -, rfl⟩ := railAt?_eq_some_iff.mp firstListed
  obtain ⟨_, -, -, rfl⟩ := railAt?_eq_some_iff.mp secondListed
  exact before

theorem mem_dumpedRails {region : Bytes} {bounds : Bounds} {candidate : RailCandidate} :
    candidate ∈ dumpedRails region bounds ↔
      4 ∣ candidate.offset ∧ scanStart ≤ candidate.offset ∧
        candidate.offset + 4 ≤ extent region ∧
        Bytes.ofU32 candidate.millivolts <+: region.drop candidate.offset ∧
        IsRail bounds candidate.millivolts ∧
        candidate.field = .ofOffset candidate.offset := by
  unfold dumpedRails
  rw [List.mem_map]
  constructor
  · rintro ⟨⟨offset, word⟩, member, rfl⟩
    rw [List.mem_filter, mem_dumpedWords, decide_eq_true_iff] at member
    obtain ⟨⟨aligned, inside, held⟩, after, rail⟩ := member
    exact ⟨aligned, after, inside, held, rail, rfl⟩
  · rintro ⟨aligned, after, inside, held, rail, label⟩
    refine ⟨(candidate.offset, candidate.millivolts), ?_, ?_⟩
    · rw [List.mem_filter, mem_dumpedWords, decide_eq_true_iff]
      exact ⟨⟨aligned, inside, held⟩, after, rail⟩
    · unfold RailCandidate.ofEntry
      simp only [← label]

theorem dumpedRails_increasing (region : Bytes) (bounds : Bounds) :
    (dumpedRails region bounds).Pairwise RailCandidate.Precedes := by
  unfold dumpedRails
  rw [List.pairwise_map]
  exact (dumpedWords_increasing region).filter _

/-- The scan leaves out the word that ends the region, and nothing else. -/
theorem scan_eq_filter_dumpedRails (region : Bytes) (bounds : Bounds) :
    scan region bounds =
      (dumpedRails region bounds).filter fun candidate =>
        candidate.offset + 4 ≠ extent region := by
  apply (scan_increasing region bounds).eq_of_mem_iff
    ((dumpedRails_increasing region bounds).filter _)
  intro candidate
  rw [List.mem_filter, mem_scan, mem_dumpedRails, decide_eq_true_iff]
  constructor
  · rintro ⟨aligned, after, before, read, rail, label⟩
    have held := (u32At?_eq_some_iff_held before.le _).mp read
    exact ⟨⟨aligned, after, before.le, held, rail, label⟩, before.ne⟩
  · rintro ⟨⟨aligned, after, inside, held, rail, label⟩, notLast⟩
    have read := (u32At?_eq_some_iff_held inside _).mpr held
    exact ⟨aligned, after, lt_of_le_of_ne inside notLast, read, rail, label⟩

/-- A word ends the region only if the region ends at a multiple of four. -/
theorem scan_eq_dumpedRails {region : Bytes} (unaligned : ¬4 ∣ extent region)
    (bounds : Bounds) : scan region bounds = dumpedRails region bounds := by
  rw [scan_eq_filter_dumpedRails, List.filter_eq_self]
  intro candidate member
  obtain ⟨aligned, -⟩ := mem_dumpedRails.mp member
  rw [decide_eq_true_iff]
  intro last
  apply unaligned
  rw [← last]
  exact Nat.dvd_add aligned (dvd_refl 4)

/-- The scan lists, in order and once each, the words within the bounds from its start to
the end of the region, but for a word that ends the region. A region whose end is no
multiple of four has no such word, and there the scan is what the dumps show. -/
theorem scan_lists_rails_before_end (region : Bytes) (bounds : Bounds) :
    ((scan region bounds).Pairwise fun earlier later => earlier.offset < later.offset) ∧
      (∀ candidate, candidate ∈ scan region bounds ↔
        4 ∣ candidate.offset ∧ 4 ≤ candidate.offset ∧
          candidate.offset + 4 < min region.length 0x24BB ∧
          Bytes.ofU32 candidate.millivolts <+: region.drop candidate.offset ∧
          Binary32.ofNat candidate.millivolts.toNat ∈ bounds ∧
          candidate.field = .ofOffset candidate.offset) ∧
      (scan region bounds =
        (dumpedRails region bounds).filter fun candidate =>
          candidate.offset + 4 ≠ min region.length 0x24BB) ∧
      (¬4 ∣ min region.length 0x24BB → scan region bounds = dumpedRails region bounds) := by
  refine ⟨scan_increasing region bounds, ?_, scan_eq_filter_dumpedRails region bounds,
    fun unaligned => scan_eq_dumpedRails unaligned bounds⟩
  intro candidate
  rw [mem_scan]
  constructor
  · rintro ⟨aligned, after, before, read, rail, label⟩
    exact ⟨aligned, after, before, (u32At?_eq_some_iff_held before.le _).mp read, rail, label⟩
  · rintro ⟨aligned, after, before, held, rail, label⟩
    exact ⟨aligned, after, before, (u32At?_eq_some_iff_held before.le _).mpr held, rail, label⟩

/-- Nine bytes of a region: the second word is listed, because a byte follows it. -/
theorem scan_lists_word_before_byte :
    let region : Bytes := [0, 0, 0, 0, 0xDC, 0x05, 0, 0, 7]
    let candidate : RailCandidate := { offset := 4, field := .outb, millivolts := 1500 }
    ¬4 ∣ min region.length 0x24BB ∧ candidate ∈ scan region ⟨500, 3000⟩ ∧
      scan region ⟨500, 3000⟩ = dumpedRails region ⟨500, 3000⟩ := by
  intro region candidate
  obtain ⟨-, listed, -, whole⟩ := scan_lists_rails_before_end region ⟨500, 3000⟩
  have unaligned : ¬4 ∣ min region.length 0x24BB := by decide
  exact ⟨unaligned, (listed candidate).mpr (by decide +kernel), whole unaligned⟩

/-- Without that byte the word ends the region. The dumps show it and the scan does not. -/
theorem scan_misses_last_word :
    let region : Bytes := [0, 0, 0, 0, 0xDC, 0x05, 0, 0]
    let candidate : RailCandidate := { offset := 4, field := .outb, millivolts := 1500 }
    (4 ∣ candidate.offset ∧ 4 ≤ candidate.offset ∧
      candidate.offset + 4 ≤ min region.length 0x24BB ∧
      Bytes.ofU32 candidate.millivolts <+: region.drop candidate.offset ∧
      Binary32.ofNat candidate.millivolts.toNat ∈ (⟨500, 3000⟩ : Bounds)) ∧
    candidate ∈ dumpedRails region ⟨500, 3000⟩ ∧ candidate ∉ scan region ⟨500, 3000⟩ := by
  intro region candidate
  refine ⟨by decide +kernel, mem_dumpedRails.mpr (by decide +kernel), ?_⟩
  intro listed
  obtain ⟨-, -, before, -⟩ := mem_scan.mp listed
  exact absurd before (by decide)

end OverclockingRegion

end SmuTelemetry
