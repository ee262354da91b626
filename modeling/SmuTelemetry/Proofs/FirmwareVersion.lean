import SmuTelemetry.FirmwareVersion
import SmuTelemetry.Proofs.Text.Blank
import SmuTelemetry.Proofs.Word.Occurrence

/-!
Firmware versions in arbitrary bytes. The reader answers with what stands behind the first
marker: the first run of version bytes there, without the spaces at its ends. The marker cannot
overlap itself, so a version that is written into an image is found whatever bytes without the
marker come before it.
-/

namespace SmuTelemetry

set_option autoImplicit false

namespace Text.Utf8

def ascii (byte : UInt8) : Char := Char.ofNat byte.toNat

theorem toNat_ascii (byte : UInt8) : (ascii byte).toNat = byte.toNat := by
  have small : byte.toNat < 256 := byte.toNat_lt
  have valid : byte.toNat.isValidChar := Or.inl (by omega)
  rw [ascii, Char.ofNat, dif_pos valid]
  rfl

theorem decodeLossy_of_ascii {bytes : Bytes} (small : ∀ byte ∈ bytes, byte < 0x80) :
    decodeLossy bytes = bytes.map ascii := by
  induction bytes with
  | nil => rw [decodeLossy, characters, List.map_nil, List.map_nil]
  | cons byte rest ih =>
      obtain ⟨first, others⟩ := List.forall_mem_cons.mp small
      have alone : follow? byte = some (0, 0x80, 0xBF) := by
        rw [follow?, if_pos first]
      have nothing : continuations byte rest = [] := by
        simp only [continuations, alone, List.take_zero]
      have character : character? byte [] = some (ascii byte) := by
        simp only [character?, alone, List.length_nil, if_true]
        rfl
      rw [decodeLossy, characters, nothing, character, List.map_cons, List.map_cons]
      exact congrArg _ (ih others)

end Text.Utf8

namespace FirmwareVersion

open Text.Utf8 (ascii)

def space : UInt8 := 0x20

theorem isVersionByte_iff (byte : UInt8) :
    isVersionByte byte = true ↔
      (0x30 ≤ byte.toNat ∧ byte.toNat ≤ 0x39) ∨ (0x41 ≤ byte.toNat ∧ byte.toNat ≤ 0x5A) ∨
        (0x61 ≤ byte.toNat ∧ byte.toNat ≤ 0x7A) ∨ byte.toNat = 0x20 ∨ byte.toNat = 0x2E ∨
          byte.toNat = 0x2D := by
  simp only [isVersionByte, Bool.or_eq_true, decide_eq_true_eq, beq_iff_eq, UInt8.le_iff_toNat_le,
    ← UInt8.toNat_inj, or_assoc]
  rfl

theorem lt_of_isVersionByte {byte : UInt8} (letter : isVersionByte byte = true) :
    byte < 0x80 := by
  have ranges := (isVersionByte_iff byte).mp letter
  have bound : (0x80 : UInt8).toNat = 0x80 := rfl
  rw [UInt8.lt_iff_toNat_lt, bound]
  omega

theorem isVersionByte_space : isVersionByte space = true := by decide

theorem isBlank_ascii_iff {byte : UInt8} (letter : isVersionByte byte = true) :
    Text.isBlank (ascii byte) = true ↔ byte = space := by
  have ranges := (isVersionByte_iff byte).mp letter
  have code : space.toNat = 0x20 := rfl
  rw [← UInt8.toNat_inj, code, Text.isBlank, Text.Utf8.toNat_ascii]
  simp only [Bool.or_eq_true, decide_eq_true_eq, beq_iff_eq]
  omega

theorem marker_unbordered : Unbordered marker := by
  intro shift positive inside
  have length : marker.length = 8 := rfl
  rw [length] at inside
  interval_cases shift <;> decide

theorem afterMarker?_eq_some_iff (image rest : Bytes) :
    afterMarker? image = some rest ↔
      ∃ place, IsLeast {place | OccursAt marker image place} place ∧
        rest = image.drop (place + marker.length) := by
  induction image with
  | nil =>
      have absent : ∀ place, ¬OccursAt marker [] place := by
        intro place occurs
        rw [OccursAt, List.drop_nil] at occurs
        exact absurd (List.prefix_nil.mp occurs) (by decide)
      constructor
      · intro read
        cases read
      · intro found
        obtain ⟨place, ⟨occurs, -⟩, -⟩ := found
        exact absurd occurs (absent place)
  | cons byte image ih =>
      rw [afterMarker?]
      by_cases here : marker <+: byte :: image
      · rw [if_pos (List.isPrefixOf_iff_prefix.mpr here), Option.some.injEq]
        have least : IsLeast {place | OccursAt marker (byte :: image) place} 0 :=
          ⟨here, fun place _ => Nat.zero_le place⟩
        constructor
        · intro same
          refine ⟨0, least, ?_⟩
          rw [← same, Nat.zero_add]
        · intro found
          obtain ⟨place, first, rfl⟩ := found
          rw [first.unique least, Nat.zero_add]
      · rw [if_neg (mt List.isPrefixOf_iff_prefix.mp here), ih]
        simp only [isLeast_occursAt_cons_iff here]
        constructor
        · intro found
          obtain ⟨place, first, rfl⟩ := found
          refine ⟨place + 1, ⟨place, rfl, first⟩, ?_⟩
          rw [Nat.add_right_comm, List.drop_succ_cons]
        · intro found
          obtain ⟨_, ⟨place, rfl, first⟩, rfl⟩ := found
          refine ⟨place, first, ?_⟩
          rw [Nat.add_right_comm, List.drop_succ_cons]

theorem afterMarker?_eq_none_iff (image : Bytes) :
    afterMarker? image = none ↔ ∀ place, ¬OccursAt marker image place := by
  rw [Option.eq_none_iff_forall_ne_some]
  constructor
  · intro nothing place occurs
    classical
    have occurring : ∃ place, OccursAt marker image place := ⟨place, occurs⟩
    exact nothing _ ((afterMarker?_eq_some_iff image _).mpr
      ⟨_, Nat.isLeast_find occurring, rfl⟩)
  · intro nowhere rest found
    obtain ⟨place, ⟨occurs, -⟩, -⟩ := (afterMarker?_eq_some_iff image rest).mp found
    exact nowhere place occurs

/-- The first bytes of a version kind, as many as follow one another. -/
structure FirstRun (rest run : Bytes) : Prop where
  nonempty : run ≠ []
  letters : ∀ byte ∈ run, isVersionByte byte = true
  split : ∃ gap after, rest = gap ++ (run ++ after) ∧
    (∀ byte ∈ gap, isVersionByte byte = false) ∧
    ∀ byte, after.head? = some byte → isVersionByte byte = false

/-- The version is the run without the spaces at its ends. -/
structure Padded (run version : Bytes) : Prop where
  split : ∃ leading trailing, run =
    List.replicate leading space ++ (version ++ List.replicate trailing space)
  first : version.head? ≠ some space
  last : version.getLast? ≠ some space

def runIn (rest : Bytes) : Bytes :=
  (rest.dropWhile fun byte => !isVersionByte byte).takeWhile isVersionByte

theorem run?_eq_map (image : Bytes) : run? image = (afterMarker? image).map runIn := rfl

theorem runIn_eq_nil_iff (rest : Bytes) :
    runIn rest = [] ↔ ∀ byte ∈ rest, isVersionByte byte = false := by
  have starts : runIn rest = [] ↔ rest.dropWhile (fun byte => !isVersionByte byte) = [] := by
    rw [runIn]
    cases found : rest.dropWhile fun byte => !isVersionByte byte with
    | nil => simp
    | cons byte others =>
        have letter := eq_false_of_head?_dropWhile rest (by rw [found]; rfl)
        rw [Bool.not_eq_false'] at letter
        simp [letter]
  rw [starts, List.dropWhile_eq_nil_iff]
  simp only [Bool.not_eq_true']

theorem firstRun_iff (rest run : Bytes) : FirstRun rest run ↔ runIn rest = run ∧ run ≠ [] := by
  constructor
  · intro first
    obtain ⟨gap, after, rfl, skipped, boundary⟩ := first.split
    have starts : ∀ byte, (run ++ after).head? = some byte → (!isVersionByte byte) = false := by
      intro byte head
      rw [List.head?_append_of_ne_nil run first.nonempty] at head
      rw [first.letters byte (List.mem_of_mem_head? head)]
      rfl
    have passed : ∀ byte ∈ gap, (!isVersionByte byte) = true := by
      intro byte member
      rw [skipped byte member]
      rfl
    refine ⟨?_, first.nonempty⟩
    rw [runIn, dropWhile_run passed starts, takeWhile_run first.letters boundary]
  · intro found
    obtain ⟨rfl, nonempty⟩ := found
    refine ⟨nonempty, fun byte => List.mem_takeWhile_imp, ?_⟩
    refine ⟨rest.takeWhile fun byte => !isVersionByte byte,
      (rest.dropWhile fun byte => !isVersionByte byte).dropWhile isVersionByte, ?_, ?_, ?_⟩
    · rw [runIn, List.takeWhile_append_dropWhile, List.takeWhile_append_dropWhile]
    · intro byte member
      have passed := List.mem_takeWhile_imp member
      rwa [Bool.not_eq_true'] at passed
    · intro byte head
      exact eq_false_of_head?_dropWhile _ head

theorem eq_replicate_space {blanks : Bytes}
    (letters : ∀ byte ∈ blanks, isVersionByte byte = true)
    (blank : ∀ c ∈ blanks.map ascii, Text.isBlank c = true) :
    blanks = List.replicate blanks.length space := by
  refine List.eq_replicate_iff.mpr ⟨rfl, fun byte member => ?_⟩
  exact (isBlank_ascii_iff (letters byte member)).mp (blank _ (List.mem_map_of_mem member))

theorem isBlank_map_replicate (count : Nat) :
    ∀ c ∈ (List.replicate count space).map ascii, Text.isBlank c = true := by
  intro c member
  rw [List.map_replicate] at member
  rw [List.eq_of_mem_replicate member]
  decide

theorem trim_ascii_iff {run : Bytes} (letters : ∀ byte ∈ run, isVersionByte byte = true)
    (core : List Char) :
    Text.trim (run.map ascii) = core ↔
      ∃ version, Padded run version ∧ core = version.map ascii := by
  rw [Text.trim_eq_iff]
  constructor
  · intro trims
    obtain ⟨before, after, parts, blankBefore, blankAfter⟩ := trims.split
    obtain ⟨leading, others, rfl, rfl, inner⟩ := List.map_eq_append_iff.mp parts
    obtain ⟨version, trailing, rfl, rfl, rfl⟩ := List.map_eq_append_iff.mp inner
    obtain ⟨leadingLetters, innerLetters⟩ := List.forall_mem_append.mp letters
    obtain ⟨versionLetters, trailingLetters⟩ := List.forall_mem_append.mp innerLetters
    refine ⟨version, ⟨⟨leading.length, trailing.length, ?_⟩, ?_, ?_⟩, rfl⟩
    · rw [← eq_replicate_space leadingLetters blankBefore,
        ← eq_replicate_space trailingLetters blankAfter]
    · intro head
      have letter := trims.first (ascii space) (by rw [List.head?_map, head]; rfl)
      exact absurd letter (by decide)
    · intro last
      have letter := trims.last (ascii space) (by rw [List.getLast?_map, last]; rfl)
      exact absurd letter (by decide)
  · intro padded
    obtain ⟨version, ⟨⟨leading, trailing, rfl⟩, first, last⟩, rfl⟩ := padded
    have versionLetters := (List.forall_mem_append.mp (List.forall_mem_append.mp letters).2).1
    have inside : ∀ byte ∈ version, byte ≠ space → Text.isBlank (ascii byte) = false := by
      intro byte member other
      exact Bool.eq_false_iff.mpr (mt (isBlank_ascii_iff (versionLetters byte member)).mp other)
    refine ⟨⟨_, _, ?_, isBlank_map_replicate leading, isBlank_map_replicate trailing⟩, ?_, ?_⟩
    · rw [List.map_append, List.map_append]
    · intro c head
      rw [List.head?_map, Option.map_eq_some_iff] at head
      obtain ⟨byte, head, rfl⟩ := head
      exact inside byte (List.mem_of_mem_head? head) fun same => first (same ▸ head)
    · intro c tail
      rw [List.getLast?_map, Option.map_eq_some_iff] at tail
      obtain ⟨byte, tail, rfl⟩ := tail
      exact inside byte (List.mem_of_getLast? tail) fun same => last (same ▸ tail)

def spelled (version : Bytes) : String := String.ofList (version.map ascii)

/-- The image announces the version: it stands in the first run of version bytes behind the
first marker, and spaces alone surround it there. -/
structure Announces (image version : Bytes) : Prop where
  nonempty : version ≠ []
  letters : ∀ byte ∈ version, isVersionByte byte = true
  found : ∃ place run, IsLeast {place | OccursAt marker image place} place ∧
    FirstRun (image.drop (place + marker.length)) run ∧ Padded run version

/-- The image announces none: it has no marker, or behind the first one there is no version byte
or a first run of spaces only. -/
def Silent (image : Bytes) : Prop :=
  (∀ place, ¬OccursAt marker image place) ∨
    ∃ place, IsLeast {place | OccursAt marker image place} place ∧
      ((∀ byte ∈ image.drop (place + marker.length), isVersionByte byte = false) ∨
        ∃ run, FirstRun (image.drop (place + marker.length)) run ∧ ∀ byte ∈ run, byte = space)

theorem letters_runIn (rest : Bytes) : ∀ byte ∈ runIn rest, isVersionByte byte = true :=
  fun _ => List.mem_takeWhile_imp

theorem Padded.ne_nil {run version : Bytes} (padded : Padded run version)
    (nonempty : version ≠ []) : run ≠ [] := by
  obtain ⟨leading, trailing, rfl⟩ := padded.split
  exact List.append_ne_nil_of_right_ne_nil _ (List.append_ne_nil_of_left_ne_nil nonempty _)

theorem Padded.subset {run version : Bytes} (padded : Padded run version) : version ⊆ run := by
  obtain ⟨leading, trailing, rfl⟩ := padded.split
  exact fun byte member => List.mem_append_right _ (List.mem_append_left _ member)

def readIn (rest : Bytes) : Option String :=
  if Text.trim ((runIn rest).map ascii) = [] then none
  else some (String.ofList (Text.trim ((runIn rest).map ascii)))

theorem find?_eq_bind (image : Bytes) : find? image = (afterMarker? image).bind readIn := by
  rw [find?, run?_eq_map]
  cases afterMarker? image with
  | none => rfl
  | some rest =>
      have ascii := Text.Utf8.decodeLossy_of_ascii fun byte member =>
        lt_of_isVersionByte (letters_runIn rest byte member)
      simp only [Option.map_some, Option.bind_some, ascii, List.isEmpty_iff, readIn]

theorem readIn_eq_some_iff (rest : Bytes) (text : String) :
    readIn rest = some text ↔
      ∃ run version, FirstRun rest run ∧ Padded run version ∧ version ≠ [] ∧
        text = spelled version := by
  rw [readIn, Option.ite_none_left_eq_some, Option.some.injEq]
  constructor
  · intro read
    obtain ⟨nonempty, answer⟩ := read
    obtain ⟨version, padded, core⟩ := (trim_ascii_iff (letters_runIn rest) _).mp rfl
    rw [core] at nonempty answer
    have some : version ≠ [] := fun empty => nonempty (by rw [empty, List.map_nil])
    exact ⟨runIn rest, version, (firstRun_iff rest _).mpr ⟨rfl, padded.ne_nil some⟩, padded, some,
      answer.symm⟩
  · intro found
    obtain ⟨run, version, first, padded, some, rfl⟩ := found
    obtain ⟨rfl, -⟩ := (firstRun_iff rest run).mp first
    have core := (trim_ascii_iff (letters_runIn rest) _).mpr ⟨version, padded, rfl⟩
    rw [core]
    exact ⟨mt List.map_eq_nil_iff.mp some, rfl⟩

theorem trim_ascii_eq_nil_iff {run : Bytes}
    (letters : ∀ byte ∈ run, isVersionByte byte = true) :
    Text.trim (run.map ascii) = [] ↔ ∀ byte ∈ run, byte = space := by
  rw [trim_ascii_iff letters]
  constructor
  · intro trimmed
    obtain ⟨version, padded, core⟩ := trimmed
    obtain rfl := List.map_eq_nil_iff.mp core.symm
    obtain ⟨leading, trailing, rfl⟩ := padded.split
    intro byte member
    rw [List.nil_append, List.replicate_append_replicate] at member
    exact List.eq_of_mem_replicate member
  · intro spaces
    refine ⟨[], ⟨⟨run.length, 0, ?_⟩, by decide, by decide⟩, rfl⟩
    rw [List.replicate_zero, List.append_nil, List.append_nil]
    exact List.eq_replicate_iff.mpr ⟨rfl, spaces⟩

theorem readIn_eq_none_iff (rest : Bytes) :
    readIn rest = none ↔
      (∀ byte ∈ rest, isVersionByte byte = false) ∨
        ∃ run, FirstRun rest run ∧ ∀ byte ∈ run, byte = space := by
  have nothing : readIn rest = none ↔ ∀ byte ∈ runIn rest, byte = space := by
    rw [← trim_ascii_eq_nil_iff (letters_runIn rest), readIn]
    split_ifs with empty <;> simp [empty]
  rw [nothing, ← runIn_eq_nil_iff]
  constructor
  · intro spaces
    by_cases empty : runIn rest = []
    · exact Or.inl empty
    · exact Or.inr ⟨runIn rest, (firstRun_iff rest _).mpr ⟨rfl, empty⟩, spaces⟩
  · intro found
    rcases found with empty | ⟨run, first, spaces⟩
    · rw [empty]
      exact List.forall_mem_nil _
    · obtain ⟨rfl, -⟩ := (firstRun_iff rest run).mp first
      exact spaces

theorem find?_eq_some_iff (image : Bytes) (text : String) :
    find? image = some text ↔ ∃ version, Announces image version ∧ text = spelled version := by
  rw [find?_eq_bind, Option.bind_eq_some_iff]
  simp only [afterMarker?_eq_some_iff, readIn_eq_some_iff]
  constructor
  · intro found
    obtain ⟨_, ⟨place, least, rfl⟩, run, version, first, padded, nonempty, answer⟩ := found
    have letters : ∀ byte ∈ version, isVersionByte byte = true := fun byte member =>
      first.letters byte (padded.subset member)
    exact ⟨version, ⟨nonempty, letters, place, run, least, first, padded⟩, answer⟩
  · intro announced
    obtain ⟨version, announces, answer⟩ := announced
    obtain ⟨place, run, least, first, padded⟩ := announces.found
    exact ⟨_, ⟨place, least, rfl⟩, run, version, first, padded, announces.nonempty, answer⟩

theorem find?_eq_none_iff (image : Bytes) : find? image = none ↔ Silent image := by
  rw [Silent, ← afterMarker?_eq_none_iff, find?_eq_bind]
  simp only [← readIn_eq_none_iff]
  constructor
  · intro nothing
    cases found : afterMarker? image with
    | none => exact Or.inl rfl
    | some rest =>
        obtain ⟨place, least, rfl⟩ := (afterMarker?_eq_some_iff image rest).mp found
        rw [found, Option.bind_some] at nothing
        exact Or.inr ⟨place, least, nothing⟩
  · intro silent
    rcases silent with unmarked | ⟨place, least, nothing⟩
    · rw [unmarked, Option.bind_none]
    · have found := (afterMarker?_eq_some_iff image _).mpr ⟨place, least, rfl⟩
      rw [found, Option.bind_some, nothing]

theorem announces_written {before gap version after : Bytes} (leading trailing : Nat)
    (absent : ¬marker <:+: before)
    (skipped : ∀ byte ∈ gap, isVersionByte byte = false)
    (nonempty : version ≠ []) (letters : ∀ byte ∈ version, isVersionByte byte = true)
    (first : version.head? ≠ some space) (last : version.getLast? ≠ some space)
    (boundary : ∀ byte, after.head? = some byte → isVersionByte byte = false) :
    Announces (before ++ marker ++ gap ++ List.replicate leading space ++ version ++
      List.replicate trailing space ++ after) version := by
  have run : ∀ byte ∈ List.replicate leading space ++ (version ++ List.replicate trailing space),
      isVersionByte byte = true := by
    intro byte member
    simp only [List.mem_append, List.mem_replicate] at member
    rcases member with ⟨-, rfl⟩ | member | ⟨-, rfl⟩
    · exact isVersionByte_space
    · exact letters byte member
    · exact isVersionByte_space
  have padded : Padded (List.replicate leading space ++
      (version ++ List.replicate trailing space)) version :=
    ⟨⟨leading, trailing, rfl⟩, first, last⟩
  have least := isLeast_occursAt_append marker_unbordered absent
    (gap ++ (List.replicate leading space ++ (version ++ List.replicate trailing space) ++ after))
  have parts : before ++ marker ++ gap ++ List.replicate leading space ++ version ++
      List.replicate trailing space ++ after =
      before ++ (marker ++ (gap ++
        (List.replicate leading space ++ (version ++ List.replicate trailing space) ++ after))) := by
    simp only [List.append_assoc]
  rw [parts]
  refine ⟨nonempty, letters, before.length, _, least, ⟨padded.ne_nil nonempty, run, ?_⟩, padded⟩
  refine ⟨gap, after, ?_, skipped, boundary⟩
  rw [← List.drop_drop, List.drop_left, List.drop_left]

/-- The reader finds exactly the announced version and nothing in an image that announces none.
In particular it recovers a version that is written behind a marker, whatever bytes without the
marker stand before it and whatever follows the end of its run. -/
theorem find_announced_version (image : Bytes) :
    (∀ text, find? image = some text ↔
      ∃ version, Announces image version ∧ text = spelled version) ∧
    (find? image = none ↔ Silent image) ∧
    ∀ (before gap version after : Bytes) (leading trailing : Nat),
      ¬marker <:+: before → (∀ byte ∈ gap, isVersionByte byte = false) →
      version ≠ [] → (∀ byte ∈ version, isVersionByte byte = true) →
      version.head? ≠ some space → version.getLast? ≠ some space →
      (∀ byte, after.head? = some byte → isVersionByte byte = false) →
      image = before ++ marker ++ gap ++ List.replicate leading space ++ version ++
        List.replicate trailing space ++ after →
          find? image = some (spelled version) := by
  refine ⟨find?_eq_some_iff image, find?_eq_none_iff image, ?_⟩
  intro before gap version after leading trailing absent skipped nonempty letters first last
    boundary whole
  rw [whole]
  exact (find?_eq_some_iff _ _).mpr
    ⟨version, announces_written leading trailing absent skipped nonempty letters first last boundary,
      rfl⟩

/-- The bytes before the marker are all but the last of one more marker. -/
theorem find_version_after_partial_marker :
    let before : Bytes := [0x41, 0x47, 0x45, 0x53, 0x41, 0x21, 0x56]
    let version : Bytes := [0x50, 0x49, 0x20, 0x31, 0x2E, 0x32]
    let after : Bytes := [0x00, 0x41]
    let image := before ++ marker ++ [0x00, 0xFF] ++ List.replicate 2 space ++ version ++
      List.replicate 1 space ++ after
    ¬marker <:+: before ∧ find? image = some "PI 1.2" := by
  intro before version after image
  have absent : ¬marker <:+: before := by decide
  have text : spelled version = "PI 1.2" := by decide
  have skipped : ∀ byte ∈ ([0x00, 0xFF] : Bytes), isVersionByte byte = false := by
    intro byte member
    fin_cases member <;> rfl
  have letters : ∀ byte ∈ version, isVersionByte byte = true := List.all_eq_true.mp rfl
  have boundary : ∀ byte, after.head? = some byte → isVersionByte byte = false := by
    intro byte head
    cases head
    rfl
  have found := (find_announced_version image).2.2 before [0x00, 0xFF] version after 2 1 absent
    skipped (by decide) letters (by decide) (by decide) boundary rfl
  rw [text] at found
  exact ⟨absent, found⟩

end FirmwareVersion

end SmuTelemetry
