import SmuTelemetry.Proofs.Acpi.Declaration
import SmuTelemetry.Proofs.Word.Occurrence

/-!
Where the search for a declaration stops, told by the bytes of the body. A place declares an
address when the pattern stands there, one of two tags follows, and any operand still fits;
the search answers with the address at the least such place. The bytes of the pattern all
differ, so two places of it never overlap, and what surrounds a declaration cannot hide it.
-/

namespace SmuTelemetry

set_option autoImplicit false

namespace AmlInteger

theorem decode?_of_room {tag : UInt8} {rest : Bytes} (room : 8 ≤ rest.length) :
    decode? (tag :: rest) =
      if tag = 0x0C then some (.dword (UInt32.ofNat (Bytes.littleEndian (rest.take 4))))
      else if tag = 0x0E then some (.qword (UInt64.ofNat (Bytes.littleEndian (rest.take 8))))
      else none := by
  have double : rest.window? 0 4 = some (rest.take 4) :=
    (Bytes.window?_start_eq_some_iff (by decide)).mpr
      ⟨by rw [List.length_take]; omega, List.take_prefix 4 rest⟩
  have quad : rest.window? 0 8 = some (rest.take 8) :=
    (Bytes.window?_start_eq_some_iff (by decide)).mpr
      ⟨by rw [List.length_take]; omega, List.take_prefix 8 rest⟩
  simp only [decode?, dwordTag, qwordTag, Bytes.u32At?, Bytes.u64At?, double, quad,
    Option.map_some]

end AmlInteger

namespace Aml

def PatternAt (body : Bytes) (place : Nat) : Prop :=
  (body.drop place).take 7 = [0x5B, 0x80, 0x41, 0x4F, 0x44, 0x45, 0x00]

/-- The place starts a declaration in an encoding that is understood, before the end of the
search. -/
structure DeclaredAt (body : Bytes) (place : Nat) : Prop where
  room : place + 17 < body.length
  pattern : PatternAt body place
  tagged : body[place + 7]? = some 0x0C ∨ body[place + 7]? = some 0x0E

/-- The number behind the tag, in the width that the tag stands for. -/
def addressAt (body : Bytes) (place : Nat) : Nat :=
  if body[place + 7]? = some 0x0C then Bytes.littleEndian ((body.drop (place + 8)).take 4)
  else Bytes.littleEndian ((body.drop (place + 8)).take 8)

/-- The body declares the address, at the least of its places that declare one. -/
def Declares (body : Bytes) (address : UInt64) : Prop :=
  ∃ place, IsLeast {place | DeclaredAt body place} place ∧
    address.toNat = addressAt body place

theorem patternAt_iff_drop (body : Bytes) (place : Nat) :
    PatternAt body place ↔ regionPattern <+: body.drop place := by
  rw [List.prefix_iff_eq_take, PatternAt, eq_comm]
  rfl

/-- Before the end of the search every operand that the tag stands for is whole. -/
theorem decode?_operand {body : Bytes} {place : Nat} (room : place + 17 < body.length) :
    ∃ tag, body[place + 7]? = some tag ∧
      AmlInteger.decode? (body.drop (place + 7)) =
        if tag = 0x0C then
          some (.dword (UInt32.ofNat (Bytes.littleEndian ((body.drop (place + 8)).take 4))))
        else if tag = 0x0E then
          some (.qword (UInt64.ofNat (Bytes.littleEndian ((body.drop (place + 8)).take 8))))
        else none := by
  have inside : place + 7 < body.length := by omega
  have fits : 8 ≤ (body.drop (place + 8)).length := by
    rw [List.length_drop]
    omega
  refine ⟨body[place + 7], List.getElem?_eq_getElem inside, ?_⟩
  rw [List.drop_eq_getElem_cons inside, AmlInteger.decode?_of_room fits]

theorem decode?_operand_eq_none_iff {body : Bytes} {place : Nat}
    (room : place + 17 < body.length) :
    AmlInteger.decode? (body.drop (place + 7)) = none ↔
      body[place + 7]? ≠ some 0x0C ∧ body[place + 7]? ≠ some 0x0E := by
  obtain ⟨tag, held, decoded⟩ := decode?_operand room
  rw [decoded, held]
  split_ifs with isDword isQword <;> simp_all

theorem value_of_decode? {body : Bytes} {place : Nat} {operand : AmlInteger}
    (room : place + 17 < body.length)
    (found : AmlInteger.decode? (body.drop (place + 7)) = some operand) :
    operand.value.toNat = addressAt body place := by
  obtain ⟨tag, held, decoded⟩ := decode?_operand room
  rw [decoded] at found
  rw [addressAt, held]
  split_ifs at found with isDword isQword
  · rw [← Option.some.inj found, if_pos (congrArg some isDword)]
    simp only [AmlInteger.value, UInt32.toNat_toUInt64]
    exact UInt32.toNat_ofNat_of_lt' (Bytes.littleEndian_take_lt _ 4)
  · rw [← Option.some.inj found, if_neg (fun same => isDword (Option.some.inj same))]
    exact UInt64.toNat_ofNat_of_lt' (Bytes.littleEndian_take_lt _ 8)

theorem starts_iff_decode? (body : Bytes) (place : Nat) (operand : AmlInteger) :
    Starts (body.drop place) operand ↔
      PatternAt body place ∧ AmlInteger.decode? (body.drop (place + 7)) = some operand := by
  have length : regionPattern.length = 7 := rfl
  rw [starts_iff, patternAt_iff_drop, ← List.isPrefixOf_iff_prefix, List.drop_drop, length]
  split
  next present => simp only [present, true_and]
  next absent => simp only [absent, Bool.false_eq_true, false_and, reduceCtorEq]

theorem declaredAt_iff_starts {body : Bytes} {place : Nat} (room : place + 17 < body.length) :
    DeclaredAt body place ↔ ∃ operand, Starts (body.drop place) operand := by
  have understood : (∃ operand, AmlInteger.decode? (body.drop (place + 7)) = some operand) ↔
      body[place + 7]? = some 0x0C ∨ body[place + 7]? = some 0x0E := by
    rw [← Option.isSome_iff_exists, ← Option.not_isNone, Bool.not_eq_true',
      ← Bool.not_eq_true, Option.isNone_iff_eq_none, decode?_operand_eq_none_iff room]
    tauto
  simp only [starts_iff_decode?, exists_and_left, understood]
  constructor
  · intro declared
    exact ⟨declared.pattern, declared.tagged⟩
  · intro found
    obtain ⟨pattern, tagged⟩ := found
    exact ⟨room, pattern, tagged⟩

/-- The search is exact: it finds the first declaration, and fails only without one. -/
theorem scan_eq_some_iff (body : Bytes) (address : UInt64) :
    scan body = some address ↔ Declares body address := by
  rw [scan, scanFrom_eq_some_iff]
  constructor
  · intro scanned
    obtain ⟨operand, ⟨place, inside, starts, least⟩, value⟩ := scanned
    have room : place + 17 < body.length := Nat.lt_sub_iff_add_lt.mp inside
    refine ⟨place, ⟨(declaredAt_iff_starts room).mpr ⟨operand, starts⟩, ?_⟩, ?_⟩
    · intro other declared
      by_contra earlier
      obtain ⟨found, starts⟩ := (declaredAt_iff_starts declared.room).mp declared
      exact least other (Nat.not_le.mp earlier) found starts
    · rw [← value]
      exact value_of_decode? room ((starts_iff_decode? body place operand).mp starts).2
  · intro found
    obtain ⟨place, ⟨declared, least⟩, value⟩ := found
    obtain ⟨operand, starts⟩ := (declaredAt_iff_starts declared.room).mp declared
    have decoded := ((starts_iff_decode? body place operand).mp starts).2
    refine ⟨operand, ⟨place, Nat.lt_sub_iff_add_lt.mpr declared.room, starts, ?_⟩, ?_⟩
    · intro earlier before other starts
      have room : earlier + 17 < body.length := Nat.lt_trans (by omega) declared.room
      have below := least ((declaredAt_iff_starts room).mpr ⟨other, starts⟩)
      exact absurd before (Nat.not_lt.mpr below)
    · apply UInt64.toNat_inj.mp
      rw [value, value_of_decode? declared.room decoded]

theorem scan_eq_none_iff (body : Bytes) :
    scan body = none ↔ ∀ place, ¬DeclaredAt body place := by
  constructor
  · intro nothing place declared
    classical
    have declaring : ∃ place, DeclaredAt body place := ⟨place, declared⟩
    have least := Nat.isLeast_find declaring
    obtain ⟨operand, starts⟩ := (declaredAt_iff_starts least.1.room).mp least.1
    have decoded := ((starts_iff_decode? body _ operand).mp starts).2
    have scanned := (scan_eq_some_iff body operand.value).mpr
      ⟨_, least, value_of_decode? least.1.room decoded⟩
    rw [nothing] at scanned
    cases scanned
  · intro nowhere
    apply Option.eq_none_iff_forall_ne_some.mpr
    intro address scanned
    obtain ⟨place, least, -⟩ := (scan_eq_some_iff body address).mp scanned
    exact nowhere place least.1

theorem regionPattern_unbordered : Unbordered regionPattern := unbordered_of_nodup (by decide)

theorem take_drop_append {body suffix : Bytes} {start count : Nat}
    (inside : start + count ≤ body.length) :
    ((body ++ suffix).drop start).take count = (body.drop start).take count := by
  rw [List.drop_append_of_le_length (by omega),
    List.take_append_of_le_length (by rw [List.length_drop]; omega)]

theorem declaredAt_append {body suffix : Bytes} {place : Nat}
    (room : place + 17 < body.length) :
    DeclaredAt (body ++ suffix) place ↔ DeclaredAt body place := by
  have pattern : PatternAt (body ++ suffix) place ↔ PatternAt body place := by
    rw [PatternAt, PatternAt, take_drop_append (by omega)]
  have tag : (body ++ suffix)[place + 7]? = body[place + 7]? :=
    List.getElem?_append_left (by omega)
  constructor
  · intro declared
    exact ⟨room, pattern.mp declared.pattern, tag ▸ declared.tagged⟩
  · intro declared
    refine ⟨?_, pattern.mpr declared.pattern, tag.symm ▸ declared.tagged⟩
    rw [List.length_append]
    omega

theorem addressAt_append {body suffix : Bytes} {place : Nat}
    (room : place + 17 < body.length) :
    addressAt (body ++ suffix) place = addressAt body place := by
  have tag : (body ++ suffix)[place + 7]? = body[place + 7]? :=
    List.getElem?_append_left (by omega)
  rw [addressAt, addressAt, tag, take_drop_append (by omega), take_drop_append (by omega)]

theorem scan_append {body : Bytes} {address : UInt64} (scanned : scan body = some address)
    (suffix : Bytes) : scan (body ++ suffix) = some address := by
  obtain ⟨place, ⟨declared, least⟩, value⟩ := (scan_eq_some_iff body address).mp scanned
  refine (scan_eq_some_iff _ _).mpr
    ⟨place, ⟨(declaredAt_append declared.room).mpr declared, ?_⟩, ?_⟩
  · intro other elsewhere
    by_contra earlier
    have room : other + 17 < body.length := by
      have := declared.room
      omega
    exact earlier (least ((declaredAt_append room).mp elsewhere))
  · rw [addressAt_append declared.room, value]

theorem scan_of_declaration {before : Bytes} (absent : ¬regionPattern <:+: before)
    (operand : AmlInteger) {after : Bytes} (room : 10 < (operand.encode ++ after).length) :
    scan (before ++ regionPattern ++ operand.encode ++ after) = some operand.value := by
  have split : before ++ regionPattern ++ operand.encode ++ after =
      before ++ (regionPattern ++ (operand.encode ++ after)) := by
    simp only [List.append_assoc]
  rw [split, scan, scanFrom_eq_some_iff]
  refine ⟨operand, ⟨before.length, ?_, ?_, ?_⟩, rfl⟩
  · simp only [List.length_append] at room ⊢
    simp only [operandSlack]
    omega
  · rw [List.drop_left, Starts, ← List.append_assoc]
    exact List.prefix_append _ _
  · intro earlier inside other starts
    have pattern := ((starts_iff_decode? _ earlier other).mp starts).1
    have first := isLeast_occursAt_append regionPattern_unbordered absent (operand.encode ++ after)
    exact absurd inside (Nat.not_lt.mpr (first.2 ((patternAt_iff_drop _ earlier).mp pattern)))

/-- The search answers with the address at the least place that declares one and with nothing
when there is none; before its end it passes over a pattern for a foreign tag only. So it
finds a declaration behind any bytes without the pattern, and further bytes change nothing. -/
theorem scan_finds_least_place (body : Bytes) :
    (∀ address, scan body = some address ↔
        ∃ place, IsLeast {place | DeclaredAt body place} place ∧
          address.toNat = addressAt body place) ∧
      (scan body = none ↔ ∀ place, ¬DeclaredAt body place) ∧
      (∀ place, place + 17 < body.length →
        (AmlInteger.decode? (body.drop (place + 7)) = none ↔
          body[place + 7]? ≠ some 0x0C ∧ body[place + 7]? ≠ some 0x0E)) ∧
      (∀ before operand after,
        ¬regionPattern <:+: before → 10 < (AmlInteger.encode operand ++ after).length →
          body = before ++ regionPattern ++ operand.encode ++ after →
            scan body = some operand.value) ∧
      ∀ address suffix, scan body = some address → scan (body ++ suffix) = some address := by
  refine ⟨scan_eq_some_iff body, scan_eq_none_iff body,
    fun place room => decode?_operand_eq_none_iff room, ?_,
    fun address suffix scanned => scan_append scanned suffix⟩
  intro before operand after absent room whole
  rw [whole]
  exact scan_of_declaration absent operand room

/-- The bytes before the declaration end with the start of another, and a whole second
declaration follows it. -/
theorem scan_finds_place_after_partial_pattern :
    let before : Bytes := [0x41, 0x5B, 0x80]
    let operand : AmlInteger := .qword 0x19ABCD000
    let body := before ++ regionPattern ++ operand.encode ++ [0x0B, 0xBB]
    let second := regionPattern ++ AmlInteger.encode (.dword 0x2000) ++ List.replicate 8 0
    ¬regionPattern <:+: before ∧ 10 < (operand.encode ++ [0x0B, 0xBB]).length ∧
      scan body = some 0x19ABCD000 ∧ scan (body ++ second) = some 0x19ABCD000 := by
  intro before operand body second
  have absent : ¬regionPattern <:+: before := by decide
  have room : 10 < (operand.encode ++ [0x0B, 0xBB]).length := by decide
  have places := scan_finds_least_place body
  have scanned := places.2.2.2.1 before operand [0x0B, 0xBB] absent room rfl
  exact ⟨absent, room, scanned, places.2.2.2.2 _ second scanned⟩

end Aml

end SmuTelemetry
