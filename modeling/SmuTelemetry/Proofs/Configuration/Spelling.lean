import SmuTelemetry.Configuration
import SmuTelemetry.Proofs.Text.Natural
import SmuTelemetry.Proofs.Text.Split

/-!
How settings are spelled. A limit is two finite decimals around the first colon, the lower one
in front; the rail offsets are three addresses between commas, each in decimal or, after its
mark, in hexadecimal. Every reader of a setting accepts exactly the texts that spell a value,
and answers with that value.
-/

namespace SmuTelemetry

set_option autoImplicit false

namespace Configuration

/-- An address of 64 bits. A mark makes it hexadecimal, and a plus sign may stand before its
digits. -/
def IsAddress (text : List Char) (address : Nat) : Prop :=
  address < 2 ^ 64 ∧
    (Text.IsNumeral 10 text address ∨
      ∃ mark digits, (mark = 'x' ∨ mark = 'X') ∧ text = '0' :: mark :: digits ∧
        Text.IsNumeral 16 digits address)

def SpellsAddress (text : List Char) (address : Nat) : Prop :=
  ∃ core, Text.Trims text core ∧ IsAddress core address

def SpellsOffsets (text : List Char) (offsets : RailOffsets) : Prop :=
  ∃ vddio vddq vpp, text = vddio ++ ',' :: (vddq ++ ',' :: vpp) ∧
    (',' ∉ vddio ∧ ',' ∉ vddq ∧ ',' ∉ vpp) ∧ SpellsAddress vddio offsets.vddio ∧
    SpellsAddress vddq offsets.vddq ∧ SpellsAddress vpp offsets.vpp

def SpellsBound (text : List Char) (bound : Binary32) : Prop :=
  ∃ core, Text.Trims text core ∧ Binary32.ofDecimal? core = some bound ∧ bound.isFinite = true

/-- Two ordered bounds around the first colon. -/
def SpellsBounds (text : List Char) (bounds : Bounds) : Prop :=
  ∃ low high, text = low ++ ':' :: high ∧ ':' ∉ low ∧ SpellsBound low bounds.low ∧
    SpellsBound high bounds.high ∧ bounds.low ≤ bounds.high

theorem exists_trims_iff (text : List Char) (holds : List Char → Prop) :
    (∃ core, Text.Trims text core ∧ holds core) ↔ holds (Text.trim text) := by
  simp only [← Text.trim_eq_iff, exists_eq_left']

section Addresses

theorem not_isNumeral_marked {mark : Char} (letter : mark = 'x' ∨ mark = 'X')
    (digits : List Char) (value : Nat) : ¬Text.IsNumeral 10 ('0' :: mark :: digits) value := by
  rintro ⟨spelling, values, plain | signed, spelled, -, -⟩
  · subst plain
    obtain ⟨first, others, -, later, -⟩ := Text.spells_cons_iff.mp spelled
    obtain ⟨second, rest, read, -, -⟩ := Text.spells_cons_iff.mp later
    rcases letter with rfl | rfl
    · cases read
    · cases read
  · cases signed

theorem isAddress_marked_iff {mark : Char} (letter : mark = 'x' ∨ mark = 'X')
    (digits : List Char) (address : Nat) :
    IsAddress ('0' :: mark :: digits) address ↔
      Text.IsNumeral 16 digits address ∧ address < 2 ^ 64 := by
  constructor
  · rintro ⟨small, decimal | ⟨other, rest, -, same, numeral⟩⟩
    · exact absurd decimal (not_isNumeral_marked letter digits address)
    · cases same
      exact ⟨numeral, small⟩
  · rintro ⟨numeral, small⟩
    exact ⟨small, Or.inr ⟨mark, digits, letter, rfl, numeral⟩⟩

theorem address?_eq_some_iff (text : List Char) (address : Nat) :
    address? text = some address ↔ SpellsAddress text address := by
  rw [SpellsAddress, exists_trims_iff, address?]
  have limit : Bytes.addressLimit = 2 ^ 64 := rfl
  generalize Text.trim text = core
  split
  next digits =>
    rw [Text.natural?_eq_some_iff, isAddress_marked_iff (Or.inl rfl), limit]
  next digits =>
    rw [Text.natural?_eq_some_iff, isAddress_marked_iff (Or.inr rfl), limit]
  next lower upper =>
    rw [Text.natural?_eq_some_iff, limit]
    constructor
    · rintro ⟨numeral, small⟩
      exact ⟨small, Or.inl numeral⟩
    · rintro ⟨small, numeral | ⟨mark, digits, letter, same, -⟩⟩
      · exact ⟨numeral, small⟩
      · rcases letter with rfl | rfl
        · exact absurd same (lower digits)
        · exact absurd same (upper digits)

theorem offsets?_of_pieces {text vddio vddq vpp : List Char} {offsets : RailOffsets}
    (pieces : Text.splitOn ',' text = [vddio, vddq, vpp])
    (first : address? vddio = some offsets.vddio) (second : address? vddq = some offsets.vddq)
    (third : address? vpp = some offsets.vpp) : offsets? text = some offsets := by
  simp only [offsets?, pieces, List.map_cons, List.map_nil, first, second, third]

theorem exists_pieces_of_offsets? {text : List Char} {offsets : RailOffsets}
    (found : offsets? text = some offsets) :
    ∃ vddio vddq vpp, Text.splitOn ',' text = [vddio, vddq, vpp] ∧
      address? vddio = some offsets.vddio ∧ address? vddq = some offsets.vddq ∧
      address? vpp = some offsets.vpp := by
  rw [offsets?] at found
  split at found
  next first second third read =>
    obtain rfl := Option.some.inj found
    obtain ⟨vddio, afterFirst, pieces, readFirst, read⟩ := List.map_eq_cons_iff.mp read
    obtain ⟨vddq, afterSecond, rfl, readSecond, read⟩ := List.map_eq_cons_iff.mp read
    obtain ⟨vpp, rfl, readThird⟩ := List.map_eq_singleton_iff.mp read
    exact ⟨vddio, vddq, vpp, pieces, readFirst, readSecond, readThird⟩
  next => cases found

theorem intercalate_three (first second third : List Char) :
    [','].intercalate [first, second, third] = first ++ ',' :: (second ++ ',' :: third) := by
  simp [List.intercalate_cons_cons]

theorem splitOn_three {first second third : List Char}
    (clean : ',' ∉ first ∧ ',' ∉ second ∧ ',' ∉ third) :
    Text.splitOn ',' (first ++ ',' :: (second ++ ',' :: third)) = [first, second, third] := by
  rw [Text.splitOn_eq_iff, intercalate_three]
  exact ⟨List.cons_ne_nil _ _, by simpa using clean, rfl⟩

theorem offsets?_eq_some_iff (text : List Char) (offsets : RailOffsets) :
    offsets? text = some offsets ↔ SpellsOffsets text offsets := by
  constructor
  · intro found
    obtain ⟨vddio, vddq, vpp, pieces, first, second, third⟩ := exists_pieces_of_offsets? found
    obtain ⟨-, clean, joined⟩ := (Text.splitOn_eq_iff _ _).mp pieces
    simp only [List.forall_mem_cons] at clean
    refine ⟨vddio, vddq, vpp, joined.trans (intercalate_three _ _ _),
      ⟨clean.1, clean.2.1, clean.2.2.1⟩, ?_, ?_, ?_⟩
    · exact (address?_eq_some_iff _ _).mp first
    · exact (address?_eq_some_iff _ _).mp second
    · exact (address?_eq_some_iff _ _).mp third
  · rintro ⟨vddio, vddq, vpp, joined, clean, first, second, third⟩
    have pieces : Text.splitOn ',' text = [vddio, vddq, vpp] := by rw [joined, splitOn_three clean]
    apply offsets?_of_pieces pieces
    · exact (address?_eq_some_iff _ _).mpr first
    · exact (address?_eq_some_iff _ _).mpr second
    · exact (address?_eq_some_iff _ _).mpr third

end Addresses

theorem bound?_eq_some_iff (text : List Char) (bound : Binary32) :
    bound? text = some bound ↔ SpellsBound text bound := by
  rw [SpellsBound, exists_trims_iff, bound?, Option.filter_eq_some_iff]

theorem bounds?_eq_some_iff (text : List Char) (bounds : Bounds) :
    bounds? text = some bounds ↔ SpellsBounds text bounds := by
  simp only [SpellsBounds, ← bound?_eq_some_iff, bounds?]
  constructor
  · intro found
    split at found
    next => cases found
    next low high parts =>
      split at found
      next lowBound highBound lowRead highRead =>
        rw [Option.ite_none_right_eq_some] at found
        obtain ⟨ordered, same⟩ := found
        cases same
        obtain ⟨joined, clean⟩ := (Text.splitOnce_eq_some_iff _ _ _).mp parts
        exact ⟨low, high, joined, clean, lowRead, highRead, ordered⟩
      next => cases found
  · rintro ⟨low, high, joined, clean, lowRead, highRead, ordered⟩
    have parts := (Text.splitOnce_eq_some_iff _ _ _).mpr ⟨joined, clean⟩
    simp only [parts, lowRead, highRead, ordered, if_true]

end Configuration

end SmuTelemetry
