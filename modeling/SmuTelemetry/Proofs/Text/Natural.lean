import Mathlib.Data.List.Forall2
import Mathlib.Data.Nat.Digits.Defs
import Mathlib.Tactic.Ring
import SmuTelemetry.Text.Natural

/-!
What counts as a natural number in a text: at least one digit after at most a plus sign, the
first digit counting most. Leading zeros do no harm, and the usual decimal spelling of a
number reads back as that number.
-/

namespace SmuTelemetry.Text

set_option autoImplicit false

def Spells (radix : Nat) (text : List Char) (digits : List Nat) : Prop :=
  List.Forall₂ (fun c digit => digit? radix c = some digit) text digits

theorem spells_nil_iff {radix : Nat} {digits : List Nat} :
    Spells radix [] digits ↔ digits = [] :=
  List.forall₂_nil_left_iff

theorem spells_cons_iff {radix : Nat} {c : Char} {rest : List Char} {digits : List Nat} :
    Spells radix (c :: rest) digits ↔
      ∃ digit others, digit? radix c = some digit ∧ Spells radix rest others ∧
        digits = digit :: others :=
  List.forall₂_cons_left_iff

theorem Spells.ne_nil_iff {radix : Nat} {text : List Char} {digits : List Nat}
    (spelled : Spells radix text digits) : digits ≠ [] ↔ text ≠ [] := by
  rw [← List.length_pos_iff, ← List.length_pos_iff, List.Forall₂.length_eq spelled]

/-- At least one digit after at most a plus sign, the first digit counting most. -/
def IsNumeral (radix : Nat) (text : List Char) (value : Nat) : Prop :=
  ∃ (spelling : List Char) (digits : List Nat),
    (text = spelling ∨ text = '+' :: spelling) ∧ Spells radix spelling digits ∧ digits ≠ [] ∧
      value = Nat.ofDigits radix digits.reverse

theorem ofDigits_reverse_cons_cons (radix start digit : Nat) (digits : List Nat) :
    Nat.ofDigits radix (start :: digit :: digits).reverse =
      Nat.ofDigits radix ((radix * start + digit) :: digits).reverse := by
  simp only [Nat.ofDigits_reverse_cons, List.length_cons]
  ring

theorem digitsFrom?_eq_some_iff (radix start value : Nat) (text : List Char) :
    digitsFrom? radix start text = some value ↔
      ∃ digits, Spells radix text digits ∧
        value = Nat.ofDigits radix (start :: digits).reverse := by
  induction text generalizing start with
  | nil =>
      simp only [digitsFrom?, spells_nil_iff, exists_eq_left, Option.some.injEq,
        List.reverse_singleton, Nat.ofDigits_singleton]
      exact eq_comm
  | cons c rest ih =>
      simp only [digitsFrom?, spells_cons_iff]
      cases here : digit? radix c with
      | none =>
          constructor
          · intro read
            cases read
          · rintro ⟨digits, ⟨digit, others, missing, -⟩, -⟩
            cases missing
      | some digit =>
          refine (ih (radix * start + digit)).trans ?_
          constructor
          · rintro ⟨others, spelled, rfl⟩
            exact ⟨digit :: others, ⟨digit, others, rfl, spelled, rfl⟩,
              (ofDigits_reverse_cons_cons _ _ _ _).symm⟩
          · rintro ⟨_, ⟨first, others, same, spelled, rfl⟩, rfl⟩
            cases same
            exact ⟨others, spelled, ofDigits_reverse_cons_cons _ _ _ _⟩

theorem digits?_eq_some_iff (radix value : Nat) (text : List Char) :
    digits? radix text = some value ↔
      ∃ digits, Spells radix text digits ∧ digits ≠ [] ∧
        value = Nat.ofDigits radix digits.reverse := by
  rw [digits?, Option.ite_none_left_eq_some, List.isEmpty_iff, digitsFrom?_eq_some_iff]
  simp only [Nat.ofDigits_reverse_zero_cons]
  constructor
  · rintro ⟨nonempty, digits, spelled, size⟩
    exact ⟨digits, spelled, spelled.ne_nil_iff.mpr nonempty, size⟩
  · rintro ⟨digits, spelled, nonempty, size⟩
    exact ⟨spelled.ne_nil_iff.mp nonempty, digits, spelled, size⟩

/-- A plus sign is no digit, so the text of a numeral without a sign has none to drop. -/
theorem Spells.dropPlus_eq {radix : Nat} {text : List Char} {digits : List Nat}
    (spelled : Spells radix text digits) : dropPlus text = text := by
  rw [dropPlus.eq_def]
  split
  · obtain ⟨digit, others, sign, -⟩ := spells_cons_iff.mp spelled
    cases sign
  · rfl

theorem digits?_dropPlus_eq_some_iff (radix value : Nat) (text : List Char) :
    digits? radix (dropPlus text) = some value ↔ IsNumeral radix text value := by
  rw [digits?_eq_some_iff]
  constructor
  · rintro ⟨digits, spelled, nonempty, size⟩
    refine ⟨dropPlus text, digits, ?_, spelled, nonempty, size⟩
    rw [dropPlus.eq_def]
    split
    · exact Or.inr rfl
    · exact Or.inl rfl
  · rintro ⟨spelling, digits, rfl | rfl, spelled, nonempty, size⟩
    · exact ⟨digits, spelled.dropPlus_eq.symm ▸ spelled, nonempty, size⟩
    · exact ⟨digits, spelled, nonempty, size⟩

theorem natural?_eq_some_iff (radix limit value : Nat) (text : List Char) :
    natural? radix limit text = some value ↔ IsNumeral radix text value ∧ value < limit := by
  rw [natural?, Option.filter_eq_some_iff, digits?_dropPlus_eq_some_iff, decide_eq_true_eq]

theorem natural?_eq_none_iff (radix limit : Nat) (text : List Char) :
    natural? radix limit text = none ↔ ∀ value, IsNumeral radix text value → limit ≤ value := by
  rw [Option.eq_none_iff_forall_ne_some]
  simp only [ne_eq, natural?_eq_some_iff, not_and, Nat.not_lt]

theorem u64?_eq_some_iff (text : List Char) (counter : UInt64) :
    u64? text = some counter ↔ IsNumeral 10 text counter.toNat := by
  rw [u64?, Option.map_eq_some_iff]
  constructor
  · intro read
    obtain ⟨value, found, rfl⟩ := read
    obtain ⟨numeral, small⟩ := (natural?_eq_some_iff 10 UInt64.size value text).mp found
    rwa [UInt64.toNat_ofNat_of_lt' small]
  · intro numeral
    exact ⟨counter.toNat, (natural?_eq_some_iff _ _ _ _).mpr ⟨numeral, counter.toNat_lt⟩,
      UInt64.ofNat_toNat⟩

theorem u64?_eq_none_iff (text : List Char) :
    u64? text = none ↔ ∀ value, IsNumeral 10 text value → UInt64.size ≤ value := by
  rw [u64?, Option.map_eq_none_iff, natural?_eq_none_iff]

theorem IsNumeral.unique {radix : Nat} {text : List Char} {first second : Nat}
    (numeral : IsNumeral radix text first) (other : IsNumeral radix text second) :
    first = second := by
  rw [← digits?_dropPlus_eq_some_iff] at numeral other
  exact Option.some.inj (numeral.symm.trans other)

theorem natural?_of_isNumeral {radix value : Nat} {text : List Char}
    (numeral : IsNumeral radix text value) (limit : Nat) :
    natural? radix limit text = if value < limit then some value else none := by
  split
  next small => exact (natural?_eq_some_iff _ _ _ _).mpr ⟨numeral, small⟩
  next large =>
    rw [natural?_eq_none_iff]
    intro other numeralOther
    rw [← numeral.unique numeralOther]
    exact Nat.le_of_not_lt large

section Letters

theorem digit?_digitChar {radix digit : Nat} (high : radix ≤ 16) (small : digit < radix) :
    digit? radix digit.digitChar = some digit := by
  have letters : ∀ digit < 16, digit? 16 digit.digitChar = some digit := by decide
  have read := letters digit (by omega)
  simp only [digit?, Option.filter_eq_some_iff] at read ⊢
  exact ⟨read.1, decide_eq_true small⟩

theorem toNat_toLower (c : Char) :
    c.toLower.toNat = if 0x41 ≤ c.toNat ∧ c.toNat ≤ 0x5A then c.toNat + 0x20 else c.toNat := by
  have capital : (c.val ≥ 'A'.val ∧ c.val ≤ 'Z'.val) ↔ 0x41 ≤ c.toNat ∧ c.toNat ≤ 0x5A := by
    simp only [ge_iff_le, UInt32.le_iff_toNat_le]
    exact Iff.rfl
  unfold Char.toLower
  split
  next upper =>
    rw [if_pos (capital.mp upper)]
    have bound : c.val.toNat ≤ 0x5A := (capital.mp upper).2
    have sum : (c.val + ('a'.val - 'A'.val)).toNat = c.val.toNat + 0x20 := by
      rw [UInt32.toNat_add, Nat.mod_eq_of_lt]
      · rfl
      · change c.val.toNat + 0x20 < _
        omega
    exact sum
  next other => rw [if_neg (fun range => other (capital.mpr range))]

theorem digit?_toLower (radix : Nat) (c : Char) : digit? radix c.toLower = digit? radix c := by
  unfold digit?
  rw [toNat_toLower]
  grind

theorem spells_map_toLower {radix : Nat} {letters : List Char} {digits : List Nat} :
    Spells radix (letters.map Char.toLower) digits ↔ Spells radix letters digits := by
  simp only [Spells, List.forall₂_map_left_iff, digit?_toLower]

theorem spells_toDigits {radix : Nat} (low : 1 < radix) (high : radix ≤ 16) (value : Nat) :
    ∃ digits, Spells radix (Nat.toDigits radix value) digits ∧
      value = Nat.ofDigits radix digits.reverse := by
  -- The digits before the last are those of the quotient by the radix.
  induction value using Nat.strongRecOn with
  | ind value ih =>
      by_cases small : value < radix
      · refine ⟨[value], ?_, by simp⟩
        rw [Nat.toDigits_of_lt_base small]
        exact List.Forall₂.cons (digit?_digitChar high small) .nil
      · have positive : 0 < value / radix := Nat.div_pos (Nat.le_of_not_lt small) (by omega)
        have last : value % radix < radix := Nat.mod_lt value (by omega)
        obtain ⟨digits, spelled, size⟩ := ih (value / radix) (Nat.div_lt_self (by omega) low)
        refine ⟨digits ++ [value % radix], ?_, ?_⟩
        · have whole := Nat.toDigits_append_toDigits low positive last
          rw [Nat.div_add_mod, Nat.toDigits_of_lt_base last] at whole
          rw [← whole]
          exact List.rel_append spelled (List.Forall₂.cons (digit?_digitChar high last) .nil)
        · rw [List.reverse_append, List.reverse_singleton, List.singleton_append,
            Nat.ofDigits_cons, ← size, Nat.mod_add_div]

theorem isNumeral_toDigits (value : Nat) : IsNumeral 10 (Nat.toDigits 10 value) value := by
  obtain ⟨digits, spelled, size⟩ := spells_toDigits (show 1 < 10 by decide) (show 10 ≤ 16 by decide) value
  exact ⟨_, digits, Or.inl rfl, spelled, spelled.ne_nil_iff.mpr Nat.toDigits_ne_nil, size⟩

theorem spells_zeros {radix : Nat} (low : 1 < radix) (high : radix ≤ 16) (zeros : Nat) :
    Spells radix (List.replicate zeros '0') (List.replicate zeros 0) := by
  have zero : digit? radix (Nat.digitChar 0) = some 0 := digit?_digitChar high (by omega)
  induction zeros with
  | zero => exact List.Forall₂.nil
  | succ zeros ih => exact List.Forall₂.cons zero ih

/-- The letters write the number, each digit in either case, after any zeros. -/
def Writes (radix : Nat) (letters : List Char) (value : Nat) : Prop :=
  ∃ zeros, letters.map Char.toLower = List.replicate zeros '0' ++ Nat.toDigits radix value

theorem Writes.exists_spells {radix value : Nat} {letters : List Char} (low : 1 < radix)
    (high : radix ≤ 16) (written : Writes radix letters value) :
    ∃ digits, Spells radix letters digits ∧ digits ≠ [] ∧
      value = Nat.ofDigits radix digits.reverse := by
  obtain ⟨zeros, same⟩ := written
  obtain ⟨digits, spelled, size⟩ := spells_toDigits low high value
  have whole : Spells radix letters (List.replicate zeros 0 ++ digits) := by
    rw [← spells_map_toLower, same]
    exact List.rel_append (spells_zeros low high zeros) spelled
  refine ⟨_, whole, ?_, ?_⟩
  · rw [whole.ne_nil_iff]
    intro none
    subst none
    simp [Nat.toDigits_ne_nil] at same
  · rw [List.reverse_append, List.reverse_replicate, Nat.ofDigits_append_replicate_zero, size]

theorem Writes.isNumeral {radix value : Nat} {letters : List Char} (low : 1 < radix)
    (high : radix ≤ 16) (written : Writes radix letters value) :
    IsNumeral radix letters value := by
  obtain ⟨digits, spelled, nonempty, size⟩ := written.exists_spells low high
  exact ⟨letters, digits, Or.inl rfl, spelled, nonempty, size⟩

theorem Spells.code {radix : Nat} {letters : List Char} {digits : List Nat}
    (spelled : Spells radix letters digits) {c : Char} (member : c ∈ letters) :
    0x30 ≤ c.toNat ∧ c.toNat ≤ 0x66 := by
  induction spelled with
  | nil => cases member
  | cons read _ ih =>
      rcases List.mem_cons.mp member with rfl | later
      · simp only [digit?, Option.filter_eq_some_iff] at read
        grind
      · exact ih later

theorem Writes.code {radix value : Nat} {letters : List Char} (low : 1 < radix)
    (high : radix ≤ 16) (written : Writes radix letters value) {c : Char} (member : c ∈ letters) :
    0x30 ≤ c.toNat ∧ c.toNat ≤ 0x66 := by
  obtain ⟨digits, spelled, -⟩ := written.exists_spells low high
  exact spelled.code member

end Letters

end SmuTelemetry.Text
