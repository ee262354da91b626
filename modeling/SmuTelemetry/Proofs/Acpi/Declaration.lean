import SmuTelemetry.Acpi.Aml
import SmuTelemetry.Proofs.Word.LittleEndian

/-!
What the search for a declaration finds. A declaration is a position of the body at which
the pattern and one encoded operand stand; the search answers with the operand at the
first of the positions it is let to look at.
-/

namespace SmuTelemetry

set_option autoImplicit false

namespace AmlInteger

theorem decode?_eq_some_iff (bytes : Bytes) (operand : AmlInteger) :
    decode? bytes = some operand ↔ operand.encode <+: bytes := by
  cases bytes with
  | nil => cases operand <;> simp [decode?, encode]
  | cons tag rest =>
      by_cases isDword : tag = dwordTag
      · rw [decode?, if_pos isDword, isDword, Option.map_eq_some_iff]
        cases operand with
        | dword value => simp [encode, Bytes.u32At?_start_eq_some_iff]
        | qword value => simp [encode, dwordTag, qwordTag]
      · rw [decode?, if_neg isDword]
        by_cases isQword : tag = qwordTag
        · rw [if_pos isQword, isQword, Option.map_eq_some_iff]
          cases operand with
          | dword value => simp [encode, dwordTag, qwordTag]
          | qword value => simp [encode, Bytes.u64At?_start_eq_some_iff]
        · rw [if_neg isQword]
          cases operand with
          | dword value => simp [encode, Ne.symm isDword]
          | qword value => simp [encode, Ne.symm isQword]

end AmlInteger

namespace Aml

def Starts (body : Bytes) (operand : AmlInteger) : Prop :=
  regionPattern ++ operand.encode <+: body

/-- The operand stands at the first declaration among the first `count` positions. -/
def First (count : Nat) (body : Bytes) (operand : AmlInteger) : Prop :=
  ∃ index < count, Starts (body.drop index) operand ∧
    ∀ earlier < index, ∀ other, ¬Starts (body.drop earlier) other

theorem starts_iff (body : Bytes) (operand : AmlInteger) :
    Starts body operand ↔
      (if regionPattern.isPrefixOf body then
        AmlInteger.decode? (body.drop regionPattern.length) else none) = some operand := by
  unfold Starts
  split
  next present =>
    obtain ⟨rest, rfl⟩ := List.isPrefixOf_iff_prefix.mp present
    rw [List.drop_left, AmlInteger.decode?_eq_some_iff, List.prefix_append_right_inj]
  next absent =>
    constructor
    · intro starts
      have present := (List.prefix_append regionPattern operand.encode).trans starts
      exact absurd (List.isPrefixOf_iff_prefix.mpr present) absent
    · intro impossible
      cases impossible

theorem not_starts_nil (operand : AmlInteger) : ¬Starts [] operand := by
  intro starts
  cases List.prefix_nil.mp starts

theorem first_of_starts {count : Nat} {body : Bytes} {operand : AmlInteger}
    (starts : Starts body operand) (other : AmlInteger) :
    First (count + 1) body other ↔ operand = other := by
  constructor
  · intro first
    obtain ⟨index, _, found, least⟩ := first
    cases index with
    | zero =>
        have same := ((starts_iff body operand).mp starts).symm.trans
          ((starts_iff body other).mp found)
        exact Option.some.inj same
    | succ index => exact absurd starts (least 0 (Nat.succ_pos index) operand)
  · intro same
    subst same
    exact ⟨0, Nat.succ_pos count, starts, fun earlier before => absurd before (Nat.not_lt_zero _)⟩

theorem first_cons {count : Nat} {byte : UInt8} {rest : Bytes}
    (absent : ∀ operand, ¬Starts (byte :: rest) operand) (operand : AmlInteger) :
    First (count + 1) (byte :: rest) operand ↔ First count rest operand := by
  constructor
  · intro first
    obtain ⟨index, inside, found, least⟩ := first
    cases index with
    | zero => exact absurd found (absent operand)
    | succ index =>
        refine ⟨index, Nat.lt_of_succ_lt_succ inside, found, ?_⟩
        intro earlier before
        exact least (earlier + 1) (Nat.succ_lt_succ before)
  · intro first
    obtain ⟨index, inside, found, least⟩ := first
    refine ⟨index + 1, Nat.succ_lt_succ inside, found, ?_⟩
    intro earlier before
    cases earlier with
    | zero => exact absent
    | succ earlier => exact least earlier (Nat.lt_of_succ_lt_succ before)

theorem scanFrom_eq_some_iff (count : Nat) (body : Bytes) (address : UInt64) :
    scanFrom count body = some address ↔
      ∃ operand, First count body operand ∧ operand.value = address := by
  induction body generalizing count with
  | nil =>
      have nothing : scanFrom count [] = none := by cases count <;> rfl
      rw [nothing]
      constructor
      · intro impossible
        cases impossible
      · intro declared
        obtain ⟨operand, ⟨index, _, found, _⟩, _⟩ := declared
        rw [List.drop_nil] at found
        exact absurd found (not_starts_nil operand)
  | cons byte rest ih =>
      cases count with
      | zero => simp [scanFrom, First]
      | succ count =>
          unfold scanFrom
          cases here : (if regionPattern.isPrefixOf (byte :: rest) then
              AmlInteger.decode? ((byte :: rest).drop regionPattern.length) else none) with
          | some operand =>
              simp only [first_of_starts ((starts_iff _ operand).mpr here)]
              simp
          | none =>
              have absent : ∀ operand, ¬Starts (byte :: rest) operand := by
                intro operand starts
                rw [starts_iff, here] at starts
                cases starts
              simp only [first_cons absent]
              exact ih count

end Aml

end SmuTelemetry
