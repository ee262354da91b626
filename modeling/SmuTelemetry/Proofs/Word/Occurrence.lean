import Mathlib

/-!
Places at which a word occurs in a list. A word that never ends the way it begins cannot
overlap another place of itself, so a list without the word, the word, and anything after it
hold the word first where it was put.
-/

namespace SmuTelemetry

set_option autoImplicit false

variable {α : Type}

def OccursAt (word items : List α) (place : Nat) : Prop := word <+: items.drop place

/-- No end of the word is also a beginning of it, the whole word apart. -/
def Unbordered (word : List α) : Prop :=
  ∀ shift, 0 < shift → shift < word.length → ¬word.drop shift <+: word

theorem unbordered_of_nodup {word : List α} (different : word.Nodup) : Unbordered word := by
  intro shift positive inside border
  have start : 0 < (word.drop shift).length := by
    rw [List.length_drop]
    omega
  have first := border.getElem start
  rw [List.getElem_drop, different.getElem_inj_iff] at first
  omega

theorem OccursAt.apart {word items : List α} {first second : Nat} (unbordered : Unbordered word)
    (earlier : OccursAt word items first) (later : OccursAt word items second)
    (before : first < second) : first + word.length ≤ second := by
  by_contra overlap
  have places : first + (second - first) = second := by omega
  have ending : word.drop (second - first) <+: items.drop second := by
    have dropped := earlier.drop (second - first)
    rwa [List.drop_drop, places] at dropped
  have shorter : (word.drop (second - first)).length ≤ word.length := by
    rw [List.length_drop]
    omega
  exact unbordered (second - first) (by omega) (by omega)
    (List.prefix_of_prefix_length_le ending later shorter)

theorem OccursAt.infix_front {word front rest : List α} {place : Nat}
    (occurs : OccursAt word (front ++ rest) place)
    (inside : place + word.length ≤ front.length) : word <:+: front := by
  have fits : word.length ≤ (front.drop place).length := by
    rw [List.length_drop]
    omega
  rw [OccursAt, List.drop_append_of_le_length (by omega)] at occurs
  have start := List.prefix_of_prefix_length_le occurs (List.prefix_append _ rest) fits
  exact start.isInfix.trans (List.drop_suffix place front).isInfix

theorem isLeast_occursAt_append {word front : List α} (unbordered : Unbordered word)
    (absent : ¬word <:+: front) (rest : List α) :
    IsLeast {place | OccursAt word (front ++ (word ++ rest)) place} front.length := by
  have occurs : OccursAt word (front ++ (word ++ rest)) front.length := by
    rw [OccursAt, List.drop_left]
    exact List.prefix_append word rest
  refine ⟨occurs, ?_⟩
  intro place elsewhere
  by_contra earlier
  exact absent (OccursAt.infix_front elsewhere
    (OccursAt.apart unbordered elsewhere occurs (Nat.not_le.mp earlier)))

theorem isLeast_occursAt_cons_iff {word items : List α} {first : α} {place : Nat}
    (absent : ¬word <+: first :: items) :
    IsLeast {place | OccursAt word (first :: items) place} place ↔
      ∃ earlier, place = earlier + 1 ∧ IsLeast {place | OccursAt word items place} earlier := by
  constructor
  · intro first
    obtain ⟨occurs, least⟩ := first
    cases place with
    | zero => exact absurd occurs absent
    | succ earlier =>
        refine ⟨earlier, rfl, occurs, fun other elsewhere => ?_⟩
        exact Nat.le_of_succ_le_succ (least (show other + 1 ∈ _ from elsewhere))
  · intro later
    obtain ⟨earlier, rfl, occurs, least⟩ := later
    refine ⟨occurs, fun other elsewhere => ?_⟩
    cases other with
    | zero => exact absurd elsewhere absent
    | succ other => exact Nat.succ_le_succ (least elsewhere)

end SmuTelemetry
