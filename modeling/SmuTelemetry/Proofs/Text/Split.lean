import Mathlib
import SmuTelemetry.Proofs.Text.Blank

/-!
Texts split at a separator. The pieces are the parts without the separator that joining puts
together again, and splitting once looks for the first separator only.
-/

namespace SmuTelemetry.Text

set_option autoImplicit false

theorem splitOn_eq_library (separator : Char) (text : List Char) :
    splitOn separator text = List.splitOn separator text := by
  rw [List.splitOn_eq_splitOnP]
  induction text with
  | nil => rfl
  | cons c rest ih =>
      rw [splitOn, ih, List.splitOnP_cons_eq_if_modifyHead]
      by_cases same : c = separator
      · simp [same]
      · simp only [same, if_false, beq_iff_eq]
        cases pieces : List.splitOnP (fun other => other == separator) rest with
        | nil => exact absurd (ih.trans pieces) (splitOn_ne_nil separator rest)
        | cons first others => rfl

variable {separator : Char}

theorem not_mem_of_mem_splitOn {text piece : List Char} (member : piece ∈ splitOn separator text) :
    separator ∉ piece := by
  induction text generalizing piece with
  | nil => simp_all [splitOn]
  | cons c rest ih =>
      rw [splitOn] at member
      split at member
      next =>
        rcases List.mem_cons.mp member with rfl | later
        · exact List.not_mem_nil
        · exact ih later
      next other =>
        split at member
        next none => exact absurd none (splitOn_ne_nil separator rest)
        next first others found =>
          rw [found] at ih
          rcases List.mem_cons.mp member with rfl | later
          · have clean := ih List.mem_cons_self
            simp [clean, Ne.symm other]
          · exact ih (List.mem_cons_of_mem first later)

theorem splitOn_eq_iff (text : List Char) (pieces : List (List Char)) :
    splitOn separator text = pieces ↔
      pieces ≠ [] ∧ (∀ piece ∈ pieces, separator ∉ piece) ∧
        text = [separator].intercalate pieces := by
  constructor
  · rintro rfl
    refine ⟨splitOn_ne_nil separator text, fun _ => not_mem_of_mem_splitOn, ?_⟩
    rw [splitOn_eq_library, List.intercalate_splitOn]
  · rintro ⟨nonempty, clean, rfl⟩
    rw [splitOn_eq_library, List.splitOn_intercalate separator clean nonempty]

theorem splitOnce_eq_some_iff (text before after : List Char) :
    splitOnce separator text = some (before, after) ↔
      text = before ++ separator :: after ∧ separator ∉ before := by
  induction text generalizing before with
  | nil => simp [splitOnce]
  | cons c rest ih =>
      rw [splitOnce]
      split
      next same =>
        subst same
        constructor
        · intro found
          cases found
          exact ⟨rfl, List.not_mem_nil⟩
        · rintro ⟨parts, clean⟩
          cases before with
          | nil => cases parts; rfl
          | cons first before =>
              cases parts
              exact absurd List.mem_cons_self clean
      next other =>
        rw [Option.map_eq_some_iff]
        constructor
        · rintro ⟨⟨front, back⟩, found, parts⟩
          cases parts
          obtain ⟨rfl, clean⟩ := (ih front).mp found
          exact ⟨rfl, by simp [clean, Ne.symm other]⟩
        · rintro ⟨parts, clean⟩
          cases before with
          | nil =>
              cases parts
              exact absurd rfl other
          | cons first before =>
              cases parts
              have found := (ih before).mpr ⟨rfl, fun member => clean (List.mem_cons_of_mem _ member)⟩
              exact ⟨(before, after), found, rfl⟩

end SmuTelemetry.Text
