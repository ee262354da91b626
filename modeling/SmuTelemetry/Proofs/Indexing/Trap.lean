import Mathlib
import SmuTelemetry.Word.LittleEndian

/-!
Operations that can stop a program: a sum that is no 64-bit index, a range that leaves its
list, a copy between lists of different lengths. A program written with them shows by its
answer whether any of this happened.
-/

namespace SmuTelemetry

set_option autoImplicit false

inductive Trap where
  | overflow (first second : Nat)
  | range (start stop length : Nat)
  | copy (target source : Nat)
deriving DecidableEq, Repr

namespace Trap

def add (first second : Nat) : Except Trap Nat :=
  if first + second < Bytes.addressLimit then .ok (first + second)
  else .error (overflow first second)

def slice {α : Type} (items : List α) (start stop : Nat) : Except Trap (List α) :=
  if start ≤ stop ∧ stop ≤ items.length then .ok ((items.drop start).take (stop - start))
  else .error (range start stop items.length)

def copyOver {α : Type} (target source : List α) : Except Trap (List α) :=
  if target.length = source.length then .ok source
  else .error (copy target.length source.length)

theorem ok_bind {α β : Type} (value : α) (next : α → Except Trap β) :
    (Except.ok value >>= next) = next value := rfl

theorem slice_start {α : Type} {items : List α} {count : Nat} (inside : count ≤ items.length) :
    slice items 0 count = .ok (items.take count) := by
  rw [slice, if_pos ⟨Nat.zero_le count, inside⟩, List.drop_zero, Nat.sub_zero]

theorem copyOver_of_length {α : Type} {target source : List α}
    (same : target.length = source.length) : copyOver target source = .ok source :=
  if_pos same

end Trap

end SmuTelemetry
