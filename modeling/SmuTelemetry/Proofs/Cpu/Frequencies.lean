import Mathlib
import SmuTelemetry.Cpu.Frequency
import SmuTelemetry.Proofs.Files.Readings
import SmuTelemetry.Proofs.Text.Natural

/-!
Processor frequencies from attribute files that may be missing. A processor is tracked
while no processor before it but the first is without a frequency; the list of
frequencies has a tracked processor's frequency at its number and zero everywhere else.
-/

namespace SmuTelemetry

set_option autoImplicit false

def FileTree.HoldsKilohertz (tree : FileTree) (path : String) (kilohertz : Nat) : Prop :=
  ∃ text, tree.HoldsText path text ∧
    Text.natural? 10 UInt64.size (Text.trim text) = some kilohertz ∧ 0 < kilohertz

/-- How an attribute fails to tell a frequency: it is missing or unreadable, its bytes are no text,
the text is no number or one that is too large, or the number is zero. -/
inductive FileTree.PassedOver (tree : FileTree) (path : String) : Prop
  | unread (fault : Fault) (failed : tree.readBytes path = .error fault)
  | garbled (bytes : Bytes) (read : tree.readBytes path = .ok bytes)
      (noText : Text.Utf8.decode? bytes = none)
  | noNumber (text : List Char) (held : tree.HoldsText path text)
      (tooLarge : ∀ value, Text.IsNumeral 10 (Text.trim text) value → UInt64.size ≤ value)
  | zero (text : List Char) (held : tree.HoldsText path text)
      (none : Text.IsNumeral 10 (Text.trim text) 0)

namespace Frequency

variable {tree : FileTree} {root : String}

theorem kilohertz?_eq_some_iff {path : String} {kilohertz : Nat} :
    kilohertz? tree path = some kilohertz ↔ tree.HoldsKilohertz path kilohertz := by
  unfold kilohertz? FileTree.HoldsKilohertz
  simp only [← FileTree.toOption_readText_eq_some_iff]
  cases tree.readText path with
  | error fault => simp [Except.toOption]
  | ok text => simp [Except.toOption, Option.filter_eq_some_iff]

theorem passedOver_iff (tree : FileTree) (path : String) :
    tree.PassedOver path ↔ ∀ kilohertz, ¬tree.HoldsKilohertz path kilohertz := by
  constructor
  · intro passed kilohertz holds
    obtain ⟨text, held, told, positive⟩ := holds
    have unique (other : List Char) (otherHeld : tree.HoldsText path other) : other = text := by
      rw [← FileTree.toOption_readText_eq_some_iff] at held otherHeld
      exact Option.some.inj (otherHeld.symm.trans held)
    obtain ⟨numeral, small⟩ := (Text.natural?_eq_some_iff _ _ _ _).mp told
    cases passed with
    | unread fault failed => exact FileTree.not_holdsText_of_error failed text held
    | garbled bytes read noText =>
        obtain ⟨others, otherRead, decoded⟩ := held
        obtain rfl := Except.ok.inj (read.symm.trans otherRead)
        rw [noText] at decoded
        cases decoded
    | noNumber other otherHeld tooLarge =>
        obtain rfl := unique other otherHeld
        exact Nat.not_lt.mpr (tooLarge kilohertz numeral) small
    | zero other otherHeld none =>
        obtain rfl := unique other otherHeld
        exact absurd (none.unique numeral) (Nat.ne_of_lt positive)
  · intro nothing
    cases read : tree.readBytes path with
    | error fault => exact .unread fault read
    | ok bytes =>
        cases decoded : Text.Utf8.decode? bytes with
        | none => exact .garbled bytes read decoded
        | some text =>
            have held : tree.HoldsText path text := ⟨bytes, read, decoded⟩
            cases told : Text.natural? 10 UInt64.size (Text.trim text) with
            | none => exact .noNumber text held ((Text.natural?_eq_none_iff _ _ _).mp told)
            | some kilohertz =>
                have zero : kilohertz = 0 := by
                  by_contra other
                  exact nothing kilohertz ⟨text, held, told, Nat.pos_of_ne_zero other⟩
                subst zero
                exact .zero text held ((Text.natural?_eq_some_iff _ _ _ _).mp told).1

def HoldsCurrent (tree : FileTree) (root : String) (cpu kilohertz : Nat) : Prop :=
  tree.HoldsKilohertz (joinPath root ("cpu" ++ toString cpu ++ "/cpufreq/scaling_cur_freq"))
    kilohertz

theorem kilohertz?_current_eq_some_iff {cpu kilohertz : Nat} :
    kilohertz? tree (currentPath root cpu) = some kilohertz ↔
      HoldsCurrent tree root cpu kilohertz :=
  kilohertz?_eq_some_iff

/-- The processor and all before it have a frequency; the first one needs none. -/
def Tracked (tree : FileTree) (root : String) (cpu : Nat) : Prop :=
  cpu < 256 ∧ ∀ other, 1 ≤ other → other ≤ cpu → ∃ kilohertz, HoldsCurrent tree root other kilohertz

theorem isUsable_iff {cpu : Nat} :
    isUsable tree root cpu = true ↔ ∃ kilohertz, HoldsCurrent tree root cpu kilohertz := by
  unfold isUsable
  rw [Option.isSome_iff_exists]
  simp only [kilohertz?_current_eq_some_iff]

theorem getElem?_takeWhile_range' (test : Nat → Bool) (start count index : Nat) {value : Nat} :
    ((List.range' start count).takeWhile test)[index]? = some value ↔
      value = start + index ∧ index < count ∧
        ∀ other, start ≤ other → other ≤ start + index → test other = true := by
  induction count generalizing start index with
  | zero => simp
  | succ count ih =>
      rw [List.range'_succ, List.takeWhile_cons]
      split
      next passed =>
        cases index with
        | zero =>
            constructor
            · intro found
              refine ⟨by simpa using found.symm, by omega, ?_⟩
              intro other lower upper
              rw [show other = start by omega]
              exact passed
            · rintro ⟨rfl, -, -⟩
              rfl
        | succ index =>
            rw [List.getElem?_cons_succ, ih]
            constructor
            · rintro ⟨rfl, within, rest⟩
              refine ⟨by omega, by omega, ?_⟩
              intro other lower upper
              by_cases first : other = start
              · rw [first]
                exact passed
              · exact rest other (by omega) (by omega)
            · rintro ⟨rfl, within, all⟩
              exact ⟨by omega, by omega, fun other lower upper =>
                all other (by omega) (by omega)⟩
      next failed =>
        constructor
        · simp
        · rintro ⟨-, -, all⟩
          exact absurd (all start (by omega) (by omega)) failed

theorem getElem?_consecutive {cpu value : Nat} :
    (consecutive tree root)[cpu]? = some value ↔ value = cpu ∧ Tracked tree root cpu := by
  unfold consecutive Tracked
  cases cpu with
  | zero =>
      simp only [List.getElem?_cons_zero, Option.some.injEq]
      constructor
      · rintro rfl
        exact ⟨rfl, by decide, fun other lower upper => by omega⟩
      · rintro ⟨rfl, -⟩
        rfl
  | succ cpu =>
      rw [List.getElem?_cons_succ, getElem?_takeWhile_range']
      simp only [isUsable_iff]
      have room : cpu < maxCpus - 1 ↔ cpu + 1 < 256 := Nat.lt_sub_iff_add_lt
      rw [room, Nat.add_comm 1 cpu]

/-- Zeros at the end of a list make no difference to a reader that takes zero for what the
list does not have. -/
theorem getD_rdropWhile_zero (readings : List Binary32) (index : Nat) :
    (readings.rdropWhile fun megahertz => megahertz == 0).getD index 0 =
      readings.getD index 0 := by
  induction readings using List.reverseRecOn with
  | nil => rfl
  | append_singleton front last ih =>
      rw [List.rdropWhile_concat]
      split
      next zero =>
        rw [ih]
        rw [beq_iff_eq.mp zero]
        rcases Nat.lt_or_ge index front.length with before | after
        · rw [List.getD_append _ _ _ _ before]
        · rw [List.getD_eq_default _ _ after, List.getD_append_right _ _ _ _ after]
          cases index - front.length <;> rfl
      next => rfl

theorem logical_eq_rdropWhile (tree : FileTree) (root : String) :
    logical tree root =
      ((consecutive tree root).map (reading tree root)).rdropWhile
        fun megahertz => megahertz == 0 := rfl

/-- A list of frequencies that files tell of: a tracked processor's frequency stands at its
number, zero stands for all others, and no zero is at the end. -/
structure ToldBy (tree : FileTree) (root : String) (frequencies : List Binary32) : Prop where
  reading : ∀ cpu,
    ReadOr (fun kilohertz => Tracked tree root cpu ∧ HoldsCurrent tree root cpu kilohertz)
      (fun kilohertz => Binary32.ofNat kilohertz / 1000) 0 (frequencies.getD cpu 0)
  noZeroAtEnd : frequencies.getLast? ≠ some 0

def trackedKilohertz? (tree : FileTree) (root : String) (cpu : Nat) : Option Nat :=
  (consecutive tree root)[cpu]?.bind fun cpu => kilohertz? tree (currentPath root cpu)

theorem trackedKilohertz?_eq_some_iff {cpu kilohertz : Nat} :
    trackedKilohertz? tree root cpu = some kilohertz ↔
      Tracked tree root cpu ∧ HoldsCurrent tree root cpu kilohertz := by
  unfold trackedKilohertz?
  simp only [Option.bind_eq_some_iff, getElem?_consecutive, kilohertz?_current_eq_some_iff]
  constructor
  · rintro ⟨_, ⟨rfl, tracked⟩, holds⟩
    exact ⟨tracked, holds⟩
  · rintro ⟨tracked, holds⟩
    exact ⟨cpu, ⟨rfl, tracked⟩, holds⟩

theorem reading_eq_elim (tree : FileTree) (root : String) (cpu : Nat) :
    reading tree root cpu =
      (kilohertz? tree (currentPath root cpu)).elim 0 ReferenceClock.megahertz := by
  unfold reading
  split
  next kilohertz found => rw [found, Option.elim_some]
  next missing => rw [missing, Option.elim_none]

theorem getD_logical (tree : FileTree) (root : String) (cpu : Nat) :
    (logical tree root).getD cpu 0 =
      (trackedKilohertz? tree root cpu).elim 0 ReferenceClock.megahertz := by
  unfold trackedKilohertz?
  rw [logical_eq_rdropWhile, getD_rdropWhile_zero, List.getD_eq_getElem?_getD,
    List.getElem?_map]
  cases (consecutive tree root)[cpu]? with
  | none => rw [Option.map_none, Option.getD_none, Option.bind_none, Option.elim_none]
  | some number => rw [Option.map_some, Option.getD_some, Option.bind_some, reading_eq_elim]

theorem logical_toldBy (tree : FileTree) (root : String) :
    ToldBy tree root (logical tree root) where
  reading cpu := by
    rw [getD_logical]
    exact readOr_of_option (fun _ => trackedKilohertz?_eq_some_iff) _ _
  noZeroAtEnd := by
    intro zero
    rw [logical_eq_rdropWhile] at zero
    obtain ⟨last, nonempty⟩ := List.mem_getLast?_eq_getLast zero
    apply List.rdropWhile_last_not _ _ last
    rw [← nonempty]
    exact beq_self_eq_true _

/-- The kilohertz of the reference clock come from the first of its files that has some. -/
def HoldsReference (tree : FileTree) (root : String) (kilohertz : Nat) : Prop :=
  ∃ better name worse, referenceFiles = better ++ name :: worse ∧
    tree.HoldsKilohertz (joinPath root name) kilohertz ∧
    ∀ other ∈ better, ∀ value, ¬tree.HoldsKilohertz (joinPath root other) value

theorem reference?_eq_some_iff {megahertz : Binary32} :
    reference? tree root = some megahertz ↔
      ∃ kilohertz, HoldsReference tree root kilohertz ∧
        ReferenceClock.megahertz kilohertz = megahertz := by
  unfold reference? HoldsReference
  simp only [Option.map_eq_some_iff, List.findSome?_eq_some_iff, kilohertz?_eq_some_iff,
    Option.eq_none_iff_forall_ne_some, ne_eq]

theorem holdsReference_iff {kilohertz : Nat} :
    HoldsReference tree root kilohertz ↔
      ∃ better name worse, referenceFiles = better ++ name :: worse ∧
        (∀ other ∈ better, tree.PassedOver (joinPath root other)) ∧
        tree.HoldsKilohertz (joinPath root name) kilohertz := by
  unfold HoldsReference
  simp only [passedOver_iff, and_comm]

theorem reference?_congr {other : FileTree}
    (same : ∀ name ∈ referenceFiles,
      other.readText (joinPath root name) = tree.readText (joinPath root name)) :
    reference? other root = reference? tree root := by
  let attributes (tree : FileTree) :=
    referenceFiles.map fun name => kilohertz? tree (joinPath root name)
  have first (tree : FileTree) : reference? tree root =
      ((attributes tree).findSome? id).map ReferenceClock.megahertz := by
    simp only [reference?, attributes, List.findSome?_map, Function.id_comp]
  have told : attributes other = attributes tree := by
    apply List.map_congr_left
    intro name listed
    unfold kilohertz?
    rw [same name listed]
  rw [first, first, told]

end Frequency

end SmuTelemetry
