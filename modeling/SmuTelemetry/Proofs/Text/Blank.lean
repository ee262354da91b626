import Mathlib
import SmuTelemetry.Text.Blank

/-!
Blanks around and inside a text. Trimming leaves the one part that has no blank at either end
and only blanks around it; the words are the parts without blanks, each as long as it can be.
The ends of lines are blanks as well, so cutting them off changes no word.
-/

namespace SmuTelemetry

set_option autoImplicit false

section Runs

variable {α : Type} {test : α → Bool} {run rest : List α}

theorem takeWhile_run (inside : ∀ item ∈ run, test item = true)
    (boundary : ∀ item, rest.head? = some item → test item = false) :
    (run ++ rest).takeWhile test = run := by
  rw [List.takeWhile_append_of_pos inside]
  cases rest with
  | nil => exact List.append_nil run
  | cons item rest =>
      have fails := boundary item rfl
      rw [List.takeWhile_cons_of_neg (Bool.eq_false_iff.mp fails), List.append_nil]

theorem dropWhile_run (inside : ∀ item ∈ run, test item = true)
    (boundary : ∀ item, rest.head? = some item → test item = false) :
    (run ++ rest).dropWhile test = rest := by
  rw [List.dropWhile_append_of_pos inside]
  cases rest with
  | nil => rfl
  | cons item rest =>
      exact List.dropWhile_cons_of_neg (Bool.eq_false_iff.mp (boundary item rfl))

theorem eq_false_of_head?_dropWhile (items : List α) {item : α}
    (found : (items.dropWhile test).head? = some item) : test item = false := by
  have fails := List.head?_dropWhile_not test items
  rw [found] at fails
  exact fails

end Runs

namespace Text

/-- The core is the text without some blanks before and after it, and has none at its ends. -/
structure Trims (text core : List Char) : Prop where
  split : ∃ before after, text = before ++ (core ++ after) ∧
    (∀ c ∈ before, isBlank c = true) ∧ ∀ c ∈ after, isBlank c = true
  first : ∀ c, core.head? = some c → isBlank c = false
  last : ∀ c, core.getLast? = some c → isBlank c = false

theorem trim_eq_rdropWhile (text : List Char) :
    trim text = (text.dropWhile isBlank).rdropWhile isBlank := rfl

theorem trims_trim (text : List Char) : Trims text (trim text) where
  split := by
    refine ⟨text.takeWhile isBlank, (text.dropWhile isBlank).rtakeWhile isBlank, ?_,
      fun c => List.mem_takeWhile_imp, fun c => List.mem_rtakeWhile_imp⟩
    rw [trim_eq_rdropWhile, List.rdropWhile_append_rtakeWhile, List.takeWhile_append_dropWhile]
  first := by
    intro c head
    obtain ⟨rest, whole⟩ := List.rdropWhile_prefix isBlank (text.dropWhile isBlank)
    rw [← trim_eq_rdropWhile] at whole
    apply eq_false_of_head?_dropWhile text
    rw [← whole, List.head?_append, head]
    rfl
  last := by
    intro c last
    rw [trim, List.getLast?_reverse] at last
    exact eq_false_of_head?_dropWhile _ last

theorem trim_eq_iff (text core : List Char) : trim text = core ↔ Trims text core := by
  constructor
  · intro same
    subst same
    exact trims_trim text
  · intro trims
    obtain ⟨⟨before, after, rfl, blankBefore, blankAfter⟩, first, last⟩ := trims
    rw [trim]
    by_cases empty : core = []
    · subst empty
      have blanks : ∀ c ∈ before ++ ([] ++ after), isBlank c = true := by
        intro c member
        rcases List.mem_append.mp member with member | member
        · exact blankBefore c member
        · exact blankAfter c member
      rw [List.dropWhile_eq_nil_iff.mpr blanks]
      rfl
    · have starts : ∀ c, (core ++ after).head? = some c → isBlank c = false := by
        intro c head
        rw [List.head?_append_of_ne_nil core empty] at head
        exact first c head
      have ends : ∀ c, core.reverse.head? = some c → isBlank c = false := by
        intro c head
        rw [List.head?_reverse] at head
        exact last c head
      rw [dropWhile_run blankBefore starts, List.reverse_append,
        dropWhile_run (fun c member => blankAfter c (List.mem_reverse.mp member)) ends,
        List.reverse_reverse]

/-- The words of a text in order: parts without blanks, with at least one blank between two of
them and any blanks before the first and after the last. -/
inductive HasWords : List Char → List (List Char) → Prop where
  | none {text : List Char} (blank : ∀ c ∈ text, isBlank c = true) : HasWords text []
  | word {before word rest : List Char} {others : List (List Char)}
      (blank : ∀ c ∈ before, isBlank c = true) (nonempty : word ≠ [])
      (letters : ∀ c ∈ word, isBlank c = false)
      (boundary : ∀ c, rest.head? = some c → isBlank c = true) (tail : HasWords rest others) :
      HasWords (before ++ (word ++ rest)) (word :: others)

/-- One character from the right: the word it may belong to, and the words behind that. -/
def readLetter (c : Char) (state : List Char × List (List Char)) :
    List Char × List (List Char) :=
  if isBlank c then if state.1.isEmpty then state else ([], state.1 :: state.2)
  else (c :: state.1, state.2)

def closeWord (state : List Char × List (List Char)) : List (List Char) :=
  if state.1.isEmpty then state.2 else state.1 :: state.2

theorem words_eq_closeWord (text : List Char) :
    words text = closeWord (text.foldr readLetter ([], [])) := rfl

theorem readLetter_of_blank {c : Char} (blank : isBlank c = true)
    (state : List Char × List (List Char)) : readLetter c state = ([], closeWord state) := by
  obtain ⟨pending, done⟩ := state
  cases pending <;> simp [readLetter, closeWord, blank]

theorem words_cons_of_blank {c : Char} (blank : isBlank c = true) (rest : List Char) :
    words (c :: rest) = words rest := by
  rw [words_eq_closeWord, List.foldr_cons, readLetter_of_blank blank]
  rfl

theorem words_append_of_blank {before : List Char} (blank : ∀ c ∈ before, isBlank c = true)
    (rest : List Char) : words (before ++ rest) = words rest := by
  induction before with
  | nil => rfl
  | cons c before ih =>
      obtain ⟨first, others⟩ := List.forall_mem_cons.mp blank
      rw [List.cons_append, words_cons_of_blank first, ih others]

theorem words_concat_of_blank (text : List Char) {c : Char} (blank : isBlank c = true) :
    words (text ++ [c]) = words text := by
  rw [words_eq_closeWord, words_eq_closeWord, List.foldr_append, List.foldr_cons,
    readLetter_of_blank blank]
  rfl

theorem foldr_readLetter_append {word : List Char} (letters : ∀ c ∈ word, isBlank c = false)
    (state : List Char × List (List Char)) :
    word.foldr readLetter state = (word ++ state.1, state.2) := by
  induction word with
  | nil => rfl
  | cons c word ih =>
      obtain ⟨first, others⟩ := List.forall_mem_cons.mp letters
      rw [List.foldr_cons, ih others, readLetter, first]
      rfl

theorem foldr_readLetter_of_boundary {rest : List Char}
    (boundary : ∀ c, rest.head? = some c → isBlank c = true) :
    rest.foldr readLetter ([], []) = ([], words rest) := by
  cases rest with
  | nil => rfl
  | cons c rest =>
      have blank := boundary c rfl
      rw [words_cons_of_blank blank, List.foldr_cons, readLetter_of_blank blank]
      rfl

theorem words_append_of_letters {word rest : List Char} (nonempty : word ≠ [])
    (letters : ∀ c ∈ word, isBlank c = false)
    (boundary : ∀ c, rest.head? = some c → isBlank c = true) :
    words (word ++ rest) = word :: words rest := by
  rw [words_eq_closeWord, List.foldr_append, foldr_readLetter_of_boundary boundary,
    foldr_readLetter_append letters, closeWord, if_neg]
  · rw [List.append_nil]
  · rw [List.append_nil, List.isEmpty_iff]
    exact nonempty

theorem hasWords_words (text : List Char) : HasWords text (words text) := by
  induction size : text.length using Nat.strong_induction_on generalizing text with
  | _ size ih =>
    subst size
    have blank : ∀ c ∈ text.takeWhile isBlank, isBlank c = true := fun c => List.mem_takeWhile_imp
    have whole : text.takeWhile isBlank ++ text.dropWhile isBlank = text :=
      List.takeWhile_append_dropWhile
    cases found : text.dropWhile isBlank with
    | nil =>
        have blanks := List.dropWhile_eq_nil_iff.mp found
        have none := words_append_of_blank blanks []
        rw [List.append_nil] at none
        rw [none]
        exact .none blanks
    | cons first others =>
        have letter : isBlank first = false :=
          eq_false_of_head?_dropWhile text (by rw [found]; rfl)
        let word := (first :: others).takeWhile fun c => !isBlank c
        let rest := (first :: others).dropWhile fun c => !isBlank c
        have parts : word ++ rest = first :: others := List.takeWhile_append_dropWhile
        have nonempty : word ≠ [] := by
          simp [word, letter]
        have letters : ∀ c ∈ word, isBlank c = false := by
          intro c member
          have passed := List.mem_takeWhile_imp member
          simpa using passed
        have boundary : ∀ c, rest.head? = some c → isBlank c = true := by
          intro c head
          have failed := eq_false_of_head?_dropWhile _ head
          simpa using failed
        rw [found, ← parts] at whole
        have shorter : rest.length < text.length := by
          have positive := List.length_pos_iff.mpr nonempty
          rw [← whole, List.length_append, List.length_append]
          omega
        have tail := ih rest.length shorter rest rfl
        rw [← whole, words_append_of_blank blank,
          words_append_of_letters nonempty letters boundary]
        exact .word blank nonempty letters boundary tail

theorem words_eq_iff (text : List Char) (pieces : List (List Char)) :
    words text = pieces ↔ HasWords text pieces := by
  constructor
  · intro same
    subst same
    exact hasWords_words text
  · intro has
    induction has with
    | none blank =>
        have none := words_append_of_blank blank []
        rwa [List.append_nil] at none
    | word blank nonempty letters boundary _ ih =>
        rw [words_append_of_blank blank, words_append_of_letters nonempty letters boundary, ih]

theorem splitOn_ne_nil (separator : Char) (text : List Char) : splitOn separator text ≠ [] := by
  induction text with
  | nil => exact List.cons_ne_nil _ _
  | cons c rest ih =>
      rw [splitOn]
      split
      · exact List.cons_ne_nil _ _
      · split <;> exact List.cons_ne_nil _ _

theorem words_cutEnd (line : List Char) :
    words (if line.getLast? = some '\r' then line.dropLast else line) = words line := by
  split
  next ends =>
    obtain ⟨front, rfl⟩ := List.getLast?_eq_some_iff.mp ends
    rw [List.dropLast_concat, words_concat_of_blank front (by decide)]
  next => rfl

theorem filterMap_lines {β : Type} (read : List (List Char) → Option β) (none : read [] = none)
    (text : List Char) :
    (lines text).filterMap (fun line => read (words line)) =
      (splitOn '\n' text).filterMap fun line => read (words line) := by
  have whole := List.dropLast_concat_getLast (splitOn_ne_nil '\n' text)
  have last := List.getLast?_eq_some_getLast (splitOn_ne_nil '\n' text)
  generalize (splitOn '\n' text).getLast _ = final at whole last
  have ended : ∀ pieces : List (List Char),
      (pieces.map fun line =>
        if line.getLast? = some '\r' then line.dropLast else line).filterMap
          (fun line => read (words line)) = pieces.filterMap fun line => read (words line) := by
    intro pieces
    rw [List.filterMap_map]
    refine List.filterMap_congr fun line _ => ?_
    exact congrArg read (words_cutEnd line)
  simp only [lines, last, Option.getD_some]
  conv => rhs; rw [← whole]
  rw [List.filterMap_append]
  split
  next empty =>
    obtain rfl := List.isEmpty_iff.mp empty
    rw [ended]
    simp [words, none]
  next => rw [List.filterMap_append, ended]

theorem after?_eq_some_iff (word text rest : List Char) :
    after? word text = some rest ↔ text = word ++ rest := by
  rw [after?, Option.ite_none_right_eq_some, List.isPrefixOf_iff_prefix,
    List.prefix_iff_eq_append, Option.some.injEq]
  constructor
  · intro found
    obtain ⟨starts, rfl⟩ := found
    exact starts.symm
  · intro parts
    subst parts
    exact ⟨congrArg (word ++ ·) List.drop_left, List.drop_left⟩

theorem after?_eq_none_iff (word text : List Char) :
    after? word text = none ↔ ¬word <+: text := by
  rw [Option.eq_none_iff_forall_ne_some]
  constructor
  · intro none starts
    obtain ⟨rest, starts⟩ := starts
    exact none rest ((after?_eq_some_iff word text rest).mpr starts.symm)
  · intro other rest found
    exact other ⟨rest, ((after?_eq_some_iff word text rest).mp found).symm⟩

end Text

end SmuTelemetry
