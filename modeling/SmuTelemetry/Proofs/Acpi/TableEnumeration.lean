import SmuTelemetry.Proofs.Acpi.TableOrder
import SmuTelemetry.Proofs.Text.Blank
import SmuTelemetry.Proofs.Text.Natural
import SmuTelemetry.Session

/-!
Enumeration of the tables in a directory. The order in which a directory lists its entries
does not matter: with distinct numbers the table files have one increasing order, and skipping
the files without a table keeps it. The number of a file is what its name ends with, read as a
number and not as a text.
-/

namespace SmuTelemetry

set_option autoImplicit false

namespace Ssdt

theorem length_lt_append_fileWord (rest : List Char) :
    rest.length < (fileWord ++ rest).length := by
  rw [List.length_append]
  exact Nat.lt_add_of_pos_left (by decide)

theorem dropFileWords_of_not_prefix {name : List Char} (other : ¬fileWord <+: name) :
    dropFileWords name = name := by
  rw [dropFileWords, (Text.after?_eq_none_iff fileWord name).mpr other]

theorem dropFileWords_append (rest : List Char) :
    dropFileWords (fileWord ++ rest) = dropFileWords rest := by
  rw [dropFileWords, (Text.after?_eq_some_iff fileWord _ rest).mpr rfl]
  exact if_pos (length_lt_append_fileWord rest)

theorem dropFileWords_eq_iff (name rest : List Char) :
    dropFileWords name = rest ↔
      ∃ count, name = (List.replicate count fileWord).flatten ++ rest ∧ ¬fileWord <+: rest := by
  constructor
  · intro dropped
    fun_induction dropFileWords name with
    | case1 name other =>
        cases dropped
        exact ⟨0, rfl, (Text.after?_eq_none_iff _ _).mp other⟩
    | case2 name after found shorter ih =>
        obtain ⟨count, repeated, other⟩ := ih dropped
        refine ⟨count + 1, ?_, other⟩
        rw [List.replicate_succ, List.flatten_cons, List.append_assoc, ← repeated]
        exact (Text.after?_eq_some_iff _ _ _).mp found
    | case3 name after found longer =>
        rw [(Text.after?_eq_some_iff _ _ _).mp found] at longer
        exact absurd (length_lt_append_fileWord after) longer
  · intro repeated
    obtain ⟨count, rfl, other⟩ := repeated
    induction count with
    | zero => exact dropFileWords_of_not_prefix other
    | succ count ih =>
        rw [List.replicate_succ, List.flatten_cons, List.append_assoc, dropFileWords_append]
        exact ih

/-- The number that ends a file name after all repetitions of the file word; zero where no
number of 32 bits stands there. -/
def HasNumber (name : String) (number : Nat) : Prop :=
  ∃ count rest, name.toList = (List.replicate count fileWord).flatten ++ rest ∧
    ¬fileWord <+: rest ∧
    ((Text.IsNumeral 10 rest number ∧ number < UInt32.size) ∨
      ((∀ value, Text.IsNumeral 10 rest value → UInt32.size ≤ value) ∧ number = 0))

theorem fileOrder_eq_iff (name : String) (number : Nat) :
    fileOrder name = number ↔ HasNumber name number := by
  rw [fileOrder, Option.getD_eq_iff, Text.natural?_eq_some_iff, Text.natural?_eq_none_iff,
    eq_comm (a := 0)]
  constructor
  · intro read
    obtain ⟨count, repeated, other⟩ := (dropFileWords_eq_iff name.toList _).mp rfl
    exact ⟨count, _, repeated, other, read⟩
  · intro numbered
    obtain ⟨count, rest, repeated, other, read⟩ := numbered
    rw [(dropFileWords_eq_iff name.toList rest).mpr ⟨count, repeated, other⟩]
    exact read

theorem fileOrder_decimal {number : Nat} (small : number < UInt32.size) :
    fileOrder ("SSDT" ++ toString number) = number := by
  have digits : ("SSDT" ++ toString number).toList = fileWord ++ Nat.toDigits 10 number := by
    rw [String.toList_append, Nat.toString_eq_ofList_toDigits]
    exact congrArg (fileWord ++ ·) String.toList_ofList
  have other : ¬fileWord <+: Nat.toDigits 10 number := by
    intro word
    have letter : 'S' ∈ Nat.toDigits 10 number := word.subset List.mem_cons_self
    have decimal := Nat.isDigit_of_mem_toDigits (by decide) (by decide) letter
    cases decimal
  refine (fileOrder_eq_iff _ _).mpr ⟨1, Nat.toDigits 10 number, ?_, other, ?_⟩
  · rw [digits]
    rfl
  · exact Or.inl ⟨Text.isNumeral_toDigits number, small⟩

/-- The tables of exactly the table files that can be read and parsed, by increasing number. -/
def Enumerates (names : List String) (read : String → Except Fault Bytes)
    (tables : List Ssdt) : Prop :=
  ∃ files : List String,
    (files.Pairwise fun first second => fileOrder first < fileOrder second) ∧
    (∀ name, name ∈ files ↔
      name ∈ names ∧ fileWord <+: name.toList ∧ ∃ table, FileHolds read name table) ∧
    List.Forall₂ (FileHolds read) files tables

theorem FileHolds.unique {read : String → Except Fault Bytes} :
    Relator.RightUnique (FileHolds read) := by
  intro name first second one other
  obtain ⟨raw, readable, parsed⟩ := one
  obtain ⟨again, readAgain, parsedAgain⟩ := other
  cases readable.symm.trans readAgain
  exact Except.ok.inj (parsed.symm.trans parsedAgain)

theorem Enumerates.unique {names listing : List String}
    {read readListed : String → Except Fault Bytes} {tables others : List Ssdt}
    (same : ∀ name, name ∈ listing ↔ name ∈ names)
    (agree : ∀ name ∈ names, readListed name = read name)
    (one : Enumerates names read tables) (other : Enumerates listing readListed others) :
    others = tables := by
  obtain ⟨files, increasing, chosen, held⟩ := one
  obtain ⟨filesListed, increasingListed, chosenListed, heldListed⟩ := other
  have holds {name : String} (member : name ∈ names) (table : Ssdt) :
      FileHolds readListed name table ↔ FileHolds read name table := by
    rw [FileHolds, FileHolds, agree name member]
  have irreflexive : Std.Irrefl fun first second => fileOrder first < fileOrder second :=
    ⟨fun _ => Nat.lt_irrefl _⟩
  have antisymmetric : Std.Antisymm fun first second => fileOrder first < fileOrder second :=
    ⟨fun _ _ before after => absurd before (Nat.lt_asymm after)⟩
  have sameFiles : filesListed = files := by
    refine increasingListed.eq_of_mem_iff increasing fun name => ?_
    rw [chosen, chosenListed, same]
    refine and_congr_right fun member => and_congr_right fun _ => exists_congr fun table => ?_
    exact holds member table
  subst sameFiles
  have among : ∀ name ∈ filesListed, name ∈ names := fun name member =>
    ((chosen name).mp member).1
  have heldAmong : List.Forall₂ (fun name table => name ∈ names ∧ FileHolds readListed name table)
      filesListed others := (List.forall₂_and_left _ _).mpr ⟨among, heldListed⟩
  have heldAlike : List.Forall₂ (FileHolds read) filesListed others :=
    heldAmong.imp fun _ table held => (holds held.1 table).mp held.2
  exact List.right_unique_forall₂' FileHolds.unique heldAlike held

theorem filterMap_forall₂ {α β : Type} (answer : α → Option β) (items : List α) :
    List.Forall₂ (fun item result => answer item = some result)
      (items.filter fun item => (answer item).isSome) (items.filterMap answer) := by
  induction items with
  | nil => exact .nil
  | cons item rest ih =>
      cases here : answer item with
      | none =>
          rw [List.filter_cons_of_neg (by simp [here]), List.filterMap_cons_none here]
          exact ih
      | some result =>
          rw [List.filter_cons_of_pos (by simp [here]), List.filterMap_cons_some here]
          exact .cons here ih

theorem load_enumerates (names : List String) (read : String → Except Fault Bytes)
    (distinct : ((names.filter isTableFile).map fileOrder).Nodup) :
    Enumerates names read (load names read) := by
  refine ⟨(tableFiles names).filter fun name => (fileTable? read name).isSome, ?_, ?_, ?_⟩
  · exact (tableFiles_increasing names distinct).filter _
  · intro name
    rw [List.mem_filter, mem_tableFiles, isTableFile, List.isPrefixOf_iff_prefix,
      Option.isSome_iff_exists, and_assoc]
    simp only [fileTable?_eq_some_iff]
  · exact (filterMap_forall₂ (fileTable? read) (tableFiles names)).imp fun name table =>
      (fileTable?_eq_some_iff read name table).mp

theorem load_eq_of_perm {names listing : List String} (reordered : listing.Perm names)
    {read readListed : String → Except Fault Bytes}
    (agree : ∀ name ∈ names, readListed name = read name)
    (distinct : ((names.filter isTableFile).map fileOrder).Nodup) :
    load listing readListed = load names read := by
  have distinctListed : ((listing.filter isTableFile).map fileOrder).Nodup :=
    ((reordered.filter isTableFile).map fileOrder).nodup_iff.mpr distinct
  exact (load_enumerates names read distinct).unique (fun _ => reordered.mem_iff) agree
    (load_enumerates listing readListed distinctListed)

/-- Where the numbers of the table files are distinct, every listing of a directory gives the
same tables: those of exactly the table files that can be read and parsed, by increasing number.
No file makes loading fail. -/
theorem load_of_any_listing (names : List String) (read : String → Except Fault Bytes)
    (distinct : ((names.filter isTableFile).map fileOrder).Nodup) :
    (∀ tables, Enumerates names read tables ↔ tables = load names read) ∧
    (∀ listing, listing.Perm names → load listing read = load names read) ∧
    (∀ (tree : FileTree) (directory : String) (listing : List String),
      tree.list directory = .ok listing → listing.Perm names →
      (∀ name ∈ names, tree.readBytes (joinPath directory name) = read name) →
        Session.loadTables tree directory = .ok (load names read)) ∧
    (∀ name number, fileOrder name = number ↔ HasNumber name number) ∧
    ∀ number < UInt32.size, fileOrder ("SSDT" ++ toString number) = number := by
  have enumerated := load_enumerates names read distinct
  refine ⟨?_, ?_, ?_, fileOrder_eq_iff, fun _ => fileOrder_decimal⟩
  · intro tables
    constructor
    · exact enumerated.unique (fun _ => Iff.rfl) (fun _ _ => rfl)
    · rintro rfl
      exact enumerated
  · intro listing reordered
    exact load_eq_of_perm reordered (fun _ _ => rfl) distinct
  · intro tree directory listing listed reordered agree
    rw [Session.loadTables, listed]
    exact congrArg Except.ok (load_eq_of_perm reordered agree distinct)

/-- The tables with numbers two and ten, beside a broken file, a directory named as a table file
and a table under another name; the second tree lists them backwards. -/
theorem load_of_reversed_listing :
    let rest : HeaderRest :=
      { beforeId := List.replicate 8 0, afterId := List.replicate 12 0
        beforeId_length := rfl, afterId_length := rfl }
    let low : Ssdt := { tableId := List.replicate 8 0x4C, body := [2] }
    let high : Ssdt := { tableId := List.replicate 8 0x48, body := [10] }
    let nodes : List (Place × Node) :=
      [(["acpi", "SSDT10"], .file 0), (["acpi", "SSDT3"], .file 1), (["acpi", "DSDT"], .file 0),
        (["acpi", "SSDT2"], .file 2), (["acpi", "SSDT4"], .directory), (["acpi"], .directory)]
    let tree : FileTree :=
      { nodes := nodes
        contents := fun id =>
          if id = 0 then .ofBytes (encode rest high)
          else if id = 1 then .filled 40 0x53
          else .ofBytes (encode rest low) }
    let reversed : FileTree := { tree with nodes := nodes.reverse }
    tree.list "/acpi" = .ok ["SSDT10", "SSDT3", "DSDT", "SSDT2", "SSDT4"] ∧
      reversed.list "/acpi" = .ok ["SSDT4", "SSDT2", "DSDT", "SSDT3", "SSDT10"] ∧
      Session.loadTables tree "/acpi" = .ok [low, high] ∧
      Session.loadTables reversed "/acpi" = .ok [low, high] := by
  intro rest low high nodes tree reversed
  let names := ["SSDT10", "SSDT3", "DSDT", "SSDT2", "SSDT4"]
  let read := fun name => tree.readBytes (joinPath "/acpi" name)
  have listed : tree.list "/acpi" = .ok names := by decide +kernel
  have listedBack : reversed.list "/acpi" = .ok names.reverse := by decide +kernel
  have lowHeld : FileHolds read "SSDT2" low :=
    (fileTable?_eq_some_iff read _ low).mp (by decide +kernel)
  have highHeld : FileHolds read "SSDT10" high :=
    (fileTable?_eq_some_iff read _ high).mp (by decide +kernel)
  have usable : ∀ name ∈ names, isTableFile name = true → (fileTable? read name).isSome →
      name ∈ ["SSDT2", "SSDT10"] := by decide +kernel
  have enumerated : Enumerates names read [low, high] := by
    refine ⟨["SSDT2", "SSDT10"], by decide +kernel, ?_, .cons lowHeld (.cons highHeld .nil)⟩
    intro name
    constructor
    · intro member
      rcases List.mem_pair.mp member with rfl | rfl
      · exact ⟨by decide, by decide, low, lowHeld⟩
      · exact ⟨by decide, by decide, high, highHeld⟩
    · rintro ⟨member, word, table, held⟩
      refine usable name member (List.isPrefixOf_iff_prefix.mpr word) ?_
      rw [(fileTable?_eq_some_iff read name table).mpr held]
      rfl
  have loads := load_of_any_listing names read (by decide +kernel)
  have tables := (loads.1 [low, high]).mp enumerated
  refine ⟨listed, listedBack, ?_, ?_⟩
  · rw [loads.2.2.1 tree "/acpi" names listed (.refl _) fun _ _ => rfl, tables]
  · rw [loads.2.2.1 reversed "/acpi" names.reverse listedBack (List.reverse_perm _)
      (by decide +kernel), tables]

end Ssdt

end SmuTelemetry
