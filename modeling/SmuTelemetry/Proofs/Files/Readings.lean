import SmuTelemetry.Msr
import SmuTelemetry.Proofs.Word.LittleEndian

/-!
Readings that fall back. What a file holds is a relation between the file and a value, and
a reading is the value that its file holds, or a fixed value when the file is missing,
unreadable or garbled.
-/

namespace SmuTelemetry

set_option autoImplicit false

/-- A reading is the value of what its source holds, or the default when it holds nothing. -/
def ReadOr {α β : Type} (holds : α → Prop) (value : α → β) (default : β) (reading : β) : Prop :=
  (∀ held, holds held → reading = value held) ∧ ((∀ held, ¬holds held) → reading = default)

theorem readOr_of_option {α β : Type} {holds : α → Prop} {source : Option α}
    (exact : ∀ held, source = some held ↔ holds held) (value : α → β) (default : β) :
    ReadOr holds value default (source.elim default value) := by
  constructor
  · intro held holding
    rw [(exact held).mpr holding]
    rfl
  · intro nothing
    cases found : source with
    | none => rfl
    | some held => exact absurd ((exact held).mp found) (nothing held)

namespace FileTree

def HoldsText (tree : FileTree) (path : String) (text : List Char) : Prop :=
  ∃ bytes, tree.readBytes path = .ok bytes ∧ Text.Utf8.decode? bytes = some text

def HoldsWord (tree : FileTree) (path : String) (word : UInt32) : Prop :=
  ∃ bytes, tree.readBytes path = .ok bytes ∧ Bytes.ofU32 word <+: bytes

def HoldsRegister (tree : FileTree) (path : String) (register : UInt32) (value : UInt64) :
    Prop :=
  ∃ handle, tree.openRead path = .ok handle ∧
    handle.readAt tree register.toNat 8 = .ok (Bytes.ofU64 value)

section

variable {tree : FileTree} {path : String}

theorem toOption_readText_eq_some_iff {text : List Char} :
    (tree.readText path).toOption = some text ↔ tree.HoldsText path text := by
  unfold readText HoldsText
  cases read : tree.readBytes path with
  | error fault => simp [Except.toOption]
  | ok bytes =>
      cases decoded : Text.Utf8.decode? bytes with
      | none => simp [Except.toOption, decoded]
      | some held => simp [Except.toOption, decoded]

theorem not_holdsText_of_error {fault : Fault} (missing : tree.readBytes path = .error fault)
    (text : List Char) : ¬tree.HoldsText path text := by
  rintro ⟨bytes, read, -⟩
  rw [missing] at read
  cases read

theorem bind_u32At?_eq_some_iff {word : UInt32} :
    ((tree.readBytes path).toOption.bind fun bytes => bytes.u32At? 0) = some word ↔
      tree.HoldsWord path word := by
  unfold HoldsWord
  cases read : tree.readBytes path with
  | error fault => simp [Except.toOption]
  | ok bytes => simp [Except.toOption, Bytes.u32At?_start_eq_some_iff]

theorem not_holdsWord_of_error {fault : Fault} (missing : tree.readBytes path = .error fault)
    (word : UInt32) : ¬tree.HoldsWord path word := by
  rintro ⟨bytes, read, -⟩
  rw [missing] at read
  cases read

theorem read?_eq_some_iff {register : UInt32} {value : UInt64} :
    Msr.read? tree path register = some value ↔ tree.HoldsRegister path register value := by
  unfold Msr.read? Msr.read HoldsRegister
  cases opened : tree.openRead path with
  | error fault => simp [Except.toOption]
  | ok handle =>
      cases read : handle.readAt tree register.toNat 8 with
      | error error => simp [Except.toOption, read]
      | ok bytes =>
          have encoded : (Bytes.ofU64 value).length = 8 := Bytes.length_ofLittleEndian 8 _
          by_cases whole : bytes.length = 8
          · simp [Except.toOption, read, whole,
              Bytes.ofNat_littleEndian_eq_iff_u64 bytes value whole]
          · have other : bytes ≠ Bytes.ofU64 value := by
              rintro rfl
              exact whole encoded
            simp [Except.toOption, read, whole, other]

theorem not_holdsRegister_of_error {fault : Fault} (missing : tree.openRead path = .error fault)
    (register : UInt32) (value : UInt64) : ¬tree.HoldsRegister path register value := by
  rintro ⟨handle, opened, -⟩
  rw [missing] at opened
  cases opened

end

end FileTree

end SmuTelemetry
