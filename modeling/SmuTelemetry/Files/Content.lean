import SmuTelemetry.Word.LittleEndian

/-!
File contents. A content is a size and a byte for each position, so a file of many
gigabytes costs no more than the bytes that were written to it.
-/

namespace SmuTelemetry

set_option autoImplicit false

/-- A finite byte sequence; only positions below the size belong to it. -/
structure Content where
  size : Nat
  byte : Nat → UInt8

namespace Content

def byteOrZero (content : Content) (position : Nat) : UInt8 :=
  if position < content.size then content.byte position else 0

/-- `count` bytes from a position on, continued by zeros past the end. -/
def padded (content : Content) (start count : Nat) : Bytes :=
  (List.range count).map fun index => content.byteOrZero (start + index)

def read (content : Content) (start count : Nat) : Bytes :=
  content.padded start (min count (content.size - start))

def toBytes (content : Content) : Bytes := content.padded 0 content.size

def ofBytes (bytes : Bytes) : Content :=
  let stored := bytes.toArray
  { size := stored.size, byte := fun position => stored.getD position 0 }

def filled (size : Nat) (fill : UInt8) : Content := { size := size, byte := fun _ => fill }

/-- Replaces the bytes from a position on; the content grows to hold all of them. -/
def write (content : Content) (start : Nat) (bytes : Bytes) : Content :=
  let stored := bytes.toArray
  { size := max content.size (start + stored.size)
    byte := fun position =>
      if start ≤ position ∧ position < start + stored.size then
        stored.getD (position - start) 0
      else content.byteOrZero position }

theorem length_padded (content : Content) (start count : Nat) :
    (content.padded start count).length = count := by
  simp [padded]

theorem length_read (content : Content) (start count : Nat) :
    (content.read start count).length = min count (content.size - start) := by
  simp [read, length_padded]

theorem read_write (content : Content) (start : Nat) (bytes : Bytes) :
    (content.write start bytes).read start bytes.length = bytes := by
  apply List.ext_getElem
  · simp only [length_read, write, List.size_toArray]
    omega
  · intro index _ within
    have inside : start + index < max content.size (start + bytes.length) := by omega
    have replaced : start ≤ start + index ∧ start + index < start + bytes.length := by omega
    simp only [read, padded, byteOrZero, write, List.getElem_map, List.getElem_range,
      List.size_toArray, if_pos inside, if_pos replaced, Nat.add_sub_cancel_left]
    simp [within]

end Content

end SmuTelemetry
