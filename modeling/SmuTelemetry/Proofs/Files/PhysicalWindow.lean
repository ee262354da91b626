import Mathlib
import SmuTelemetry.Files.PhysicalWindow

/-!
Windows of physical memory read through a memory file. A mapping starts at a page and is
cut to size, and what is left are the file's own bytes wherever the window stands in its
page.
-/

namespace SmuTelemetry

set_option autoImplicit false

namespace Content

/-- The little-endian word of four bytes of a file. -/
def word (content : Content) (position : Nat) : UInt32 :=
  UInt32.ofNat
    (Bytes.littleEndian ((List.range 4).map fun index => content.byte (position + index)))

end Content

namespace PageSize

end PageSize

namespace MappingPlan

variable (page : PageSize) (address : UInt64) (length : Nat)

end MappingPlan

def Content.window (content : Content) (page : PageSize) (address : UInt64) (length : Nat) :
    PhysicalWindow :=
  let plan := MappingPlan.ofWindow page address length
  { plan := plan, mapping := content.padded plan.offset plan.length, length := length }

section Window

variable (tree : FileTree) (page : PageSize) {id : FileId} {address : UInt64} {length : Nat}
  (positive : 0 < length) (held : address.toNat + length ≤ (tree.contents id).size)

include positive held

namespace FileTree

variable (path : String) (resolved : tree.resolve path = .ok (.file id))

include resolved

end FileTree

end Window

namespace FileTree

end FileTree

end SmuTelemetry
