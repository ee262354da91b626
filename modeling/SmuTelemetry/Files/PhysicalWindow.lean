import SmuTelemetry.Files.Access

/-!
Windows of physical memory. Memory is mapped in whole pages, so a window at any
address is mapped from the start of its page and then cut to size.
-/

namespace SmuTelemetry

set_option autoImplicit false

/-- A page has a power of two of bytes, counted by a 64-bit number. -/
structure PageSize where
  exponent : Nat
  exponent_lt : exponent < 64 := by decide
deriving DecidableEq, Repr

namespace PageSize

/-- Pages of 4096 bytes, which a system that reports no size is taken to have. -/
def standard : PageSize := { exponent := 12 }

def bytes (page : PageSize) : UInt64 := UInt64.ofNat (1 <<< page.exponent)

def startOf (page : PageSize) (address : UInt64) : UInt64 := address &&& ~~~(page.bytes - 1)

def roundUp (page : PageSize) (length : Nat) : Nat :=
  (length + (page.bytes.toNat - 1)) / page.bytes.toNat * page.bytes.toNat

end PageSize

/-- A page-aligned mapping and the window's place in it. -/
structure MappingPlan where
  offset : Nat
  /-- Bytes of the mapping before the window. -/
  skew : Nat
  length : Nat
deriving DecidableEq, Repr

def MappingPlan.ofWindow (page : PageSize) (address : UInt64) (length : Nat) : MappingPlan :=
  let start := page.startOf address
  let skew := (address - start).toNat
  { offset := start.toNat, skew := skew, length := skew + length }

namespace Handle

/-- Longest mapping of endless zeros, which takes memory for all of it. -/
def maxZeros : Nat := 0x100000000

/-- The bytes of a mapping, which starts at a page and is not empty. Bytes past the end of a
file that share its last page are zeros, and a mapping past that page is refused; directories
and most devices cannot be mapped. -/
def map (page : PageSize) (tree : FileTree) (handle : Handle) (offset length : Nat) :
    Except OsError Bytes :=
  if offset % page.bytes.toNat ≠ 0 ∨ length = 0 then .error .invalidArgument
  else match handle with
    | file id =>
        let content := tree.contents id
        if offset + length ≤ page.roundUp content.size then .ok (content.padded offset length)
        else .error .overflow
    | device .zero =>
        if maxZeros < length then .error .outOfMemory else .ok (List.replicate length 0)
    | device _ | directory => .error .noDevice

end Handle

/-- A mapped window: the mapping that was asked for, its bytes, and the window's length. -/
structure PhysicalWindow where
  plan : MappingPlan
  mapping : Bytes
  length : Nat
deriving DecidableEq, Repr

def PhysicalWindow.bytes (window : PhysicalWindow) : Bytes :=
  (window.mapping.drop window.plan.skew).take window.length

namespace FileTree

/-- Maps a window through a memory file. Whatever fails, the error names the address that was
asked for. -/
def openWindow (tree : FileTree) (page : PageSize) (path : String) (address : UInt64)
    (length : Nat) : Except TelemetryError PhysicalWindow :=
  if length = 0 then
    .error (.map address (.custom .invalidInput "empty physical region"))
  else
    let plan := MappingPlan.ofWindow page address length
    match tree.openRead path with
    | .error fault => .error (.map address fault)
    | .ok handle => match handle.map page tree plan.offset plan.length with
      | .error error => .error (.map address (.os error))
      | .ok mapping => .ok { plan := plan, mapping := mapping, length := length }

def mapWindow (tree : FileTree) (path : String) (address : UInt64) (length : Nat) :
    Except TelemetryError Bytes :=
  (tree.openWindow .standard path address length).map PhysicalWindow.bytes

end FileTree

end SmuTelemetry
