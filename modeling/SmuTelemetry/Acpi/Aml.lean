import SmuTelemetry.Acpi.Ssdt

/-!
Search for the overclocking region in table bytecode. The bytecode is not
interpreted: one fixed declaration is looked for, and only two encodings of its
address are understood. Anything else counts as no declaration.
-/

namespace SmuTelemetry

set_option autoImplicit false

inductive AmlInteger where
  | dword (value : UInt32)
  | qword (value : UInt64)
deriving DecidableEq, Repr

namespace AmlInteger

def dwordTag : UInt8 := 0x0C
def qwordTag : UInt8 := 0x0E

def decode? : Bytes → Option AmlInteger
  | [] => none
  | tag :: rest =>
      if tag = dwordTag then (Bytes.u32At? rest 0).map dword
      else if tag = qwordTag then (Bytes.u64At? rest 0).map qword
      else none

def encode : AmlInteger → Bytes
  | dword value => dwordTag :: Bytes.ofU32 value
  | qword value => qwordTag :: Bytes.ofU64 value

def value : AmlInteger → UInt64
  | dword value => value.toUInt64
  | qword value => value

end AmlInteger

structure MemoryRegion where
  address : UInt64
  size : UInt32
deriving DecidableEq, Repr

namespace Aml

/-- The declaration of a region named `AODE` in system memory, up to its address. -/
def regionPattern : Bytes := [0x5B, 0x80, 0x41, 0x4F, 0x44, 0x45, 0x00]

/-- Bytes that must follow a declaration for its operand to be looked at. -/
def operandSlack : Nat := 10

/-- The address at the first decodable declaration among the first `count` positions. -/
def scanFrom (count : Nat) (body : Bytes) : Option UInt64 :=
  match count, body with
  | 0, _ => none
  | _, [] => none
  | count + 1, byte :: rest =>
      let here :=
        if regionPattern.isPrefixOf (byte :: rest) then
          AmlInteger.decode? ((byte :: rest).drop regionPattern.length)
        else none
      match here with
      | some operand => some operand.value
      | none => scanFrom count rest
termination_by structural body

def scan (body : Bytes) : Option UInt64 :=
  scanFrom (body.length - (regionPattern.length + operandSlack)) body

/-- Identifier of tables that declare the overclocking region, padded with spaces. -/
def regionTableId : Bytes := [0x41, 0x4F, 0x44, 0x20, 0x20, 0x20, 0x20, 0x20]

/-- Size of the region on all known firmware; the declared length is not to be trusted. -/
def regionSize : UInt32 := 0x24BB

/-- The region of the first table that declares one, with what the search reports. -/
def locate : List Ssdt → Option MemoryRegion × List Event
  | [] => (none, [])
  | table :: tables =>
      if table.tableId = regionTableId then
        match scan table.body with
        | some address =>
            (some { address := address, size := regionSize }, [.regionFound address regionSize])
        | none =>
            let (region, events) := locate tables
            (region, .regionUndeclared :: events)
      else
        locate tables

end Aml

end SmuTelemetry
