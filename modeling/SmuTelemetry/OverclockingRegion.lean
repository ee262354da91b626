import SmuTelemetry.Acpi.Aml
import SmuTelemetry.Plausibility

/-!
The overclocking region: its fields, the memory rails at configured offsets, a scan
for values that look like rails, and raw dumps. Every read stays inside the region and
inside the bytes that were supplied.
-/

namespace SmuTelemetry

set_option autoImplicit false

structure RailOffsets where
  vddio : Nat := 9084
  vddq : Nat := 9088
  vpp : Nat := 9092
deriving DecidableEq, Repr

inductive RegionField where
  | outb
  | ctrl
  | dspd
  | resv
  | rmpd
  | wcns
  | tail
deriving DecidableEq, Repr

structure RailVoltages where
  vddio : Option UInt32
  vddq : Option UInt32
  vpp : Option UInt32
deriving DecidableEq, Repr

structure RailCandidate where
  offset : Nat
  field : RegionField
  millivolts : UInt32
deriving DecidableEq, Repr

structure DumpRow where
  offset : Nat
  words : List UInt32
deriving DecidableEq, Repr

namespace RegionField

def all : List RegionField := [outb, ctrl, dspd, resv, rmpd, wcns, tail]

def start : RegionField → Nat
  | outb => 0
  | ctrl => 196
  | dspd => 208
  | resv => 8724
  | rmpd => 8736
  | wcns => 8876
  | tail => 9388

def stop : RegionField → Nat
  | outb => 196
  | ctrl => 208
  | dspd => 8724
  | resv => 8736
  | rmpd => 8876
  | wcns => 9388
  | tail => Aml.regionSize.toNat

/-- The field of an offset; offsets past all others belong to the last field. -/
def ofOffset (offset : Nat) : RegionField :=
  if offset < 196 then outb
  else if offset < 208 then ctrl
  else if offset < 8724 then dspd
  else if offset < 8736 then resv
  else if offset < 8876 then rmpd
  else if offset < 9388 then wcns
  else tail

def name : RegionField → String
  | outb => "OUTB"
  | ctrl => "CTRL"
  | dspd => "DSPD"
  | resv => "RESV"
  | rmpd => "RMPD"
  | wcns => "WCNS"
  | tail => "TAIL"

def identifier : RegionField → String
  | outb => "Outb"
  | ctrl => "Ctrl"
  | dspd => "Dspd"
  | resv => "Resv"
  | rmpd => "Rmpd"
  | wcns => "Wcns"
  | tail => "Tail"

end RegionField

namespace OverclockingRegion

def extent (region : Bytes) : Nat := min region.length Aml.regionSize.toNat

def millivolts? (region : Bytes) (offset : Nat) : Option UInt32 :=
  if offset + 4 ≤ extent region then region.u32At? offset else none

def voltages (region : Bytes) (offsets : RailOffsets) : RailVoltages where
  vddio := millivolts? region offsets.vddio
  vddq := millivolts? region offsets.vddq
  vpp := millivolts? region offsets.vpp

def wordOffsets (start stop : Nat) : List Nat :=
  (List.range ((stop - start + 3) / 4)).map fun position => start + 4 * position

/-- The first word of the region is a status word, so scans start after it. -/
def scanStart : Nat := 4

/-- The words within the bounds, in increasing order of offset. Offsets stay below the last
four bytes, so a word that ends the region exactly is not scanned. -/
def scan (region : Bytes) (bounds : Bounds) : List RailCandidate :=
  (wordOffsets scanStart (extent region - 4)).filterMap fun offset =>
    match region.u32At? offset with
    | some word =>
        if bounds.contains (Binary32.ofNat word.toNat) then
          some { offset := offset, field := .ofOffset offset, millivolts := word }
        else none
    | none => none

def fieldWords (region : Bytes) (field : RegionField) : List (Nat × UInt32) :=
  let stop := min field.stop (extent region)
  (wordOffsets field.start (stop - 3)).filterMap fun offset =>
    (region.u32At? offset).map fun word => (offset, word)

def rowWords : Nat := 4

def rows : List (Nat × UInt32) → List DumpRow
  | [] => []
  | (offset, word) :: rest =>
      { offset := offset, words := word :: (rest.take (rowWords - 1)).map Prod.snd } ::
        rows (rest.drop (rowWords - 1))
termination_by words => words.length
decreasing_by simp only [List.length_drop, List.length_cons]; omega

def dump (region : Bytes) (field : RegionField) : List DumpRow := rows (fieldWords region field)

end OverclockingRegion

end SmuTelemetry
