import SmuTelemetry.PmTable.Layout
import SmuTelemetry.Codename

/-!
Events that decoding reports beside its results, as log lines with a level.
-/

namespace SmuTelemetry

set_option autoImplicit false

inductive Event where
  | uncataloguedVersion (version : UInt32)
  | noTimingLayout (codename : Codename)
  /-- The overclocking region was declared at this address, with this size. -/
  | regionFound (address : UInt64) (size : UInt32)
  /-- A table that should declare the overclocking region does not. -/
  | regionUndeclared
deriving DecidableEq, Repr

def hexDigits (width value : Nat) : String :=
  let digits := Nat.toDigits 16 value
  String.ofList (List.replicate (width - digits.length) '0' ++ digits)

def capitalHexDigits (width value : Nat) : String :=
  String.ofList ((hexDigits width value).toList.map Char.toUpper)

namespace Event

def level : Event → String
  | uncataloguedVersion _ | noTimingLayout _ => "DEBUG"
  | regionFound _ _ => "INFO"
  | regionUndeclared => "WARN"

def message : Event → String
  | uncataloguedVersion version =>
      let tag := capitalHexDigits 8 version.toNat
      s!"PM table version 0x{tag} not catalogued, using Granite Ridge layout"
  | noTimingLayout codename =>
      let name := codename.name
      s!"no DRAM timing layout for {name}"
  | regionFound address size =>
      let start := hexDigits 0 address.toNat
      let extent := hexDigits 0 size.toNat
      s!"AODE region phys=0x{start} size=0x{extent}"
  | regionUndeclared => "found AOD SSDT but no AODE OpRegion pattern"

def line (event : Event) : String := event.level ++ " " ++ event.message

end Event

def PmFamily.lookupEvents (version : UInt32) : List Event :=
  match PmFamily.catalogued? version with
  | some _ => []
  | none => [.uncataloguedVersion version]

end SmuTelemetry
