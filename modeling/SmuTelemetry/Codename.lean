/-!
Silicon families by the codename index that the kernel driver reports, and the memory
that a family is known to use. Families whose memory controller layout is not known
have no memory type, so their timings are never guessed.
-/

namespace SmuTelemetry

set_option autoImplicit false

inductive Codename where
  | unknown
  | colfax
  | renoir
  | picasso
  | matisse
  | threadripper
  | castlePeak
  | ravenRidge
  | ravenRidge2
  | summitRidge
  | pinnacleRidge
  | rembrandt
  | vermeer
  | vangogh
  | cezanne
  | milan
  | dali
  | lucienne
  | naples
  | chagall
  | raphael
  | phoenix
  | strixPoint
  | graniteRidge
  | hawkPoint
  | stormPeak
deriving DecidableEq, Repr

inductive MemoryType where
  | unknown
  | ddr4
  | ddr5
deriving DecidableEq, Repr

inductive DramGeneration where
  | ddr4
  | ddr5
deriving DecidableEq, Repr

namespace Codename

/-- Known families in the order of their indices, which count from one. -/
def known : List Codename :=
  [colfax, renoir, picasso, matisse, threadripper, castlePeak, ravenRidge, ravenRidge2,
    summitRidge, pinnacleRidge, rembrandt, vermeer, vangogh, cezanne, milan, dali, lucienne,
    naples, chagall, raphael, phoenix, strixPoint, graniteRidge, hawkPoint, stormPeak]

def ofIndex (index : Int) : Codename :=
  if index < 1 then unknown else known.getD (index - 1).toNat unknown

def index? (codename : Codename) : Option Nat :=
  (known.idxOf? codename).map fun position => position + 1

def identifier : Codename → String
  | unknown => "Unknown"
  | colfax => "Colfax"
  | renoir => "Renoir"
  | picasso => "Picasso"
  | matisse => "Matisse"
  | threadripper => "Threadripper"
  | castlePeak => "CastlePeak"
  | ravenRidge => "RavenRidge"
  | ravenRidge2 => "RavenRidge2"
  | summitRidge => "SummitRidge"
  | pinnacleRidge => "PinnacleRidge"
  | rembrandt => "Rembrandt"
  | vermeer => "Vermeer"
  | vangogh => "Vangogh"
  | cezanne => "Cezanne"
  | milan => "Milan"
  | dali => "Dali"
  | lucienne => "Lucienne"
  | naples => "Naples"
  | chagall => "Chagall"
  | raphael => "Raphael"
  | phoenix => "Phoenix"
  | strixPoint => "StrixPoint"
  | graniteRidge => "GraniteRidge"
  | hawkPoint => "HawkPoint"
  | stormPeak => "StormPeak"

/-- The name shown to people. It differs from the identifier by its blanks, and for one
family by the spelling that the driver uses. -/
def name : Codename → String
  | castlePeak => "Castle Peak"
  | ravenRidge => "Raven Ridge"
  | ravenRidge2 => "Raven Ridge 2"
  | summitRidge => "Summit Ridge"
  | pinnacleRidge => "Pinnacle Ridge"
  | lucienne => "Luciene"
  | strixPoint => "Strix Point"
  | graniteRidge => "Granite Ridge"
  | hawkPoint => "Hawk Point"
  | stormPeak => "Storm Peak"
  | codename => codename.identifier

def memoryType : Codename → MemoryType
  | graniteRidge => .ddr5
  | matisse | summitRidge | pinnacleRidge | vermeer | naples | chagall => .ddr4
  | _ => .unknown

def dramGeneration? (codename : Codename) : Option DramGeneration :=
  match codename.memoryType with
  | .ddr4 => some .ddr4
  | .ddr5 => some .ddr5
  | .unknown => none

def usesByteOffsets (codename : Codename) : Bool := codename == graniteRidge

end Codename

namespace MemoryType

def identifier : MemoryType → String
  | unknown => "Unknown"
  | ddr4 => "Ddr4"
  | ddr5 => "Ddr5"

def name : MemoryType → String
  | unknown => "Unknown"
  | ddr4 => "DDR4"
  | ddr5 => "DDR5"

end MemoryType

namespace DramGeneration

def identifier : DramGeneration → String
  | ddr4 => "Ddr4"
  | ddr5 => "Ddr5"

end DramGeneration

end SmuTelemetry
