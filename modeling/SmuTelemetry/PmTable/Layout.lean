import SmuTelemetry.PmTable.CoreArray

/-!
Layouts of the power-management table. A layout says in which slots of the table a
family keeps its rails, clocks and per-core readings. Layouts are catalogued by the
version tag of the table; a tag that is not catalogued gets the newest layout.
-/

namespace SmuTelemetry

set_option autoImplicit false

inductive MetricField where
  | fclk
  | uclk
  | mclk
  | vsoc
  | vddp
  | vddgIod
  | vddgCcd
  | vddMisc
  | vcore
  | iodHotspot
deriving DecidableEq, Repr

/-- How slot numbers count: in table entries, or in bytes of four per entry. -/
inductive Addressing where
  | floatIndex
  | byteOffset
deriving DecidableEq, Repr

structure NamedSlot where
  slot : Nat
  field : MetricField
deriving DecidableEq, Repr

def NamedSlot.index (entry : NamedSlot) : Addressing → Nat
  | .floatIndex => entry.slot
  | .byteOffset => entry.slot / 4

structure Layout where
  name : String
  named : List NamedSlot
  vidIndex : Nat
  pptIndex : Nat
  socketPowerIndex : Nat
  coreVoltageStart : Nat
  coreTempStart : Nat
  coreCount : Nat
deriving DecidableEq, Repr

namespace Layout

/-- How many cores of the layout have a place in a core array. -/
def cores (layout : Layout) : Nat := min layout.coreCount maxCores

def graniteRidge : Layout where
  name := "Granite Ridge"
  named :=
    [⟨11, .iodHotspot⟩, ⟨58, .vddMisc⟩, ⟨71, .fclk⟩, ⟨75, .uclk⟩, ⟨79, .mclk⟩, ⟨83, .vsoc⟩,
      ⟨259, .vddgIod⟩, ⟨261, .vddgCcd⟩, ⟨269, .vddp⟩, ⟨271, .vcore⟩]
  vidIndex := 275
  pptIndex := 3
  socketPowerIndex := 29
  coreVoltageStart := 309
  coreTempStart := 317
  coreCount := 8

def graniteRidgeByteOffsets : List NamedSlot :=
  [⟨0x11C, .fclk⟩, ⟨0x12C, .uclk⟩, ⟨0x13C, .mclk⟩, ⟨0x14C, .vsoc⟩, ⟨0x434, .vddp⟩,
    ⟨0x40C, .vddgIod⟩, ⟨0x414, .vddgCcd⟩, ⟨0xE8, .vddMisc⟩, ⟨0x43C, .vcore⟩]

/-- Slots that all tables of one desktop generation share; only the core voltage moved. -/
def vermeerSlots (vcore : Nat) : List NamedSlot :=
  [⟨11, .iodHotspot⟩, ⟨48, .fclk⟩, ⟨50, .uclk⟩, ⟨51, .mclk⟩, ⟨44, .vsoc⟩, ⟨137, .vddp⟩,
    ⟨138, .vddgIod⟩, ⟨139, .vddgCcd⟩, ⟨vcore, .vcore⟩]

def vermeer380804 : Layout where
  name := "Vermeer 0x380804"
  named := vermeerSlots 40
  vidIndex := 10
  pptIndex := 1
  socketPowerIndex := 29
  coreVoltageStart := 185
  coreTempStart := 201
  coreCount := 16

def vermeer380805 : Layout where
  name := "Vermeer 0x380805"
  named := vermeerSlots 39
  vidIndex := 10
  pptIndex := 1
  socketPowerIndex := 29
  coreVoltageStart := 188
  coreTempStart := 204
  coreCount := 16

def vermeer380904 : Layout where
  name := "Vermeer 0x380904"
  named := vermeerSlots 40
  vidIndex := 10
  pptIndex := 1
  socketPowerIndex := 29
  coreVoltageStart := 177
  coreTempStart := 185
  coreCount := 8

def vermeer380905 : Layout where
  name := "Vermeer 0x380905"
  named := vermeerSlots 39
  vidIndex := 10
  pptIndex := 1
  socketPowerIndex := 29
  coreVoltageStart := 180
  coreTempStart := 188
  coreCount := 8

def cezanne400005 : Layout where
  name := "Cezanne 0x400005"
  named :=
    [⟨29, .iodHotspot⟩, ⟨409, .fclk⟩, ⟨410, .uclk⟩, ⟨411, .mclk⟩, ⟨102, .vsoc⟩, ⟨565, .vddp⟩,
      ⟨98, .vcore⟩]
  vidIndex := 28
  pptIndex := 5
  socketPowerIndex := 38
  coreVoltageStart := 208
  coreTempStart := 216
  coreCount := 8

def matisseSlots (vcore : Nat) : List NamedSlot :=
  [⟨11, .iodHotspot⟩, ⟨48, .fclk⟩, ⟨50, .uclk⟩, ⟨51, .mclk⟩, ⟨44, .vsoc⟩, ⟨125, .vddp⟩,
    ⟨126, .vddgIod⟩, ⟨vcore, .vcore⟩]

def matisse240903 : Layout where
  name := "Matisse 0x240903"
  named := matisseSlots 39
  vidIndex := 10
  pptIndex := 1
  socketPowerIndex := 29
  coreVoltageStart := 155
  coreTempStart := 163
  coreCount := 8

def matisse240803 : Layout where
  name := "Matisse 0x240803"
  named := matisseSlots 40
  vidIndex := 10
  pptIndex := 1
  socketPowerIndex := 29
  coreVoltageStart := 163
  coreTempStart := 179
  coreCount := 16

def renoir370003 : Layout where
  name := "Renoir 0x370003"
  named :=
    [⟨29, .iodHotspot⟩, ⟨371, .fclk⟩, ⟨372, .uclk⟩, ⟨373, .mclk⟩, ⟨101, .vsoc⟩, ⟨527, .vddp⟩,
      ⟨97, .vcore⟩]
  vidIndex := 28
  pptIndex := 5
  socketPowerIndex := 38
  coreVoltageStart := 200
  coreTempStart := 208
  coreCount := 8

def renoir370005 : Layout where
  name := "Renoir 0x370005"
  named :=
    [⟨29, .iodHotspot⟩, ⟨378, .fclk⟩, ⟨379, .uclk⟩, ⟨380, .mclk⟩, ⟨101, .vsoc⟩, ⟨534, .vddp⟩,
      ⟨97, .vcore⟩]
  vidIndex := 28
  pptIndex := 5
  socketPowerIndex := 38
  coreVoltageStart := 207
  coreTempStart := 215
  coreCount := 8

def raven1E0004 : Layout where
  name := "Raven Ridge 0x1E0004"
  named :=
    [⟨61, .iodHotspot⟩, ⟨166, .fclk⟩, ⟨167, .uclk⟩, ⟨168, .mclk⟩, ⟨65, .vsoc⟩, ⟨60, .vddp⟩,
      ⟨61, .vcore⟩]
  vidIndex := 57
  pptIndex := 5
  socketPowerIndex := 38
  coreVoltageStart := 104
  coreTempStart := 108
  coreCount := 4

end Layout

inductive PmFamily where
  | graniteRidge
  | vermeer380804
  | vermeer380805
  | vermeer380904
  | vermeer380905
  | cezanne400005
  | matisse240903
  | matisse240803
  | renoir370003
  | renoir370005
  | raven1E0004
deriving DecidableEq, Repr

namespace PmFamily

def catalogue : List (UInt32 × PmFamily) :=
  [(0x00380804, vermeer380804), (0x00380805, vermeer380805), (0x00380904, vermeer380904),
    (0x00380905, vermeer380905), (0x00400005, cezanne400005), (0x00240903, matisse240903),
    (0x00240803, matisse240803), (0x00370003, renoir370003), (0x00370005, renoir370005),
    (0x001E0004, raven1E0004)]

def catalogued? (version : UInt32) : Option PmFamily := catalogue.lookup version

def ofVersion (version : UInt32) : PmFamily := (catalogued? version).getD graniteRidge

def layout : PmFamily → Layout
  | graniteRidge => .graniteRidge
  | vermeer380804 => .vermeer380804
  | vermeer380805 => .vermeer380805
  | vermeer380904 => .vermeer380904
  | vermeer380905 => .vermeer380905
  | cezanne400005 => .cezanne400005
  | matisse240903 => .matisse240903
  | matisse240803 => .matisse240803
  | renoir370003 => .renoir370003
  | renoir370005 => .renoir370005
  | raven1E0004 => .raven1E0004

def identifier : PmFamily → String
  | graniteRidge => "GraniteRidge"
  | vermeer380804 => "Vermeer380804"
  | vermeer380805 => "Vermeer380805"
  | vermeer380904 => "Vermeer380904"
  | vermeer380905 => "Vermeer380905"
  | cezanne400005 => "Cezanne400005"
  | matisse240903 => "Matisse240903"
  | matisse240803 => "Matisse240803"
  | renoir370003 => "Renoir370003"
  | renoir370005 => "Renoir370005"
  | raven1E0004 => "Raven1E0004"

end PmFamily

namespace Layout

def ofVersion (version : UInt32) : Layout := (PmFamily.ofVersion version).layout

end Layout

namespace MetricField

def identifier : MetricField → String
  | fclk => "Fclk"
  | uclk => "Uclk"
  | mclk => "Mclk"
  | vsoc => "Vsoc"
  | vddp => "Vddp"
  | vddgIod => "VddgIod"
  | vddgCcd => "VddgCcd"
  | vddMisc => "VddMisc"
  | vcore => "Vcore"
  | iodHotspot => "IodHotspot"

def all : List MetricField :=
  [fclk, uclk, mclk, vsoc, vddp, vddgIod, vddgCcd, vddMisc, vcore, iodHotspot]

end MetricField

end SmuTelemetry
