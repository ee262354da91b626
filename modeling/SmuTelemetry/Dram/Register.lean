import SmuTelemetry.Codename
import SmuTelemetry.Word.BitRange

/-!
Register map of a memory controller channel. Each timing has one bit range of one
register; the map is data, so what holds of every field can be checked on the table.
Channels repeat the map at multiples of `2^20`.
-/

namespace SmuTelemetry

set_option autoImplicit false

abbrev Registers := UInt32 → UInt32

structure RegisterField where
  register : UInt32
  range : BitRange
deriving DecidableEq, Repr

/-- Timings that are one register field each, in memory clock cycles. -/
inductive Timing where
  | tcl
  | trcdRd
  | trcdWr
  | trp
  | tras
  | trc
  | trrds
  | trrdl
  | tfaw
  | twr
  | tcwl
  | rtp
  | wtrs
  | wtrl
  | rdwr
  | wrrd
  | rdrdScl
  | wrwrScl
  | rdrdSc
  | rdrdSd
  | rdrdDd
  | wrwrSc
  | wrwrSd
  | wrwrDd
  | refi
  | wrpre
  | rdpre
  | trcPage
  | mod
  | modPda
  | mrd
  | mrdPda
  | stag
  | stagSb
  | cke
  | xp
  | phyWrd
  | phyWrl
  | phyRdl
deriving DecidableEq, Repr

namespace Dram

def channelStride : Nat := 0x100000

def channelBase (channel : UInt8) : UInt32 := UInt32.ofNat (channel.toNat * channelStride)

/-- Address of a register of a channel; offsets stay below `2^20`. -/
def registerAddress (channel : UInt8) (register : UInt32) : UInt32 :=
  channelBase channel ||| register

def ratioControl : UInt32 := 0x50200
def refreshControl : UInt32 := 0x5012C

def refreshCycles : List UInt32 := [0x50260, 0x50264, 0x50268, 0x5026C]

def sameBankRefresh : List UInt32 := [0x502C0, 0x502C4, 0x502C8, 0x502CC]

def timingRegisters : List UInt32 :=
  [0x50204, 0x50208, 0x5020C, 0x50210, 0x50214, 0x50218, 0x5021C, 0x50220, 0x50224, 0x50228,
    0x50230, 0x50234, 0x50250, 0x50254, 0x50258, 0x502A4]

def ratioRange : BitRange := { hi := 15, lo := 0 }

def allBankRange : DramGeneration → BitRange
  | .ddr4 => { hi := 10, lo := 0 }
  | .ddr5 => { hi := 15, lo := 0 }

def doubleRateRange : DramGeneration → BitRange
  | .ddr4 => { hi := 21, lo := 11 }
  | .ddr5 => { hi := 31, lo := 16 }

def sameBankRange : BitRange := { hi := 10, lo := 0 }

end Dram

namespace RegisterField

def read (field : RegisterField) (registers : Registers) (channel : UInt8) : UInt32 :=
  field.range.slice (registers (Dram.registerAddress channel field.register))

end RegisterField

namespace Timing

def field : Timing → RegisterField
  | tcl => ⟨0x50204, { hi := 5, lo := 0 }⟩
  | tras => ⟨0x50204, { hi := 14, lo := 8 }⟩
  | trcdRd => ⟨0x50204, { hi := 21, lo := 16 }⟩
  | trcdWr => ⟨0x50204, { hi := 29, lo := 24 }⟩
  | trc => ⟨0x50208, { hi := 7, lo := 0 }⟩
  | trp => ⟨0x50208, { hi := 21, lo := 16 }⟩
  | trrds => ⟨0x5020C, { hi := 4, lo := 0 }⟩
  | trrdl => ⟨0x5020C, { hi := 12, lo := 8 }⟩
  | rtp => ⟨0x5020C, { hi := 28, lo := 24 }⟩
  | tfaw => ⟨0x50210, { hi := 7, lo := 0 }⟩
  | tcwl => ⟨0x50214, { hi := 5, lo := 0 }⟩
  | wtrs => ⟨0x50214, { hi := 12, lo := 8 }⟩
  | wtrl => ⟨0x50214, { hi := 22, lo := 16 }⟩
  | twr => ⟨0x50218, { hi := 7, lo := 0 }⟩
  | trcPage => ⟨0x5021C, { hi := 31, lo := 20 }⟩
  | rdrdDd => ⟨0x50220, { hi := 3, lo := 0 }⟩
  | rdrdSd => ⟨0x50220, { hi := 11, lo := 8 }⟩
  | rdrdSc => ⟨0x50220, { hi := 19, lo := 16 }⟩
  | rdrdScl => ⟨0x50220, { hi := 29, lo := 24 }⟩
  | wrwrDd => ⟨0x50224, { hi := 3, lo := 0 }⟩
  | wrwrSd => ⟨0x50224, { hi := 11, lo := 8 }⟩
  | wrwrSc => ⟨0x50224, { hi := 19, lo := 16 }⟩
  | wrwrScl => ⟨0x50224, { hi := 29, lo := 24 }⟩
  | wrrd => ⟨0x50228, { hi := 3, lo := 0 }⟩
  | rdwr => ⟨0x50228, { hi := 13, lo := 8 }⟩
  | refi => ⟨0x50230, { hi := 15, lo := 0 }⟩
  | mrd => ⟨0x50234, { hi := 5, lo := 0 }⟩
  | mod => ⟨0x50234, { hi := 13, lo := 8 }⟩
  | mrdPda => ⟨0x50234, { hi := 21, lo := 16 }⟩
  | modPda => ⟨0x50234, { hi := 29, lo := 24 }⟩
  | stagSb => ⟨0x50250, { hi := 8, lo := 0 }⟩
  | stag => ⟨0x50250, { hi := 26, lo := 16 }⟩
  | xp => ⟨0x50254, { hi := 5, lo := 0 }⟩
  | cke => ⟨0x50254, { hi := 28, lo := 24 }⟩
  | phyWrl => ⟨0x50258, { hi := 15, lo := 8 }⟩
  | phyRdl => ⟨0x50258, { hi := 23, lo := 16 }⟩
  | phyWrd => ⟨0x50258, { hi := 26, lo := 24 }⟩
  | rdpre => ⟨0x502A4, { hi := 2, lo := 0 }⟩
  | wrpre => ⟨0x502A4, { hi := 10, lo := 8 }⟩

def identifier : Timing → String
  | tcl => "tcl"
  | trcdRd => "trcd_rd"
  | trcdWr => "trcd_wr"
  | trp => "trp"
  | tras => "tras"
  | trc => "trc"
  | trrds => "trrds"
  | trrdl => "trrdl"
  | tfaw => "tfaw"
  | twr => "twr"
  | tcwl => "tcwl"
  | rtp => "rtp"
  | wtrs => "wtrs"
  | wtrl => "wtrl"
  | rdwr => "rdwr"
  | wrrd => "wrrd"
  | rdrdScl => "rdrd_scl"
  | wrwrScl => "wrwr_scl"
  | rdrdSc => "rdrd_sc"
  | rdrdSd => "rdrd_sd"
  | rdrdDd => "rdrd_dd"
  | wrwrSc => "wrwr_sc"
  | wrwrSd => "wrwr_sd"
  | wrwrDd => "wrwr_dd"
  | refi => "refi"
  | wrpre => "wrpre"
  | rdpre => "rdpre"
  | trcPage => "trc_page"
  | mod => "mod"
  | modPda => "mod_pda"
  | mrd => "mrd"
  | mrdPda => "mrd_pda"
  | stag => "stag"
  | stagSb => "stag_sb"
  | cke => "cke"
  | xp => "xp"
  | phyWrd => "phy_wrd"
  | phyWrl => "phy_wrl"
  | phyRdl => "phy_rdl"

def all : List Timing :=
  [tcl, trcdRd, trcdWr, trp, tras, trc, trrds, trrdl, tfaw, twr, tcwl, rtp, wtrs, wtrl, rdwr,
    wrrd, rdrdScl, wrwrScl, rdrdSc, rdrdSd, rdrdDd, wrwrSc, wrwrSd, wrwrDd, refi, wrpre, rdpre,
    trcPage, mod, modPda, mrd, mrdPda, stag, stagSb, cke, xp, phyWrd, phyWrl, phyRdl]

theorem mem_all (timing : Timing) : timing ∈ all := by
  cases timing <;> decide

theorem field_register_mem (timing : Timing) : timing.field.register ∈ Dram.timingRegisters := by
  cases timing <;> decide

end Timing

end SmuTelemetry
