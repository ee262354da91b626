import SmuTelemetry.Dram.Timings
import SmuTelemetry.Proofs.Word.BitRange

/-!
A channel's registers seen from the side that programs them. An image lists, register by
register, which quantity stands in which bits, and packing writes raw values there and
leaves all other bits of all registers as they were. The image is stated apart from the
positions that decoding looks at, and `timing_located` ties the two.
-/

namespace SmuTelemetry.Dram

set_option autoImplicit false

inductive Quantity where
  | timing (timing : Timing)
  | ratio
  | gearDown
  | commandRate
  | powerDown
  | allBank
  | doubleRate
  | sameBank
deriving DecidableEq, Repr

structure Segment where
  quantity : Quantity
  low : Nat
  length : Nat
deriving DecidableEq, Repr

structure RegisterImage where
  register : UInt32
  segments : List Segment
deriving DecidableEq, Repr

def timingImages : List RegisterImage :=
  [⟨0x50204, [⟨.timing .tcl, 0, 6⟩, ⟨.timing .tras, 8, 7⟩, ⟨.timing .trcdRd, 16, 6⟩,
      ⟨.timing .trcdWr, 24, 6⟩]⟩,
    ⟨0x50208, [⟨.timing .trc, 0, 8⟩, ⟨.timing .trp, 16, 6⟩]⟩,
    ⟨0x5020C, [⟨.timing .trrds, 0, 5⟩, ⟨.timing .trrdl, 8, 5⟩, ⟨.timing .rtp, 24, 5⟩]⟩,
    ⟨0x50210, [⟨.timing .tfaw, 0, 8⟩]⟩,
    ⟨0x50214, [⟨.timing .tcwl, 0, 6⟩, ⟨.timing .wtrs, 8, 5⟩, ⟨.timing .wtrl, 16, 7⟩]⟩,
    ⟨0x50218, [⟨.timing .twr, 0, 8⟩]⟩,
    ⟨0x5021C, [⟨.timing .trcPage, 20, 12⟩]⟩,
    ⟨0x50220, [⟨.timing .rdrdDd, 0, 4⟩, ⟨.timing .rdrdSd, 8, 4⟩, ⟨.timing .rdrdSc, 16, 4⟩,
      ⟨.timing .rdrdScl, 24, 6⟩]⟩,
    ⟨0x50224, [⟨.timing .wrwrDd, 0, 4⟩, ⟨.timing .wrwrSd, 8, 4⟩, ⟨.timing .wrwrSc, 16, 4⟩,
      ⟨.timing .wrwrScl, 24, 6⟩]⟩,
    ⟨0x50228, [⟨.timing .wrrd, 0, 4⟩, ⟨.timing .rdwr, 8, 6⟩]⟩,
    ⟨0x50230, [⟨.timing .refi, 0, 16⟩]⟩,
    ⟨0x50234, [⟨.timing .mrd, 0, 6⟩, ⟨.timing .mod, 8, 6⟩, ⟨.timing .mrdPda, 16, 6⟩,
      ⟨.timing .modPda, 24, 6⟩]⟩,
    ⟨0x50250, [⟨.timing .stagSb, 0, 9⟩, ⟨.timing .stag, 16, 11⟩]⟩,
    ⟨0x50254, [⟨.timing .xp, 0, 6⟩, ⟨.timing .cke, 24, 5⟩]⟩,
    ⟨0x50258, [⟨.timing .phyWrl, 8, 8⟩, ⟨.timing .phyRdl, 16, 8⟩, ⟨.timing .phyWrd, 24, 3⟩]⟩,
    ⟨0x502A4, [⟨.timing .rdpre, 0, 3⟩, ⟨.timing .wrpre, 8, 3⟩]⟩]

/-- The registers of a generation that hold fields. Refresh counts are programmed for the
first bank group; the registers of the other groups belong to no field. -/
def images : DramGeneration → List RegisterImage
  | .ddr4 => ⟨0x50260, [⟨.allBank, 0, 11⟩, ⟨.doubleRate, 11, 11⟩]⟩ :: timingImages
  | .ddr5 =>
      [⟨0x50200, [⟨.ratio, 0, 16⟩, ⟨.commandRate, 17, 1⟩, ⟨.gearDown, 18, 1⟩]⟩,
        ⟨0x5012C, [⟨.powerDown, 28, 1⟩]⟩,
        ⟨0x50260, [⟨.allBank, 0, 16⟩, ⟨.doubleRate, 16, 16⟩]⟩,
        ⟨0x502C0, [⟨.sameBank, 0, 11⟩]⟩] ++ timingImages

structure RawValues (generation : DramGeneration) where
  value : Quantity → UInt32
  fits : ∀ image ∈ images generation, ∀ segment ∈ image.segments,
    (value segment.quantity).toNat < 2 ^ segment.length

def packWord (value : Quantity → UInt32) : List Segment → UInt32 → UInt32
  | [], word => word
  | segment :: rest, word =>
      packWord value rest
        (overwriteBits segment.low segment.length (value segment.quantity) word)

/-- Address of a register: each channel has `2^20` addresses of its own. -/
def channelAddress (channel : UInt8) (register : UInt32) : Nat :=
  channel.toNat * 2 ^ 20 + register.toNat

def packed {generation : DramGeneration} (values : RawValues generation) (channel : UInt8)
    (unused : Registers) : Registers := fun address =>
  match (images generation).find? fun image =>
      channelAddress channel image.register = address.toNat with
  | some image => packWord values.value image.segments (unused address)
  | none => unused address

def Separate (segments : List Segment) : Prop :=
  (segments.Pairwise fun first second => first.low + first.length ≤ second.low) ∧
    ∀ segment ∈ segments, segment.low + segment.length ≤ 32

instance (segments : List Segment) : Decidable (Separate segments) :=
  inferInstanceAs (Decidable (_ ∧ _))

theorem images_separate (generation : DramGeneration) :
    ∀ image ∈ images generation, Separate image.segments := by
  cases generation <;> decide

theorem images_registers_nodup (generation : DramGeneration) :
    ((images generation).map RegisterImage.register).Nodup := by
  cases generation <;> decide

theorem images_register_bound (generation : DramGeneration) :
    ∀ image ∈ images generation, image.register.toNat < 2 ^ 20 := by
  cases generation <;> decide

theorem packWord_testBit_outside (value : Quantity → UInt32) (segments : List Segment)
    (word : UInt32) (bit : Nat) (separate : Separate segments)
    (fits : ∀ segment ∈ segments, (value segment.quantity).toNat < 2 ^ segment.length)
    (outside : ∀ segment ∈ segments, ¬(segment.low ≤ bit ∧ bit < segment.low + segment.length)) :
    (packWord value segments word).toNat.testBit bit = word.toNat.testBit bit := by
  induction segments generalizing word with
  | nil => rfl
  | cons segment rest ih =>
      rcases separate with ⟨ordered, ends⟩
      rw [List.pairwise_cons] at ordered
      rw [List.forall_mem_cons] at ends fits outside
      rw [packWord, ih _ ⟨ordered.2, ends.2⟩ fits.2 outside.2,
        overwriteBits_testBit _ _ _ _ _ ends.1 fits.1, if_neg outside.1]

/-- The induction is on the segments: those after the one looked at lie above it, so they
leave its bits alone. -/
theorem packWord_testBit_inside (value : Quantity → UInt32) (segments : List Segment)
    (word : UInt32) (separate : Separate segments)
    (fits : ∀ segment ∈ segments, (value segment.quantity).toNat < 2 ^ segment.length)
    (segment : Segment) (member : segment ∈ segments) (bit : Nat) (inside : bit < segment.length) :
    (packWord value segments word).toNat.testBit (segment.low + bit) =
      (value segment.quantity).toNat.testBit bit := by
  induction segments generalizing word with
  | nil => cases member
  | cons first rest ih =>
      rcases separate with ⟨ordered, ends⟩
      rw [List.pairwise_cons] at ordered
      rw [List.forall_mem_cons] at ends fits
      rw [packWord]
      rcases List.mem_cons.mp member with same | later
      · subst same
        have above : ∀ other ∈ rest, ¬(other.low ≤ segment.low + bit ∧
            segment.low + bit < other.low + other.length) := by
          intro other otherMember
          have after := ordered.1 other otherMember
          omega
        have within : segment.low ≤ segment.low + bit ∧
            segment.low + bit < segment.low + segment.length := by omega
        rw [packWord_testBit_outside value rest _ _ ⟨ordered.2, ends.2⟩ fits.2 above,
          overwriteBits_testBit _ _ _ _ _ ends.1 fits.1, if_pos within, Nat.add_sub_cancel_left]
      · exact ih _ ⟨ordered.2, ends.2⟩ fits.2 later

/-- The channel's first address and an offset inside it have no bit in common, so joining
them adds them. -/
theorem registerAddress_toNat (channel : UInt8) (register : UInt32)
    (bound : register.toNat < 2 ^ 20) :
    (registerAddress channel register).toNat = channelAddress channel register := by
  have small : channel.toNat * 2 ^ 20 < 2 ^ 32 := by
    have byte := channel.toNat_lt
    omega
  have base : (channelBase channel).toNat = channel.toNat <<< 20 := by
    rw [Nat.shiftLeft_eq]
    exact UInt32.toNat_ofNat_of_lt' small
  rw [registerAddress, UInt32.toNat_or, base, ← Nat.shiftLeft_add_eq_or_of_lt bound,
    Nat.shiftLeft_eq, channelAddress]

section Packed

variable {generation : DramGeneration} (values : RawValues generation) (channel : UInt8)
  (unused : Registers)

theorem packed_register (image : RegisterImage) (member : image ∈ images generation) :
    packed values channel unused (registerAddress channel image.register) =
      packWord values.value image.segments
        (unused (registerAddress channel image.register)) := by
  have address := registerAddress_toNat channel image.register
    (images_register_bound generation image member)
  unfold packed
  cases found : (images generation).find? fun other =>
      channelAddress channel other.register =
        (registerAddress channel image.register).toNat with
  | none =>
      have missed := List.find?_eq_none.mp found image member
      simp [address] at missed
  | some other =>
      have hit := List.find?_some found
      have otherMember := List.mem_of_find?_eq_some found
      have sameRegister : other.register = image.register := by
        apply UInt32.toNat_inj.mp
        simpa [address, channelAddress] using hit
      have same : other = image :=
        List.inj_on_of_nodup_map (images_registers_nodup generation) otherMember member
          sameRegister
      rw [same]

def Located (generation : DramGeneration) (quantity : Quantity) (register : UInt32)
    (low length : Nat) : Prop :=
  ∃ image ∈ images generation, image.register = register ∧ ⟨quantity, low, length⟩ ∈ image.segments

instance (generation : DramGeneration) (quantity : Quantity) (register : UInt32)
    (low length : Nat) : Decidable (Located generation quantity register low length) :=
  inferInstanceAs (Decidable (∃ image ∈ images generation, _))

theorem packed_testBit {quantity : Quantity} {register : UInt32} {low length : Nat}
    (located : Located generation quantity register low length) (bit : Nat)
    (inside : bit < length) :
    (packed values channel unused (registerAddress channel register)).toNat.testBit (low + bit) =
      (values.value quantity).toNat.testBit bit := by
  rcases located with ⟨image, imageMember, rfl, segmentMember⟩
  rw [packed_register values channel unused image imageMember]
  exact packWord_testBit_inside values.value image.segments _
    (images_separate generation image imageMember) (values.fits image imageMember)
    ⟨quantity, low, length⟩ segmentMember bit inside

theorem located_fits {quantity : Quantity} {register : UInt32} {low length : Nat}
    (located : Located generation quantity register low length) :
    (values.value quantity).toNat < 2 ^ length := by
  rcases located with ⟨image, imageMember, -, segmentMember⟩
  exact values.fits image imageMember ⟨quantity, low, length⟩ segmentMember

theorem slice_packed (quantity : Quantity) (register : UInt32) (range : BitRange)
    (located : Located generation quantity register range.lo range.width) :
    range.slice (packed values channel unused (registerAddress channel register)) =
      values.value quantity :=
  range.slice_eq_of_bits _ _ (located_fits values located) fun bit inside =>
    packed_testBit values channel unused located bit inside

theorem bitSet_packed (quantity : Quantity) (register : UInt32) (position : Nat)
    (inWord : position < 32) (located : Located generation quantity register position 1) :
    bitSet (packed values channel unused (registerAddress channel register)) position =
      decide (values.value quantity = 1) := by
  have bit := packed_testBit values channel unused located 0 (by decide)
  have small := located_fits values located
  rw [Nat.add_zero] at bit
  have odd : (values.value quantity).toNat % 2 = 1 ↔ values.value quantity = 1 := by
    rw [← UInt32.toNat_inj, show (1 : UInt32).toNat = 1 from rfl]
    omega
  rw [bitSet_eq_testBit _ _ inWord, bit, Nat.testBit_zero]
  exact decide_eq_decide.mpr odd

end Packed

theorem timing_located (generation : DramGeneration) (timing : Timing) :
    Located generation (.timing timing) timing.field.register timing.field.range.lo
      timing.field.range.width := by
  cases generation <;> cases timing <;> decide

end SmuTelemetry.Dram
