import SmuTelemetry.Plausibility

/-!
The reference clock. The first performance state tells the core multiplier as a
frequency code over a divisor code, and a frequency at that multiplier gives the clock
underneath it. Readings outside a narrow window are taken for misreads.
-/

namespace SmuTelemetry.ReferenceClock

set_option autoImplicit false

def performanceState0 : UInt32 := 0xC0010064

def window : Bounds := ⟨80, 120⟩

def maxMultiplier : Binary32 := 200
def minMultiplier : Binary32 := .ofFraction 1 10

def frequencyCode (state : UInt64) : Nat := state.toNat % 0x100

def divisorCode (state : UInt64) : Nat := state.toNat / 0x100 % 0x40

def multiplier? (state : UInt64) : Option Binary32 :=
  let frequency := frequencyCode state
  let divisor := divisorCode state
  if frequency = 0 ∨ divisor = 0 then none
  else
    let multiplier := Binary32.ofNat frequency / Binary32.ofNat divisor * 2
    if minMultiplier < multiplier ∧ multiplier ≤ maxMultiplier then some multiplier else none

/-- The reference clock of a performance state that runs at `megahertz`. -/
def decode? (state : UInt64) (megahertz : Binary32) : Option Binary32 :=
  match multiplier? state with
  | none => none
  | some multiplier =>
      let clock := megahertz / multiplier
      if window.contains clock then some clock else none

def megahertz (kilohertz : Nat) : Binary32 := Binary32.ofNat kilohertz / 1000

end SmuTelemetry.ReferenceClock
