import PinballAudio.Card.Simulated

/-!
# Block contents for bench devices

Bench devices hold synthetic contents given by a rule: the card's default pattern `b + i`, one
byte everywhere, or an affine rule in the block number and the byte index, all modulo 256.
-/

namespace PinballAudio.Bench

/-- A rule for the bytes of every block. -/
inductive ContentRule where
  | pattern
  | fill (v : UInt8)
  | affine (blockMul indexMul add : Nat)
  deriving DecidableEq, Repr

def ContentRule.byte : ContentRule → UInt32 → Nat → UInt8
  | .pattern, b, i => Card.blockPattern b i
  | .fill v, _, _ => v
  | .affine a c d, b, i => ((a % 256) * (b.toNat % 256) + (c % 256) * (i % 256) + d % 256).toUInt8

end PinballAudio.Bench
