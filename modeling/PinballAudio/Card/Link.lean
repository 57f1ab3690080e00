import PinballAudio.Clock.Divider

/-!
# The SPI link to a card

A card is reached through a byte-wide, full-duplex bus with a programmable clock and a select
line of its own; the card driver owns the select line because the wake-up sequence clocks bytes
with the card deselected. Every operation of a link may fail with a `BusFault`, and a failed
operation still moves the link's state on (a counter, a log), so link operations live in
`EStateM BusFault σ`, which keeps the state on failure.
-/

namespace PinballAudio

/-- A transport or select-line failure. -/
structure BusFault where
  deriving DecidableEq, Repr

/-- A byte bus to one card, with clock control and the card's select line. -/
class SpiLink (σ : Type) where
  transfer : UInt8 → EStateM BusFault σ UInt8
  setDivider : ClockDivider → EStateM BusFault σ Unit
  select : EStateM BusFault σ Unit
  deselect : EStateM BusFault σ Unit

namespace SpiLink

variable {σ : Type} [SpiLink σ]

def filler : UInt8 := 0xFF

def send (b : UInt8) : EStateM BusFault σ Unit := do
  let _ ← transfer b
  pure ()

def receive : EStateM BusFault σ UInt8 := transfer filler

/-- Program the supported divider nearest to `d` and return it. -/
def setDivisor (d : UInt32) : EStateM BusFault σ ClockDivider := do
  let c := ClockDivider.nearest d.toNat
  setDivider c
  pure c

end SpiLink

end PinballAudio
