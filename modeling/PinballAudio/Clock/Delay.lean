/-!
# Delays

A delay line waits a number of nanoseconds given as a 32-bit word, or a number of milliseconds.
One with no millisecond wait of its own waits in nanosecond pieces: while more than the largest
whole number of milliseconds a word of nanoseconds holds (4294) remains, one piece of that size,
then the rest.
-/

namespace PinballAudio

namespace Delay

def maxMillis : Nat := (UInt32.size - 1) / 1000000

/-- The nanosecond requests of a wait of `ms` milliseconds. -/
def msPieces (ms : Nat) : List Nat :=
  List.replicate ((ms - 1) / maxMillis) (maxMillis * 1000000) ++
    [(ms - (ms - 1) / maxMillis * maxMillis) * 1000000]

/-- Wait `ms` milliseconds through `delayNs`, one request per piece. -/
def waitInPieces {τ : Type} (delayNs : UInt32 → τ → τ) (ms : Nat) (d : τ) : τ :=
  (msPieces ms).foldl (fun d ns => delayNs ns.toUInt32 d) d

end Delay

/-- Something that waits a number of nanoseconds or of milliseconds. -/
class Delay (τ : Type) where
  delayNs : UInt32 → τ → τ
  delayMs : Nat → τ → τ := Delay.waitInPieces delayNs

end PinballAudio
