import PinballAudio.Clock.Delay

/-!
# A recording delay line

A bench delay line that completes at once and records how many nanoseconds were asked for, in
how many requests.
-/

namespace PinballAudio.Bench

/-- The nanoseconds requested and the number of requests. -/
structure RecordingDelay where
  totalNs : Nat := 0
  calls : Nat := 0
  deriving DecidableEq, Repr

instance : Delay RecordingDelay where
  delayNs ns d := { totalNs := d.totalNs + ns.toNat, calls := d.calls + 1 }

end PinballAudio.Bench
