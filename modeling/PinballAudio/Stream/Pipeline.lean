import PinballAudio.Stream.Ring
import PinballAudio.Stream.RefillQueue
import PinballAudio.Stream.Stats

/-!
# The shared pipeline

What the sample interrupt and the refill task share: the ring, the refill queue and the stream
counters. Both sides take it and give it back changed.
-/

namespace PinballAudio

/-- The ring, the refill queue and the counters. -/
structure Pipeline where
  ring : AudioRing := {}
  queue : RefillQueue := {}
  stats : StreamStats := {}
  deriving DecidableEq, Repr

end PinballAudio
