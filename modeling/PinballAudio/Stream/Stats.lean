/-!
# Stream statistics

Counters of what happened to the stream: halves refilled, reads that failed, halves the queue
refused (underruns), halves entered before they were refilled (stale), and samples the output
refused (stalls). Each counter is a 32-bit word that wraps.
-/

namespace PinballAudio

/-- The stream counters. -/
structure StreamStats where
  refills : UInt32 := 0
  readErrors : UInt32 := 0
  underruns : UInt32 := 0
  staleHalves : UInt32 := 0
  dacStalls : UInt32 := 0
  deriving DecidableEq, Repr, Inhabited

namespace StreamStats

def recordRefill (s : StreamStats) : StreamStats := { s with refills := s.refills + 1 }

def recordReadError (s : StreamStats) : StreamStats := { s with readErrors := s.readErrors + 1 }

def recordUnderrun (s : StreamStats) : StreamStats := { s with underruns := s.underruns + 1 }

def recordStaleHalf (s : StreamStats) : StreamStats := { s with staleHalves := s.staleHalves + 1 }

def recordDacStall (s : StreamStats) : StreamStats := { s with dacStalls := s.dacStalls + 1 }

end StreamStats

end PinballAudio
