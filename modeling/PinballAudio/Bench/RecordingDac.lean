import PinballAudio.Dac.Mcp4725

/-!
# A recording DAC

A bench DAC that plays samples into a recording sink and counts how often it was brought up;
bringing it up mutes it.
-/

namespace PinballAudio.Bench

/-- A recording sink and the number of bring-ups. -/
structure RecordingDac where
  sink : RecordingSink := {}
  initCount : Nat := 0
  deriving Repr

namespace RecordingDac

def writeSample (v : UInt8) (d : RecordingDac) : Except SinkRefused Unit × RecordingDac :=
  let (r, s) := d.sink.write v
  (r, { d with sink := s })

instance : Dac.Driver RecordingDac SinkRefused where
  writeSample := writeSample
  init d := writeSample Board.silence { d with initCount := d.initCount + 1 }

end RecordingDac

end PinballAudio.Bench
