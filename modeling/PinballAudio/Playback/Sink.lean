/-!
# Sample sinks

A sample sink takes one 8-bit sample at a time and may refuse it. `RecordingSink` keeps every
sample it accepted, can be told to refuse, and counts its refusals; it stands in for the DAC
wherever a run has to be observed.
-/

namespace PinballAudio

/-- Something that accepts samples one at a time and may refuse with an error of type `ε`. -/
class SampleSink (κ : Type) (ε : outParam Type) where
  writeSample : UInt8 → κ → Except ε Unit × κ

/-- The refusal of a recording sink. -/
structure SinkRefused where
  deriving DecidableEq, Repr

def SinkRefused.message (_ : SinkRefused) : String := "sink write failed"

/-- A sink that records what it accepts and refuses while `failing` is set. -/
structure RecordingSink where
  samples : Array UInt8 := #[]
  failing : Bool := false
  failures : Nat := 0
  deriving Repr

namespace RecordingSink

/-- Accept `v`, or count a refusal while failing. -/
def write (v : UInt8) (s : RecordingSink) : Except SinkRefused Unit × RecordingSink :=
  if s.failing then (.error {}, { s with failures := s.failures + 1 })
  else (.ok (), { s with samples := s.samples.push v })

instance : SampleSink RecordingSink SinkRefused := ⟨write⟩

def last (s : RecordingSink) : Option UInt8 := s.samples.back?

def setFailing (fail : Bool) (s : RecordingSink) : RecordingSink := { s with failing := fail }

def clear (s : RecordingSink) : RecordingSink := { s with samples := #[] }

theorem write_samples (v : UInt8) (s : RecordingSink) :
    (s.write v).2.samples = if s.failing then s.samples else s.samples.push v := by
  unfold write; split <;> rfl

end RecordingSink

end PinballAudio
