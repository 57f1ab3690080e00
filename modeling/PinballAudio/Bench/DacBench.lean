import PinballAudio.I2c.Buffered
import PinballAudio.Bench.I2cRecorder
import PinballAudio.Bench.FakeI2cBus
import PinballAudio.Bench.RecordingDac

/-!
# Benches for the I²C transports and the DAC

A buffered transport over a fake bus driven by start, write and stop requests; and a DAC driven
by sample, bring-up and mute requests, over any DAC driver.
-/

namespace PinballAudio.Bench

/-- A request to a byte-level transport. -/
inductive I2cStep where
  | start
  | write (b : UInt8)
  | stop

def I2cStep.run {σ ε : Type} [I2c.Transport σ ε] (s : I2cStep) (t : σ) : Except ε Unit × σ :=
  match s with
  | .start => I2c.runStep I2c.Transport.start t
  | .write b => I2c.runStep (I2c.Transport.write b) t
  | .stop => I2c.runStep I2c.Transport.stop t

/-- A request to a DAC. -/
inductive DacStep where
  | writeSample (v : UInt8)
  | init
  | mute
  | sinkFailing (v : Bool)

def DacStep.run {δ ε : Type} [Dac.Driver δ ε] (s : DacStep) (d : δ) : Option (Except ε Unit) × δ :=
  match s with
  | .writeSample v => let (r, d) := SampleSink.writeSample v d; (some r, d)
  | .init => let (r, d) := Dac.Driver.init d; (some r, d)
  | .mute => let (r, d) := Dac.Driver.mute d; (some r, d)
  | .sinkFailing _ => (none, d)

def DacStep.runRecording (s : DacStep) (d : RecordingDac) :
    Option (Except SinkRefused Unit) × RecordingDac :=
  match s with
  | .sinkFailing v => (none, { d with sink := d.sink.setFailing v })
  | s => s.run d

end PinballAudio.Bench
