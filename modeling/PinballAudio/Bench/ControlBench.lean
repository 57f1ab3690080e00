import PinballAudio.Control.Command

/-!
# A bench for the command controller

A controller over a fresh engine and publisher, with a recording sink for the silence sample of
a pause, driven one request at a time: a received byte, a change to the sink, or a look at the
engine or at the LED signal.
-/

namespace PinballAudio.Bench

/-- A controller and its sink. -/
structure ControlBench where
  controller : Controller := ⟨PlaybackEngine.new {}, {}⟩
  sink : RecordingSink := {}

/-- A request to the controller bench. -/
inductive ControlStep where
  | byte (b : UInt8)
  | sinkFailing (v : Bool)
  | sinkClear
  | inspect
  | changed

/-- What a controller request answers. -/
inductive ControlReply where
  | none
  | ignored
  | handled (c : MasterCommand) (r : Except SinkRefused Effect)
  | inspected (playing : Bool) (last : Option UInt8)
  | changed (s : Option LedSelection)

def ControlStep.run (s : ControlStep) (b : ControlBench) : ControlReply × ControlBench :=
  match s with
  | .byte v =>
    match MasterCommand.decode v with
    | none => (.ignored, b)
    | some c =>
      let ((r, ctl), sink) := b.controller.handle c b.sink
      (.handled c r, { controller := ctl, sink := sink })
  | .sinkFailing v => (.none, { b with sink := b.sink.setFailing v })
  | .sinkClear => (.none, { b with sink := b.sink.clear })
  | .inspect => (.inspected b.controller.engine.isPlaying b.sink.last, b)
  | .changed =>
    let (s, leds) := b.controller.leds.changed
    (.changed s, { b with controller := { b.controller with leds := leds } })

end PinballAudio.Bench
