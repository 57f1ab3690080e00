import PinballAudio.Control.Led
import PinballAudio.Playback.Engine

/-!
# The serial command stream

The master board sends single bytes: `B` starts playback, `C` pauses it (the output rests at
mid-scale), `U` to `Z` choose the LED pattern and `1` to `3` the LED speed; any other byte is
ignored. `Controller.handle` applies a decoded command: playback commands go to the engine, LED
commands change one field of the published selection and report the new selection.
-/

namespace PinballAudio

/-- A decoded command byte from the master board. -/
inductive MasterCommand where
  | play
  | pause
  | pattern (p : LedPattern)
  | speed (s : LedSpeed)
  deriving DecidableEq, Repr

/-- The command a byte stands for, if any. -/
def MasterCommand.decode (b : UInt8) : Option MasterCommand :=
  if b = 66 then some .play
  else if b = 67 then some .pause
  else match LedPattern.ofByte? b with
    | some p => some (.pattern p)
    | none => (LedSpeed.ofByte? b).map .speed

/-- What handling a command did. -/
inductive Effect where
  | playback (t : Transition)
  | leds (s : LedSelection)
  deriving DecidableEq, Repr

/-- Playback control together with the published LED selection. -/
structure Controller where
  engine : PlaybackEngine
  leds : LedPublisher
  deriving DecidableEq, Repr

namespace Controller

/-- Apply `c`; `sink` receives the silence sample of a pause, whose refusal is the error. -/
def handle {κ ε : Type} [SampleSink κ ε] (c : MasterCommand) (ctl : Controller) (sink : κ) :
    (Except ε Effect × Controller) × κ :=
  match c with
  | .play =>
    let (t, e) := ctl.engine.start
    ((.ok (.playback t), { ctl with engine := e }), sink)
  | .pause =>
    let ((r, e), sink') := ctl.engine.stop sink
    ((r.map .playback, { ctl with engine := e }), sink')
  | .pattern p =>
    let s := { ctl.leds.current with pattern := p }
    ((.ok (.leds s), { ctl with leds := ctl.leds.publish s }), sink)
  | .speed v =>
    let s := { ctl.leds.current with speed := v }
    ((.ok (.leds s), { ctl with leds := ctl.leds.publish s }), sink)

end Controller

end PinballAudio
