import PinballAudio.Board
import PinballAudio.Playback.Sink

/-!
# Playback control

Playback is on exactly while the sample interrupt is unmasked. `PlaybackEngine.start` unmasks it
when playback is stopped; `PlaybackEngine.stop` masks it, marks playback stopped and then writes
one silence sample, so the output rests at mid-scale. The state changes even when that last
write fails; the failure is reported after it. The engine masks the interrupt once when it is
built.
-/

namespace PinballAudio

/-- The enable line of the sample interrupt, with the number of times it was set and cleared. -/
structure InterruptGate where
  enabled : Bool := false
  enables : Nat := 0
  disables : Nat := 0
  deriving DecidableEq, Repr

namespace InterruptGate

def enable (g : InterruptGate) : InterruptGate := { g with enabled := true, enables := g.enables + 1 }

def disable (g : InterruptGate) : InterruptGate :=
  { g with enabled := false, disables := g.disables + 1 }

end InterruptGate

/-- Whether samples are being played. -/
inductive PlaybackState where
  | stopped
  | playing
  deriving DecidableEq, Repr

/-- What a start or stop request did. -/
inductive Transition where
  | started
  | stopped
  | unchanged
  deriving DecidableEq, Repr

/-- Playback state together with the interrupt gate it drives. -/
structure PlaybackEngine where
  gate : InterruptGate
  state : PlaybackState
  deriving DecidableEq, Repr

namespace PlaybackEngine

def new (gate : InterruptGate) : PlaybackEngine := ⟨gate.disable, .stopped⟩

def isPlaying (e : PlaybackEngine) : Bool := e.state == .playing

/-- Start playback unless it is already running. -/
def start (e : PlaybackEngine) : Transition × PlaybackEngine :=
  match e.state with
  | .playing => (.unchanged, e)
  | .stopped => (.started, ⟨e.gate.enable, .playing⟩)

/-- Stop playback and silence the output; a refused silence sample is reported after the
state has changed. -/
def stop {κ ε : Type} [SampleSink κ ε] (e : PlaybackEngine) (sink : κ) :
    (Except ε Transition × PlaybackEngine) × κ :=
  match e.state with
  | .stopped => ((.ok .unchanged, e), sink)
  | .playing =>
    let e' : PlaybackEngine := ⟨e.gate.disable, .stopped⟩
    match SampleSink.writeSample Board.silence sink with
    | (.ok (), sink') => ((.ok .stopped, e'), sink')
    | (.error err, sink') => ((.error err, e'), sink')

theorem stop_state {κ ε : Type} [SampleSink κ ε] (e : PlaybackEngine) (sink : κ) :
    (e.stop sink).1.2.state = .stopped := by
  unfold stop
  cases h : e.state with
  | stopped => exact h
  | playing =>
    simp only
    split <;> rfl

end PlaybackEngine

end PinballAudio
