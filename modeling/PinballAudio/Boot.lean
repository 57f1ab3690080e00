import PinballAudio.Board
import PinballAudio.Card.Driver
import PinballAudio.Clock.Delay
import PinballAudio.Dac.Mcp4725
import PinballAudio.Stream.Producer

/-!
# Bringing the board up

Storage comes first and is the only fatal step: without a card there is nothing to play, so a
failed card bring-up ends the boot before the DAC, the settle wait or any read. Then the DAC is
parked at mid-scale (its failure is only reported), the board waits for the master, and both
halves of the ring are preloaded from the first asset block (a failure is reported; playback can
still be started). Playback itself stays stopped.
-/

namespace PinballAudio

/-- Why the board could not boot. -/
inductive BootError where
  | storage (e : InitError)
  deriving DecidableEq, Repr

def BootError.message : BootError → String
  | .storage _ => "storage initialization failed"

/-- What the non-fatal steps found. -/
structure BootReport where
  card : CardInfo
  dacReady : Bool
  preloadError : Option IoError
  deriving DecidableEq, Repr

/-- Everything the boot touches: the card, the DAC, the producer with its pipeline, and the delay
line. -/
structure BootRig (σ δ τ : Type) where
  card : SdCard σ
  dac : δ
  producer : Producer
  pipeline : Pipeline
  delay : τ

/-- Run the boot sequence with a delay that completes at once. -/
def BootRig.bringUp {σ δ ε τ : Type} [SpiLink σ] [Dac.Driver δ ε] [Delay τ]
    (r : BootRig σ δ τ) : Except BootError BootReport × BootRig σ δ τ :=
  match r.card.bringUp with
  | (.error e, card) => (.error (.storage e), { r with card := card })
  | (.ok info, card) =>
    let (dacResult, dac) := Dac.Driver.init r.dac
    let dacReady := match dacResult with
      | .ok () => true
      | .error _ => false
    let delay := Delay.delayMs Board.startupSettleMs.toNat r.delay
    let (preloaded, producer, card, pipeline) := r.producer.preload card r.pipeline
    let preloadError := match preloaded with
      | .ok () => none
      | .error e => some e
    (.ok ⟨info, dacReady, preloadError⟩, ⟨card, dac, producer, pipeline, delay⟩)

end PinballAudio
