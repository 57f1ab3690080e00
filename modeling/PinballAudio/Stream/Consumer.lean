import PinballAudio.Board
import PinballAudio.Playback.Sink
import PinballAudio.Stream.Pipeline

/-!
# The sample consumer

One tick of the sample interrupt plays the slot at the play index. On entering a half (index 0
or 200) it takes that half's ready flag, counting a stale half when the flag was clear. It hands
the sample to the sink, counting a stall when the sink refuses; a refusal never stops the index.
Leaving a half (the index reaching 200, or 400 which wraps to 0) vacates it: the half is posted
for refill, and a refused post is an underrun.
-/

namespace PinballAudio

/-- The play index and the sink samples go to. -/
structure Consumer (κ : Type) where
  index : Nat := 0
  sink : κ

namespace Consumer

variable {κ ε : Type} [SampleSink κ ε]

/-- The half left when the index moves on to `next`, if any. -/
def vacatedAt (next : Nat) : Option Half :=
  if next = Board.halfCapacity then some .lower
  else if next ≥ Board.ringCapacity then some .upper
  else none

/-- One tick: play a sample, move the index, post the half left behind. -/
def tick (c : Consumer κ) (p : Pipeline) : Option Half × Consumer κ × Pipeline :=
  let p :=
    if c.index = 0 ∨ c.index = Board.halfCapacity then
      let (fresh, ring) := p.ring.takeReady (Half.containing c.index)
      let p := { p with ring := ring }
      if fresh then p else { p with stats := p.stats.recordStaleHalf }
    else p
  let (written, sink) := SampleSink.writeSample (p.ring.sample c.index) c.sink
  let p := match written with
    | .ok () => p
    | .error _ => { p with stats := p.stats.recordDacStall }
  let next := c.index + 1
  let vacated := vacatedAt next
  let c := { index := if next ≥ Board.ringCapacity then 0 else next, sink := sink : Consumer κ }
  match vacated with
  | none => (none, c, p)
  | some h =>
    let (posted, q) := p.queue.post h
    let p := { p with queue := q }
    (vacated, c, if posted then p else { p with stats := p.stats.recordUnderrun })

end Consumer

end PinballAudio
