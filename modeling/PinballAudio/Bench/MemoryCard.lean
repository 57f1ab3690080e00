import PinballAudio.Storage.Device
import PinballAudio.Storage.Window
import PinballAudio.Bench.Content

/-!
# An in-memory block device

A block device whose blocks follow a content rule. It checks the window like a card does,
records every read that passes the check, and then either fails with the failure it was given or
writes the window.
-/

namespace PinballAudio.Bench

/-- An in-memory device, the reads it served and the failure it is set to return. -/
structure MemoryCard where
  content : ContentRule := .pattern
  reads : Array (UInt32 × UInt16 × UInt16) := #[]
  failure : Option IoError := none
  deriving Repr

namespace MemoryCard

def readPartial (block : UInt32) (offset length : UInt16) (buf : Array UInt8) (m : MemoryCard) :
    (Except IoError Unit × Array UInt8) × MemoryCard :=
  match ReadWindow.make offset length buf.size with
  | .error e => ((.error e, buf), m)
  | .ok w =>
    let m := { m with reads := m.reads.push (block, offset, length) }
    match m.failure with
    | some e => ((.error e, buf), m)
    | none =>
      let buf := buf.mapIdx fun i v =>
        if w.offset ≤ i ∧ i < w.endOffset then m.content.byte block i else v
      ((.ok (), buf), m)

instance : BlockDevice MemoryCard := ⟨readPartial⟩

end MemoryCard

end PinballAudio.Bench
