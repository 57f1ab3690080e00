import PinballAudio.Storage.Error

/-!
# Block devices

The audio asset is read straight off a raw card in 512-byte blocks, and a reader only ever
needs a window of one block, so a block device has one operation: read `length` bytes of a
block from `offset` into the same positions of a buffer. The buffer comes back with the result
because a read that fails part way may already have written some of it.
-/

namespace PinballAudio

/-- A device that serves windows of blocks. -/
class BlockDevice (δ : Type) where
  readPartial : UInt32 → UInt16 → UInt16 → Array UInt8 → δ → (Except IoError Unit × Array UInt8) × δ

end PinballAudio
