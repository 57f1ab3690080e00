import PinballAudio.Board
import PinballAudio.Storage.Error

/-!
# Read windows

A read asks for `len` bytes of one block starting at `offset`, to land at the same positions of
a buffer. `ReadWindow.make` accepts exactly the windows that start inside the block, end inside
it and end inside the buffer; the bounds are carried by the window.
-/

namespace PinballAudio

/-- A window of one block that fits the block. -/
structure ReadWindow where
  offset : Nat
  len : Nat
  offset_lt : offset < Board.blockSize
  end_le : offset + len ≤ Board.blockSize

namespace ReadWindow

def endOffset (w : ReadWindow) : Nat := w.offset + w.len

def trailing (w : ReadWindow) : Nat := Board.blockSize - w.endOffset

def isEmpty (w : ReadWindow) : Bool := w.len == 0

/-- The window `offset, len` for a buffer of `bufferLen` bytes, if it fits block and buffer. -/
def make (offset len : UInt16) (bufferLen : Nat) : Except IoError ReadWindow :=
  if h : offset.toNat < Board.blockSize ∧ offset.toNat + len.toNat ≤ Board.blockSize ∧
      offset.toNat + len.toNat ≤ bufferLen then
    .ok ⟨offset.toNat, len.toNat, h.1, h.2.1⟩
  else .error .offsetOutOfRange

theorem endOffset_le (w : ReadWindow) : w.endOffset ≤ Board.blockSize := w.end_le

theorem endOffset_add_trailing (w : ReadWindow) : w.endOffset + w.trailing = Board.blockSize := by
  have := w.end_le
  simp only [trailing, endOffset] at *
  omega

end ReadWindow

end PinballAudio
