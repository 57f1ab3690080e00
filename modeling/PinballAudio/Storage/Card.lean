import PinballAudio.Board
import PinballAudio.Clock.Divider

/-!
# Card kinds, states and addresses

A standard-capacity card is addressed in bytes and a high-capacity card in blocks, so the
address of a block on the wire depends on the kind; a byte address that does not fit in 32 bits
has no wire address at all. A card is uninitialized, idle with a known kind, or failed.
-/

namespace PinballAudio

/-- How a card is addressed. -/
inductive CardKind where
  | standard
  | highCapacity
  deriving DecidableEq, Repr, Inhabited

/-- The address sent for `block`: its byte offset on a standard card, its number on a
high-capacity one; `none` when the byte offset does not fit in 32 bits. -/
def CardKind.wireAddress (k : CardKind) (block : UInt32) : Option UInt32 :=
  match k with
  | .standard =>
    if block.toNat * Board.blockSize < UInt32.size then some (block * Board.blockSize.toUInt32)
    else none
  | .highCapacity => some block

/-- Where a card is in its life cycle. -/
inductive CardState where
  | uninitialized
  | idle (kind : CardKind)
  | failed
  deriving DecidableEq, Repr, Inhabited

/-- What bring-up found out: the kind of card and the divider the bus now runs at. -/
structure CardInfo where
  kind : CardKind
  busDivider : ClockDivider
  deriving DecidableEq, Repr

theorem wireAddress_highCapacity (block : UInt32) :
    CardKind.highCapacity.wireAddress block = some block := rfl

end PinballAudio
