import PinballAudio.Card.Driver

/-!
# A bench for the card driver

The card driver over any link, driven one request at a time: bring the card up, read a window
into a fresh buffer of a given length and fill byte, or only look at the card.
-/

namespace PinballAudio.Bench

/-- A request to the card bench. -/
inductive CardStep where
  | bringUp
  | read (block : UInt32) (offset length : UInt16) (bufferLen : Nat) (fill : UInt8)
  | look

/-- What a card request answers. -/
inductive CardReply where
  | none
  | bringUp (r : Except InitError CardInfo)
  | read (r : Except IoError Unit) (buffer : Array UInt8)

def CardStep.run {σ : Type} [SpiLink σ] (s : CardStep) (card : SdCard σ) : CardReply × SdCard σ :=
  match s with
  | .bringUp => let (r, c) := card.bringUp; (.bringUp r, c)
  | .read block offset length bufferLen fill =>
    let ((r, buf), c) := card.readPartial block offset length (Array.replicate bufferLen fill)
    (.read r buf, c)
  | .look => (.none, card)

end PinballAudio.Bench
