import PinballAudio.Board

/-!
# Card images

The card is unpartitioned: the player streams `totalMusicBlocks` blocks from `musicStartBlock`
on and plays the first `ringCapacity` bytes of each. An image therefore holds zeroed blocks up
to the asset, then the PCM input spread 400 bytes per block, each block's unused tail filled with
silence. A short input is padded with silence; a long one is cut at what the player plays.
-/

namespace PinballAudio.Image

def playableSamples : Nat := Board.totalMusicBlocks.toNat * Board.ringCapacity

def reservedBytes : Nat := Board.musicStartBlock.toNat * Board.blockSize

/-- Block `k` of the asset: its slice of the input, then silence. -/
def assetBlock (pcm : Array UInt8) (k : Nat) : List UInt8 :=
  let chunk := (pcm.extract (Board.ringCapacity * k) (Board.ringCapacity * (k + 1))).toList
  chunk ++ List.replicate (Board.blockSize - chunk.length) Board.silence

/-- The card image for a PCM input. -/
def pack (pcm : Array UInt8) : Array UInt8 :=
  (List.replicate reservedBytes 0 ++
    (List.range Board.totalMusicBlocks.toNat).flatMap (assetBlock pcm)).toArray

end PinballAudio.Image
