import Mathlib
import PinballAudio.Image.Pack
import PinballAudio.Stream.Producer

/-!
# Where the packer puts the asset

A card image is the zeroed reserved area followed by one block per asset block, and each of those
blocks is its 400-byte slice of the input, padded with silence to a whole block. So the byte at
`reservedBytes + 512 * k + i` is input byte `400 * k + i` when `i < 400` and the input is that
long, and silence otherwise. The positions are exactly where the player looks: the asset's
first block and length are those of the board's layout, and the player streams the first
`ringCapacity` bytes of each block. An input longer than the asset plays is cut, so the image
only depends on its first `playableSamples` bytes.
-/

namespace PinballAudio.Image

section Blocks

variable {α : Type} {f : Nat → List α} {w : Nat}

theorem length_flatMap_range (hf : ∀ k, (f k).length = w) (n : Nat) :
    ((List.range n).flatMap f).length = w * n := by
  induction n with
  | zero => simp
  | succ n ih =>
    rw [List.range_succ, List.flatMap_append, List.length_append, ih]
    simp [hf, Nat.mul_succ]

theorem getElem?_flatMap_range (hf : ∀ k, (f k).length = w) {n k i : Nat} (hk : k < n)
    (hi : i < w) : ((List.range n).flatMap f)[w * k + i]? = (f k)[i]? := by
  induction n with
  | zero => omega
  | succ n ih =>
    rw [List.range_succ, List.flatMap_append]
    by_cases hkn : k < n
    · have hwk : w * (k + 1) ≤ w * n := Nat.mul_le_mul_left w hkn
      rw [List.getElem?_append_left (by rw [length_flatMap_range hf]; rw [Nat.mul_succ] at hwk; omega)]
      exact ih hkn
    · obtain rfl : k = n := by omega
      rw [List.getElem?_append_right (by rw [length_flatMap_range hf]; omega),
        length_flatMap_range hf, Nat.add_sub_cancel_left]
      simp

end Blocks

theorem getElem?_chunk (pcm : Array UInt8) (k i : Nat) :
    (pcm.extract (Board.ringCapacity * k) (Board.ringCapacity * (k + 1))).toList[i]? =
      if i < Board.ringCapacity then pcm[Board.ringCapacity * k + i]? else none := by
  rw [Array.getElem?_toList, Array.getElem?_extract]
  by_cases hi : i < Board.ringCapacity
  · rw [if_pos hi]
    split
    · rfl
    · rename_i hout
      rw [Array.getElem?_eq_none (by simp only [Board.ringCapacity] at hi hout ⊢; omega)]
  · rw [if_neg hi, if_neg (by simp [Board.ringCapacity] at hi ⊢; omega)]

theorem length_chunk (pcm : Array UInt8) (k : Nat) :
    (pcm.extract (Board.ringCapacity * k) (Board.ringCapacity * (k + 1))).toList.length =
      min Board.ringCapacity (pcm.size - Board.ringCapacity * k) := by
  simp only [Array.toList_extract, List.extract_eq_take_drop, List.length_take, List.length_drop,
    Array.length_toList, Board.ringCapacity]
  omega

theorem length_assetBlock (pcm : Array UInt8) (k : Nat) :
    (assetBlock pcm k).length = Board.blockSize := by
  have hchunk := length_chunk pcm k
  simp only [assetBlock, List.length_append, List.length_replicate, hchunk]
  simp only [Board.ringCapacity, Board.blockSize] at hchunk ⊢
  omega

/-- Byte `i` of asset block `k`: input byte `400 * k + i` in the block's first 400 bytes while
the input lasts, silence after. -/
theorem getElem?_assetBlock (pcm : Array UInt8) (k : Nat) {i : Nat} (hi : i < Board.blockSize) :
    (assetBlock pcm k)[i]? =
      some (if i < Board.ringCapacity then pcm[Board.ringCapacity * k + i]?.getD Board.silence
        else Board.silence) := by
  have hchunk := length_chunk pcm k
  simp only [assetBlock]
  by_cases hin : i < min Board.ringCapacity (pcm.size - Board.ringCapacity * k)
  · have hsize : Board.ringCapacity * k + i < pcm.size := by
      simp only [Board.ringCapacity] at hin ⊢
      omega
    rw [List.getElem?_append_left (by rw [hchunk]; exact hin), getElem?_chunk,
      if_pos (by simp only [Board.ringCapacity] at hin ⊢; omega),
      if_pos (by simp only [Board.ringCapacity] at hin ⊢; omega),
      Array.getElem?_eq_getElem hsize]
    rfl
  · rw [List.getElem?_append_right (by rw [hchunk]; omega), List.getElem?_replicate,
      if_pos (by rw [hchunk]; simp only [Board.ringCapacity, Board.blockSize] at hi hin ⊢; omega)]
    split
    · rename_i hr
      rw [Array.getElem?_eq_none (by simp only [Board.ringCapacity] at hin hr ⊢; omega)]
      rfl
    · rfl

theorem length_pack (pcm : Array UInt8) :
    (pack pcm).size = reservedBytes + Board.blockSize * Board.totalMusicBlocks.toNat := by
  simp [pack, length_flatMap_range (length_assetBlock pcm)]

theorem getElem?_pack_reserved (pcm : Array UInt8) {j : Nat} (hj : j < reservedBytes) :
    (pack pcm)[j]? = some 0 := by
  rw [pack, List.getElem?_toArray, List.getElem?_append_left (by simpa using hj)]
  simp [hj]

theorem getElem?_pack_asset (pcm : Array UInt8) {k i : Nat} (hk : k < Board.totalMusicBlocks.toNat)
    (hi : i < Board.blockSize) :
    (pack pcm)[reservedBytes + Board.blockSize * k + i]? =
      some (if i < Board.ringCapacity then pcm[Board.ringCapacity * k + i]?.getD Board.silence
        else Board.silence) := by
  rw [pack, List.getElem?_toArray, Nat.add_assoc,
    List.getElem?_append_right (by simp), List.length_replicate, Nat.add_sub_cancel_left,
    getElem?_flatMap_range (length_assetBlock pcm) hk hi, getElem?_assetBlock pcm k hi]

theorem totalMusicBlocks_toNat : Board.totalMusicBlocks.toNat = 484 := by
  rw [Board.totalMusicBlocks_eq]
  rfl

theorem reservedBytes_eq : reservedBytes = 51200 := by decide

theorem playableSamples_eq : playableSamples = 193600 := by
  simp [playableSamples, totalMusicBlocks_toNat, Board.ringCapacity]

/-- An input is cut at what the player plays: the image depends on its first `playableSamples`
bytes only. -/
theorem pack_extract_playable (pcm : Array UInt8) :
    pack (pcm.extract 0 playableSamples) = pack pcm := by
  apply Array.ext_getElem?
  intro j
  by_cases hr : j < reservedBytes
  · rw [getElem?_pack_reserved _ hr, getElem?_pack_reserved _ hr]
  by_cases hend : reservedBytes + Board.blockSize * Board.totalMusicBlocks.toNat ≤ j
  · rw [Array.getElem?_eq_none (by rw [length_pack]; exact hend),
      Array.getElem?_eq_none (by rw [length_pack]; exact hend)]
  have hblock : Board.blockSize = 512 := rfl
  rw [reservedBytes_eq, hblock, totalMusicBlocks_toNat] at hend
  rw [reservedBytes_eq] at hr
  have hk : (j - 51200) / 512 < Board.totalMusicBlocks.toNat := by
    rw [totalMusicBlocks_toNat]
    omega
  have hi : (j - 51200) % 512 < Board.blockSize := Nat.mod_lt _ (by decide)
  have hj : j = reservedBytes + Board.blockSize * ((j - 51200) / 512) + (j - 51200) % 512 := by
    rw [reservedBytes_eq, hblock]
    omega
  rw [hj, getElem?_pack_asset _ hk hi, getElem?_pack_asset _ hk hi]
  split
  · rename_i hin
    rw [Array.getElem?_extract, Nat.zero_add, playableSamples_eq]
    split
    · rfl
    · rename_i hout
      rw [Array.getElem?_eq_none (by simp only [Board.ringCapacity] at hin hout ⊢; omega)]
  · rfl

/-- The image the packer writes for any input is the layout the player reads. It is
`(100 + 484)` blocks long; the reserved area before block 100 is zero; block `100 + k` holds input
bytes `400 * k` to `400 * k + 399` as far as the input reaches, then silence; these are the
blocks of the board's asset layout, of which the player streams the first `ringCapacity` bytes;
and an input longer than the asset plays is cut. -/
theorem pack_matches_player_layout (pcm : Array UInt8) :
    (pack pcm).size = (100 + 484) * 512 ∧
    (∀ j < 51200, (pack pcm)[j]? = some 0) ∧
    (∀ k < 484, ∀ i < 512, (pack pcm)[51200 + 512 * k + i]? =
      some (if i < 400 then pcm[400 * k + i]?.getD 0x80 else 0x80)) ∧
    (∀ k < AssetLayout.music.totalBlocks.toNat, ∀ i < Board.ringCapacity,
      (pack pcm)[(AssetLayout.music.startBlock.toNat + k) * Board.blockSize + i]? =
        some (pcm[Board.ringCapacity * k + i]?.getD Board.silence)) ∧
    pack pcm = pack (pcm.extract 0 (484 * 400)) := by
  refine ⟨?_, fun j hj => ?_, fun k hk i hi => ?_, fun k hk i hi => ?_, ?_⟩
  · rw [length_pack, reservedBytes_eq, totalMusicBlocks_toNat]
    rfl
  · exact getElem?_pack_reserved pcm (by rw [reservedBytes_eq]; exact hj)
  · have h := getElem?_pack_asset pcm (by rw [totalMusicBlocks_toNat]; exact hk) hi
    rwa [reservedBytes_eq] at h
  · have hpos : (AssetLayout.music.startBlock.toNat + k) * Board.blockSize + i =
        reservedBytes + Board.blockSize * k + i := by
      simp only [AssetLayout.music, reservedBytes, Nat.add_mul, Nat.mul_comm k]
    rw [hpos, getElem?_pack_asset pcm hk (by simp only [Board.ringCapacity, Board.blockSize] at hi ⊢; omega),
      if_pos hi]
  · have h := pack_extract_playable pcm
    rw [playableSamples_eq] at h
    exact h.symm

end PinballAudio.Image
