import Mathlib
import PinballAudio.Bench.MemoryCard
import PinballAudio.Proofs.Stream.Session

/-!
# Refills from a device that serves the asset

`ServesContent content good` says what the producer needs of its device: from every state in
`good`, a read of a window that fits the block and the buffer succeeds, writes the block's bytes
at the window's positions, keeps the buffer's length and leaves the device in `good`. Under it a
refill of a half copies the half's window of the block under the cursor into the ring, marks the
half ready, counts one refill, and moves the cursor on after an upper half.

The asset loops over `loopLength` blocks, an empty asset counting as one; pass `c` over the ring
plays block `blockOfPass c`.
-/

namespace PinballAudio

namespace AudioRing

@[simp] theorem size_fillHalf (h : Half) (data : List UInt8) (r : AudioRing) :
    (r.fillHalf h data).samples.size = r.samples.size := by
  cases h <;> simp [fillHalf, setReady]

theorem sample_fillHalf (h : Half) (data : List UInt8) (r : AudioRing) {i : Nat}
    (hi : i < r.samples.size) :
    (r.fillHalf h data).sample i =
      if h.offset ≤ i ∧ i < h.stop then data[i - h.offset]?.getD (r.sample i) else r.sample i := by
  have hget : r.samples[i]? = some r.samples[i] := Array.getElem?_eq_getElem hi
  cases h <;> simp [fillHalf, setReady, sample, hget]

@[simp] theorem isReady_fillHalf (h : Half) (data : List UInt8) (r : AudioRing) :
    (r.fillHalf h data).isReady h = true := by
  cases h <;> rfl

@[simp] theorem isReady_fillHalf_other (h : Half) (data : List UInt8) (r : AudioRing) :
    (r.fillHalf h data).isReady h.other = r.isReady h.other := by
  cases h <;> rfl

/-- `r'` is `r` with half `h` holding the bytes of `block` at their own slots and marked ready;
the other half's flag and every slot outside `h` are those of `r`. -/
structure FilledFrom (content : UInt32 → Nat → UInt8) (block : UInt32) (h : Half)
    (r r' : AudioRing) : Prop where
  size : r'.samples.size = r.samples.size
  ready : r'.isReady h = true
  ready_other : r'.isReady h.other = r.isReady h.other
  sample : ∀ i < r.samples.size,
    r'.sample i = if h.offset ≤ i ∧ i < h.stop then content block i else r.sample i

theorem filledFrom_fillHalf {content : UInt32 → Nat → UInt8} {block : UInt32} (h : Half)
    (data : List UInt8) (r : AudioRing)
    (hdata : ∀ i, h.offset ≤ i → i < h.stop → data[i - h.offset]? = some (content block i)) :
    FilledFrom content block h r (r.fillHalf h data) where
  size := size_fillHalf h data r
  ready := isReady_fillHalf h data r
  ready_other := isReady_fillHalf_other h data r
  sample i hi := by
    rw [sample_fillHalf h data r hi]
    split
    · rename_i hin
      rw [hdata i hin.1 hin.2]
      rfl
    · rfl

end AudioRing

namespace AssetLayout

def loopLength (l : AssetLayout) : Nat := max l.totalBlocks.toNat 1

def blockOfPass (l : AssetLayout) (c : Nat) : UInt32 :=
  l.startBlock + UInt32.ofNat (c % l.loopLength)

theorem loopLength_pos (l : AssetLayout) : 0 < l.loopLength := by
  unfold loopLength
  omega

theorem add_eq_blockOfPass (l : AssetLayout) {pos : UInt32} {c : Nat}
    (h : pos.toNat = c % l.loopLength) : l.startBlock + pos = l.blockOfPass c := by
  unfold blockOfPass
  rw [← h, UInt32.ofNat_toNat]

end AssetLayout

namespace BlockCursor

theorem total_new (t : UInt32) : (new t).total.toNat = max t.toNat 1 := by
  unfold new
  split
  · rename_i ht
    simp [ht]
  · rename_i ht
    have : t.toNat ≠ 0 := fun h => ht (UInt32.toNat_inj.1 (by simpa using h))
    simp only
    omega

@[simp] theorem total_advance (c : BlockCursor) : c.advance.total = c.total := rfl

theorem position_advance (c : BlockCursor) (hc : c.position.toNat < c.total.toNat) :
    c.advance.position.toNat = (c.position.toNat + 1) % c.total.toNat := by
  have htot := c.total.toNat_lt
  have hne : c.position ≠ 0xFFFFFFFF := by
    intro h
    rw [h] at hc
    simp at hc
    omega
  have hsucc : (c.position + 1).toNat = c.position.toNat + 1 := by
    rw [UInt32.toNat_add]
    simp only [UInt32.toNat_one]
    omega
  simp only [advance, hne, if_false]
  split
  · rename_i hge
    simp only [ge_iff_le, UInt32.le_iff_toNat_le, hsucc] at hge
    have heq : c.position.toNat + 1 = c.total.toNat := by omega
    simp [heq]
  · rename_i hlt
    simp only [ge_iff_le, UInt32.le_iff_toNat_le, hsucc] at hlt
    rw [hsucc, Nat.mod_eq_of_lt (by omega)]

end BlockCursor

section Device

variable {δ : Type} [BlockDevice δ]

/-- A device that serves `content`: from every state in `good`, every read of a window that fits
the block and the buffer succeeds, writes byte `i` of the block at each position `i` of the
window, keeps the buffer's length, and leaves the device in `good`. -/
structure ServesContent (content : UInt32 → Nat → UInt8) (good : δ → Prop) : Prop where
  read : ∀ d, good d → ∀ (block : UInt32) (offset length : UInt16) (buf : Array UInt8),
    offset.toNat < Board.blockSize → offset.toNat + length.toNat ≤ Board.blockSize →
    offset.toNat + length.toNat ≤ buf.size →
    ∃ buf' d', BlockDevice.readPartial block offset length buf d = ((.ok (), buf'), d') ∧
      good d' ∧ buf'.size = buf.size ∧
      ∀ i, offset.toNat ≤ i → i < offset.toNat + length.toNat → buf'[i]? = some (content block i)

namespace Producer

theorem currentBlock_eq {pr : Producer}
    (h : pr.layout.startBlock.toNat + pr.cursor.position.toNat < 2 ^ 32) :
    pr.currentBlock = .ok (pr.layout.startBlock + pr.cursor.position) := if_pos h

theorem currentBlock_eq_blockOfPass {pr : Producer} {l : AssetLayout} (hl : pr.layout = l)
    (hfit : l.startBlock.toNat + l.loopLength ≤ 2 ^ 32) {c : Nat}
    (hpos : pr.cursor.position.toNat = c % l.loopLength) :
    pr.currentBlock = .ok (l.blockOfPass c) := by
  have hlt := Nat.mod_lt c l.loopLength_pos
  rw [currentBlock_eq (by rw [hl, hpos]; omega), hl, l.add_eq_blockOfPass hpos]

/-- A refill from a device that serves `content` succeeds: the half holds its window of the
block under the cursor, one refill is counted, and the cursor moves on after an upper half. -/
theorem refill_ok {content : UInt32 → Nat → UInt8} {good : δ → Prop}
    (hserve : ServesContent content good) (h : Half) {pr : Producer} {dev : δ} (p : Pipeline)
    {block : UInt32} (hblock : pr.currentBlock = .ok block) (hdev : good dev)
    (hstage : Board.ringCapacity ≤ pr.staging.size) :
    ∃ staging dev' ring,
      pr.refill h dev p =
        (.ok (), { pr with staging, cursor := if h = .upper then pr.cursor.advance else pr.cursor },
          dev', { p with ring, stats := p.stats.recordRefill }) ∧
      good dev' ∧ staging.size = pr.staging.size ∧ p.ring.FilledFrom content block h ring := by
  have hoff : h.offset.toUInt16.toNat = h.offset := by cases h <;> rfl
  have hlen : Board.halfCapacity.toUInt16.toNat = Board.halfCapacity := rfl
  have hstop : h.stop ≤ Board.ringCapacity := by cases h <;> decide
  obtain ⟨buf, dev', hread, hgood, hsize, hbytes⟩ :=
    hserve.read dev hdev block h.offset.toUInt16 Board.halfCapacity.toUInt16 pr.staging
      (by rw [hoff]; cases h <;> decide) (by rw [hoff, hlen]; cases h <;> decide)
      (by rw [hoff, hlen]; exact Nat.le_trans hstop hstage)
  refine ⟨buf, dev', p.ring.fillHalf h (buf.extract h.offset h.stop).toList, ?_, hgood, hsize,
    AudioRing.filledFrom_fillHalf h _ p.ring ?_⟩
  · simp only [refill, hblock, hread]
    cases h <;> rfl
  · intro i hlo hhi
    have hbuf : h.stop ≤ buf.size := by omega
    rw [Array.getElem?_toList, Array.getElem?_extract, if_pos (by omega),
      Nat.add_sub_cancel' hlo]
    exact hbytes i (by rw [hoff]; exact hlo) (by rw [hoff, hlen]; exact hhi)

end Producer

end Device

namespace Bench.MemoryCard

theorem servesContent (rule : ContentRule) :
    ServesContent rule.byte (fun m : MemoryCard => m.content = rule ∧ m.failure = none) where
  read := by
    rintro m ⟨hrule, hfail⟩ block offset length buf hoff hend hbuf
    have hmake : ReadWindow.make offset length buf.size =
        .ok ⟨offset.toNat, length.toNat, hoff, hend⟩ := dif_pos ⟨hoff, hend, hbuf⟩
    refine ⟨buf.mapIdx fun i v =>
        if offset.toNat ≤ i ∧ i < offset.toNat + length.toNat then rule.byte block i else v,
      { m with reads := m.reads.push (block, offset, length) }, ?_, ⟨hrule, hfail⟩,
      Array.size_mapIdx .., ?_⟩
    · show MemoryCard.readPartial block offset length buf m = _
      simp [MemoryCard.readPartial, hmake, hfail, hrule, ReadWindow.endOffset]
    · intro i hlo hhi
      rw [Array.getElem?_mapIdx, Array.getElem?_eq_getElem (by omega)]
      simp [hlo, hhi]

end Bench.MemoryCard

end PinballAudio
