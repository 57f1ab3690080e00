import PinballAudio.Proofs.Stream.Refill

/-!
# The producer's cursor across refills

A refill reads one window of the block under the cursor into the staging buffer, and only a
refill of the upper half that succeeds moves the cursor on. So over any sequence of refills,
whatever the device answers, the cursor stays inside the loop of the asset and sits at the
number of successful upper refills modulo the loop's length. Each refill is atomic: it makes one
read of the block under the cursor, and then either the half is filled from that block and
marked ready, or nothing in the ring or the cursor changes and one read error is counted. A block
whose number does not fit in 32 bits fails before any read.
-/

namespace PinballAudio

section Device

variable {δ : Type}

namespace Producer

/-- The cursor after `n` successful upper refills of a layout, with a staging buffer of the
ring's size, the device in `good`. -/
structure AtUppers (l : AssetLayout) (good : δ → Prop) (n : Nat) (pr : Producer) (dev : δ) :
    Prop where
  layout : pr.layout = l
  total : pr.cursor.total.toNat = l.loopLength
  position : pr.cursor.position.toNat = n % l.loopLength
  staging : pr.staging.size = Board.ringCapacity
  device : good dev

theorem atUppers_new (l : AssetLayout) {good : δ → Prop} {dev : δ} (hd : good dev) :
    AtUppers l good 0 (Producer.new l) dev where
  layout := rfl
  total := BlockCursor.total_new _
  position := by simp [Producer.new, BlockCursor.new]
  staging := by simp [Producer.new]
  device := hd

theorem AtUppers.position_lt {l : AssetLayout} {good : δ → Prop} {n : Nat} {pr : Producer} {dev : δ}
    (hc : AtUppers l good n pr dev) :
    pr.cursor.position.toNat < pr.cursor.total.toNat := by
  rw [hc.position, hc.total]
  exact Nat.mod_lt _ l.loopLength_pos

end Producer

variable [BlockDevice δ]

/-- A device that may fail: from every state in `good`, a read of a window that fits the block
and the buffer keeps the buffer's length and the device in `good`, and when it succeeds it has
written byte `i` of the block at each position `i` of the window. -/
structure ReadsContent (content : UInt32 → Nat → UInt8) (good : δ → Prop) : Prop where
  read : ∀ d, good d → ∀ (block : UInt32) (offset length : UInt16) (buf : Array UInt8),
    offset.toNat < Board.blockSize → offset.toNat + length.toNat ≤ Board.blockSize →
    offset.toNat + length.toNat ≤ buf.size →
    good (BlockDevice.readPartial block offset length buf d).2 ∧
      (BlockDevice.readPartial block offset length buf d).1.2.size = buf.size ∧
      ((BlockDevice.readPartial block offset length buf d).1.1 = .ok () →
        ∀ i, offset.toNat ≤ i → i < offset.toNat + length.toNat →
          (BlockDevice.readPartial block offset length buf d).1.2[i]? = some (content block i))

namespace Producer

/-- Refill the halves one after another, each from the producer and device the one before left,
whatever it returned: each half with its outcome, and the producer, device and pipeline after
them. -/
def refills (pr : Producer) (dev : δ) (p : Pipeline) :
    List Half → List (Half × Except IoError Unit) × Producer × δ × Pipeline
  | [] => ([], pr, dev, p)
  | h :: hs =>
    let (r, pr', dev', p') := pr.refill h dev p
    let (rest, pr'', dev'', p'') := refills pr' dev' p' hs
    ((h, r) :: rest, pr'', dev'', p'')

def successfulUppers (outs : List (Half × Except IoError Unit)) : Nat :=
  outs.countP fun o => o.1 == .upper && o.2.toBool

/-- The read a refill of half `h` makes: the half's window of the block under the cursor, into
the staging buffer. -/
def halfRead (pr : Producer) (h : Half) (dev : δ) : (Except IoError Unit × Array UInt8) × δ :=
  BlockDevice.readPartial (pr.layout.startBlock + pr.cursor.position) h.offset.toUInt16
    Board.halfCapacity.toUInt16 pr.staging dev

variable {pr : Producer} {h : Half} {dev : δ} {p : Pipeline}

theorem refill_of_read_ok (hfit : pr.layout.startBlock.toNat + pr.cursor.position.toNat < 2 ^ 32)
    (hok : (pr.halfRead h dev).1.1 = .ok ()) :
    pr.refill h dev p =
      (.ok (),
        { pr with
          staging := (pr.halfRead h dev).1.2
          cursor := if h = .upper then pr.cursor.advance else pr.cursor },
        (pr.halfRead h dev).2,
        { p with
          ring := p.ring.fillHalf h (((pr.halfRead h dev).1.2.extract h.offset h.stop).toList)
          stats := p.stats.recordRefill }) := by
  unfold halfRead at hok
  rcases hread : BlockDevice.readPartial (pr.layout.startBlock + pr.cursor.position)
    h.offset.toUInt16 Board.halfCapacity.toUInt16 pr.staging dev with ⟨⟨r, stg⟩, dev'⟩
  rw [hread] at hok
  cases hok
  simp only [refill, currentBlock_eq hfit, halfRead, hread]
  cases h <;> rfl

theorem refill_of_read_error (hfit : pr.layout.startBlock.toNat + pr.cursor.position.toNat < 2 ^ 32)
    {e : IoError} (herr : (pr.halfRead h dev).1.1 = .error e) :
    pr.refill h dev p =
      (.error e, { pr with staging := (pr.halfRead h dev).1.2 }, (pr.halfRead h dev).2,
        { p with stats := p.stats.recordReadError }) := by
  unfold halfRead at herr
  rcases hread : BlockDevice.readPartial (pr.layout.startBlock + pr.cursor.position)
    h.offset.toUInt16 Board.halfCapacity.toUInt16 pr.staging dev with ⟨⟨r, stg⟩, dev'⟩
  rw [hread] at herr
  cases herr
  simp only [refill, currentBlock_eq hfit, halfRead, hread]

theorem refill_of_overflow (hover : 2 ^ 32 ≤ pr.layout.startBlock.toNat + pr.cursor.position.toNat) :
    pr.refill h dev p = (.error .blockOutOfRange, pr, dev, { p with stats := p.stats.recordReadError }) := by
  have hblock : pr.currentBlock = .error .blockOutOfRange := if_neg (Nat.not_lt_of_le hover)
  simp only [refill, hblock]

theorem preload_eq_refills (pr : Producer) (dev : δ) (p : Pipeline) :
    (pr.preload dev p).2 =
      (pr.refills dev p (if (pr.refill .lower dev p).1.toBool then [.lower, .upper] else [.lower])).2 := by
  unfold preload
  rcases hl : pr.refill .lower dev p with ⟨_ | _, pr', dev', p'⟩ <;> simp [refills, hl, Except.toBool]

variable {content : UInt32 → Nat → UInt8} {good : δ → Prop}

theorem halfRead_fits (hc : AtUppers l good n pr dev) (hdev : ReadsContent content good) (h : Half) :
    good (pr.halfRead h dev).2 ∧ (pr.halfRead h dev).1.2.size = pr.staging.size ∧
      ((pr.halfRead h dev).1.1 = .ok () →
        ∀ i, h.offset ≤ i → i < h.stop → (pr.halfRead h dev).1.2[i]? =
          some (content (pr.layout.startBlock + pr.cursor.position) i)) := by
  have hoff : h.offset.toUInt16.toNat = h.offset := by cases h <;> rfl
  have hlen : Board.halfCapacity.toUInt16.toNat = Board.halfCapacity := rfl
  have hstop : h.stop = h.offset + Board.halfCapacity := rfl
  obtain ⟨hgood, hsize, hbytes⟩ := hdev.read dev hc.device _ h.offset.toUInt16
    Board.halfCapacity.toUInt16 pr.staging (by rw [hoff]; cases h <;> decide)
    (by rw [hoff, hlen]; cases h <;> decide)
    (by rw [hoff, hlen, hc.staging]; cases h <;> decide)
  refine ⟨hgood, hsize, fun hok i hlo hhi => hbytes hok i (by rw [hoff]; exact hlo) ?_⟩
  rw [hoff, hlen, ← hstop]
  exact hhi

theorem successfulUppers_cons (h : Half) (r : Except IoError Unit)
    (outs : List (Half × Except IoError Unit)) :
    successfulUppers ((h, r) :: outs) = successfulUppers [(h, r)] + successfulUppers outs := by
  simp only [successfulUppers, List.countP_cons, List.countP_nil]
  omega

theorem AtUppers.refill (hc : AtUppers l good n pr dev) (hdev : ReadsContent content good)
    (h : Half) (p : Pipeline) :
    AtUppers l good (n + successfulUppers [(h, (pr.refill h dev p).1)]) (pr.refill h dev p).2.1
      (pr.refill h dev p).2.2.1 := by
  by_cases hfit : pr.layout.startBlock.toNat + pr.cursor.position.toNat < 2 ^ 32
  · obtain ⟨hgood, hsize, -⟩ := halfRead_fits hc hdev h
    cases hread : (pr.halfRead h dev).1.1 with
    | ok u =>
      rw [refill_of_read_ok hfit hread]
      cases h with
      | lower =>
        rw [if_neg (by decide)]
        exact ⟨hc.layout, hc.total, by simp [hc.position, successfulUppers],
          hsize.trans hc.staging, hgood⟩
      | upper =>
        rw [if_pos rfl]
        refine ⟨hc.layout, hc.total, ?_, hsize.trans hc.staging, hgood⟩
        -- the one place the cursor moves: one step round the loop
        have hone : successfulUppers [(Half.upper, (.ok () : Except IoError Unit))] = 1 := rfl
        rw [BlockCursor.position_advance _ hc.position_lt, hc.position, hc.total, hone,
          Nat.mod_add_mod]
    | error e =>
      rw [refill_of_read_error hfit hread]
      exact ⟨hc.layout, hc.total, by simp [hc.position, successfulUppers, Except.toBool],
        hsize.trans hc.staging, hgood⟩
  · have hnone : successfulUppers [(h, (.error .blockOutOfRange : Except IoError Unit))] = 0 := by
      cases h <;> rfl
    rw [refill_of_overflow (by omega)]
    exact hnone ▸ hc

/-- The run lemma: along any sequence of refills the cursor stays on the count of successful
upper refills. -/
theorem AtUppers.refills (hc : AtUppers l good n pr dev) (hdev : ReadsContent content good)
    (p : Pipeline) (hs : List Half) :
    AtUppers l good (n + successfulUppers (pr.refills dev p hs).1) (pr.refills dev p hs).2.1
      (pr.refills dev p hs).2.2.1 := by
  induction hs generalizing n pr dev p with
  | nil => exact hc
  | cons h hs ih =>
    have hnext := ih (hc.refill hdev h p) (pr.refill h dev p).2.2.2
    have hcount : successfulUppers (pr.refills dev p (h :: hs)).1 =
        successfulUppers [(h, (pr.refill h dev p).1)] +
          successfulUppers ((pr.refill h dev p).2.1.refills (pr.refill h dev p).2.2.1
            (pr.refill h dev p).2.2.2 hs).1 :=
      successfulUppers_cons _ _ _
    rw [hcount, ← Nat.add_assoc]
    exact hnext

/-- A refill is atomic. When the block under the cursor has a number it reads the half's window
of it once into the staging buffer; a read that succeeds fills the half from the block, marks it
ready, counts a refill and moves the cursor after an upper half, and a read that fails changes
nothing but the staging buffer and the read errors. A block number past 32 bits fails without a
read. -/
theorem refill_atomic (hc : AtUppers l good n pr dev) (hdev : ReadsContent content good)
    (h : Half) (p : Pipeline) :
    let out := pr.refill h dev p
    (l.startBlock.toNat + pr.cursor.position.toNat < 2 ^ 32 →
      out.2.2.1 = (pr.halfRead h dev).2 ∧ out.2.1.staging = (pr.halfRead h dev).1.2 ∧
      ((pr.halfRead h dev).1.1 = .ok () →
        out.1 = .ok () ∧
        p.ring.FilledFrom content (l.startBlock + pr.cursor.position) h out.2.2.2.ring ∧
        out.2.2.2.stats = p.stats.recordRefill ∧ out.2.2.2.queue = p.queue ∧
        out.2.1.cursor = if h = .upper then pr.cursor.advance else pr.cursor) ∧
      (∀ e, (pr.halfRead h dev).1.1 = .error e →
        out.1 = .error e ∧ out.2.2.2 = { p with stats := p.stats.recordReadError } ∧
        out.2.1.cursor = pr.cursor)) ∧
    (2 ^ 32 ≤ l.startBlock.toNat + pr.cursor.position.toNat →
      out = (.error .blockOutOfRange, pr, dev, { p with stats := p.stats.recordReadError })) := by
  intro out
  rw [← hc.layout]
  refine ⟨fun hfit => ?_, fun hover => refill_of_overflow hover⟩
  obtain ⟨-, hsize, hbytes⟩ := halfRead_fits hc hdev h
  refine ⟨?_, ?_, fun hok => ?_, fun e herr => ?_⟩
  · cases hread : (pr.halfRead h dev).1.1 with
    | ok u => rw [show out = _ from refill_of_read_ok hfit hread]
    | error e => rw [show out = _ from refill_of_read_error hfit hread]
  · cases hread : (pr.halfRead h dev).1.1 with
    | ok u => rw [show out = _ from refill_of_read_ok hfit hread]
    | error e => rw [show out = _ from refill_of_read_error hfit hread]
  · rw [show out = _ from refill_of_read_ok hfit hok]
    refine ⟨rfl, AudioRing.filledFrom_fillHalf h _ p.ring fun i hlo hhi => ?_, rfl, rfl, rfl⟩
    have hstop : h.stop ≤ (pr.halfRead h dev).1.2.size := by
      rw [hsize, hc.staging]
      cases h <;> decide
    rw [Array.getElem?_toList, Array.getElem?_extract, if_pos (by omega),
      Nat.add_sub_cancel' hlo]
    exact hbytes hok i hlo hhi
  · rw [show out = _ from refill_of_read_error hfit herr]
    exact ⟨rfl, rfl, rfl⟩

end Producer

open Producer in
/-- Refills from a new producer, over any layout and any device that may fail. Preload is the
refill of the lower half followed, if it succeeded, by the refill of the upper half. Along any
sequence of refills the cursor stays inside the loop of the asset, at the number of successful
upper refills modulo the loop's length, and the staging buffer keeps the ring's size. The next
refill, of either half into whatever pipeline, is atomic: one read of the half's window of the
block under the cursor, then either the half filled from that block and marked ready, one refill
counted and the cursor moved after an upper half, or the read's error returned with only a read
error counted; a block number past 32 bits fails without any read. -/
theorem refills_move_cursor_once_per_upper (l : AssetLayout) {content : UInt32 → Nat → UInt8}
    {good : δ → Prop} (hdev : ReadsContent content good) {d : δ} (hd : good d) (p : Pipeline)
    (hs : List Half) :
    let s := (Producer.new l).refills d p hs
    let pr := s.2.1
    ((Producer.new l).preload d p).2 =
      ((Producer.new l).refills d p
        (if ((Producer.new l).refill .lower d p).1.toBool then [.lower, .upper] else [.lower])).2 ∧
    pr.cursor.position.toNat < l.loopLength ∧
    pr.cursor.position.toNat = successfulUppers s.1 % l.loopLength ∧
    pr.staging.size = Board.ringCapacity ∧
    ∀ (h : Half) (q : Pipeline),
      let out := pr.refill h s.2.2.1 q
      (l.startBlock.toNat + pr.cursor.position.toNat < 2 ^ 32 →
        out.2.2.1 = (pr.halfRead h s.2.2.1).2 ∧ out.2.1.staging = (pr.halfRead h s.2.2.1).1.2 ∧
        ((pr.halfRead h s.2.2.1).1.1 = .ok () →
          out.1 = .ok () ∧
          q.ring.FilledFrom content (l.startBlock + pr.cursor.position) h out.2.2.2.ring ∧
          out.2.2.2.stats = q.stats.recordRefill ∧ out.2.2.2.queue = q.queue ∧
          out.2.1.cursor = if h = .upper then pr.cursor.advance else pr.cursor) ∧
        (∀ e, (pr.halfRead h s.2.2.1).1.1 = .error e →
          out.1 = .error e ∧ out.2.2.2 = { q with stats := q.stats.recordReadError } ∧
          out.2.1.cursor = pr.cursor)) ∧
      (2 ^ 32 ≤ l.startBlock.toNat + pr.cursor.position.toNat →
        out = (.error .blockOutOfRange, pr, s.2.2.1, { q with stats := q.stats.recordReadError })) := by
  intro s pr
  have hc := (atUppers_new l hd).refills hdev p hs
  rw [Nat.zero_add] at hc
  have hlt := hc.position_lt
  rw [hc.total] at hlt
  exact ⟨preload_eq_refills _ d p, hlt, hc.position, hc.staging,
    fun h q => refill_atomic hc hdev h q⟩

end Device

namespace Bench.MemoryCard

theorem readsContent (rule : ContentRule) :
    ReadsContent rule.byte (fun m : MemoryCard => m.content = rule) where
  read := by
    rintro m hrule block offset length buf hoff hend hbuf
    have hmake : ReadWindow.make offset length buf.size =
        .ok ⟨offset.toNat, length.toNat, hoff, hend⟩ := dif_pos ⟨hoff, hend, hbuf⟩
    show (fun r : (Except IoError Unit × Array UInt8) × MemoryCard => r.2.content = rule ∧
      r.1.2.size = buf.size ∧ (r.1.1 = .ok () → ∀ i, offset.toNat ≤ i →
        i < offset.toNat + length.toNat → r.1.2[i]? = some (rule.byte block i)))
      (MemoryCard.readPartial block offset length buf m)
    cases hfail : m.failure with
    | some e => simp [MemoryCard.readPartial, hmake, hfail, hrule]
    | none =>
      refine ⟨by simp [MemoryCard.readPartial, hmake, hfail, hrule],
        by simp [MemoryCard.readPartial, hmake, hfail], fun _ i hlo hhi => ?_⟩
      simp only [MemoryCard.readPartial, hmake, hfail]
      rw [Array.getElem?_mapIdx, Array.getElem?_eq_getElem (by omega)]
      simp [hlo, hhi, hrule, ReadWindow.endOffset]

end Bench.MemoryCard

open Producer in
theorem failing_memory_card_refills_keep_cursor :
    let dev : Bench.MemoryCard := { failure := some .commandRejected }
    ReadsContent Bench.ContentRule.pattern.byte (fun m : Bench.MemoryCard => m.content = .pattern) ∧
    dev.content = .pattern ∧
    (let s := (Producer.new AssetLayout.music).refills dev {} [.lower, .upper]
    let pr := s.2.1
    ((Producer.new AssetLayout.music).preload dev {}).2 =
      ((Producer.new AssetLayout.music).refills dev {}
        (if ((Producer.new AssetLayout.music).refill .lower dev {}).1.toBool then [.lower, .upper]
          else [.lower])).2 ∧
    pr.cursor.position.toNat < AssetLayout.music.loopLength ∧
    pr.cursor.position.toNat = successfulUppers s.1 % AssetLayout.music.loopLength ∧
    pr.staging.size = Board.ringCapacity ∧
    ∀ (h : Half) (q : Pipeline),
      let out := pr.refill h s.2.2.1 q
      (AssetLayout.music.startBlock.toNat + pr.cursor.position.toNat < 2 ^ 32 →
        out.2.2.1 = (pr.halfRead h s.2.2.1).2 ∧ out.2.1.staging = (pr.halfRead h s.2.2.1).1.2 ∧
        ((pr.halfRead h s.2.2.1).1.1 = .ok () →
          out.1 = .ok () ∧
          q.ring.FilledFrom Bench.ContentRule.pattern.byte
            (AssetLayout.music.startBlock + pr.cursor.position) h out.2.2.2.ring ∧
          out.2.2.2.stats = q.stats.recordRefill ∧ out.2.2.2.queue = q.queue ∧
          out.2.1.cursor = if h = .upper then pr.cursor.advance else pr.cursor) ∧
        (∀ e, (pr.halfRead h s.2.2.1).1.1 = .error e →
          out.1 = .error e ∧ out.2.2.2 = { q with stats := q.stats.recordReadError } ∧
          out.2.1.cursor = pr.cursor)) ∧
      (2 ^ 32 ≤ AssetLayout.music.startBlock.toNat + pr.cursor.position.toNat →
        out = (.error .blockOutOfRange, pr, s.2.2.1, { q with stats := q.stats.recordReadError }))) :=
  ⟨Bench.MemoryCard.readsContent .pattern, rfl,
    refills_move_cursor_once_per_upper AssetLayout.music (Bench.MemoryCard.readsContent .pattern)
      rfl {} [.lower, .upper]⟩

end PinballAudio
