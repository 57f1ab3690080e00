import PinballAudio.Board
import PinballAudio.Storage.Device
import PinballAudio.Stream.Pipeline

/-!
# The refill producer

The producer walks the asset block by block. Each block's first 400 bytes fill the ring: its
lower 200 bytes the lower half, its upper 200 bytes the upper half, both read as windows of the
same block into a 400-byte staging buffer. The cursor moves to the next block, wrapping at the
end of the asset, only after an upper half was refilled, so a failed read is retried at the same
position. `preload` fills both halves before playback starts; `refillNext` serves the oldest
queued half, and `serveQueued` serves them until the queue is empty, which is what the endless
refill task does each time it runs.
-/

namespace PinballAudio

/-- Where the asset sits: its first block and its length in blocks. -/
structure AssetLayout where
  startBlock : UInt32
  totalBlocks : UInt32
  deriving DecidableEq, Repr

def AssetLayout.music : AssetLayout := ⟨Board.musicStartBlock, Board.totalMusicBlocks⟩

/-- A position in the asset, below a total of at least one. -/
structure BlockCursor where
  position : UInt32 := 0
  total : UInt32 := 1
  deriving DecidableEq, Repr

namespace BlockCursor

def new (total : UInt32) : BlockCursor := ⟨0, if total = 0 then 1 else total⟩

/-- Move to the next block, back to the start after the last. -/
def advance (c : BlockCursor) : BlockCursor :=
  let next := if c.position = 0xFFFFFFFF then c.position else c.position + 1
  { c with position := if next ≥ c.total then 0 else next }

def positions (c : BlockCursor) : Nat → List UInt32
  | 0 => [c.position]
  | n + 1 => c.position :: positions c.advance n

end BlockCursor

/-- The producer's own state: the layout, the cursor and the staging buffer. -/
structure Producer where
  layout : AssetLayout
  cursor : BlockCursor
  staging : Array UInt8 := Array.replicate Board.ringCapacity 0
  deriving DecidableEq, Repr

namespace Producer

variable {δ : Type} [BlockDevice δ]

def new (layout : AssetLayout) : Producer := { layout, cursor := .new layout.totalBlocks }

/-- The block under the cursor, if its number fits in 32 bits. -/
def currentBlock (pr : Producer) : Except IoError UInt32 :=
  if pr.layout.startBlock.toNat + pr.cursor.position.toNat < UInt32.size then
    .ok (pr.layout.startBlock + pr.cursor.position)
  else .error .blockOutOfRange

/-- Reload one half from the block under the cursor. A failed read is counted and leaves ring
and cursor alone; a good one fills the half, marks it ready, and after the upper half moves the
cursor on. -/
def refill (h : Half) (pr : Producer) (dev : δ) (p : Pipeline) :
    Except IoError Unit × Producer × δ × Pipeline :=
  let ((read, staging), dev) := match pr.currentBlock with
    | .ok block =>
      BlockDevice.readPartial block h.offset.toUInt16 Board.halfCapacity.toUInt16 pr.staging dev
    | .error e => ((.error e, pr.staging), dev)
  let pr := { pr with staging := staging }
  match read with
  | .error e => (.error e, pr, dev, { p with stats := p.stats.recordReadError })
  | .ok () =>
    let data := (staging.extract h.offset h.stop).toList
    let p := { p with ring := p.ring.fillHalf h data, stats := p.stats.recordRefill }
    let pr := if h = .upper then { pr with cursor := pr.cursor.advance } else pr
    (.ok (), pr, dev, p)

/-- Fill the lower half, then the upper half, stopping at the first failure. -/
def preload (pr : Producer) (dev : δ) (p : Pipeline) :
    Except IoError Unit × Producer × δ × Pipeline :=
  match refill .lower pr dev p with
  | (.ok (), pr, dev, p) => refill .upper pr dev p
  | r => r

/-- Serve the oldest queued half, if one is waiting: the half refilled, or the failure. -/
def refillNext (pr : Producer) (dev : δ) (p : Pipeline) :
    Option (Except IoError Half) × Producer × δ × Pipeline :=
  match p.queue.tryNext with
  | (none, _) => (none, pr, dev, p)
  | (some h, q) =>
    let (r, pr, dev, p) := refill h pr dev { p with queue := q }
    (some (r.map fun _ => h), pr, dev, p)

/-- Serve queued halves until the queue is empty, at most `fuel` of them; each half with the
outcome of its refill. -/
def serveQueued : Nat → Producer → δ → Pipeline →
    List (Half × Except IoError Unit) × Producer × δ × Pipeline
  | 0, pr, dev, p => ([], pr, dev, p)
  | fuel + 1, pr, dev, p =>
    match p.queue.tryNext with
    | (none, _) => ([], pr, dev, p)
    | (some h, q) =>
      let (r, pr, dev, p) := refill h pr dev { p with queue := q }
      let (rest, pr, dev, p) := serveQueued fuel pr dev p
      ((h, r) :: rest, pr, dev, p)

/-- Serve everything queued; the queue never holds more than its depth. -/
def serve (pr : Producer) (dev : δ) (p : Pipeline) :
    List (Half × Except IoError Unit) × Producer × δ × Pipeline :=
  serveQueued (p.queue.len + 1) pr dev p

end Producer

end PinballAudio
