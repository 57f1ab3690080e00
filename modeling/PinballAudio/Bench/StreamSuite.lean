import PinballAudio.Stream.Consumer
import PinballAudio.Stream.Producer
import PinballAudio.Playback.Engine
import PinballAudio.Bench.MemoryCard

/-!
# The streaming library's own checks

Named executable checks of the ring, the refill queue, the consumer, the producer and the
playback engine, each a boolean that is true when the library behaves as documented, listed by
path so that a test runner can select them.
-/

namespace PinballAudio.Bench.StreamSuite

def same {ε α : Type} [DecidableEq ε] [DecidableEq α] : Except ε α → Except ε α → Bool
  | .ok a, .ok b => decide (a = b)
  | .error e, .error f => decide (e = f)
  | _, _ => false

def primed : Pipeline :=
  let lower := (List.range 200).map Nat.toUInt8
  let upper := (List.range 200).map fun i => (i + 200).toUInt8
  { ring := (AudioRing.fillHalf .lower lower {}).fillHalf .upper upper }

def fresh : Consumer RecordingSink := { sink := {} }

def run : Nat → Consumer RecordingSink → Pipeline → List Half × Consumer RecordingSink × Pipeline
  | 0, c, p => ([], c, p)
  | n + 1, c, p =>
    let (v, c, p) := c.tick p
    let (vs, c, p) := run n c p
    (v.toList ++ vs, c, p)

def drain (p : Pipeline) : List Half × Pipeline :=
  go (p.queue.len + 1) p []
where
  go : Nat → Pipeline → List Half → List Half × Pipeline
  | 0, p, acc => (acc.reverse, p)
  | n + 1, p, acc =>
    match p.queue.tryNext with
    | (some h, q) => go n { p with queue := q } (h :: acc)
    | (none, _) => (acc.reverse, p)

def layout : AssetLayout := ⟨100, 3⟩

def device (fail : Bool := false) : MemoryCard :=
  { failure := if fail then some .dataTokenTimeout else none }

def reads (d : MemoryCard) : List (UInt32 × UInt16 × UInt16) := d.reads.toList

def newRingIsSilentAndUnready : Bool :=
  let r : AudioRing := {}
  r.capacity == 400 && (List.range 400).all (r.sample · == 0x80) &&
    !r.isReady .lower && !r.isReady .upper

def outOfRangeReadsSilence : Bool :=
  (AudioRing.fillHalf .upper (List.replicate 200 7) {}).sample 400 == 0x80

def fillHalfTouchesOnlyThatHalf : Bool :=
  let r := AudioRing.fillHalf .upper ((List.range 200).map Nat.toUInt8) {}
  (List.range 200).all (r.sample · == 0x80) &&
    (List.range 200).all (fun i => r.sample (200 + i) == i.toUInt8) &&
    r.isReady .upper && !r.isReady .lower

def shortFillKeepsTail : Bool :=
  let r := AudioRing.fillHalf .lower (List.replicate 10 1) {}
  r.sample 9 == 1 && r.sample 10 == 0x80

def takeReadyConsumesOnce : Bool :=
  let r := AudioRing.fillHalf .lower (List.replicate 200 0) {}
  let (a, r) := r.takeReady .lower
  let (b, _) := r.takeReady .lower
  a && !b

def halfGeometry : Bool :=
  Half.lower.offset == 0 && Half.lower.stop == 200 && Half.upper.offset == 200 &&
    Half.upper.stop == 400 && Half.lower.other == .upper && Half.containing 199 == .lower &&
    Half.containing 200 == .upper

def queueHoldsTwoMessages : Bool :=
  let q : RefillQueue := {}
  let (a, q) := q.post .lower
  let (b, q) := q.post .upper
  let (c, q) := q.post .lower
  let n := q.len
  let (x, q) := q.tryNext
  let (y, q) := q.tryNext
  let (z, q) := q.tryNext
  a && b && !c && n == 2 && x == some .lower && y == some .upper && z == none && q.isEmpty

def sameHalfIsNeverQueuedTwice : Bool :=
  let q : RefillQueue := {}
  let (a, q) := q.post .lower
  let (b, q) := q.post .lower
  let n := q.len
  let pending := q.isPending .lower
  let (x, q) := q.tryNext
  let after := q.isPending .lower
  let (c, _) := q.post .lower
  a && !b && n == 1 && pending && x == some .lower && !after && c

def nextWaitsForPost : Bool :=
  let (a, q) := RefillQueue.post .upper {}
  let (x, _) := q.tryNext
  a && x == some .upper

def firstHalfPostsOnceAtTick200 : Bool :=
  let (vs, c, p) := run 199 fresh primed
  let quiet := vs.isEmpty && p.queue.isEmpty
  let (v, c, p) := c.tick p
  quiet && v == some .lower && p.queue.len == 1 && c.index == 200

def fullCycleAlternatesAndWraps : Bool :=
  let (vs, c, _) := run 400 fresh primed
  vs == [.lower, .upper] && c.index == 0 &&
    c.sink.samples.toList == (List.range 400).map Nat.toUInt8

def enteringUnrefilledHalfIsCounted : Bool :=
  let (_, c, p) := run 400 fresh primed
  let before := p.stats.staleHalves
  let (_, _, p) := c.tick p
  before == 0 && p.stats.staleHalves == 1

def fullQueueCountsUnderrun : Bool :=
  let (_, _, p) := run 600 fresh primed
  p.queue.len == 2 && p.stats.underruns == 1

def partialDrainAfterUnderrunKeepsAlternation : Bool :=
  let (_, c, p) := run 600 fresh primed
  let (x, q) := p.queue.tryNext
  let p := { p with queue := q }
  let (_, c, p) := run 200 c p
  let (d₁, p) := drain p
  let u := p.stats.underruns
  let (_, _, p) := run 400 c p
  let (d₂, _) := drain p
  x == some .lower && d₁ == [.upper] && u == 2 && d₂ == [.lower, .upper]

def sinkFailureAdvancesAndCountsStall : Bool :=
  let c : Consumer RecordingSink := { sink := { failing := true } }
  let (_, c, p) := run 2 c primed
  let ok := c.index == 2 && p.stats.dacStalls == 2
  let c := { c with sink := c.sink.setFailing false }
  let (_, c, _) := run 1 c p
  ok && c.sink.samples.toList == [2]

def cursorWraps : Bool :=
  let c := (BlockCursor.new 2).advance
  let d := c.advance
  c.position == 1 && d.position == 0 && (BlockCursor.new 0).advance.position == 0

def halvesReadTheirBlockWindow : Bool :=
  let pr := Producer.new layout
  match pr.refill .lower (device) {} with
  | (.ok (), pr, d, p) =>
    match pr.refill .upper d p with
    | (.ok (), pr, d, p) =>
      reads d == [(100, 0, 200), (100, 200, 200)] &&
        (List.range 400).all (fun i => p.ring.sample i == Card.blockPattern 100 i) &&
        pr.cursor.position == 1
    | _ => false
  | _ => false

def cursorAdvancesOnlyAfterUpperHalf : Bool :=
  let pr := Producer.new layout
  match pr.refill .lower (device) {} with
  | (.ok (), pr, d, p) =>
    let mid := same pr.currentBlock (.ok 100)
    match pr.refill .upper d p with
    | (.ok (), pr, _, _) => mid && same pr.currentBlock (.ok 101)
    | _ => false
  | _ => false

def loopWrapsToStartBlock : Bool :=
  let step := fun (s : Option (Producer × MemoryCard × Pipeline)) =>
    s.bind fun (pr, d, p) =>
      match pr.preload d p with
      | (.ok (), pr, d, p) => some (pr, d, p)
      | _ => none
  match step (step (step (some (Producer.new layout, device, {})))) with
  | some (pr, _, p) => same pr.currentBlock (.ok 100) && p.stats.refills == 6
  | none => false

def readErrorKeepsPosition : Bool :=
  let (r, pr, _, p) := (Producer.new layout).refill .upper (device true) {}
  same r (.error .dataTokenTimeout) && pr.cursor.position == 0 && !p.ring.isReady .upper &&
    p.stats.readErrors == 1 && p.stats.refills == 0

def blockOverflowIsRejected : Bool :=
  let pr := Producer.new ⟨0xFFFFFFFF, 2⟩
  match pr.preload (device) {} with
  | (.ok (), pr, d, p) =>
    let (r, _, d, p) := pr.refill .lower d p
    same r (.error .blockOutOfRange) && d.reads.size == 2 && p.stats.readErrors == 1
  | _ => false

def stalledProducerNeverSkipsABlock : Bool :=
  match (Producer.new layout).preload (device) {} with
  | (.ok (), pr, d, p) =>
    let (_, c, p) := run 600 fresh p
    match p.queue.tryNext with
    | (some h, q) =>
      match pr.refill h d { p with queue := q } with
      | (.ok (), pr, d, p) =>
        let (_, _, p) := run 200 c p
        let (rs, pr, d, _) := pr.serve d p
        rs.all (fun r => same r.2 (.ok ())) && pr.cursor.position == 2 &&
          (reads d).drop 2 == [(101, 0, 200), (101, 200, 200)]
      | _ => false
    | _ => false
  | _ => false

def refillNextServesPostedHalf : Bool :=
  let (a, q) := RefillQueue.post .upper {}
  let (r, _, d, _) := (Producer.new layout).refillNext (device) { queue := q }
  a && (match r with | some x => same x (.ok .upper) | none => false) && reads d == [(100, 200, 200)]

def engineStartsStoppedWithTimerMasked : Bool :=
  let e := PlaybackEngine.new {}
  e.state == .stopped && !e.gate.enabled

def startEnablesTimerOnce : Bool :=
  let (a, e) := (PlaybackEngine.new {}).start
  let (b, e) := e.start
  a == .started && b == .unchanged && e.isPlaying && e.gate.enables == 1

def stopWritesSilenceOnce : Bool :=
  let (_, e) := (PlaybackEngine.new {}).start
  let ((a, e), s) := e.stop ({} : RecordingSink)
  let ((b, e), s) := e.stop s
  same a (.ok .stopped) && same b (.ok .unchanged) && s.samples.toList == [0x80] && !e.gate.enabled

def stopWhileStoppedIsSilentNoop : Bool :=
  let ((a, _), s) := (PlaybackEngine.new {}).stop ({} : RecordingSink)
  same a (.ok .unchanged) && s.samples.isEmpty

def failedSilenceStillStops : Bool :=
  let (_, e) := (PlaybackEngine.new {}).start
  let ((a, e), _) := e.stop ({ failing := true } : RecordingSink)
  (match a with
    | .error _ => true
    | .ok _ => false) && e.state == .stopped

def checks : List (String × Bool) :=
  [("tests::ring_buffer_tests::test_new_ring_is_silent_and_unready", newRingIsSilentAndUnready),
   ("tests::ring_buffer_tests::test_out_of_range_reads_silence", outOfRangeReadsSilence),
   ("tests::ring_buffer_tests::test_fill_half_touches_only_that_half", fillHalfTouchesOnlyThatHalf),
   ("tests::ring_buffer_tests::test_short_fill_keeps_tail", shortFillKeepsTail),
   ("tests::ring_buffer_tests::test_take_ready_consumes_once", takeReadyConsumesOnce),
   ("tests::ring_buffer_tests::test_half_geometry", halfGeometry),
   ("tests::refill_tests::test_queue_holds_two_messages", queueHoldsTwoMessages),
   ("tests::refill_tests::test_same_half_is_never_queued_twice", sameHalfIsNeverQueuedTwice),
   ("tests::refill_tests::test_next_waits_for_post", nextWaitsForPost),
   ("tests::consumer_tests::test_first_half_posts_once_at_tick_200", firstHalfPostsOnceAtTick200),
   ("tests::consumer_tests::test_full_cycle_alternates_and_wraps", fullCycleAlternatesAndWraps),
   ("tests::consumer_tests::test_entering_unrefilled_half_is_counted",
     enteringUnrefilledHalfIsCounted),
   ("tests::consumer_tests::test_full_queue_counts_underrun", fullQueueCountsUnderrun),
   ("tests::consumer_tests::test_partial_drain_after_underrun_keeps_alternation",
     partialDrainAfterUnderrunKeepsAlternation),
   ("tests::consumer_tests::test_sink_failure_advances_and_counts_stall",
     sinkFailureAdvancesAndCountsStall),
   ("tests::producer_tests::test_cursor_wraps", cursorWraps),
   ("tests::producer_tests::test_halves_read_their_block_window", halvesReadTheirBlockWindow),
   ("tests::producer_tests::test_cursor_advances_only_after_upper_half",
     cursorAdvancesOnlyAfterUpperHalf),
   ("tests::producer_tests::test_loop_wraps_to_start_block", loopWrapsToStartBlock),
   ("tests::producer_tests::test_read_error_keeps_position", readErrorKeepsPosition),
   ("tests::producer_tests::test_block_overflow_is_rejected", blockOverflowIsRejected),
   ("tests::producer_tests::test_stalled_producer_never_skips_a_block",
     stalledProducerNeverSkipsABlock),
   ("tests::producer_tests::test_refill_next_serves_posted_half", refillNextServesPostedHalf),
   ("tests::engine_tests::test_engine_starts_stopped_with_timer_masked",
     engineStartsStoppedWithTimerMasked),
   ("tests::engine_tests::test_start_enables_timer_once", startEnablesTimerOnce),
   ("tests::engine_tests::test_stop_writes_silence_once", stopWritesSilenceOnce),
   ("tests::engine_tests::test_stop_while_stopped_is_silent_noop", stopWhileStoppedIsSilentNoop),
   ("tests::engine_tests::test_failed_silence_still_stops", failedSilenceStillStops)]

end PinballAudio.Bench.StreamSuite
