import Mathlib
import PinballAudio.Stream.Consumer
import PinballAudio.Stream.Producer
import PinballAudio.Proofs.Stream.Queue

/-!
# Streaming sessions

The sample interrupt and the refill task share one pipeline. A session holds both sides, the
consumer with its sink and the producer with its device, together with the pipeline, and moves
one side at a time: a tick of the consumer, or a service of the producer, which takes the
oldest queued half and refills it. An interleaving of the two sides is a list of events, and a
run records what each step shows: the sample a tick hands to its sink, and the notes of the
refill queue.

A tick is cut into its three phases (entering a half, emitting a sample, vacating a half) by
`Consumer.tick_eq`; each phase touches only some parts of the pipeline.
-/

namespace PinballAudio

namespace AudioRing

@[simp] theorem samples_setReady (r : AudioRing) (h : Half) (v : Bool) :
    (r.setReady h v).samples = r.samples := by
  cases h <;> rfl

@[simp] theorem sample_setReady (r : AudioRing) (h : Half) (v : Bool) (i : Nat) :
    (r.setReady h v).sample i = r.sample i := by
  cases h <;> rfl

end AudioRing

namespace Consumer

variable {κ ε : Type} [SampleSink κ ε]

/-- The pipeline once a tick at play index `i` has entered its half, if `i` starts one: the
half's ready flag is taken, and a flag that was clear counts a stale half. -/
def entered (i : Nat) (p : Pipeline) : Pipeline :=
  if i = 0 ∨ i = Board.halfCapacity then
    { p with
      ring := p.ring.setReady (Half.containing i) false
      stats := if p.ring.isReady (Half.containing i) then p.stats else p.stats.recordStaleHalf }
  else p

def emitted (w : Except ε Unit) (p : Pipeline) : Pipeline :=
  match w with
  | .ok () => p
  | .error _ => { p with stats := p.stats.recordDacStall }

def vacated (v : Option Half) (p : Pipeline) : Pipeline :=
  match v with
  | none => p
  | some h =>
    if (p.queue.post h).1 then { p with queue := (p.queue.post h).2 }
    else { p with queue := (p.queue.post h).2, stats := p.stats.recordUnderrun }

def nextIndex (i : Nat) : Nat := if i + 1 ≥ Board.ringCapacity then 0 else i + 1

/-- A tick enters, emits the sample under the play index, and vacates, in this order. -/
theorem tick_eq (c : Consumer κ) (p : Pipeline) :
    c.tick p =
      (vacatedAt (c.index + 1),
        { index := nextIndex c.index,
          sink := (SampleSink.writeSample (p.ring.sample c.index) c.sink).2 },
        vacated (vacatedAt (c.index + 1))
          (emitted (SampleSink.writeSample (p.ring.sample c.index) c.sink).1
            (entered c.index p))) := by
  by_cases hent : c.index = 0 ∨ c.index = Board.halfCapacity
  · cases hr : p.ring.isReady (Half.containing c.index) <;>
    · simp only [tick, entered, hent, hr, AudioRing.takeReady, AudioRing.sample_setReady,
        Bool.false_eq_true, ↓reduceIte]
      rcases SampleSink.writeSample (p.ring.sample c.index) c.sink with ⟨_ | _, k⟩ <;>
      · cases vacatedAt (c.index + 1) <;> rfl
  · simp only [tick, entered, hent, ↓reduceIte]
    rcases SampleSink.writeSample (p.ring.sample c.index) c.sink with ⟨_ | _, k⟩ <;>
    · cases vacatedAt (c.index + 1) <;> rfl

@[simp] theorem queue_entered (i : Nat) (p : Pipeline) : (entered i p).queue = p.queue := by
  unfold entered; split <;> rfl

@[simp] theorem underruns_entered (i : Nat) (p : Pipeline) :
    (entered i p).stats.underruns = p.stats.underruns := by
  unfold entered; split
  · split <;> rfl
  · rfl

@[simp] theorem queue_emitted (w : Except ε Unit) (p : Pipeline) :
    (emitted w p).queue = p.queue := by
  cases w <;> rfl

@[simp] theorem underruns_emitted (w : Except ε Unit) (p : Pipeline) :
    (emitted w p).stats.underruns = p.stats.underruns := by
  cases w <;> rfl

theorem queue_vacated (v : Option Half) (p : Pipeline) :
    (vacated v p).queue = match v with
      | none => p.queue
      | some h => (p.queue.post h).2 := by
  cases v with
  | none => rfl
  | some h => by_cases hp : (p.queue.post h).1 <;> simp [vacated, hp]

theorem underruns_vacated (v : Option Half) (p : Pipeline) :
    (vacated v p).stats.underruns = match v with
      | none => p.stats.underruns
      | some h => if (p.queue.post h).1 then p.stats.underruns else p.stats.underruns + 1 := by
  cases v with
  | none => rfl
  | some h => by_cases hp : (p.queue.post h).1 <;> simp [vacated, hp, StreamStats.recordUnderrun]

theorem entered_of_ready {i : Nat} {p : Pipeline}
    (h : i = 0 ∨ i = Board.halfCapacity → p.ring.isReady (Half.containing i) = true) :
    entered i p =
      { p with
        ring := if i = 0 ∨ i = Board.halfCapacity then p.ring.setReady (Half.containing i) false
          else p.ring } := by
  unfold entered
  split
  · rename_i hent
    simp [h hent]
  · rfl

theorem emitted_eq (w : Except ε Unit) (p : Pipeline) :
    ∃ stalls, emitted w p = { p with stats := { p.stats with dacStalls := stalls } } := by
  cases w with
  | ok => exact ⟨p.stats.dacStalls, rfl⟩
  | error => exact ⟨p.stats.dacStalls + 1, rfl⟩

theorem vacated_of_accepted {v : Option Half} {p : Pipeline}
    (h : ∀ h, v = some h → (p.queue.post h).1 = true) :
    vacated v p = { p with queue := v.elim p.queue fun h => (p.queue.post h).2 } := by
  cases v with
  | none => rfl
  | some h' => simp [vacated, h h' rfl]

end Consumer

namespace Producer

variable {δ : Type} [BlockDevice δ]

@[simp] theorem refill_queue (h : Half) (pr : Producer) (dev : δ) (p : Pipeline) :
    (pr.refill h dev p).2.2.2.queue = p.queue := by
  unfold refill
  split
  split <;> rfl

@[simp] theorem refill_underruns (h : Half) (pr : Producer) (dev : δ) (p : Pipeline) :
    (pr.refill h dev p).2.2.2.stats.underruns = p.stats.underruns := by
  unfold refill
  split
  split <;> rfl

@[simp] theorem refillNext_queue (pr : Producer) (dev : δ) (p : Pipeline) :
    (pr.refillNext dev p).2.2.2.queue = p.queue.tryNext.2 := by
  unfold refillNext
  rcases ht : p.queue.tryNext with ⟨_ | h, r⟩
  · exact (RefillQueue.tryNext_none ht).1.symm
  · simp

@[simp] theorem refillNext_underruns (pr : Producer) (dev : δ) (p : Pipeline) :
    (pr.refillNext dev p).2.2.2.stats.underruns = p.stats.underruns := by
  unfold refillNext
  rcases p.queue.tryNext with ⟨_ | h, r⟩ <;> simp

end Producer

/-- One step of one side: a tick of the sample interrupt, or one service of the refill task. -/
inductive StreamEvent where
  | tick
  | serve
  deriving DecidableEq, Repr

/-- What a step shows: the sample a tick hands to its sink, or a note of the refill queue. -/
inductive StreamNote where
  | played (sample : UInt8)
  | queue (n : QueueNote)
  deriving DecidableEq, Repr

namespace StreamNote

def sample? : StreamNote → Option UInt8
  | played v => some v
  | queue _ => none

def queueNote? : StreamNote → Option QueueNote
  | played _ => none
  | queue n => some n

end StreamNote

def samplesPlayed (ns : List StreamNote) : List UInt8 := ns.filterMap StreamNote.sample?

def queueNotes (ns : List StreamNote) : List QueueNote := ns.filterMap StreamNote.queueNote?

@[simp] theorem samplesPlayed_nil : samplesPlayed [] = [] := rfl

@[simp] theorem samplesPlayed_played (v : UInt8) (ns : List StreamNote) :
    samplesPlayed (.played v :: ns) = v :: samplesPlayed ns := rfl

@[simp] theorem samplesPlayed_queue (n : QueueNote) (ns : List StreamNote) :
    samplesPlayed (.queue n :: ns) = samplesPlayed ns := rfl

@[simp] theorem samplesPlayed_append (ns ms : List StreamNote) :
    samplesPlayed (ns ++ ms) = samplesPlayed ns ++ samplesPlayed ms :=
  List.filterMap_append

@[simp] theorem queueNotes_nil : queueNotes [] = [] := rfl

@[simp] theorem queueNotes_played (v : UInt8) (ns : List StreamNote) :
    queueNotes (.played v :: ns) = queueNotes ns := rfl

@[simp] theorem queueNotes_queue (n : QueueNote) (ns : List StreamNote) :
    queueNotes (.queue n :: ns) = n :: queueNotes ns := rfl

@[simp] theorem queueNotes_append (ns ms : List StreamNote) :
    queueNotes (ns ++ ms) = queueNotes ns ++ queueNotes ms :=
  List.filterMap_append

/-- Both sides of a pipeline: the consumer with its sink, the producer with its device. -/
structure StreamSession (κ δ : Type) where
  consumer : Consumer κ
  producer : Producer
  device : δ
  pipeline : Pipeline

namespace StreamSession

variable {κ ε δ : Type} [SampleSink κ ε] [BlockDevice δ]

/-- One step and what it shows. A tick plays the sample under the play index and notes the post
of the half it leaves; a service notes the half it takes, if the queue held one. -/
def step : StreamEvent → StreamSession κ δ → List StreamNote × StreamSession κ δ
  | .tick, s =>
    let (v, c, p) := s.consumer.tick s.pipeline
    (.played (s.pipeline.ring.sample s.consumer.index) ::
        (v.map fun h => StreamNote.queue (.posted h (s.pipeline.queue.post h).1)).toList,
      { s with consumer := c, pipeline := p })
  | .serve, s =>
    let (_, pr, dev, p) := s.producer.refillNext s.device s.pipeline
    ((s.pipeline.queue.tryNext.1.map fun h => StreamNote.queue (.received h)).toList,
      { s with producer := pr, device := dev, pipeline := p })

/-- Run the events in order and collect what the steps show. -/
def run : List StreamEvent → StreamSession κ δ → List StreamNote × StreamSession κ δ
  | [], s => ([], s)
  | e :: es, s =>
    let (ns, s') := step e s
    let (ms, s'') := run es s'
    (ns ++ ms, s'')

@[simp] theorem run_nil (s : StreamSession κ δ) : run [] s = ([], s) := rfl

theorem run_cons (e : StreamEvent) (es : List StreamEvent) (s : StreamSession κ δ) :
    run (e :: es) s = ((step e s).1 ++ (run es (step e s).2).1, (run es (step e s).2).2) := rfl

theorem step_tick (s : StreamSession κ δ) :
    step .tick s =
      (.played (s.pipeline.ring.sample s.consumer.index) ::
          ((Consumer.vacatedAt (s.consumer.index + 1)).map fun h =>
            StreamNote.queue (.posted h (s.pipeline.queue.post h).1)).toList,
        { s with
          consumer :=
            { index := Consumer.nextIndex s.consumer.index,
              sink := (SampleSink.writeSample (s.pipeline.ring.sample s.consumer.index)
                s.consumer.sink).2 }
          pipeline := Consumer.vacated (Consumer.vacatedAt (s.consumer.index + 1))
            (Consumer.emitted (SampleSink.writeSample (s.pipeline.ring.sample s.consumer.index)
              s.consumer.sink).1 (Consumer.entered s.consumer.index s.pipeline)) }) := by
  simp only [step, Consumer.tick_eq]

/-- The queue moves along the queue notes a step shows. -/
theorem step_trace (e : StreamEvent) (s : StreamSession κ δ) :
    RefillQueue.Trace s.pipeline.queue (queueNotes (step e s).1) (step e s).2.pipeline.queue := by
  cases e with
  | tick =>
    rw [step_tick]
    rcases Consumer.vacatedAt (s.consumer.index + 1) with _ | h
    · simpa [Consumer.queue_vacated] using RefillQueue.Trace.nil s.pipeline.queue
    · simpa [Consumer.queue_vacated] using RefillQueue.Trace.post h (RefillQueue.Trace.nil _)
  | serve =>
    simp only [step]
    rcases ht : s.pipeline.queue.tryNext with ⟨_ | h, r⟩
    · simpa [ht, (RefillQueue.tryNext_none ht).1] using RefillQueue.Trace.nil s.pipeline.queue
    · simpa [ht] using RefillQueue.Trace.receive ht (RefillQueue.Trace.nil r)

theorem run_trace (es : List StreamEvent) (s : StreamSession κ δ) :
    RefillQueue.Trace s.pipeline.queue (queueNotes (run es s).1) (run es s).2.pipeline.queue := by
  induction es generalizing s with
  | nil => exact .nil _
  | cons e es ih =>
    rw [run_cons, queueNotes_append]
    exact (step_trace e s).append (ih _)

theorem step_underruns (e : StreamEvent) (s : StreamSession κ δ) :
    (step e s).2.pipeline.stats.underruns =
      s.pipeline.stats.underruns + UInt32.ofNat (refusedPosts (queueNotes (step e s).1)) := by
  cases e with
  | tick =>
    rw [step_tick]
    rcases Consumer.vacatedAt (s.consumer.index + 1) with _ | h
    · simp [Consumer.underruns_vacated]
    · cases hp : (s.pipeline.queue.post h).1 <;>
        simp [QueueNote.isRefused, Consumer.underruns_vacated, hp]
  | serve =>
    simp only [step]
    rcases s.pipeline.queue.tryNext with ⟨_ | h, r⟩ <;> simp [QueueNote.isRefused]

theorem run_underruns (es : List StreamEvent) (s : StreamSession κ δ) :
    (run es s).2.pipeline.stats.underruns =
      s.pipeline.stats.underruns + UInt32.ofNat (refusedPosts (queueNotes (run es s).1)) := by
  induction es generalizing s with
  | nil => simp
  | cons e es ih =>
    rw [run_cons, ih, step_underruns, queueNotes_append, refusedPosts_append, UInt32.ofNat_add,
      UInt32.add_assoc]

end StreamSession

section Reachable

variable {κ ε δ : Type} [SampleSink κ ε] [BlockDevice δ]

/-- The refill queue keeps one message per half in every state reachable from an empty queue:
by its own operations in any order, or by the sample interrupt and the refill task in any
interleaving. In such a state the queue holds each half at most once, its flags say exactly which
halves it holds, it holds at most two, so a post never meets a full queue; a post is accepted and
queued at the tail exactly when its half is not pending and otherwise changes nothing; a
reception takes the oldest half and clears exactly its flag; the halves received are the accepted
posts in the order they were made. Along a session the underrun counter grows by exactly the
number of refused posts, and the queue's length is the accepted posts less the receptions. -/
theorem refill_queue_holds_one_message_per_half :
    (∀ ops : List QueueOp,
      RefillQueue.Trace {} (RefillQueue.replay ops {}).1 (RefillQueue.replay ops {}).2) ∧
    (∀ (c : Consumer κ) (pr : Producer) (dev : δ) (p : Pipeline) (es : List StreamEvent),
      let s : StreamSession κ δ := ⟨c, pr, dev, { p with queue := {} }⟩
      RefillQueue.Trace {} (queueNotes (s.run es).1) (s.run es).2.pipeline.queue ∧
        (s.run es).2.pipeline.stats.underruns =
          p.stats.underruns + UInt32.ofNat (refusedPosts (queueNotes (s.run es).1))) ∧
    (∀ (ns : List QueueNote) (q : RefillQueue), RefillQueue.Trace {} ns q →
      q.Consistent ∧ q.len ≤ 2 ∧
      (∀ h, q.isPending h = false → q.queued.length < Board.refillQueueDepth) ∧
      (∀ h, q.post h = if q.isPending h then (false, q) else (true, q.enqueue h)) ∧
      (∀ h r, q.tryNext = (some h, r) →
        q.queued = h :: r.queued ∧ r.isPending h = false ∧ r.isPending h.other = q.isPending h.other) ∧
      receivedHalves ns ++ q.queued = acceptedHalves ns ∧
      q.len + (receivedHalves ns).length = (acceptedHalves ns).length) := by
  refine ⟨fun ops => RefillQueue.replay_trace ops {}, fun c pr dev p es => ?_, ?_⟩
  · exact ⟨StreamSession.run_trace es ⟨c, pr, dev, { p with queue := {} }⟩,
      StreamSession.run_underruns es _⟩
  · intro ns q ht
    have hq := ht.consistent RefillQueue.consistent_empty
    have hfifo : receivedHalves ns ++ q.queued = acceptedHalves ns := by
      simpa using ht.conservation.symm
    refine ⟨hq, hq.len_le_two, fun h hh => hq.length_lt_depth hh, hq.post_eq,
      fun h r hn => ?_, hfifo, ?_⟩
    · obtain ⟨hcons, hcleared, hother, -⟩ := hq.tryNext_some hn
      exact ⟨hcons, hcleared, hother⟩
    · have hlen := congrArg List.length hfifo
      simp only [List.length_append] at hlen
      simp only [RefillQueue.len]
      omega

end Reachable

end PinballAudio
