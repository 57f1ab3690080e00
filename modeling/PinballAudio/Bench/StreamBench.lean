import PinballAudio.Card.Driver
import PinballAudio.Card.Simulated
import PinballAudio.Stream.Consumer
import PinballAudio.Stream.Producer
import PinballAudio.Bench.MemoryCard

/-!
# A bench for the streaming pipeline

The pipeline, a producer, a consumer over a recording sink and one block device (in memory or a
simulated card behind the card driver), driven one request at a time. A tick request runs the
sample interrupt `n` times; the refill requests run the producer; the rest look at or change the
ring, the queue, the sink and the device.
-/

namespace PinballAudio.Bench

open Card

/-- The device behind the bench's producer. -/
inductive StreamDevice where
  | memory (m : MemoryCard)
  | card (c : SdCard SimulatedCard)

def StreamDevice.readPartial (block : UInt32) (offset length : UInt16) (buf : Array UInt8) :
    StreamDevice → (Except IoError Unit × Array UInt8) × StreamDevice
  | .memory m => let (r, m) := m.readPartial block offset length buf; (r, .memory m)
  | .card c => let (r, c) := c.readPartial block offset length buf; (r, .card c)

instance : BlockDevice StreamDevice := ⟨StreamDevice.readPartial⟩

/-- Every part of a running pipeline. -/
structure StreamBench where
  pipeline : Pipeline := {}
  producer : Producer
  consumer : Consumer RecordingSink := { sink := {} }
  device : StreamDevice

/-- A request to the bench. -/
inductive StreamStep where
  | tick (n : Nat)
  | post (h : Half)
  | tryNext
  | refill (h : Half)
  | preload
  | serve
  | runPoll
  | queueEmpty
  | refillNext
  | fillHalf (h : Half) (data : List UInt8)
  | takeReady (h : Half)
  | sample (i : Nat)
  | ring
  | sinkFailing (v : Bool)
  | deviceFail (e : Option IoError)

/-- What a request answers. -/
inductive StreamReply where
  | none
  | ticks (vacated : List (Nat × Half)) (samples : Array UInt8)
  | flag (b : Bool)
  | half (h : Option Half)
  | read (r : Except IoError Unit)
  | served (rs : List (Half × Except IoError Unit))
  | pending
  | next (r : Except IoError Half)
  | byte (v : UInt8)
  | slots (s : Array UInt8)

namespace StreamBench

def make (layout : AssetLayout) (device : StreamDevice) : StreamBench :=
  { producer := Producer.new layout, device := device }

def ticks (k : Nat) : Nat → StreamBench → List (Nat × Half) → List (Nat × Half) × StreamBench
  | 0, b, acc => (acc, b)
  | n + 1, b, acc =>
    let (v, c, p) := b.consumer.tick b.pipeline
    let acc := match v with
      | some h => (k, h) :: acc
      | none => acc
    ticks (k + 1) n { b with consumer := c, pipeline := p } acc

def refill (h : Half) (b : StreamBench) : Except IoError Unit × StreamBench :=
  let (r, pr, dev, p) := b.producer.refill h b.device b.pipeline
  (r, { b with producer := pr, device := dev, pipeline := p })

def serve (b : StreamBench) : List (Half × Except IoError Unit) × StreamBench :=
  let (rs, pr, dev, p) := b.producer.serve b.device b.pipeline
  (rs, { b with producer := pr, device := dev, pipeline := p })

/-- Answer one request; `none` when the request does not apply to the bench's device. -/
def step (s : StreamStep) (b : StreamBench) : Option (StreamReply × StreamBench) :=
  match s with
  | .tick n =>
    let before := b.consumer.sink.samples.size
    let (vacated, b) := ticks 1 n b []
    some (.ticks vacated.reverse (b.consumer.sink.samples.extract before), b)
  | .post h =>
    let (ok, q) := b.pipeline.queue.post h
    some (.flag ok, { b with pipeline := { b.pipeline with queue := q } })
  | .tryNext =>
    let (h, q) := b.pipeline.queue.tryNext
    some (.half h, { b with pipeline := { b.pipeline with queue := q } })
  | .refill h => let (r, b) := b.refill h; some (.read r, b)
  | .preload =>
    let (r, pr, dev, p) := b.producer.preload b.device b.pipeline
    some (.read r, { b with producer := pr, device := dev, pipeline := p })
  | .serve => let (rs, b) := b.serve; some (.served rs, b)
  | .runPoll => let (_, b) := b.serve; some (.pending, b)
  | .queueEmpty => some (.flag b.pipeline.queue.isEmpty, b)
  | .refillNext =>
    let (r, pr, dev, p) := b.producer.refillNext b.device b.pipeline
    let b := { b with producer := pr, device := dev, pipeline := p }
    match r with
    | none => some (.pending, b)
    | some r => some (.next r, b)
  | .fillHalf h data =>
    some (.none, { b with pipeline := { b.pipeline with ring := b.pipeline.ring.fillHalf h data } })
  | .takeReady h =>
    let (v, r) := b.pipeline.ring.takeReady h
    some (.flag v, { b with pipeline := { b.pipeline with ring := r } })
  | .sample i => some (.byte (b.pipeline.ring.sample i), b)
  | .ring => some (.slots b.pipeline.ring.samples, b)
  | .sinkFailing v =>
    some (.none, { b with consumer := { b.consumer with sink := b.consumer.sink.setFailing v } })
  | .deviceFail e =>
    match b.device with
    | .memory m => some (.none, { b with device := .memory { m with failure := e } })
    | .card _ => none

end StreamBench

end PinballAudio.Bench
