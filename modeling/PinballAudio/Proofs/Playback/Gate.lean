import Mathlib
import PinballAudio.Playback.Engine

/-!
# The interrupt gate follows playback

`start` unmasks the sample interrupt only from stopped, and `stop` masks it, marks playback
stopped and writes one silence sample only from playing; each says so in its reply. A run of
calls on a fresh engine is recorded as an `EngineRun`: the engine, the sink the silence samples
go to, and for each call its reply with the playback state before and after it.

Main statement: `playback_gate_tracks_state`. Along every run, over any sink, the gate is
enabled exactly while playback is on, the changes of playback alternate starting with playing,
the gate has been enabled once per `started` reply and disabled once more than playback stopped,
and the sink has received exactly one silence sample per stop, whichever of them it refused.
-/

namespace PinballAudio

namespace PlaybackEngine

variable {κ ε : Type} [SampleSink κ ε]

theorem start_eq (e : PlaybackEngine) :
    e.start = if e.state = .stopped then (.started, ⟨e.gate.enable, .playing⟩)
      else (.unchanged, e) := by
  cases h : e.state <;> simp [start, h]

theorem stop_eq (e : PlaybackEngine) (sink : κ) :
    e.stop sink = if e.state = .playing then
        (((SampleSink.writeSample 0x80 sink).1.map fun _ => .stopped, ⟨e.gate.disable, .stopped⟩),
          (SampleSink.writeSample 0x80 sink).2)
      else ((.ok .unchanged, e), sink) := by
  cases h : e.state with
  | stopped => simp [stop, h]
  | playing =>
    simp only [stop, h, if_true]
    rcases hw : SampleSink.writeSample Board.silence sink with ⟨_ | _, k⟩ <;>
      simp_all [Board.silence, Except.map]

end PlaybackEngine

/-- A call on the playback engine; a stop sends its silence sample to the run's sink. -/
inductive EngineCall where
  | start
  | stop
  deriving DecidableEq, Repr

/-- One call as seen from outside: its reply and the playback state before and after it. -/
structure EngineEvent (ε : Type) where
  reply : Except ε Transition
  before : PlaybackState
  after : PlaybackState

/-- An engine, the sink its stops write to, and the events of the calls made so far. -/
structure EngineRun (κ ε : Type) where
  engine : PlaybackEngine
  sink : κ
  events : List (EngineEvent ε)

def PlaybackState.nthChange (i : Nat) : PlaybackState :=
  if i % 2 = 0 then .playing else .stopped

def PlaybackState.alternating (n : Nat) : List PlaybackState :=
  (List.range n).map nthChange

@[simp] theorem PlaybackState.length_alternating (n : Nat) : (alternating n).length = n := by
  simp [alternating]

theorem PlaybackState.alternating_succ (n : Nat) :
    alternating (n + 1) = alternating n ++ [nthChange n] := by
  simp [alternating, List.range_succ]

namespace EngineRun

variable {κ ε : Type}

def changes (r : EngineRun κ ε) : List PlaybackState :=
  r.events.filterMap fun ev => if ev.before = ev.after then none else some ev.after

def startedCount (r : EngineRun κ ε) : Nat :=
  r.events.countP fun ev => ev.reply.toOption = some .started

theorem changes_append (r : EngineRun κ ε) (ev : EngineEvent ε) (e : PlaybackEngine) (k : κ) :
    (⟨e, k, r.events ++ [ev]⟩ : EngineRun κ ε).changes =
      r.changes ++ if ev.before = ev.after then [] else [ev.after] := by
  by_cases h : ev.before = ev.after <;> simp [changes, h]

theorem startedCount_append (r : EngineRun κ ε) (ev : EngineEvent ε) (e : PlaybackEngine)
    (k : κ) : (⟨e, k, r.events ++ [ev]⟩ : EngineRun κ ε).startedCount =
      r.startedCount + if ev.reply.toOption = some .started then 1 else 0 := by
  simp [startedCount, List.countP_append]

variable [SampleSink κ ε]

def call (r : EngineRun κ ε) : EngineCall → EngineRun κ ε
  | .start =>
    let (t, e) := r.engine.start
    { r with engine := e, events := r.events ++ [⟨.ok t, r.engine.state, e.state⟩] }
  | .stop =>
    let ((res, e), k) := r.engine.stop r.sink
    ⟨e, k, r.events ++ [⟨res, r.engine.state, e.state⟩]⟩

def ofCalls (calls : List EngineCall) (sink : κ) : EngineRun κ ε :=
  calls.foldl call ⟨PlaybackEngine.new {}, sink, []⟩

def silenced (n : Nat) (sink : κ) : κ :=
  (fun k => (SampleSink.writeSample (0x80 : UInt8) k).2)^[n] sink

theorem silenced_succ (n : Nat) (sink : κ) :
    silenced (n + 1) sink = (SampleSink.writeSample 0x80 (silenced n sink)).2 :=
  Function.iterate_succ_apply' _ n sink

theorem call_start_of_stopped (r : EngineRun κ ε) (h : r.engine.state = .stopped) :
    r.call .start = ⟨⟨r.engine.gate.enable, .playing⟩, r.sink,
      r.events ++ [⟨.ok .started, .stopped, .playing⟩]⟩ := by
  simp [call, PlaybackEngine.start_eq, h]

theorem call_start_of_playing (r : EngineRun κ ε) (h : r.engine.state = .playing) :
    r.call .start = ⟨r.engine, r.sink, r.events ++ [⟨.ok .unchanged, .playing, .playing⟩]⟩ := by
  simp [call, PlaybackEngine.start_eq, h]

theorem call_stop_of_playing (r : EngineRun κ ε) (h : r.engine.state = .playing) :
    r.call .stop = ⟨⟨r.engine.gate.disable, .stopped⟩, (SampleSink.writeSample 0x80 r.sink).2,
      r.events ++ [⟨(SampleSink.writeSample 0x80 r.sink).1.map fun _ => .stopped,
        .playing, .stopped⟩]⟩ := by
  simp [call, PlaybackEngine.stop_eq, h]

theorem call_stop_of_stopped (r : EngineRun κ ε) (h : r.engine.state = .stopped) :
    r.call .stop = ⟨r.engine, r.sink, r.events ++ [⟨.ok .unchanged, .stopped, .stopped⟩]⟩ := by
  simp [call, PlaybackEngine.stop_eq, h]

/-- What a run from a fresh engine over `sink₀` keeps, counted in the changes of playback. -/
structure Settled (sink₀ : κ) (r : EngineRun κ ε) : Prop where
  changes_eq : r.changes = PlaybackState.alternating r.changes.length
  state_eq : r.engine.state = if r.changes.length % 2 = 0 then .stopped else .playing
  enabled_eq : r.engine.gate.enabled = (r.engine.state == .playing)
  enables_eq : r.engine.gate.enables = r.startedCount
  disables_eq : r.engine.gate.disables = 1 + r.changes.count .stopped
  sink_eq : r.sink = silenced (r.changes.count .stopped) sink₀

theorem settled_start (sink₀ : κ) :
    Settled sink₀ (⟨PlaybackEngine.new {}, sink₀, []⟩ : EngineRun κ ε) := by
  constructor <;> rfl

variable {sink₀ : κ} {r : EngineRun κ ε}

/-- Playback is stopped exactly after an even number of changes. -/
theorem Settled.stopped_iff (hr : Settled sink₀ r) :
    r.engine.state = .stopped ↔ r.changes.length % 2 = 0 := by
  rw [hr.state_eq]
  split <;> simp_all

theorem Settled.changes_snoc (hr : Settled sink₀ r) (s : PlaybackState)
    (hs : s ≠ r.engine.state) :
    r.changes ++ [s] = PlaybackState.alternating (r.changes.length + 1) := by
  rw [PlaybackState.alternating_succ, ← hr.changes_eq, PlaybackState.nthChange]
  have hpar := hr.stopped_iff
  cases s <;> cases hst : r.engine.state <;> simp_all

theorem Settled.record_unchanged (hr : Settled sink₀ r) {ev : EngineEvent ε}
    (hev : ev.before = ev.after) (hrep : ev.reply.toOption ≠ some .started) :
    Settled sink₀ (⟨r.engine, r.sink, r.events ++ [ev]⟩ : EngineRun κ ε) := by
  have hch : (⟨r.engine, r.sink, r.events ++ [ev]⟩ : EngineRun κ ε).changes = r.changes := by
    simp [changes_append, hev]
  have hst : (⟨r.engine, r.sink, r.events ++ [ev]⟩ : EngineRun κ ε).startedCount =
      r.startedCount := by
    simp [startedCount_append, hrep]
  exact ⟨hch ▸ hr.changes_eq, hch ▸ hr.state_eq, hr.enabled_eq, hst ▸ hr.enables_eq,
    hch ▸ hr.disables_eq, hch ▸ hr.sink_eq⟩

theorem Settled.start_of_stopped (hr : Settled sink₀ r) (hs : r.engine.state = .stopped) :
    Settled sink₀ (r.call .start) := by
  have hn : r.changes.length % 2 = 0 := hr.stopped_iff.1 hs
  have hsnoc := hr.changes_snoc .playing (by simp [hs])
  rw [call_start_of_stopped r hs]
  have hch : (⟨⟨r.engine.gate.enable, .playing⟩, r.sink,
      r.events ++ [⟨.ok .started, .stopped, .playing⟩]⟩ : EngineRun κ ε).changes =
      r.changes ++ [.playing] := by
    simp [changes_append]
  constructor
  · rw [hch, hsnoc, PlaybackState.length_alternating]
  · rw [hch, List.length_append, List.length_singleton, if_neg (by omega)]
  · rfl
  · simp [startedCount_append, InterruptGate.enable, hr.enables_eq, Except.toOption]
  · rw [hch]
    simp [InterruptGate.enable, hr.disables_eq]
  · rw [hch]
    simpa using hr.sink_eq

theorem Settled.stop_of_playing (hr : Settled sink₀ r) (hs : r.engine.state = .playing) :
    Settled sink₀ (r.call .stop) := by
  have hn : r.changes.length % 2 = 1 := by
    have hodd : ¬r.changes.length % 2 = 0 := fun h => by simp [hr.stopped_iff.2 h] at hs
    omega
  have hsnoc := hr.changes_snoc .stopped (by simp [hs])
  rw [call_stop_of_playing r hs]
  have hch : (⟨⟨r.engine.gate.disable, .stopped⟩, (SampleSink.writeSample 0x80 r.sink).2,
      r.events ++ [⟨(SampleSink.writeSample 0x80 r.sink).1.map fun _ => .stopped,
        .playing, .stopped⟩]⟩ : EngineRun κ ε).changes = r.changes ++ [.stopped] := by
    simp [changes_append]
  have hrep : ((SampleSink.writeSample 0x80 r.sink).1.map fun _ => Transition.stopped).toOption
      ≠ some .started := by
    cases (SampleSink.writeSample 0x80 r.sink).1 <;> simp [Except.map, Except.toOption]
  constructor
  · rw [hch, hsnoc, PlaybackState.length_alternating]
  · rw [hch, List.length_append, List.length_singleton, if_pos (by omega)]
  · rfl
  · simp [startedCount_append, InterruptGate.disable, hr.enables_eq, hrep]
  · rw [hch, List.count_append, List.count_singleton_self]
    simp [InterruptGate.disable, hr.disables_eq]
    omega
  · rw [hch, List.count_append, List.count_singleton_self, silenced_succ, ← hr.sink_eq]

theorem Settled.call (hr : Settled sink₀ r) (c : EngineCall) : Settled sink₀ (r.call c) := by
  cases c with
  | start =>
    cases hs : r.engine.state with
    | stopped => exact hr.start_of_stopped hs
    | playing =>
      rw [call_start_of_playing r hs]
      exact hr.record_unchanged rfl (by simp [Except.toOption])
  | stop =>
    cases hs : r.engine.state with
    | playing => exact hr.stop_of_playing hs
    | stopped =>
      rw [call_stop_of_stopped r hs]
      exact hr.record_unchanged rfl (by simp [Except.toOption])

theorem settled_ofCalls (calls : List EngineCall) (sink₀ : κ) :
    Settled sink₀ (ofCalls calls sink₀ : EngineRun κ ε) := by
  induction calls using List.reverseRecOn with
  | nil => exact settled_start sink₀
  | append_singleton calls c ih =>
    rw [ofCalls, List.foldl_append]
    exact ih.call c

end EngineRun

/-- The playback engine over a fresh timer, whatever its calls and whatever the sink refuses.
`start` enables the gate and reports `started` exactly from stopped, and otherwise changes
nothing; `stop` disables the gate, stops playback and writes one silence sample exactly from
playing, reporting `stopped` or the sink's refusal, and otherwise changes nothing. Along every
run the gate is enabled exactly while playing, playback changes alternate from playing, the
gate was enabled once per `started` reply and disabled once at creation and once per stop, and
the sink saw exactly one silence sample per stop. -/
theorem playback_gate_tracks_state {κ ε : Type} [SampleSink κ ε] :
    (∀ e : PlaybackEngine, e.start =
      if e.state = .stopped then (.started, ⟨e.gate.enable, .playing⟩) else (.unchanged, e)) ∧
    (∀ (e : PlaybackEngine) (sink : κ), e.stop sink =
      if e.state = .playing then
        (((SampleSink.writeSample 0x80 sink).1.map fun _ => .stopped,
          ⟨e.gate.disable, .stopped⟩), (SampleSink.writeSample 0x80 sink).2)
      else ((.ok .unchanged, e), sink)) ∧
    ∀ (calls : List EngineCall) (sink : κ),
      let r : EngineRun κ ε := EngineRun.ofCalls calls sink
      (r.engine.gate.enabled = true ↔ r.engine.state = .playing) ∧
      r.changes = PlaybackState.alternating r.changes.length ∧
      r.engine.gate.enables = r.startedCount ∧
      r.engine.gate.disables = 1 + r.changes.count .stopped ∧
      r.sink = EngineRun.silenced (r.changes.count .stopped) sink := by
  refine ⟨PlaybackEngine.start_eq, PlaybackEngine.stop_eq, fun calls sink => ?_⟩
  have hr : EngineRun.Settled sink (EngineRun.ofCalls calls sink : EngineRun κ ε) :=
    EngineRun.settled_ofCalls calls sink
  refine ⟨?_, hr.changes_eq, hr.enables_eq, hr.disables_eq, hr.sink_eq⟩
  rw [hr.enabled_eq]
  simp

end PinballAudio
