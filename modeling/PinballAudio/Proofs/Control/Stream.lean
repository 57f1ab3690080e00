import Mathlib
import PinballAudio.Control.Command
import PinballAudio.Proofs.Playback.Gate

/-!
# The command stream

The master board's bytes fall in four classes: `B` (66) and `C` (67) control playback, `U` to `Z`
(85 to 90) pick the LED pattern and `1` to `3` (49 to 51) its speed; every other byte decodes to
nothing and is dropped before it reaches the controller. `Controller.receiveAll` feeds a byte
stream to a controller that way.

Main statement: `command_stream_sets_leds_and_playback`. After any byte stream from a fresh
controller, over any sink, the published selection has the pattern of the last pattern byte and
the speed of the last speed byte (the defaults where there is none), and playback is on exactly
when the last playback byte was `B`. LED commands leave the engine and the sink alone and report
the selection that is published right after them; playback commands leave the selection alone.
-/

namespace PinballAudio

theorem LedPattern.isSome_ofByte? (b : UInt8) : (ofByte? b).isSome ↔ 85 ≤ b ∧ b ≤ 90 := by
  simp only [UInt8.le_iff_toNat_le]
  unfold ofByte?
  split <;> simp_all [← UInt8.toNat_inj]; omega

theorem LedSpeed.isSome_ofByte? (b : UInt8) : (ofByte? b).isSome ↔ 49 ≤ b ∧ b ≤ 51 := by
  simp only [UInt8.le_iff_toNat_le]
  unfold ofByte?
  split <;> simp_all [← UInt8.toNat_inj]; omega

theorem LedPattern.classes_of_ofByte? {b : UInt8} {p : LedPattern} (hb : ofByte? b = some p) :
    (85 ≤ b ∧ b ≤ 90) ∧ ¬(49 ≤ b ∧ b ≤ 51) ∧ b ≠ 66 ∧ b ≠ 67 := by
  unfold ofByte? at hb
  split at hb <;> simp_all

theorem LedSpeed.classes_of_ofByte? {b : UInt8} {v : LedSpeed} (hb : ofByte? b = some v) :
    (49 ≤ b ∧ b ≤ 51) ∧ ¬(85 ≤ b ∧ b ≤ 90) ∧ b ≠ 66 ∧ b ≠ 67 := by
  unfold ofByte? at hb
  split at hb <;> simp_all

namespace MasterCommand

theorem decode_eq_none_iff (b : UInt8) :
    decode b = none ↔ b ≠ 66 ∧ b ≠ 67 ∧ ¬(85 ≤ b ∧ b ≤ 90) ∧ ¬(49 ≤ b ∧ b ≤ 51) := by
  rw [← LedPattern.isSome_ofByte?, ← LedSpeed.isSome_ofByte?]
  unfold decode
  split_ifs <;> cases LedPattern.ofByte? b <;> cases LedSpeed.ofByte? b <;> simp_all

theorem decode_eq_some {b : UInt8} {c : MasterCommand} (h : decode b = some c) :
    match c with
    | .play => b = 66
    | .pause => b = 67
    | .pattern p => LedPattern.ofByte? b = some p
    | .speed v => LedSpeed.ofByte? b = some v := by
  unfold decode at h
  split_ifs at h with h66 h67
  · cases h
    exact h66
  · cases h
    exact h67
  · rcases hp : LedPattern.ofByte? b with _ | p <;> simp only [hp] at h
    · obtain ⟨v, hv, rfl⟩ := Option.map_eq_some_iff.1 h
      exact hv
    · cases h
      rfl

def setsLeds : MasterCommand → Bool
  | .pattern _ | .speed _ => true
  | .play | .pause => false

end MasterCommand

def lastWhere (p : UInt8 → Bool) (bytes : List UInt8) : Option UInt8 :=
  (bytes.filter p).getLast?

theorem lastWhere_append_singleton (p : UInt8 → Bool) (bytes : List UInt8) (b : UInt8) :
    lastWhere p (bytes ++ [b]) = if p b then some b else lastWhere p bytes := by
  unfold lastWhere
  split <;> simp_all [List.filter_append]

/-- The selection a byte stream asks for: the pattern of its last byte in `U` to `Z` and the
speed of its last byte in `1` to `3`, the defaults where there is none. -/
def selectionOf (bytes : List UInt8) : LedSelection where
  pattern := ((lastWhere (fun b => 85 ≤ b ∧ b ≤ 90) bytes).bind LedPattern.ofByte?).getD .blink
  speed := ((lastWhere (fun b => 49 ≤ b ∧ b ≤ 51) bytes).bind LedSpeed.ofByte?).getD .slow

def lastPlayback (bytes : List UInt8) : Option UInt8 :=
  lastWhere (fun b => b = 66 ∨ b = 67) bytes

section Appending

variable {bytes : List UInt8} {b : UInt8}

theorem selectionOf_append_other (hpat : ¬(85 ≤ b ∧ b ≤ 90)) (hspd : ¬(49 ≤ b ∧ b ≤ 51)) :
    selectionOf (bytes ++ [b]) = selectionOf bytes := by
  simp [selectionOf, lastWhere_append_singleton, hpat, hspd]

theorem selectionOf_append_pattern {p : LedPattern} (hb : LedPattern.ofByte? b = some p) :
    selectionOf (bytes ++ [b]) = { selectionOf bytes with pattern := p } := by
  obtain ⟨hpat, hspd, -, -⟩ := LedPattern.classes_of_ofByte? hb
  simp [selectionOf, lastWhere_append_singleton, hpat, hspd, hb]

theorem selectionOf_append_speed {v : LedSpeed} (hb : LedSpeed.ofByte? b = some v) :
    selectionOf (bytes ++ [b]) = { selectionOf bytes with speed := v } := by
  obtain ⟨hspd, hpat, -, -⟩ := LedSpeed.classes_of_ofByte? hb
  simp [selectionOf, lastWhere_append_singleton, hpat, hspd, hb]

theorem lastPlayback_append_other (h66 : b ≠ 66) (h67 : b ≠ 67) :
    lastPlayback (bytes ++ [b]) = lastPlayback bytes := by
  simp [lastPlayback, lastWhere_append_singleton, h66, h67]

theorem lastPlayback_append_playback (h : b = 66 ∨ b = 67) :
    lastPlayback (bytes ++ [b]) = some b := by
  simp [lastPlayback, lastWhere_append_singleton, h]

end Appending

namespace Controller

variable {κ ε : Type} [SampleSink κ ε]

def fresh : Controller := ⟨PlaybackEngine.new {}, {}⟩

def receive (b : UInt8) (ctl : Controller) (sink : κ) : (Option (Except ε Effect) × Controller) × κ :=
  match MasterCommand.decode b with
  | none => ((none, ctl), sink)
  | some c =>
    let ((r, ctl'), sink') := ctl.handle c sink
    ((some r, ctl'), sink')

/-- Take a byte stream in order. -/
def receiveAll (bytes : List UInt8) (ctl : Controller) (sink : κ) : Controller × κ :=
  bytes.foldl (fun s b => ((receive b s.1 s.2).1.2, (receive b s.1 s.2).2)) (ctl, sink)

theorem receive_of_decode_none {b : UInt8} (h : MasterCommand.decode b = none) (ctl : Controller)
    (sink : κ) : receive b ctl sink = ((none, ctl), sink) := by
  simp [receive, h]

theorem receive_of_decode_some {b : UInt8} {c : MasterCommand} (h : MasterCommand.decode b = some c)
    (ctl : Controller) (sink : κ) :
    receive b ctl sink = (((some (ctl.handle c sink).1.1, (ctl.handle c sink).1.2)),
      (ctl.handle c sink).2) := by
  simp [receive, h]

theorem handle_pattern (p : LedPattern) (ctl : Controller) (sink : κ) :
    ctl.handle (.pattern p) sink = ((.ok (.leds { ctl.leds.current with pattern := p }),
      { ctl with leds := ctl.leds.publish { ctl.leds.current with pattern := p } }), sink) := rfl

theorem handle_speed (v : LedSpeed) (ctl : Controller) (sink : κ) :
    ctl.handle (.speed v) sink = ((.ok (.leds { ctl.leds.current with speed := v }),
      { ctl with leds := ctl.leds.publish { ctl.leds.current with speed := v } }), sink) := rfl

theorem handle_play (ctl : Controller) (sink : κ) :
    ctl.handle .play sink =
      ((.ok (.playback ctl.engine.start.1), { ctl with engine := ctl.engine.start.2 }), sink) := rfl

theorem handle_pause (ctl : Controller) (sink : κ) :
    ctl.handle .pause sink = (((ctl.engine.stop sink).1.1.map .playback,
      { ctl with engine := (ctl.engine.stop sink).1.2 }), (ctl.engine.stop sink).2) := rfl

/-- An LED command leaves the engine and the sink alone and reports the selection it
publishes. -/
theorem handle_of_setsLeds {c : MasterCommand} (hc : c.setsLeds = true) (ctl : Controller)
    (sink : κ) :
    (ctl.handle c sink).2 = sink ∧ (ctl.handle c sink).1.2.engine = ctl.engine ∧
      (ctl.handle c sink).1.1 = .ok (.leds (ctl.handle c sink).1.2.leds.current) := by
  cases c with
  | play | pause => simp [MasterCommand.setsLeds] at hc
  | pattern p => simp [handle_pattern, LedPublisher.current_publish]
  | speed v => simp [handle_speed, LedPublisher.current_publish]

theorem handle_leds_of_not_setsLeds {c : MasterCommand} (hc : c.setsLeds = false)
    (ctl : Controller) (sink : κ) : (ctl.handle c sink).1.2.leds = ctl.leds := by
  cases c with
  | play => rfl
  | pause => rfl
  | pattern | speed => simp [MasterCommand.setsLeds] at hc

/-- A controller that has taken `bytes` from a fresh start. -/
structure Follows (bytes : List UInt8) (ctl : Controller) : Prop where
  current_eq : ctl.leds.current = selectionOf bytes
  playing_iff : ctl.engine.state = .playing ↔ lastPlayback bytes = some 66

theorem follows_fresh : Follows [] fresh :=
  ⟨LedSelection.unpack_pack {}, by simp [fresh, PlaybackEngine.new, lastPlayback, lastWhere]⟩

variable {bytes : List UInt8} {ctl : Controller}

theorem Follows.of_ignored (h : Follows bytes ctl) {b : UInt8}
    (hb : MasterCommand.decode b = none) : Follows (bytes ++ [b]) ctl := by
  obtain ⟨h66, h67, hpat, hspd⟩ := (MasterCommand.decode_eq_none_iff b).1 hb
  constructor
  · rw [selectionOf_append_other hpat hspd]
    exact h.current_eq
  · rw [lastPlayback_append_other h66 h67]
    exact h.playing_iff

theorem Follows.play (h : Follows bytes ctl) (sink : κ) :
    Follows (bytes ++ [66]) (ctl.handle .play sink).1.2 := by
  have hstate : ctl.engine.start.2.state = .playing := by
    cases hs : ctl.engine.state <;> simp [PlaybackEngine.start_eq, hs]
  constructor
  · rw [selectionOf_append_other (by decide) (by decide)]
    exact h.current_eq
  · simp [handle_play, hstate, lastPlayback_append_playback]

theorem Follows.pause (h : Follows bytes ctl) (sink : κ) :
    Follows (bytes ++ [67]) (ctl.handle .pause sink).1.2 := by
  constructor
  · rw [selectionOf_append_other (by decide) (by decide)]
    exact h.current_eq
  · simp [handle_pause, PlaybackEngine.stop_state, lastPlayback_append_playback]

theorem Follows.pattern (h : Follows bytes ctl) {b : UInt8} {p : LedPattern}
    (hb : LedPattern.ofByte? b = some p) (sink : κ) :
    Follows (bytes ++ [b]) (ctl.handle (.pattern p) sink).1.2 := by
  obtain ⟨-, -, h66, h67⟩ := LedPattern.classes_of_ofByte? hb
  constructor
  · simp only [handle_pattern]
    rw [LedPublisher.current_publish, selectionOf_append_pattern hb, h.current_eq]
  · rw [lastPlayback_append_other h66 h67]
    exact h.playing_iff

theorem Follows.speed (h : Follows bytes ctl) {b : UInt8} {v : LedSpeed}
    (hb : LedSpeed.ofByte? b = some v) (sink : κ) :
    Follows (bytes ++ [b]) (ctl.handle (.speed v) sink).1.2 := by
  obtain ⟨-, -, h66, h67⟩ := LedSpeed.classes_of_ofByte? hb
  constructor
  · simp only [handle_speed]
    rw [LedPublisher.current_publish, selectionOf_append_speed hb, h.current_eq]
  · rw [lastPlayback_append_other h66 h67]
    exact h.playing_iff

theorem Follows.receive (h : Follows bytes ctl) (b : UInt8) (sink : κ) :
    Follows (bytes ++ [b]) (receive b ctl sink).1.2 := by
  rcases hd : MasterCommand.decode b with _ | c
  · rw [receive_of_decode_none hd]
    exact h.of_ignored hd
  · rw [receive_of_decode_some hd]
    have hc := MasterCommand.decode_eq_some hd
    cases c with
    | play => exact (hc : b = 66) ▸ h.play sink
    | pause => exact (hc : b = 67) ▸ h.pause sink
    | pattern p => exact h.pattern hc sink
    | speed v => exact h.speed hc sink

theorem follows_receiveAll (bytes : List UInt8) (sink : κ) :
    Follows bytes (receiveAll bytes fresh sink).1 := by
  induction bytes using List.reverseRecOn with
  | nil => exact follows_fresh
  | append_singleton bytes b ih =>
    rw [receiveAll, List.foldl_append]
    exact ih.receive b _

end Controller

/-- A byte stream fed to a fresh controller, over any sink. A byte outside the protocol is
dropped and changes nothing. Afterwards the published selection has the pattern of the last
byte in `U` to `Z` and the speed of the last byte in `1` to `3`, the defaults where there is
none, and playback is on exactly when the last of the bytes `B` and `C` was `B`. An LED command
leaves the engine and the sink alone and reports the selection published right after it;
playback commands leave the published selection alone; and a published selection reads back
as itself through its packed word. -/
theorem command_stream_sets_leds_and_playback {κ ε : Type} [SampleSink κ ε] :
    (∀ b : UInt8, MasterCommand.decode b = none ↔
      b ≠ 66 ∧ b ≠ 67 ∧ ¬(85 ≤ b ∧ b ≤ 90) ∧ ¬(49 ≤ b ∧ b ≤ 51)) ∧
    (∀ (b : UInt8) (ctl : Controller) (sink : κ), MasterCommand.decode b = none →
      Controller.receive b ctl sink = ((none, ctl), sink)) ∧
    (∀ (bytes : List UInt8) (sink : κ),
      let ctl := (Controller.receiveAll bytes Controller.fresh sink).1
      ctl.leds.current =
        { pattern := (((bytes.filter fun b => 85 ≤ b ∧ b ≤ 90).getLast?).bind
            LedPattern.ofByte?).getD .blink
          speed := (((bytes.filter fun b => 49 ≤ b ∧ b ≤ 51).getLast?).bind
            LedSpeed.ofByte?).getD .slow } ∧
      (ctl.engine.state = .playing ↔ (bytes.filter fun b => b = 66 ∨ b = 67).getLast? = some 66)) ∧
    (∀ (c : MasterCommand) (ctl : Controller) (sink : κ), c.setsLeds = true →
      (ctl.handle c sink).2 = sink ∧ (ctl.handle c sink).1.2.engine = ctl.engine ∧
        (ctl.handle c sink).1.1 = .ok (.leds (ctl.handle c sink).1.2.leds.current)) ∧
    (∀ (c : MasterCommand) (ctl : Controller) (sink : κ), c.setsLeds = false →
      (ctl.handle c sink).1.2.leds = ctl.leds) ∧
    (∀ (s : LedSelection) (p : LedPublisher), (p.publish s).current = s) := by
  refine ⟨MasterCommand.decode_eq_none_iff,
    fun b ctl sink hb => Controller.receive_of_decode_none hb ctl sink,
    fun bytes sink => ?_, fun c ctl sink hc => Controller.handle_of_setsLeds hc ctl sink,
    fun c ctl sink hc => Controller.handle_leds_of_not_setsLeds hc ctl sink,
    LedPublisher.current_publish⟩
  have h : Controller.Follows bytes (Controller.receiveAll bytes Controller.fresh sink).1 :=
    Controller.follows_receiveAll bytes sink
  exact ⟨h.current_eq, h.playing_iff⟩

end PinballAudio
