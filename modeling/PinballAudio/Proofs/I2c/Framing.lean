import Mathlib
import PinballAudio.I2c.Buffered
import PinballAudio.Bench.DacBench

/-!
# The buffered transport refines framed transactions

A framed transaction is what a byte-level I²C master promises: `start` opens a transaction and
forgets anything collected, `write` collects a byte while one is open, `stop` closes it and sends
the address byte's transaction on the bus. `frameStep` states this model over the bytes of the
open transaction (`none` when none is open) and says, for each call, either the reply it gives
by itself or the one bus write it makes, whose outcome is the reply (`FrameAnswer`).

`BufferedI2c.view` reads the model's state off the adapter: the collected bytes while a frame is
open. The adapter's frame is never cleared on stop; the view hides it.

Main statement: `buffered_transport_refines_framing`. After any history of calls on a fresh
adapter over any bus, the view holds the first eight bytes written since the last start, if no
stop came after it; and the next call answers, moves the bus and moves the view exactly as
`frameStep` says, a refused call leaving the adapter as it was.
-/

namespace PinballAudio.I2c

open Bench

section RunStep

/-! The outcome of a transport step and the state it leaves, one equation per primitive, so
that the adapter's functions compute by `simp`. -/

variable {σ ε α γ : Type}

@[simp] theorem runStep_pure (a : α) (s : σ) : runStep (pure a : EStateM ε σ α) s = (.ok a, s) :=
  rfl

@[simp] theorem runStep_get (s : σ) : runStep (get : EStateM ε σ σ) s = (.ok s, s) := rfl

@[simp] theorem runStep_set (s s' : σ) : runStep (set s' : EStateM ε σ PUnit) s = (.ok ⟨⟩, s') :=
  rfl

@[simp] theorem runStep_throw (e : ε) (s : σ) :
    runStep (throw e : EStateM ε σ α) s = (.error e, s) := rfl

@[simp] theorem runStep_bind (x : EStateM ε σ α) (f : α → EStateM ε σ γ) (s : σ) :
    runStep (x >>= f) s = match runStep x s with
      | (.ok a, s') => runStep (f a) s'
      | (.error e, s') => (.error e, s') := by
  unfold runStep
  simp only [EStateM.run, bind, EStateM.bind]
  cases x s <;> rfl

theorem runStep_bind_of_ok {x : EStateM ε σ α} {s s' : σ} {a : α} (h : runStep x s = (.ok a, s'))
    (f : α → EStateM ε σ γ) : runStep (x >>= f) s = runStep (f a) s' := by
  rw [runStep_bind, h]

theorem runStep_bind_of_error {x : EStateM ε σ α} {s s' : σ} {e : ε}
    (h : runStep x s = (.error e, s')) (f : α → EStateM ε σ γ) :
    runStep (x >>= f) s = (.error e, s') := by
  rw [runStep_bind, h]

end RunStep

/-- What the framed-transaction model does for one call: a reply of its own, or one bus write
whose outcome is the reply. -/
inductive FrameAnswer where
  | reply (r : Except BufferedError Unit)
  | send (address : UInt8) (payload : List UInt8)

/-- Carry out an answer on a bus: a reply leaves it alone, a send is one bus write, a failure of
which is reported by its kind. -/
def FrameAnswer.perform {β : Type} [Bus β] : FrameAnswer → β → Except BufferedError Unit × β
  | .reply r, bus => (r, bus)
  | .send address payload, bus =>
    match (Bus.write address payload).run bus with
    | .ok () bus' => (.ok (), bus')
    | .error k bus' => (.error (.bus k), bus')

/-- The framed-transaction model, over the bytes collected by the open transaction. A write
beyond `maxFrame` bytes is dropped; a stop sends the payload to the first byte halved when that
byte is even (a write address) and refuses an odd one. -/
def frameStep : I2cStep → Option (List UInt8) → FrameAnswer × Option (List UInt8)
  | .start, _ => (.reply (.ok ()), some [])
  | .write _, none => (.reply (.error .notStarted), none)
  | .write b, some bs =>
    if bs.length < maxFrame then (.reply (.ok ()), some (bs ++ [b]))
    else (.reply (.error .frameTooLong), some bs)
  | .stop, none => (.reply (.error .notStarted), none)
  | .stop, some [] => (.reply (.ok ()), none)
  | .stop, some (a :: payload) =>
    if a % 2 = 0 then (.send (a / 2) payload, none)
    else (.reply (.error .readNotSupported), none)

def openTransaction (calls : List I2cStep) : Option (List UInt8) :=
  calls.foldl (fun o c => match c with
    | .start => some []
    | .write b => o.map (· ++ [b])
    | .stop => none) none

theorem openTransaction_append_singleton (calls : List I2cStep) (c : I2cStep) :
    openTransaction (calls ++ [c]) = match c with
      | .start => some []
      | .write b => (openTransaction calls).map (· ++ [b])
      | .stop => none := by
  simp only [openTransaction, List.foldl_append, List.foldl_cons, List.foldl_nil]

theorem frameStep_take (c : I2cStep) (o : Option (List UInt8)) :
    (frameStep c (o.map (List.take maxFrame))).2 =
      (match c with
        | .start => some []
        | .write b => o.map (· ++ [b])
        | .stop => none : Option (List UInt8)).map (List.take maxFrame) := by
  cases c with
  | start => rfl
  | stop => cases o with
    | none => rfl
    | some ws => cases h : ws.take maxFrame <;> simp [frameStep, h]; split <;> rfl
  | write b => cases o with
    | none => rfl
    | some ws =>
      simp only [Option.map_some, frameStep, List.length_take]
      by_cases hws : ws.length < maxFrame
      · have hle : (ws ++ [b]).length ≤ maxFrame := by simp; omega
        rw [if_pos (by omega), List.take_of_length_le hws.le, List.take_of_length_le hle]
      · rw [if_neg (by omega), List.take_append_of_le_length (by omega)]

theorem and_one_eq_zero_iff (a : UInt8) : a &&& 1 = 0 ↔ a % 2 = 0 := by
  simp only [← UInt8.toNat_inj, UInt8.toNat_and, UInt8.toNat_mod]
  simp [Nat.and_one_is_mod]

theorem shiftRight_one (a : UInt8) : a >>> 1 = a / 2 := by
  simp only [← UInt8.toNat_inj, UInt8.toNat_shiftRight, UInt8.toNat_div]
  simp [Nat.shiftRight_eq_div_pow]

def IsRefusal (r : Except BufferedError Unit) : Prop :=
  r = .error .notStarted ∨ r = .error .frameTooLong

theorem not_isRefusal_perform_send {β : Type} [Bus β] (a : UInt8) (payload : List UInt8)
    (bus : β) : ¬IsRefusal ((FrameAnswer.send a payload).perform bus).1 := by
  rcases hw : (Bus.write a payload).run bus with ⟨⟨⟩, bus'⟩ | ⟨k, bus'⟩ <;>
    simp [FrameAnswer.perform, hw, IsRefusal]

namespace BufferedI2c

variable {β : Type} [Bus β]

def view (t : BufferedI2c β) : Option (List UInt8) := if t.isOpen then some t.frame else none

def runCalls (calls : List I2cStep) (t : BufferedI2c β) : BufferedI2c β :=
  calls.foldl (fun t c => (c.run t).2) t

theorem run_start (t : BufferedI2c β) :
    I2cStep.start.run t = (.ok (), { t with frame := [], isOpen := true }) := rfl

theorem run_write_closed (t : BufferedI2c β) (b : UInt8) (h : t.isOpen = false) :
    (I2cStep.write b).run t = (.error .notStarted, t) := by
  simp [I2cStep.run, Transport.write, write, h]

theorem run_write_room (t : BufferedI2c β) (b : UInt8) (h : t.isOpen = true)
    (hl : t.frame.length < maxFrame) :
    (I2cStep.write b).run t = (.ok (), { t with frame := t.frame ++ [b] }) := by
  simp [I2cStep.run, Transport.write, write, h, hl]

theorem run_write_full (t : BufferedI2c β) (b : UInt8) (h : t.isOpen = true)
    (hl : ¬t.frame.length < maxFrame) :
    (I2cStep.write b).run t = (.error .frameTooLong, t) := by
  simp [I2cStep.run, Transport.write, write, h, hl]

theorem run_stop_closed (t : BufferedI2c β) (h : t.isOpen = false) :
    I2cStep.stop.run t = (.error .notStarted, t) := by
  obtain ⟨bus, frame, isOpen⟩ := t
  subst h
  simp [I2cStep.run, Transport.stop, stop]

theorem run_stop_empty (t : BufferedI2c β) (h : t.isOpen = true) (hf : t.frame = []) :
    I2cStep.stop.run t = (.ok (), { t with isOpen := false }) := by
  simp [I2cStep.run, Transport.stop, stop, h, hf]

theorem run_stop_read (t : BufferedI2c β) {a : UInt8} {payload : List UInt8}
    (h : t.isOpen = true) (hf : t.frame = a :: payload) (ha : a &&& 1 ≠ 0) :
    I2cStep.stop.run t = (.error .readNotSupported, { t with isOpen := false }) := by
  simp [I2cStep.run, Transport.stop, stop, h, hf, ha]

theorem run_stop_send (t : BufferedI2c β) {a : UInt8} {payload : List UInt8}
    (h : t.isOpen = true) (hf : t.frame = a :: payload) (ha : a &&& 1 = 0) :
    (I2cStep.stop.run t).1 = ((FrameAnswer.send (a >>> 1) payload).perform t.bus).1 ∧
      (I2cStep.stop.run t).2 =
        { t with bus := ((FrameAnswer.send (a >>> 1) payload).perform t.bus).2, isOpen := false } := by
  obtain ⟨bus, frame, isOpen⟩ := t
  subst h hf
  rcases hw : (Bus.write (a >>> 1) payload).run bus with ⟨⟨⟩, bus'⟩ | ⟨k, bus'⟩ <;>
    simp [I2cStep.run, Transport.stop, stop, ha, hw, FrameAnswer.perform]

/-- One call on the adapter is one step of the model: the same reply, the same bus, and the view
moved as the model moves it; a refused call leaves the adapter as it was. -/
theorem run_refines (c : I2cStep) (t : BufferedI2c β) :
    (c.run t).1 = ((frameStep c t.view).1.perform t.bus).1 ∧
      (c.run t).2.bus = ((frameStep c t.view).1.perform t.bus).2 ∧
      (c.run t).2.view = (frameStep c t.view).2 ∧
      (IsRefusal (c.run t).1 → (c.run t).2 = t) := by
  cases c with
  | start => simp [run_start, frameStep, view, FrameAnswer.perform, IsRefusal]
  | write b =>
    cases ho : t.isOpen
    · simp [run_write_closed t b ho, view, ho, frameStep, FrameAnswer.perform]
    · by_cases hl : t.frame.length < maxFrame
      · simp [run_write_room t b ho hl, view, ho, frameStep, hl, FrameAnswer.perform, IsRefusal]
      · simp [run_write_full t b ho hl, view, ho, frameStep, hl, FrameAnswer.perform]
  | stop =>
    cases ho : t.isOpen
    · simp [run_stop_closed t ho, view, ho, frameStep, FrameAnswer.perform]
    · cases hf : t.frame with
      | nil => simp [run_stop_empty t ho hf, view, ho, hf, frameStep, FrameAnswer.perform, IsRefusal]
      | cons a payload =>
        by_cases ha : a &&& 1 = 0
        · obtain ⟨hr, ht⟩ := run_stop_send t ho hf ha
          have hsend : frameStep .stop t.view = (.send (a / 2) payload, none) := by
            simp [view, ho, hf, frameStep, (and_one_eq_zero_iff a).1 ha]
          rw [hsend, hr, ht, ← shiftRight_one]
          refine ⟨rfl, rfl, rfl, fun h => absurd h (not_isRefusal_perform_send _ _ _)⟩
        · have hodd : ¬a % 2 = 0 := fun h => ha ((and_one_eq_zero_iff a).2 h)
          simp [run_stop_read t ho hf ha, view, ho, hf, frameStep, hodd, FrameAnswer.perform,
            IsRefusal]

/-- After any history of calls from a fresh adapter, the view holds the first `maxFrame` bytes
written since the last start, if no stop came after it. -/
theorem view_runCalls (calls : List I2cStep) (bus : β) :
    (runCalls calls { bus := bus }).view = (openTransaction calls).map (List.take maxFrame) := by
  induction calls using List.reverseRecOn with
  | nil => rfl
  | append_singleton calls c ih =>
    rw [runCalls, List.foldl_append, List.foldl_cons, List.foldl_nil, ← runCalls,
      (run_refines c _).2.2.1, ih, frameStep_take, openTransaction_append_singleton]

end BufferedI2c

/-- A buffered transport over any bus, after any history of start, write and stop calls from a
fresh adapter, holds the first eight bytes written since the last start while no stop came after
it, and nothing otherwise. Its next call replies, acts on the bus and changes that state exactly
as the framed-transaction model says: a write or stop with nothing open is refused, a ninth byte
is refused and dropped with the frame kept open, a start empties the frame, and a stop closes it
and makes one bus write of the collected bytes to half the even first byte, replying with that
write's failure, or replies by itself without touching the bus. A refused call changes nothing. -/
theorem buffered_transport_refines_framing {β : Type} [Bus β] (calls : List I2cStep)
    (c : I2cStep) (bus : β) :
    let t := BufferedI2c.runCalls calls { bus := bus }
    t.view = (openTransaction calls).map (List.take maxFrame) ∧
      (c.run t).1 = ((frameStep c t.view).1.perform t.bus).1 ∧
      (c.run t).2.bus = ((frameStep c t.view).1.perform t.bus).2 ∧
      (c.run t).2.view = (frameStep c t.view).2 ∧
      (IsRefusal (c.run t).1 → (c.run t).2 = t) :=
  ⟨BufferedI2c.view_runCalls calls bus, BufferedI2c.run_refines c _⟩

end PinballAudio.I2c
