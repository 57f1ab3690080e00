import Mathlib
import PinballAudio.Dac.Mcp4725
import PinballAudio.Proofs.I2c.Framing

/-!
# Every DAC sample releases the bus

A sample is written as one framed transaction: a start, the address byte, the write command,
the sample and the low nibble, then a stop. The frame stops at the first call that fails, but
the stop is made whatever happened.

To see the calls the driver makes on an arbitrary transport, the transport is wrapped in
`Logged`, which performs each call on it and records the call with whether it succeeded; the
wrapped transport ends as it would have without the wrapper. `FramedWrite` states the shape of
the calls of one sample.

Main statement: `dac_sample_always_releases_bus`. For every transport, address and sample the
calls are one start, the frame's bytes in order up to and including the first failed write (none
if the start failed), and one stop; the sample succeeds exactly when no call failed. Over any
sequence of samples there is one stop per sample. Over a buffered transport on any bus, each
sample is exactly one bus write of the command, the sample and the low nibble to the address
modulo 128, and the sample stalls exactly when that bus write fails.
-/

namespace PinballAudio.I2c

open Bench

/-- A transport whose calls are recorded, each with whether it succeeded. -/
structure Logged (σ : Type) where
  inner : σ
  calls : List (I2cStep × Bool)

namespace Logged

variable {σ ε : Type}

def record (c : I2cStep) (x : EStateM ε σ Unit) : EStateM ε (Logged σ) Unit := fun l =>
  match x.run l.inner with
  | .ok () s => .ok () ⟨s, l.calls ++ [(c, true)]⟩
  | .error e s => .error e ⟨s, l.calls ++ [(c, false)]⟩

instance [Transport σ ε] : Transport (Logged σ) ε where
  start := record .start Transport.start
  write b := record (.write b) (Transport.write b)
  stop := record .stop Transport.stop

theorem runStep_record (l : Logged σ) {c : I2cStep} {x : EStateM ε σ Unit} {r : Except ε Unit}
    {s : σ} (h : runStep x l.inner = (r, s)) :
    runStep (record c x) l = (r, ⟨s, l.calls ++ [(c, r.isOk)]⟩) := by
  unfold record runStep at *
  simp only [EStateM.run] at *
  rcases hx : x l.inner with ⟨⟨⟩, s'⟩ | ⟨e, s'⟩ <;> simp only [hx, Prod.mk.injEq] at h <;>
    obtain ⟨rfl, rfl⟩ := h <;> rfl

end Logged

/-- Writes of `bytes` in order, each recorded with whether it succeeded, up to and including the
first that failed. -/
def WritesUntilFailure : List UInt8 → List (I2cStep × Bool) → Prop
  | [], mid => mid = []
  | b :: bs, mid => mid = [(.write b, false)] ∨
      ∃ rest, mid = (.write b, true) :: rest ∧ WritesUntilFailure bs rest

/-- The calls of one framed write of `bytes`: a start, then, if it succeeded, the writes of
`bytes` up to and including the first that failed, then one stop. -/
def FramedWrite (bytes : List UInt8) (log : List (I2cStep × Bool)) : Prop :=
  ∃ started mid stopped, log = (.start, started) :: mid ++ [(.stop, stopped)] ∧
    if started then WritesUntilFailure bytes mid else mid = []

def I2cStep.isStop : I2cStep → Bool
  | .stop => true
  | .start | .write _ => false

theorem countP_isStop_of_writes {bytes : List UInt8} {mid : List (I2cStep × Bool)}
    (h : WritesUntilFailure bytes mid) : mid.countP (fun e => I2cStep.isStop e.1) = 0 := by
  induction bytes generalizing mid with
  | nil =>
    rw [show mid = [] from h]
    rfl
  | cons b bs ih =>
    rcases h with rfl | ⟨rest, rfl, hrest⟩
    · rfl
    · rw [List.countP_cons_of_neg (by simp [I2cStep.isStop])]
      exact ih hrest

theorem FramedWrite.countP_isStop {bytes : List UInt8} {log : List (I2cStep × Bool)}
    (h : FramedWrite bytes log) : log.countP (fun e => I2cStep.isStop e.1) = 1 := by
  obtain ⟨started, mid, stopped, rfl, hmid⟩ := h
  have hzero : mid.countP (fun e => I2cStep.isStop e.1) = 0 := by
    cases started
    · rw [show mid = [] from hmid]
      rfl
    · exact countP_isStop_of_writes hmid
  rw [List.countP_append, List.countP_cons_of_neg (by simp [I2cStep.isStop]), hzero,
    List.countP_singleton]
  rfl

theorem perform_send {β : Type} [Bus β] (a : UInt8) (payload : List UInt8) (bus : β) :
    (FrameAnswer.send a payload).perform bus =
      ((runStep (Bus.write a payload) bus).1.mapError .bus, (runStep (Bus.write a payload) bus).2) := by
  unfold FrameAnswer.perform runStep
  rcases hw : (Bus.write a payload).run bus with ⟨⟨⟩, bus'⟩ | ⟨k, bus'⟩ <;>
    simp [hw, Except.mapError]

/-- Bus writes one after another, each on the bus the previous one left; their outcomes in
order. -/
def Bus.writeEach {β : Type} [Bus β] : List (UInt8 × List UInt8) → β → List (Except ErrorKind Unit) × β
  | [], bus => ([], bus)
  | (a, payload) :: rest, bus =>
    let (r, bus') := runStep (Bus.write a payload) bus
    let (rs, bus'') := writeEach rest bus'
    (r :: rs, bus'')

namespace BufferedI2c

variable {β : Type} [Bus β]

theorem runStep_forM_write_room (bytes : List UInt8) (t : BufferedI2c β) (h : t.isOpen = true)
    (hl : t.frame.length + bytes.length ≤ maxFrame) :
    runStep (bytes.forM Transport.write : EStateM BufferedError (BufferedI2c β) Unit) t =
      (.ok (), { t with frame := t.frame ++ bytes }) := by
  induction bytes generalizing t with
  | nil => simp
  | cons b bs ih =>
    have hw : runStep (Transport.write b : EStateM BufferedError (BufferedI2c β) Unit) t =
        (.ok (), { t with frame := t.frame ++ [b] }) :=
      run_write_room t b h (by simp at hl; omega)
    rw [List.forM, runStep_bind_of_ok hw,
      ih { t with frame := t.frame ++ [b] } h (by simp at hl ⊢; omega)]
    simp

end BufferedI2c

end PinballAudio.I2c

namespace PinballAudio.Dac

open I2c Bench

theorem writeAddress_and_one (a : UInt8) : writeAddress a &&& 1 = 0 := by
  unfold writeAddress
  rw [UInt8.and_assoc, show (0xFE : UInt8) &&& 1 = 0 by decide, UInt8.and_zero]

theorem shiftLeft_one_and_mask : ∀ a : UInt8, (a <<< (1 : UInt8)) &&& (0xFE : UInt8) = a <<< 1 := by
  decide +kernel

theorem writeAddress_shiftRight (a : UInt8) : writeAddress a >>> 1 = a % 128 := by
  unfold writeAddress
  rw [shiftLeft_one_and_mask]
  simp only [← UInt8.toNat_inj, UInt8.toNat_shiftRight, UInt8.toNat_shiftLeft, UInt8.toNat_mod]
  simp [Nat.shiftRight_eq_div_pow, Nat.shiftLeft_eq]
  omega

namespace Mcp4725

section Driver

variable {σ ε : Type} [Transport σ ε]

theorem writeSample_eq (d : Mcp4725 σ) (v : UInt8) :
    d.writeSample v =
      (if (runStep (d.sendFrame v) d.link).1.isOk &&
          (runStep (Transport.stop : EStateM ε σ Unit) (runStep (d.sendFrame v) d.link).2).1.isOk
        then .ok () else .error .transportStall,
        { d with link :=
          (runStep (Transport.stop : EStateM ε σ Unit) (runStep (d.sendFrame v) d.link).2).2 }) := by
  unfold writeSample
  rcases runStep (d.sendFrame v) d.link with ⟨r₁, s₁⟩
  dsimp only
  rcases runStep (Transport.stop : EStateM ε σ Unit) s₁ with ⟨r₂, s₂⟩
  cases r₁ <;> cases r₂ <;> rfl

def playAll : List UInt8 → Mcp4725 σ → List (Except DacError Unit) × Mcp4725 σ
  | [], d => ([], d)
  | v :: vs, d =>
    let (r, d') := d.writeSample v
    let (rs, d'') := playAll vs d'
    (r :: rs, d'')

end Driver

section Recorded

variable {σ ε : Type} [Transport σ ε]

def unlogged (d : Mcp4725 (Logged σ)) : Mcp4725 σ := ⟨d.link.inner, d.addressByte⟩

@[simp] theorem unlogged_link (d : Mcp4725 (Logged σ)) : (unlogged d).link = d.link.inner := rfl

theorem Logged.runStep_start (l : Logged σ) {r : Except ε Unit} {s : σ}
    (h : runStep (Transport.start : EStateM ε σ Unit) l.inner = (r, s)) :
    runStep (Transport.start : EStateM ε (Logged σ) Unit) l =
      (r, ⟨s, l.calls ++ [(.start, r.isOk)]⟩) :=
  Logged.runStep_record l h

theorem Logged.runStep_write (l : Logged σ) {b : UInt8} {r : Except ε Unit} {s : σ}
    (h : runStep (Transport.write b : EStateM ε σ Unit) l.inner = (r, s)) :
    runStep (Transport.write b : EStateM ε (Logged σ) Unit) l =
      (r, ⟨s, l.calls ++ [(.write b, r.isOk)]⟩) :=
  Logged.runStep_record l h

theorem Logged.runStep_stop (l : Logged σ) {r : Except ε Unit} {s : σ}
    (h : runStep (Transport.stop : EStateM ε σ Unit) l.inner = (r, s)) :
    runStep (Transport.stop : EStateM ε (Logged σ) Unit) l =
      (r, ⟨s, l.calls ++ [(.stop, r.isOk)]⟩) :=
  Logged.runStep_record l h

theorem runStep_forM_write_logged (bytes : List UInt8) (l : Logged σ) {r : Except ε Unit} {s : σ}
    (h : runStep (bytes.forM Transport.write : EStateM ε σ Unit) l.inner = (r, s)) :
    ∃ mid, WritesUntilFailure bytes mid ∧ r.isOk = mid.all (·.2) ∧
      runStep (bytes.forM Transport.write : EStateM ε (Logged σ) Unit) l = (r, ⟨s, l.calls ++ mid⟩) := by
  induction bytes generalizing l r s with
  | nil =>
    obtain ⟨rfl, rfl⟩ := Prod.mk.inj h.symm
    exact ⟨[], rfl, rfl, by simp [List.forM]⟩
  | cons b bs ih =>
    rw [List.forM] at h ⊢
    rcases hw : runStep (Transport.write b : EStateM ε σ Unit) l.inner with ⟨_ | ⟨⟩, s₁⟩
    · rw [runStep_bind_of_error hw] at h
      obtain ⟨rfl, rfl⟩ := Prod.mk.inj h.symm
      have hl := Logged.runStep_write l hw
      exact ⟨[(.write b, false)], .inl rfl, rfl, by rw [runStep_bind_of_error hl]; rfl⟩
    · rw [runStep_bind_of_ok hw] at h
      have hl := Logged.runStep_write l hw
      obtain ⟨mid, hmid, hok, hrun⟩ := ih ⟨s₁, l.calls ++ [(.write b, true)]⟩ h
      refine ⟨(.write b, true) :: mid, .inr ⟨mid, rfl, hmid⟩, by simpa using hok, ?_⟩
      rw [runStep_bind_of_ok hl]
      exact hrun.trans (by simp)

theorem runStep_sendFrame_logged (d : Mcp4725 (Logged σ)) (v : UInt8) {r : Except ε Unit}
    {s : σ} (h : runStep ((unlogged d).sendFrame v) d.link.inner = (r, s)) :
    ∃ started mid, (if started then WritesUntilFailure (d.frameBytes v) mid else mid = []) ∧
      r.isOk = (started && mid.all (·.2)) ∧
      runStep (d.sendFrame v) d.link = (r, ⟨s, d.link.calls ++ (.start, started) :: mid⟩) := by
  unfold sendFrame at h ⊢
  rcases hs : runStep (Transport.start : EStateM ε σ Unit) d.link.inner with ⟨_ | ⟨⟩, s₁⟩
  · have hl := Logged.runStep_start d.link hs
    rw [runStep_bind_of_error hs] at h
    obtain ⟨rfl, rfl⟩ := Prod.mk.inj h.symm
    exact ⟨false, [], rfl, rfl, by rw [runStep_bind_of_error hl]; rfl⟩
  · have hl := Logged.runStep_start d.link hs
    rw [runStep_bind_of_ok hs] at h
    obtain ⟨mid, hmid, hok, hrun⟩ := runStep_forM_write_logged (d.frameBytes v)
      ⟨s₁, d.link.calls ++ [(.start, true)]⟩ h
    refine ⟨true, mid, hmid, by simpa using hok, ?_⟩
    rw [runStep_bind_of_ok hl]
    exact hrun.trans (by simp)

theorem writeSample_logged (d : Mcp4725 (Logged σ)) (v : UInt8) :
    ∃ log, FramedWrite (d.frameBytes v) log ∧
      (d.writeSample v).1 = (if log.all (·.2) then .ok () else .error .transportStall) ∧
      (d.writeSample v).1 = ((unlogged d).writeSample v).1 ∧
      (d.writeSample v).2 =
        ⟨⟨((unlogged d).writeSample v).2.link, d.link.calls ++ log⟩, d.addressByte⟩ := by
  rcases hf : runStep ((unlogged d).sendFrame v) d.link.inner with ⟨r₁, s₁⟩
  obtain ⟨started, mid, hmid, hok, hrun⟩ := runStep_sendFrame_logged d v hf
  rcases hs : runStep (Transport.stop : EStateM ε σ Unit) s₁ with ⟨r₂, s₂⟩
  have hstop := Logged.runStep_stop ⟨s₁, d.link.calls ++ (.start, started) :: mid⟩ hs
  have hrec : d.writeSample v = (if r₁.isOk && r₂.isOk then .ok () else .error .transportStall,
      ⟨⟨s₂, d.link.calls ++ (.start, started) :: mid ++ [(.stop, r₂.isOk)]⟩, d.addressByte⟩) := by
    rw [writeSample_eq, hrun]
    simp only [hstop, List.append_assoc, List.cons_append]
  have hplain : (unlogged d).writeSample v =
      (if r₁.isOk && r₂.isOk then .ok () else .error .transportStall, ⟨s₂, d.addressByte⟩) := by
    rw [writeSample_eq, unlogged_link, hf]
    simp only [hs]
    rfl
  refine ⟨(.start, started) :: mid ++ [(.stop, r₂.isOk)], ⟨started, mid, r₂.isOk, rfl, hmid⟩,
    ?_, by rw [hrec, hplain], by rw [hrec, hplain]; simp⟩
  rw [hrec, hok]
  simp only [List.all_cons, List.all_append, List.all_nil, Bool.and_true, Bool.and_assoc]

/-- Over any sequence of samples the recorder sees one stop per sample. -/
theorem playAll_logged_stops (vs : List UInt8) (d : Mcp4725 (Logged σ)) :
    (playAll vs d).2.link.calls.countP (fun e => I2cStep.isStop e.1) =
      d.link.calls.countP (fun e => I2cStep.isStop e.1) + vs.length := by
  induction vs generalizing d with
  | nil => rfl
  | cons v vs ih =>
    obtain ⟨log, hlog, -, -, hd⟩ := writeSample_logged d v
    have hcalls : (d.writeSample v).2.link.calls = d.link.calls ++ log := by rw [hd]
    simp only [playAll]
    rw [ih, hcalls, List.countP_append, hlog.countP_isStop, List.length_cons]
    omega

end Recorded

section Buffered

variable {β : Type} [Bus β]

/-- Over a buffered transport, from any state, a sample is one bus write of the command, the
sample and the low nibble to the 7-bit address; it stalls exactly when that write fails. -/
theorem writeSample_buffered (t : BufferedI2c β) (a v : UInt8) :
    (withAddress t a).writeSample v =
      ((runStep (Bus.write (a % 128) [0x40, v, 0x00]) t.bus).1.mapError fun _ => .transportStall,
        withAddress ⟨(runStep (Bus.write (a % 128) [0x40, v, 0x00]) t.bus).2,
          [writeAddress a, 0x40, v, 0x00], false⟩ a) := by
  have hframe : runStep ((withAddress t a).sendFrame v) t =
      (.ok (), { t with frame := [writeAddress a, 0x40, v, 0x00], isOpen := true }) := by
    have hstart : runStep (Transport.start : EStateM BufferedError (BufferedI2c β) Unit) t =
        (.ok (), { t with frame := [], isOpen := true }) := BufferedI2c.run_start t
    unfold sendFrame
    rw [runStep_bind_of_ok hstart]
    exact BufferedI2c.runStep_forM_write_room _ _ rfl (by simp [frameBytes, maxFrame])
  obtain ⟨hr, ht⟩ := BufferedI2c.run_stop_send
    { t with frame := [writeAddress a, 0x40, v, 0x00], isOpen := true } rfl rfl
    (writeAddress_and_one a)
  rw [perform_send, writeAddress_shiftRight] at hr ht
  rw [writeSample_eq, show (withAddress t a).link = t from rfl, hframe]
  change (I2cStep.stop.run _).1 = _ at hr
  change (I2cStep.stop.run _).2 = _ at ht
  simp only [I2cStep.run] at hr ht
  rw [hr, ht]
  rcases runStep (Bus.write (a % 128) [0x40, v, 0x00]) t.bus with ⟨_ | ⟨⟩, bus⟩ <;> rfl

theorem playAll_buffered (vs : List UInt8) (t : BufferedI2c β) (a : UInt8) :
    (playAll vs (withAddress t a)).1 =
        (Bus.writeEach (vs.map fun v => (a % 128, [0x40, v, 0x00])) t.bus).1.map
          (Except.mapError fun _ => .transportStall) ∧
      (playAll vs (withAddress t a)).2.link.bus =
        (Bus.writeEach (vs.map fun v => (a % 128, [0x40, v, 0x00])) t.bus).2 := by
  induction vs generalizing t with
  | nil => exact ⟨rfl, rfl⟩
  | cons v vs ih =>
    obtain ⟨ih₁, ih₂⟩ := ih ⟨(runStep (Bus.write (a % 128) [0x40, v, 0x00]) t.bus).2,
      [writeAddress a, 0x40, v, 0x00], false⟩
    simp only [playAll, writeSample_buffered, List.map_cons, Bus.writeEach]
    exact ⟨by rw [ih₁], ih₂⟩

end Buffered

end Mcp4725

/-- The MCP4725 driver releases the bus after every sample. On any transport, whose calls may
each fail, a sample at any address makes one start, then, if it succeeded, writes the address
byte, the write command, the sample and the low nibble in order up to and including the first
write that failed, then one stop, the transport ending as it would without the recorder; the
sample succeeds exactly when no call failed and stalls otherwise. Over any sequence of samples
there is one stop per sample. Over a buffered transport on any bus, each sample of a sequence
is one bus write of the command, the sample and the low nibble to the address modulo 128, and
stalls exactly when that write fails. -/
theorem dac_sample_always_releases_bus :
    (∀ (σ ε : Type) [Transport σ ε] (link : σ) (calls : List (I2cStep × Bool)) (a v : UInt8),
      let d := Mcp4725.withAddress (⟨link, calls⟩ : Logged σ) a
      ∃ log, FramedWrite [writeAddress a, 0x40, v, 0x00] log ∧
        (d.writeSample v).2.link.calls = calls ++ log ∧
        (d.writeSample v).1 = (if log.all (·.2) then .ok () else .error .transportStall) ∧
        (d.writeSample v).1 = ((Mcp4725.withAddress link a).writeSample v).1 ∧
        (d.writeSample v).2.link.inner = ((Mcp4725.withAddress link a).writeSample v).2.link) ∧
    (∀ (σ ε : Type) [Transport σ ε] (link : σ) (a : UInt8) (vs : List UInt8),
      (Mcp4725.playAll vs (Mcp4725.withAddress (⟨link, []⟩ : Logged σ) a)).2.link.calls.countP
        (fun e => I2cStep.isStop e.1) = vs.length) ∧
    (∀ (β : Type) [Bus β] (t : BufferedI2c β) (a : UInt8) (vs : List UInt8),
      (Mcp4725.playAll vs (Mcp4725.withAddress t a)).1 =
          (Bus.writeEach (vs.map fun v => (a % 128, [0x40, v, 0x00])) t.bus).1.map
            (Except.mapError fun _ => .transportStall) ∧
        (Mcp4725.playAll vs (Mcp4725.withAddress t a)).2.link.bus =
          (Bus.writeEach (vs.map fun v => (a % 128, [0x40, v, 0x00])) t.bus).2) := by
  refine ⟨fun σ ε _ link calls a v => ?_, fun σ ε _ link a vs => ?_,
    fun β _ t a vs => Mcp4725.playAll_buffered vs t a⟩
  · obtain ⟨log, hlog, hres, heq, hd⟩ := Mcp4725.writeSample_logged (Mcp4725.withAddress (⟨link, calls⟩ : Logged σ) a) v
    refine ⟨log, hlog, ?_, hres, heq, ?_⟩
    · rw [hd]
      rfl
    · rw [hd]
      rfl
  · rw [Mcp4725.playAll_logged_stops]
    exact Nat.zero_add _

end PinballAudio.Dac
