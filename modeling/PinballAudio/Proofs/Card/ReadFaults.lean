import PinballAudio.Proofs.Card.Faults

/-!
# A transfer fault in a windowed read

A read runs with the buffer as part of its state, and only `receiveInto` writes it, one window
position after each of its calls. So the buffer along the read fills in call order: after `j`
calls a position holds its final value when the call that receives it is among the first `j`,
and its old value otherwise (`ReceivedInOrder`). A read cut short by a fault at call `k` stops in
the state after call `k - 1`, so it leaves exactly the window bytes received before the fault.
-/

namespace PinballAudio

open Bench Bench.ScriptedLink HoldsLink

namespace Bench.ScriptedLink

/-- The buffer `buf` after `m` bytes of `script`, read from `start` on, are stored at positions
`pos` on; a position past the buffer's end is dropped. -/
def received (script : Array UInt8) (start : Nat) (buf : Array UInt8) (pos : Nat) :
    Nat → Array UInt8
  | 0 => buf
  | m + 1 =>
    received script (start + 1) (buf.setIfInBounds pos (script[start]?.getD 0xFF)) (pos + 1) m

theorem getElem?_received_outside (script : Array UInt8) (start : Nat) (buf : Array UInt8)
    {pos m i : Nat} (h : i < pos ∨ pos + m ≤ i) :
    (received script start buf pos m)[i]? = buf[i]? := by
  induction m generalizing start buf pos with
  | zero => rfl
  | succ m ih =>
    rw [received, ih _ _ (by omega), Array.getElem?_setIfInBounds_ne (by omega)]

theorem getElem?_received_of_le (script : Array UInt8) (start : Nat) (buf : Array UInt8)
    {pos m m' : Nat} (hm : m ≤ m') (i : Nat) :
    (received script start buf pos m)[i]? =
      if i < pos + m then (received script start buf pos m')[i]? else buf[i]? := by
  induction m generalizing start buf pos m' with
  | zero =>
    by_cases hi : i < pos + 0
    · rw [if_pos hi, @getElem?_received_outside script start buf pos m' i (Or.inl (by omega))]
      rfl
    · rw [if_neg hi]
      rfl
  | succ m ih =>
    obtain ⟨m', rfl⟩ : ∃ m'', m' = m'' + 1 := ⟨m' - 1, by omega⟩
    rw [received, received, ih _ _ (show m ≤ m' by omega)]
    by_cases hi : i < pos + (m + 1)
    · rw [if_pos (by omega), if_pos hi]
    · rw [if_neg (by omega), if_neg hi, Array.getElem?_setIfInBounds_ne (by omega)]

theorem getElem?_received_min (script : Array UInt8) (start : Nat) (buf : Array UInt8)
    (pos len B j i : Nat) :
    (received script start buf pos (min (j - B - pos) len))[i]? =
      if B + i < j then (received script start buf pos len)[i]? else buf[i]? := by
  rw [getElem?_received_of_le script start buf (Nat.min_le_right _ _) i]
  by_cases hw : pos ≤ i ∧ i < pos + len
  · by_cases hi : B + i < j
    · rw [if_pos (by omega), if_pos hi]
    · rw [if_neg (by omega), if_neg hi]
  · have hout := @getElem?_received_outside script start buf pos len i (by omega)
    split <;> split <;> simp only [hout]

end Bench.ScriptedLink

@[simp] theorem snd_joinTrace {β : Type} (tr₁ tr₂ : Nat → ScriptedLink × β) (m j : Nat) :
    (joinTrace tr₁ tr₂ m j).2 = if j < m then (tr₁ j).2 else (tr₂ (j - m)).2 := by
  unfold joinTrace
  split <;> rfl

theorem snd_joinTrace_keep {β : Type} {tr₁ tr₂ : Nat → ScriptedLink × β} {buf : β} (m j : Nat)
    (h₁ : ∀ j, (tr₁ j).2 = buf) (h₂ : ∀ j, (tr₂ j).2 = buf) :
    (joinTrace tr₁ tr₂ m j).2 = buf := by
  rw [snd_joinTrace]
  split
  · exact h₁ j
  · exact h₂ _

section Branch

variable {σ ε α : Type} [HoldsLink σ] {e : ε} {t : σ} {r : Except ε α} {bytes : List UInt8}
  {trace : Nat → σ} {c : Prop} [Decidable c] {x y : EStateM ε σ α}

theorem RunsAs.ite_pos (hc : c) (h : RunsAs e x t r bytes trace) :
    RunsAs e (if c then x else y) t r bytes trace := by
  rw [if_pos hc]
  exact h

theorem RunsAs.ite_neg (hc : ¬c) (h : RunsAs e y t r bytes trace) :
    RunsAs e (if c then x else y) t r bytes trace := by
  rw [if_neg hc]
  exact h

end Branch

/-- The buffer along a read of `calls` transfer calls from `buf` fills in call order: after `j`
calls a position holds its final value when the call that receives it is among the first `j`,
and its value in `buf` otherwise. Position `i` of the block is received by the call that leaves
`Board.blockSize + Board.crcBytes - 1 - i` calls after it: the rest of the block and the
checksum. -/
def ReceivedInOrder (trace : Nat → ScriptedLink × Array UInt8) (calls : Nat)
    (buf : Array UInt8) : Prop :=
  ∀ j ≤ calls, ∀ i, (trace j).2[i]? =
    if calls + i < j + (Board.blockSize + Board.crcBytes) then (trace calls).2[i]? else buf[i]?

namespace ReceivedInOrder

variable {trace : Nat → ScriptedLink × Array UInt8} {calls : Nat} {buf : Array UInt8}

theorem of_keeps (h : ∀ j ≤ calls, (trace j).2 = buf) : ReceivedInOrder trace calls buf := by
  intro j hj i
  rw [h j hj, h calls le_rfl]
  split <;> rfl

theorem of_received (B : Nat) (script : Array UInt8) (start o len : Nat)
    (hcalls : calls = B + (Board.blockSize + Board.crcBytes))
    (hlen : o + len ≤ Board.blockSize + Board.crcBytes)
    (h : ∀ j ≤ calls, (trace j).2 = received script start buf o (min (j - B - o) len)) :
    ReceivedInOrder trace calls buf := by
  intro j hj i
  rw [h j hj, h calls le_rfl, Nat.min_eq_right (show len ≤ calls - B - o by omega),
    getElem?_received_min]
  by_cases hi : B + i < j
  · rw [if_pos hi, if_pos (by omega)]
  · rw [if_neg hi, if_neg (by omega)]

end ReceivedInOrder

namespace SdCard

open Card SpiLink

section Read

variable {α : Type} {l : ScriptedLink}

theorem run_onLink_scripted {x : EStateM BusFault ScriptedLink α} {l' : ScriptedLink}
    {r : Except BusFault α} (buf : Array UInt8) (h : x.run l = resultOf r l') :
    (onLink x).run (l, buf) = resultOf (r.mapError fun _ => IoError.bus) (l', buf) := by
  simp only [onLink, EStateM.run]
  rw [show x l = resultOf r l' from h]
  cases r <;> rfl

theorem run_onLink_scripted_error {x : EStateM BusFault ScriptedLink α} {l' : ScriptedLink} {e : BusFault}
    (buf : Array UInt8) (h : x.run l = .error e l') :
    (onLink x).run (l, buf) = .error IoError.bus (l', buf) := by
  simp only [onLink, EStateM.run]
  rw [show x l = .error e l' from h]

theorem runsAs_onLink {x : EStateM BusFault ScriptedLink α} {r : Except BusFault α}
    {bytes : List UInt8} {trace : Nat → ScriptedLink} (h : RunsAs ({} : BusFault) x l r bytes trace)
    (buf : Array UInt8) :
    RunsAs IoError.bus (onLink x) (l, buf) (r.mapError fun _ => IoError.bus) bytes
      fun j => (trace j, buf) where
  link_trace := h.link_trace
  run := run_onLink_scripted buf h.run
  fault k hk := by
    have hx := h.fault k hk
    simp only [link_scripted, armedAt_scripted, firedAt_scripted] at hx
    change (onLink x).run (l.armed (l.transfers + k), buf) = _
    by_cases hb : bytes.length < k
    · rw [if_pos hb] at hx ⊢
      exact run_onLink_scripted buf hx
    · rw [if_neg hb] at hx ⊢
      exact run_onLink_scripted_error buf hx

theorem Clocked.onLink {x : EStateM BusFault ScriptedLink α} (hx : Clocked ({} : BusFault) x)
    (hs : l.selected = true) (hf : l.failTransferAt = none) (buf : Array UInt8) :
    ∃ (r : Except IoError α) (bytes : List UInt8) (trace : Nat → ScriptedLink),
      RunsAs IoError.bus (onLink x) (l, buf) r bytes fun j => (trace j, buf) := by
  obtain ⟨r, bytes, trace, h⟩ := hx l hs hf
  exact ⟨_, _, _, runsAs_onLink h buf⟩

theorem runsAs_store (t : ScriptedLink × Array UInt8) (pos : Nat) (b : UInt8) :
    RunsAs IoError.bus (modify fun s => (s.1, s.2.setIfInBounds pos b) :
      EStateM IoError (ScriptedLink × Array UInt8) PUnit) t (.ok ()) []
      fun _ => (t.1, t.2.setIfInBounds pos b) where
  link_trace _ _ := by simp
  run := rfl
  fault k hk := by
    rw [List.length_nil, if_pos hk]
    rfl

theorem runsAs_discard (hs : l.selected = true) (hf : l.failTransferAt = none) (n : Nat) :
    ∃ trace, RunsAs ({} : BusFault) (discard n : EStateM BusFault ScriptedLink Unit) l (.ok ())
      (List.replicate n filler) trace := by
  induction n generalizing l with
  | zero => exact ⟨_, RunsAs.pure () l⟩
  | succ n ih =>
    obtain ⟨trace, h⟩ := @ih (l.clocked [filler]) hs hf
    exact ⟨_, (runsAs_transfer hs hf filler).bind_ok h⟩

theorem runsAs_receiveInto (hs : l.selected = true) (hf : l.failTransferAt = none)
    (buf : Array UInt8) (pos n : Nat) :
    ∃ trace, RunsAs IoError.bus (receiveInto pos n :
        EStateM IoError (ScriptedLink × Array UInt8) Unit) (l, buf) (.ok ())
        (List.replicate n filler) trace ∧
      ∀ j ≤ n, (trace j).2 = received l.script l.pos buf pos j := by
  induction n generalizing l buf pos with
  | zero =>
    refine ⟨_, RunsAs.pure () (l, buf), fun j hj => ?_⟩
    rw [Nat.le_zero.mp hj]
    rfl
  | succ n ih =>
    have h₁ := runsAs_onLink (runsAs_transfer hs hf filler) buf
    have h₂ := runsAs_store (l.clocked [filler], buf) pos (l.script[l.pos]?.getD 0xFF)
    obtain ⟨trace, h₃, hbuf⟩ := @ih (l.clocked [filler]) hs hf
      (buf.setIfInBounds pos (l.script[l.pos]?.getD 0xFF)) (pos + 1)
    refine ⟨_, h₁.bind_ok (h₂.bind_ok h₃), fun j hj => ?_⟩
    cases j with
    | zero => rfl
    | succ j =>
      simp only [joinTrace, List.length_singleton, List.length_nil, Nat.not_lt_zero,
        if_false, Nat.sub_zero, show ¬j + 1 < 1 by omega, Nat.add_sub_cancel]
      rw [hbuf j (by omega), received]
      rfl

theorem runsAs_windowTail (hs : l.selected = true) (hf : l.failTransferAt = none)
    (buf : Array UInt8) (o len d : Nat) :
    ∃ trace, RunsAs IoError.bus (do
        onLink (discard o)
        receiveInto o len
        onLink (discard d) : EStateM IoError (ScriptedLink × Array UInt8) Unit) (l, buf) (.ok ())
        (List.replicate o filler ++ (List.replicate len filler ++ List.replicate d filler)) trace ∧
      ∀ j ≤ o + len + d, (trace j).2 = received l.script (l.pos + o) buf o (min (j - o) len) := by
  obtain ⟨tr₁, h₁⟩ := runsAs_discard hs hf o
  have hl₁ := h₁.link_trace _ le_rfl
  rw [link_scripted, link_scripted, List.take_length] at hl₁
  obtain ⟨tr₂, h₂, hbuf⟩ := @runsAs_receiveInto (tr₁ (List.replicate o filler).length)
    (by rw [hl₁, selected_clocked]; exact hs) (by rw [hl₁, failTransferAt_clocked]; exact hf)
    buf o len
  have hl₂ := h₂.link_trace _ le_rfl
  simp only [link_pair, List.take_length, hl₁] at hl₂
  obtain ⟨tr₃, h₃⟩ := @runsAs_discard (tr₂ (List.replicate len filler).length).1
    (by rw [hl₂]; simp [hs]) (by rw [hl₂]; simp [hf]) d
  refine ⟨_, (runsAs_onLink h₁ buf).bind_ok (h₂.bind_ok (runsAs_onLink h₃ _)), fun j hj => ?_⟩
  have hstart : (tr₁ (List.replicate o filler).length).pos = l.pos + o := by
    rw [hl₁]
    simp [clocked]
  have hscript : (tr₁ (List.replicate o filler).length).script = l.script := by
    rw [hl₁]
    rfl
  rw [hstart, hscript] at hbuf
  simp only [joinTrace, List.length_replicate]
  by_cases hj₁ : j < o
  · rw [if_pos hj₁, show j - o = 0 by omega, Nat.zero_min]
    rfl
  · by_cases hj₂ : j - o < len
    · rw [if_neg hj₁, if_pos hj₂, hbuf _ hj₂.le, Nat.min_eq_left hj₂.le]
    · rw [if_neg hj₁, if_neg hj₂, hbuf _ le_rfl, Nat.min_eq_right (by omega)]

/-- A single-block read over a selected link: the command, the token wait and the data part,
each over transfer calls, with the buffer filled in call order. -/
theorem readWindow_runs (hs : l.selected = true) (hf : l.failTransferAt = none)
    (buf : Array UInt8) (address : UInt32) (w : ReadWindow) :
    ∃ r bytes trace, RunsAs IoError.bus (readWindow address w :
        EStateM IoError (ScriptedLink × Array UInt8) Unit) (l, buf) r bytes trace ∧
      ReceivedInOrder trace bytes.length buf := by
  unfold readWindow
  obtain ⟨r₁, b₁, tr₁, h₁⟩ := Clocked.onLink (clocked_command .readSingleBlock address) hs hf buf
  have hl₁ := h₁.link_trace _ le_rfl
  simp only [link_pair, List.take_length] at hl₁
  cases r₁ with
  | error e => exact ⟨_, _, _, h₁.bind_error, .of_keeps fun _ _ => rfl⟩
  | ok v =>
  by_cases hv : v ≠ r1Ready
  · exact ⟨_, _, _, h₁.bind_ok (RunsAs.ite_pos hv (RunsAs.throw _ _).bind_error),
      .of_keeps fun j _ => snd_joinTrace_keep _ j (fun _ => rfl) fun _ => rfl⟩
  obtain ⟨r₂, b₂, tr₂, h₂⟩ := @Clocked.onLink _ (tr₁ b₁.length) _ clocked_awaitToken
    (by rw [hl₁]; simp [hs]) (by rw [hl₁]; simp [hf]) buf
  have hl₂ := h₂.link_trace _ le_rfl
  simp only [link_pair, List.take_length, hl₁, clocked_append] at hl₂
  cases r₂ with
  | error e =>
    exact ⟨_, _, _, h₁.bind_ok (RunsAs.ite_neg hv h₂.bind_error),
      .of_keeps fun j _ => snd_joinTrace_keep _ j (fun _ => rfl) fun _ => rfl⟩
  | ok token =>
  cases token with
  | none =>
    exact ⟨_, _, _, h₁.bind_ok (RunsAs.ite_neg hv (h₂.bind_ok
      (RunsAs.ite_pos rfl (RunsAs.throw _ _).bind_error))), .of_keeps fun j _ =>
      snd_joinTrace_keep _ j (fun _ => rfl) fun _ =>
        snd_joinTrace_keep _ _ (fun _ => rfl) fun _ => rfl⟩
  | some u =>
    obtain ⟨tr₃, h₃, hbuf⟩ := @runsAs_windowTail (tr₂ b₂.length) (by rw [hl₂]; simp [hs])
      (by rw [hl₂]; simp [hf]) buf w.offset w.len (w.trailing + Board.crcBytes)
    have hsize := w.endOffset_add_trailing
    simp only [ReadWindow.endOffset] at hsize
    refine ⟨_, _, _, h₁.bind_ok (RunsAs.ite_neg hv (h₂.bind_ok
      (RunsAs.ite_neg (by simp) h₃))), ReceivedInOrder.of_received (b₁.length + b₂.length)
      l.script (l.pos + (b₁.length + b₂.length) + w.offset) w.offset w.len (by simp; omega)
      (by omega) fun j hj => ?_⟩
    simp only [List.length_append, List.length_replicate] at hj
    simp only [snd_joinTrace]
    by_cases hj₁ : j < b₁.length
    · rw [if_pos hj₁, show j - (b₁.length + b₂.length) - w.offset = 0 by omega, Nat.zero_min]
      rfl
    by_cases hj₂ : j - b₁.length < b₂.length
    · rw [if_neg hj₁, if_pos hj₂, show j - (b₁.length + b₂.length) - w.offset = 0 by omega,
        Nat.zero_min]
      rfl
    rw [if_neg hj₁, if_neg hj₂, hbuf _ (by omega), hl₂]
    simp only [clocked, List.length_append, Nat.sub_sub]

end Read

section Partial

variable {card : SdCard ScriptedLink} {kind : CardKind} {block : UInt32} {offset length : UInt16}
  {buf : Array UInt8} {w : ReadWindow} {address : UInt32}

theorem readPartial_of_window (hstate : card.state = .idle kind)
    (hw : ReadWindow.make offset length buf.size = .ok w)
    (ha : kind.wireAddress block = some address) (hsel : card.link.failSelectAt = none)
    {r : Except IoError Unit} {t : ScriptedLink × Array UInt8}
    (h : (readWindow address w : EStateM IoError (ScriptedLink × Array UInt8) Unit).run
      (card.link.driven true, buf) = resultOf r t) (hsel' : t.1.failSelectAt = none) :
    card.readPartial block offset length buf = ((r, t.2), { card with link := t.1.driven false }) := by
  simp only [readPartial, hw, hstate, ha, run_select_scripted hsel]
  cases r with
  | ok u =>
    rw [show (readWindow address w : EStateM IoError (ScriptedLink × Array UInt8) Unit).run
      (card.link.driven true, buf) = .ok u t from h]
    simp only [run_deselect_scripted hsel']
  | error e =>
    rw [show (readWindow address w : EStateM IoError (ScriptedLink × Array UInt8) Unit).run
      (card.link.driven true, buf) = .error e t from h]
    simp only [run_deselect_scripted hsel']

end Partial

/-- A read of `block` from `card` into `buf` with its `k`-th transfer call from now armed to
fail, against the fault-free read `R`: it is `R` when `R` makes fewer than `k` calls, and
otherwise a bus error at call `k` that keeps the card's state, has logged only the bytes of the
calls before it, and leaves the window bytes received before the fault in the buffer and the old
contents everywhere else. Position `i` is received by the call of `R` that leaves
`Board.blockSize + Board.crcBytes - 1 - i` calls after it. -/
def ReadCutAt (card : SdCard ScriptedLink) (block : UInt32) (offset length : UInt16)
    (buf : Array UInt8) (k : Nat) : Prop :=
  let n := card.link.transfers + k
  let R := card.readPartial block offset length buf
  let F := ({ card with link := card.link.armed n } : SdCard ScriptedLink).readPartial block
    offset length buf
  (R.2.link.transfers < n → F = (R.1, { R.2 with link := R.2.link.armed n })) ∧
  (n ≤ R.2.link.transfers → F.1.1 = .error .bus ∧ F.2.state = card.state ∧
    F.2.link.transfers = n ∧
    F.2.link.sent.toList = R.2.link.sent.toList.take (card.link.sent.size + (k - 1)) ∧
    ∀ i, F.1.2[i]? =
      if R.2.link.transfers + i + 1 < n + (Board.blockSize + Board.crcBytes) then R.1.2[i]?
      else buf[i]?)

/-- A transfer fault cuts a checked read short: the read stops at the armed call with the
buffer as that call found it, and the card is still released. -/
theorem readPartial_cutAt {card : SdCard ScriptedLink} {kind : CardKind} {block : UInt32}
    {offset length : UInt16} {buf : Array UInt8} {w : ReadWindow} {address : UInt32}
    (hstate : card.state = .idle kind) (hw : ReadWindow.make offset length buf.size = .ok w)
    (ha : kind.wireAddress block = some address) (hsel : card.link.failSelectAt = none)
    (hf : card.link.failTransferAt = none) {k : Nat} (hk : 0 < k) :
    ReadCutAt card block offset length buf k := by
  unfold ReadCutAt
  intro n R F
  obtain ⟨r, bytes, trace, h, hord⟩ := @readWindow_runs (card.link.driven true) rfl hf buf address w
  have hl := h.link_trace _ le_rfl
  simp only [link_pair, List.take_length] at hl
  have hR : R = ((r, (trace bytes.length).2), { card with link := (trace bytes.length).1.driven false }) :=
    readPartial_of_window hstate hw ha hsel h.run (by rw [hl]; exact hsel)
  have hRt : R.2.link.transfers = card.link.transfers + bytes.length := by
    rw [hR]
    simp [hl, driven]
  have hfault := h.fault k hk
  simp only [link_pair, armedAt_pair, firedAt_pair] at hfault
  by_cases hb : bytes.length < k
  · -- the read ends before the armed call
    rw [if_pos hb] at hfault
    have hF : F = _ := @readPartial_of_window { card with link := card.link.armed n } _ _ _ _ _ _ _
      hstate hw ha hsel _ _ hfault (by rw [hl]; exact hsel)
    refine ⟨fun _ => ?_, fun hle => absurd hle (by omega)⟩
    rw [hF, hR]
    rfl
  · -- the read stops at the armed call
    rw [if_neg hb] at hfault
    have hk₁ := h.link_trace (k - 1) (by omega)
    simp only [link_pair] at hk₁
    have hF : F = _ := @readPartial_of_window { card with link := card.link.armed n } _ _ _ _ _ _ _
      hstate hw ha hsel (.error .bus) _ hfault (by simp [hk₁, hsel, fired, clocked, driven])
    refine ⟨fun hlt => absurd hlt (by omega), fun _ => ⟨?_, ?_, ?_, ?_, fun i => ?_⟩⟩
    · rw [hF]
    · rw [hF]
    · rw [hF]
      rfl
    · rw [hF, hR, hk₁, hl]
      simp only [driven, fired, clocked, Array.toList_append]
      rw [take_log]
    · rw [hF, hRt, hR, hord (k - 1) (by omega) i]
      by_cases hi : bytes.length + i < k - 1 + (Board.blockSize + Board.crcBytes)
      · rw [if_pos hi, if_pos (by omega)]
      · rw [if_neg hi, if_neg (by omega)]

end SdCard

open SdCard

/-- Over a scripted link, a transfer fault armed at any call cuts bring-up and every checked read
short: each is its fault-free run when that makes fewer calls than the fault needs, and
otherwise stops at the armed call with a bus error, keeping nothing of the calls after it. -/
theorem transfer_fault_cuts_runs_short :
    (∀ (card : SdCard ScriptedLink) (k : Nat), card.link.failDividerAt = none →
      card.link.failSelectAt = none → card.link.failTransferAt = none → 0 < k →
      BringUpCutAt card k) ∧
    (∀ (card : SdCard ScriptedLink) (kind : CardKind) (block : UInt32) (offset length : UInt16)
      (buf : Array UInt8) (w : ReadWindow) (address : UInt32) (k : Nat),
      card.state = .idle kind → ReadWindow.make offset length buf.size = .ok w →
      kind.wireAddress block = some address → card.link.failSelectAt = none →
      card.link.failTransferAt = none → 0 < k → ReadCutAt card block offset length buf k) :=
  ⟨fun _ _ hd hsel hf hk => bringUp_cutAt hd hsel hf hk,
    fun _ _ _ _ _ _ _ _ _ hstate hw ha hsel hf hk => readPartial_cutAt hstate hw ha hsel hf hk⟩

theorem transfer_fault_cuts_runs_short_at_call_three :
    ((⟨{ script := #[1, 1, 0] }, .uninitialized⟩ : SdCard ScriptedLink).link.failDividerAt = none ∧
      (⟨{ script := #[1, 1, 0] }, .uninitialized⟩ : SdCard ScriptedLink).link.failSelectAt = none ∧
      (⟨{ script := #[1, 1, 0] }, .uninitialized⟩ : SdCard ScriptedLink).link.failTransferAt = none ∧
      0 < 3 ∧ BringUpCutAt ⟨{ script := #[1, 1, 0] }, .uninitialized⟩ 3) ∧
    ((⟨{ script := #[0, 0xFE, 7, 8] }, .idle .highCapacity⟩ : SdCard ScriptedLink).state =
        .idle .highCapacity ∧
      ReadWindow.make 1 2 (Array.replicate 4 (0 : UInt8)).size = .ok ⟨1, 2, by decide, by decide⟩ ∧
      CardKind.highCapacity.wireAddress 5 = some 5 ∧
      (⟨{ script := #[0, 0xFE, 7, 8] }, .idle .highCapacity⟩ : SdCard ScriptedLink).link.failSelectAt =
        none ∧
      (⟨{ script := #[0, 0xFE, 7, 8] }, .idle .highCapacity⟩ :
        SdCard ScriptedLink).link.failTransferAt = none ∧
      0 < 3 ∧
      ReadCutAt ⟨{ script := #[0, 0xFE, 7, 8] }, .idle .highCapacity⟩ 5 1 2
        (Array.replicate 4 0) 3) :=
  ⟨⟨rfl, rfl, rfl, by decide, transfer_fault_cuts_runs_short.1 _ 3 rfl rfl rfl (by decide)⟩,
    ⟨rfl, rfl, rfl, rfl, rfl, by decide,
      transfer_fault_cuts_runs_short.2 _ _ _ _ _ _ _ _ 3 rfl rfl rfl rfl rfl (by decide)⟩⟩

end PinballAudio
