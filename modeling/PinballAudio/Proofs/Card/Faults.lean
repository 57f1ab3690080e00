import PinballAudio.Proofs.Card.Classify
import PinballAudio.Bench.ScriptedLink

/-!
# A transfer fault cuts the fault-free run short

A scripted link armed to fail its `n`-th transfer call runs a program exactly as the link with no
fault does until that call; the call fails, counted but neither logged nor answered, and the
program stops there with a bus error. So a faulty run is the fault-free run when that makes
fewer than `n` calls, and otherwise the fault-free run cut before call `n`.

`RunsAs e x t r bytes trace` describes the fault-free run of `x` from `t` over selected
transfers: it ends as `r` after calls sending `bytes`, and `trace j` is its state after call `j`
and the steps that follow it; with the fault armed it stops in `trace (k - 1)`. `Clocked e x`
says that every selected link with no fault armed has such a run, and is closed under the
monad's operations, so every command, poll and read of the driver has it. Bring-up adds the
wake-up bytes, clocked with the card deselected and so not logged, and the read adds the
buffer, which `trace` carries along.
-/

namespace PinballAudio

namespace Bench.ScriptedLink

/-- The link once selected transfers sent `bytes`: each is counted, logged, and answered from
the script. -/
def clocked (s : ScriptedLink) (bytes : List UInt8) : ScriptedLink :=
  { s with
    transfers := s.transfers + bytes.length
    sent := s.sent ++ bytes.toArray
    pos := s.pos + bytes.length }

def armed (s : ScriptedLink) (n : Nat) : ScriptedLink := { s with failTransferAt := some n }

def fired (s : ScriptedLink) (n : Nat) : ScriptedLink :=
  { s with transfers := n, failTransferAt := some n }

@[simp] theorem clocked_nil (s : ScriptedLink) : s.clocked [] = s := by
  simp [clocked]

theorem clocked_append (s : ScriptedLink) (b₁ b₂ : List UInt8) :
    (s.clocked b₁).clocked b₂ = s.clocked (b₁ ++ b₂) := by
  simp [clocked, Nat.add_assoc]

@[simp] theorem transfers_clocked (s : ScriptedLink) (bytes : List UInt8) :
    (s.clocked bytes).transfers = s.transfers + bytes.length := rfl

@[simp] theorem selected_clocked (s : ScriptedLink) (bytes : List UInt8) :
    (s.clocked bytes).selected = s.selected := rfl

@[simp] theorem failTransferAt_clocked (s : ScriptedLink) (bytes : List UInt8) :
    (s.clocked bytes).failTransferAt = s.failTransferAt := rfl

theorem transfer_selected {s : ScriptedLink} (hs : s.selected = true)
    (hf : s.failTransferAt = none) (b : UInt8) :
    transfer b s = .ok (s.script[s.pos]?.getD 0xFF) (s.clocked [b]) := by
  simp [transfer, hs, hf, clocked]

theorem transfer_armed {s : ScriptedLink} (hs : s.selected = true) (b : UInt8) (n : Nat) :
    transfer b (s.armed n) =
      if s.transfers + 1 = n then .error {} (s.fired n)
      else .ok (s.script[s.pos]?.getD 0xFF) ((s.clocked [b]).armed n) := by
  by_cases hn : s.transfers + 1 = n
  · subst hn
    simp [transfer, armed, fired]
  · have hn' : ¬some n = some (s.transfers + 1) := fun h => hn (Option.some.inj h).symm
    simp [transfer, armed, clocked, hs, hn, hn']

def programmed (s : ScriptedLink) (d : ClockDivider) : ScriptedLink :=
  { s with dividerCalls := s.dividerCalls + 1, dividers := s.dividers.push d }

def driven (s : ScriptedLink) (low : Bool) : ScriptedLink :=
  { s with
    selectCalls := s.selectCalls + 1
    selected := low
    selectLog := s.selectLog.push (if low then 'L' else 'H') }

def idled (s : ScriptedLink) (m : Nat) : ScriptedLink :=
  { s with transfers := s.transfers + m, deselectedTransfers := s.deselectedTransfers + m }

/-- The link once bring-up set the identification clock, clocked the filler bytes with the card
deselected, and selected it. -/
def woken (s : ScriptedLink) : ScriptedLink :=
  (((s.programmed .div128).driven false).idled Board.sdWakeFillerBytes).driven true

theorem armed_programmed (s : ScriptedLink) (n : Nat) (d : ClockDivider) :
    (s.armed n).programmed d = (s.programmed d).armed n := rfl

theorem armed_driven (s : ScriptedLink) (n : Nat) (low : Bool) :
    (s.armed n).driven low = (s.driven low).armed n := rfl

theorem idled_idled (s : ScriptedLink) (a b : Nat) : (s.idled a).idled b = s.idled (a + b) := by
  simp [idled, Nat.add_assoc]

theorem transfer_deselected {s : ScriptedLink} (hs : s.selected = false)
    (hf : s.failTransferAt = none) (b : UInt8) : transfer b s = .ok 0xFF (s.idled 1) := by
  simp [transfer, hs, hf, idled]

theorem transfer_deselected_armed {s : ScriptedLink} (hs : s.selected = false) (b : UInt8)
    (n : Nat) :
    transfer b (s.armed n) =
      if s.transfers + 1 = n then .error {} (s.fired n) else .ok 0xFF ((s.idled 1).armed n) := by
  by_cases hn : s.transfers + 1 = n
  · subst hn
    simp [transfer, armed, fired]
  · have hn' : ¬some n = some (s.transfers + 1) := fun h => hn (Option.some.inj h).symm
    simp [transfer, armed, idled, hs, hn, hn']

end Bench.ScriptedLink

open Bench ScriptedLink

/-- A state that holds a scripted link beside whatever else a program keeps. -/
class HoldsLink (σ : Type) where
  link : σ → ScriptedLink
  withLink : σ → ScriptedLink → σ

instance : HoldsLink ScriptedLink := ⟨id, fun _ l => l⟩

instance {β : Type} : HoldsLink (ScriptedLink × β) := ⟨Prod.fst, fun t l => (l, t.2)⟩

namespace HoldsLink

variable {σ : Type} [HoldsLink σ]

def armedAt (t : σ) (n : Nat) : σ := withLink t ((link t).armed n)

def firedAt (t : σ) (n : Nat) : σ := withLink t ((link t).fired n)

def joinTrace (tr₁ tr₂ : Nat → σ) (m : Nat) : Nat → σ :=
  fun j => if j < m then tr₁ j else tr₂ (j - m)

@[simp] theorem link_scripted (s : ScriptedLink) : link s = s := rfl

@[simp] theorem armedAt_scripted (s : ScriptedLink) (n : Nat) : armedAt s n = s.armed n := rfl

@[simp] theorem firedAt_scripted (s : ScriptedLink) (n : Nat) : firedAt s n = s.fired n := rfl

@[simp] theorem link_pair {β : Type} (t : ScriptedLink × β) : link t = t.1 := rfl

@[simp] theorem armedAt_pair {β : Type} (t : ScriptedLink × β) (n : Nat) :
    armedAt t n = (t.1.armed n, t.2) := rfl

@[simp] theorem firedAt_pair {β : Type} (t : ScriptedLink × β) (n : Nat) :
    firedAt t n = (t.1.fired n, t.2) := rfl

end HoldsLink

open HoldsLink

theorem run_bind_error {ε σ α β : Type} {x : EStateM ε σ α} {f : α → EStateM ε σ β} {s s' : σ}
    {e : ε} (h : x.run s = .error e s') : (x >>= f).run s = .error e s' := by
  change EStateM.bind x f s = _
  rw [EStateM.bind, show x s = .error e s' from h]

theorem run_adaptExcept {ε ε' σ α : Type} {x : EStateM ε σ α} {t s : σ} {r : Except ε α}
    (g : ε → ε') (h : x.run t = resultOf r s) :
    (EStateM.adaptExcept g x).run t = resultOf (r.mapError g) s := by
  simp only [EStateM.adaptExcept, EStateM.run]
  rw [show x t = resultOf r s from h]
  cases r <;> rfl

theorem run_adaptExcept_error {ε ε' σ α : Type} {x : EStateM ε σ α} {t s : σ} {e : ε}
    (g : ε → ε') (h : x.run t = .error e s) : (EStateM.adaptExcept g x).run t = .error (g e) s := by
  simp only [EStateM.adaptExcept, EStateM.run]
  rw [show x t = .error e s from h]

section Runs

variable {σ ε α β : Type} [HoldsLink σ]

/-- The fault-free run of `x` from `t` ends as `r` after selected transfer calls sending
`bytes`, and is in state `trace j` after its `j`-th call and the steps that follow it. Armed to
fail at its `k`-th call, the run is the same when it makes fewer calls, and otherwise stops with
`e` in the state it had before that call, with the call counted. -/
structure RunsAs (e : ε) (x : EStateM ε σ α) (t : σ) (r : Except ε α) (bytes : List UInt8)
    (trace : Nat → σ) : Prop where
  link_trace : ∀ j ≤ bytes.length, link (trace j) = (link t).clocked (bytes.take j)
  run : x.run t = resultOf r (trace bytes.length)
  fault : ∀ k, 0 < k → x.run (armedAt t ((link t).transfers + k)) =
    if bytes.length < k then resultOf r (armedAt (trace bytes.length) ((link t).transfers + k))
    else .error e (firedAt (trace (k - 1)) ((link t).transfers + k))

/-- Every selected link with no fault armed runs `x` as `RunsAs` describes. -/
def Clocked (e : ε) (x : EStateM ε σ α) : Prop :=
  ∀ t : σ, (link t).selected = true → (link t).failTransferAt = none →
    ∃ r bytes trace, RunsAs e x t r bytes trace

namespace RunsAs

variable {e : ε} {t : σ}

theorem pure (a : α) (t : σ) :
    RunsAs e (Pure.pure a : EStateM ε σ α) t (.ok a) [] fun _ => t where
  link_trace _ _ := by simp
  run := rfl
  fault k hk := by
    rw [List.length_nil, if_pos hk]
    rfl

theorem throw (e' : ε) (t : σ) :
    RunsAs e (MonadExcept.throw e' : EStateM ε σ α) t (.error e') [] fun _ => t where
  link_trace _ _ := by simp
  run := rfl
  fault k hk := by
    rw [List.length_nil, if_pos hk]
    rfl

theorem bind_error {x : EStateM ε σ α} {f : α → EStateM ε σ β} {e' : ε} {bytes : List UInt8}
    {trace : Nat → σ} (h : RunsAs e x t (.error e') bytes trace) :
    RunsAs e (x >>= f) t (.error e') bytes trace where
  link_trace := h.link_trace
  run := run_bind_error h.run
  fault k hk := by
    have hx := h.fault k hk
    by_cases hb : bytes.length < k
    · rw [if_pos hb] at hx ⊢
      exact run_bind_error hx
    · rw [if_neg hb] at hx ⊢
      exact run_bind_error hx

theorem bind_ok {x : EStateM ε σ α} {f : α → EStateM ε σ β} {a : α} {r : Except ε β}
    {b₁ b₂ : List UInt8} {tr₁ tr₂ : Nat → σ} (h₁ : RunsAs e x t (.ok a) b₁ tr₁)
    (h₂ : RunsAs e (f a) (tr₁ b₁.length) r b₂ tr₂) :
    RunsAs e (x >>= f) t r (b₁ ++ b₂) (joinTrace tr₁ tr₂ b₁.length) where
  link_trace j hj := by
    have hl := h₁.link_trace _ le_rfl
    rw [List.length_append] at hj
    unfold joinTrace
    split
    · rw [h₁.link_trace j (by omega), List.take_append_of_le_length (by omega)]
    · rw [h₂.link_trace (j - b₁.length) (by omega), hl, List.take_length, clocked_append,
        List.take_append, List.take_of_length_le (by omega : b₁.length ≤ j)]
  run := by
    rw [SdCard.run_bind_ok h₁.run, h₂.run, List.length_append]
    simp [joinTrace]
  fault k hk := by
    have hx := h₁.fault k hk
    by_cases hk₁ : b₁.length < k
    · -- the fault falls in the second run
      rw [if_pos hk₁] at hx
      rw [SdCard.run_bind_ok hx]
      have hn : (link (tr₁ b₁.length)).transfers + (k - b₁.length) = (link t).transfers + k := by
        rw [h₁.link_trace _ le_rfl, transfers_clocked, List.take_length]
        omega
      have hf := h₂.fault (k - b₁.length) (by omega)
      rw [hn] at hf
      rw [hf, List.length_append]
      by_cases hk₂ : b₂.length < k - b₁.length
      · rw [if_pos hk₂, if_pos (by omega)]
        simp [joinTrace]
      · rw [if_neg hk₂, if_neg (by omega)]
        simp only [joinTrace, if_neg (show ¬k - 1 < b₁.length by omega)]
        congr 3
        omega
    · -- the fault falls in the first run
      rw [if_neg hk₁] at hx
      rw [run_bind_error hx, List.length_append, if_neg (by omega)]
      simp only [joinTrace, if_pos (show k - 1 < b₁.length by omega)]

theorem adaptExcept {ε' : Type} {x : EStateM ε σ α} {r : Except ε α} {bytes : List UInt8}
    {trace : Nat → σ} (g : ε → ε') (h : RunsAs e x t r bytes trace) :
    RunsAs (g e) (EStateM.adaptExcept g x) t (r.mapError g) bytes trace where
  link_trace := h.link_trace
  run := run_adaptExcept g h.run
  fault k hk := by
    have hx := h.fault k hk
    by_cases hb : bytes.length < k
    · rw [if_pos hb] at hx ⊢
      exact run_adaptExcept g hx
    · rw [if_neg hb] at hx ⊢
      exact run_adaptExcept_error g hx

end RunsAs

namespace Clocked

variable {e : ε}

theorem pure (a : α) : Clocked e (Pure.pure a : EStateM ε σ α) :=
  fun t _ _ => ⟨_, _, _, RunsAs.pure a t⟩

theorem throw (e' : ε) : Clocked e (MonadExcept.throw e' : EStateM ε σ α) :=
  fun t _ _ => ⟨_, _, _, RunsAs.throw e' t⟩

theorem bind {x : EStateM ε σ α} {f : α → EStateM ε σ β} (hx : Clocked e x)
    (hf : ∀ a, Clocked e (f a)) : Clocked e (x >>= f) := by
  intro t hs hn
  obtain ⟨r₁, b₁, tr₁, h₁⟩ := hx t hs hn
  cases r₁ with
  | error e' => exact ⟨_, _, _, h₁.bind_error⟩
  | ok a =>
    have hl := h₁.link_trace _ le_rfl
    obtain ⟨r₂, b₂, tr₂, h₂⟩ :=
      hf a (tr₁ b₁.length) (by rw [hl, selected_clocked]; exact hs)
        (by rw [hl, failTransferAt_clocked]; exact hn)
    exact ⟨_, _, _, h₁.bind_ok h₂⟩

theorem ite {c : Prop} [Decidable c] {x y : EStateM ε σ α} (hx : c → Clocked e x)
    (hy : ¬c → Clocked e y) : Clocked e (if c then x else y) := by
  by_cases hc : c
  · rw [if_pos hc]
    exact hx hc
  · rw [if_neg hc]
    exact hy hc

theorem adaptExcept {ε' : Type} {x : EStateM ε σ α} (hx : Clocked e x) (g : ε → ε') :
    Clocked (g e) (EStateM.adaptExcept g x) := by
  intro t hs hn
  obtain ⟨r, bytes, trace, h⟩ := hx t hs hn
  exact ⟨_, _, _, h.adaptExcept g⟩

theorem pollN {attempt : EStateM ε σ (Option α)} (h : Clocked e attempt) (n : Nat) :
    Clocked e (RetryBudget.pollN attempt n) := by
  induction n with
  | zero => exact pure none
  | succ n ih =>
    refine bind h fun o => ?_
    cases o with
    | some v => exact pure (some v)
    | none => exact ih

end Clocked

end Runs

namespace SdCard

open Card SpiLink

theorem runsAs_transfer {s : ScriptedLink} (hs : s.selected = true)
    (hf : s.failTransferAt = none) (b : UInt8) :
    RunsAs ({} : BusFault) (SpiLink.transfer b : EStateM BusFault ScriptedLink UInt8) s
      (.ok (s.script[s.pos]?.getD 0xFF)) [b] fun j => s.clocked ([b].take j) where
  link_trace _ _ := rfl
  run := transfer_selected hs hf b
  fault k hk := by
    change ScriptedLink.transfer b (s.armed (s.transfers + k)) = _
    rw [transfer_armed hs]
    by_cases hk₁ : k = 1
    · subst hk₁
      simp
    · rw [if_neg (by omega), if_pos (by simp; omega)]
      rfl

theorem clocked_transfer (b : UInt8) :
    Clocked ({} : BusFault) (SpiLink.transfer b : EStateM BusFault ScriptedLink UInt8) :=
  fun _ hs hf => ⟨_, _, _, runsAs_transfer hs hf b⟩

theorem clocked_send (b : UInt8) :
    Clocked ({} : BusFault) (send b : EStateM BusFault ScriptedLink Unit) :=
  Clocked.bind (clocked_transfer b) fun _ => Clocked.pure ()

theorem clocked_receive :
    Clocked ({} : BusFault) (receive : EStateM BusFault ScriptedLink UInt8) :=
  clocked_transfer filler

theorem clocked_sendAll (bytes : List UInt8) :
    Clocked ({} : BusFault) (bytes.forM send : EStateM BusFault ScriptedLink PUnit) := by
  induction bytes with
  | nil => exact Clocked.pure _
  | cons b bytes ih => exact Clocked.bind (clocked_send b) fun _ => ih

theorem clocked_command (cmd : Command) (a : UInt32) :
    Clocked ({} : BusFault) (command cmd a : EStateM BusFault ScriptedLink UInt8) := by
  unfold command
  refine Clocked.bind (clocked_sendAll _) fun _ => ?_
  refine Clocked.bind (Clocked.pollN ?_ _) fun _ => Clocked.pure _
  exact Clocked.bind clocked_receive fun _ => Clocked.pure _

theorem clocked_receiveBytes (n : Nat) :
    Clocked ({} : BusFault) (receiveBytes n : EStateM BusFault ScriptedLink (List UInt8)) := by
  induction n with
  | zero => exact Clocked.pure _
  | succ n ih =>
    exact Clocked.bind clocked_receive fun _ => Clocked.bind ih fun _ => Clocked.pure _

theorem clocked_readyRound :
    Clocked ({} : BusFault) (readyRound : EStateM BusFault ScriptedLink (Option Unit)) :=
  Clocked.bind (clocked_command _ _) fun _ =>
    Clocked.bind (clocked_command _ _) fun _ => Clocked.pure _

theorem clocked_awaitToken :
    Clocked ({} : BusFault) (awaitToken : EStateM BusFault ScriptedLink (Option Unit)) :=
  Clocked.pollN (Clocked.bind clocked_receive fun _ => Clocked.pure _) _

theorem Clocked.onBus {ε α : Type} {x : EStateM BusFault ScriptedLink α}
    (hx : Clocked ({} : BusFault) x) (e : ε) : Clocked e (onBus e x) :=
  hx.adaptExcept fun _ => e

theorem Clocked.throw_bind {ε α β : Type} {e e' : ε} {f : α → EStateM ε ScriptedLink β} :
    Clocked e (MonadExcept.throw e' >>= f) :=
  fun t _ _ => ⟨_, _, _, (RunsAs.throw e' t).bind_error⟩

section Wake

variable {s : ScriptedLink}

theorem run_bind_error_send {b : UInt8} {s' : ScriptedLink} {e : BusFault}
    (h : ScriptedLink.transfer b s = .error e s') :
    (send b : EStateM BusFault ScriptedLink Unit).run s = .error e s' :=
  run_bind_error h

theorem run_send_ok {b r : UInt8} {s' : ScriptedLink} (h : ScriptedLink.transfer b s = .ok r s') :
    (send b : EStateM BusFault ScriptedLink Unit).run s = .ok () s' :=
  SdCard.run_bind_ok h

theorem run_onBus_of_ok {ε α : Type} {x : EStateM BusFault ScriptedLink α} {a : α}
    {s' : ScriptedLink} (e : ε) (h : x.run s = .ok a s') : (onBus e x).run s = .ok a s' := by
  simp only [onBus, EStateM.run, EStateM.adaptExcept]
  rw [show x s = .ok a s' from h]

theorem run_onBus_of_error {ε α : Type} {x : EStateM BusFault ScriptedLink α}
    {s' : ScriptedLink} (e : ε) (h : x.run s = .error {} s') : (onBus e x).run s = .error e s' :=
  run_adaptExcept_error _ h

theorem run_setDivisor_scripted (hd : s.failDividerAt = none) (d : UInt32) :
    (setDivisor d : EStateM BusFault ScriptedLink ClockDivider).run s =
      .ok (ClockDivider.nearest d.toNat) (s.programmed (ClockDivider.nearest d.toNat)) := by
  have hset : ScriptedLink.setDivider (ClockDivider.nearest d.toNat) s =
      .ok () (s.programmed (ClockDivider.nearest d.toNat)) := by
    simp [ScriptedLink.setDivider, hd, programmed]
  exact SdCard.run_bind_ok hset

theorem drive_of_ne (low : Bool) (hsel : s.failSelectAt ≠ some (s.selectCalls + 1)) :
    drive low s = .ok () (s.driven low) := by
  simp [drive, hsel, driven]

theorem run_select_of_ne (hsel : s.failSelectAt ≠ some (s.selectCalls + 1)) :
    (select : EStateM BusFault ScriptedLink Unit).run s = .ok () (s.driven true) :=
  drive_of_ne true hsel

theorem run_deselect_of_ne (hsel : s.failSelectAt ≠ some (s.selectCalls + 1)) :
    (deselect : EStateM BusFault ScriptedLink Unit).run s = .ok () (s.driven false) :=
  drive_of_ne false hsel

theorem run_select_scripted (hsel : s.failSelectAt = none) :
    (select : EStateM BusFault ScriptedLink Unit).run s = .ok () (s.driven true) :=
  run_select_of_ne (by simp [hsel])

theorem run_deselect_scripted (hsel : s.failSelectAt = none) :
    (deselect : EStateM BusFault ScriptedLink Unit).run s = .ok () (s.driven false) :=
  run_deselect_of_ne (by simp [hsel])

theorem run_sendAll_deselected (hs : s.selected = false) (hf : s.failTransferAt = none)
    (bytes : List UInt8) :
    (bytes.forM send : EStateM BusFault ScriptedLink PUnit).run s = .ok () (s.idled bytes.length) := by
  induction bytes generalizing s with
  | nil => simp [idled]
  | cons b bytes ih =>
    have hsend := run_send_ok (transfer_deselected hs hf b)
    change (send b >>= fun _ => bytes.forM send).run s = _
    rw [SdCard.run_bind_ok hsend, @ih (s.idled 1) hs hf]
    simp [idled, Nat.add_assoc, Nat.add_comm 1]

theorem run_sendAll_deselected_armed (hs : s.selected = false) (bytes : List UInt8) {k : Nat}
    (hk : 0 < k) :
    (bytes.forM send : EStateM BusFault ScriptedLink PUnit).run (s.armed (s.transfers + k)) =
      if bytes.length < k then .ok () ((s.idled bytes.length).armed (s.transfers + k))
      else .error {} ((s.idled (k - 1)).fired (s.transfers + k)) := by
  induction bytes generalizing s k with
  | nil =>
    rw [List.length_nil, if_pos hk]
    simp [idled]
  | cons b bytes ih =>
    change (send b >>= fun _ => bytes.forM send).run (s.armed (s.transfers + k)) = _
    have ht := transfer_deselected_armed hs b (s.transfers + k)
    by_cases hk₁ : k = 1
    · subst hk₁
      rw [if_pos rfl] at ht
      rw [run_bind_error (SdCard.run_bind_error_send ht), if_neg (by simp)]
      simp [idled]
    · rw [if_neg (by omega)] at ht
      have hrest := @ih (s.idled 1) hs (k - 1) (by omega)
      rw [show (s.idled 1).transfers + (k - 1) = s.transfers + k by simp [idled]; omega] at hrest
      rw [SdCard.run_bind_ok (run_send_ok ht), hrest, idled_idled, idled_idled,
        List.length_cons]
      by_cases hlen : bytes.length < k - 1
      · rw [if_pos hlen, if_pos (by omega), Nat.add_comm 1]
      · rw [if_neg hlen, if_neg (by omega), show 1 + (k - 1 - 1) = k - 1 by omega]

theorem run_wake_scripted {α : Type} {k : EStateM InitError ScriptedLink α}
    (hd : s.failDividerAt = none) (hsel₁ : s.failSelectAt ≠ some (s.selectCalls + 1))
    (hsel₂ : s.failSelectAt ≠ some (s.selectCalls + 2)) (hf : s.failTransferAt = none) :
    (do
      let _ ← onBus InitError.bus (setDivisor Board.sdIdentDivisor)
      onBus InitError.bus deselect
      onBus InitError.bus ((List.replicate Board.sdWakeFillerBytes r1None).forM send)
      onBus InitError.bus select
      k : EStateM InitError ScriptedLink α).run s = k.run s.woken := by
  have h₁ := run_setDivisor_scripted hd Board.sdIdentDivisor
  rw [show ClockDivider.nearest Board.sdIdentDivisor.toNat = .div128 from rfl] at h₁
  rw [SdCard.run_bind_ok (run_onBus_of_ok _ h₁),
    SdCard.run_bind_ok (run_onBus_of_ok _ (@run_deselect_of_ne (s.programmed .div128) hsel₁)),
    SdCard.run_bind_ok (run_onBus_of_ok _
      (@run_sendAll_deselected ((s.programmed .div128).driven false) rfl hf _)),
    SdCard.run_bind_ok (run_onBus_of_ok _
      (@run_select_of_ne (((s.programmed .div128).driven false).idled _) hsel₂))]
  rfl

/-- How identification runs from `s`: the wake-up, then selected transfers sending `bytes`,
ending as `r`. Armed to fail at call `j`, it stops in a filler byte, which no log records, or in
one of the later calls, or runs as without the fault when it makes fewer than `j` calls. -/
structure WakesAs {α : Type} (x : EStateM InitError ScriptedLink α) (s : ScriptedLink)
    (r : Except InitError α) (bytes : List UInt8) : Prop where
  run : x.run s = resultOf r (s.woken.clocked bytes)
  fault : ∀ j, 0 < j → x.run (s.armed (s.transfers + j)) =
    if j ≤ Board.sdWakeFillerBytes then
      .error .bus ((((s.programmed .div128).driven false).idled (j - 1)).fired (s.transfers + j))
    else if bytes.length + Board.sdWakeFillerBytes < j then
      resultOf r ((s.woken.clocked bytes).armed (s.transfers + j))
    else
      .error .bus ((s.woken.clocked (bytes.take (j - Board.sdWakeFillerBytes - 1))).fired
        (s.transfers + j))

theorem wake_then_runs {α : Type} {k : EStateM InitError ScriptedLink α}
    (hk : Clocked InitError.bus k) (hd : s.failDividerAt = none) (hsel : s.failSelectAt = none)
    (hf : s.failTransferAt = none) :
    ∃ r bytes, WakesAs (do
      let _ ← onBus InitError.bus (setDivisor Board.sdIdentDivisor)
      onBus InitError.bus deselect
      onBus InitError.bus ((List.replicate Board.sdWakeFillerBytes r1None).forM send)
      onBus InitError.bus select
      k) s r bytes := by
  have hdiv : ClockDivider.nearest Board.sdIdentDivisor.toNat = .div128 := rfl
  obtain ⟨r, bytes, tr, h⟩ := hk s.woken rfl (by simpa [woken, idled, driven, programmed] using hf)
  have htr : tr bytes.length = s.woken.clocked bytes := by simpa using h.link_trace _ le_rfl
  refine ⟨r, bytes, ⟨?_, fun j hj => ?_⟩⟩
  · rw [run_wake_scripted hd (by simp [hsel]) (by simp [hsel]) hf, ← htr]
    exact h.run
  · have h₁ := @run_setDivisor_scripted (s.armed (s.transfers + j)) hd Board.sdIdentDivisor
    rw [hdiv, armed_programmed] at h₁
    have h₂ := @run_deselect_scripted ((s.programmed .div128).armed (s.transfers + j)) hsel
    rw [armed_driven] at h₂
    have h₃ : ((List.replicate Board.sdWakeFillerBytes r1None).forM send :
        EStateM BusFault ScriptedLink PUnit).run
          (((s.programmed .div128).driven false).armed (s.transfers + j)) =
        if Board.sdWakeFillerBytes < j then
          .ok () ((((s.programmed .div128).driven false).idled Board.sdWakeFillerBytes).armed
            (s.transfers + j))
        else .error {} ((((s.programmed .div128).driven false).idled (j - 1)).fired
          (s.transfers + j)) := by
      have h := @run_sendAll_deselected_armed ((s.programmed .div128).driven false) rfl
        (List.replicate Board.sdWakeFillerBytes r1None) j hj
      rwa [List.length_replicate] at h
    rw [SdCard.run_bind_ok (run_onBus_of_ok _ h₁), SdCard.run_bind_ok (run_onBus_of_ok _ h₂)]
    by_cases hw : j ≤ Board.sdWakeFillerBytes
    · rw [if_neg (by omega)] at h₃
      rw [run_bind_error (run_onBus_of_error _ h₃), if_pos hw]
    · rw [if_pos (by omega)] at h₃
      have h₄ := @run_select_scripted
        ((((s.programmed .div128).driven false).idled Board.sdWakeFillerBytes).armed
          (s.transfers + j)) hsel
      rw [armed_driven] at h₄
      rw [SdCard.run_bind_ok (run_onBus_of_ok _ h₃), SdCard.run_bind_ok (run_onBus_of_ok _ h₄),
        if_neg hw]
      have hn : s.woken.transfers + (j - Board.sdWakeFillerBytes) = s.transfers + j := by
        simp only [woken, driven, idled, programmed]
        omega
      have hfault := h.fault (j - Board.sdWakeFillerBytes) (by omega)
      simp only [link_scripted, armedAt_scripted, firedAt_scripted, hn] at hfault
      change k.run (s.woken.armed (s.transfers + j)) = _
      rw [hfault]
      by_cases hb : bytes.length < j - Board.sdWakeFillerBytes
      · rw [if_pos hb, if_pos (by omega), htr]
      · rw [if_neg hb, if_neg (by omega)]
        have hl := h.link_trace (j - Board.sdWakeFillerBytes - 1) (by omega)
        rw [link_scripted, link_scripted] at hl
        rw [hl]

/-- Identification is the wake-up followed by the handshake, whose commands, polls and register
reads all run over selected transfers. -/
theorem identify_wakes (hd : s.failDividerAt = none) (hsel : s.failSelectAt = none)
    (hf : s.failTransferAt = none) :
    ∃ r bytes, WakesAs (identify : EStateM InitError ScriptedLink CardKind) s r bytes := by
  unfold identify
  refine wake_then_runs ?_ hd hsel hf
  refine Clocked.bind (Clocked.onBus (clocked_command _ _) _) fun _ => ?_
  refine Clocked.ite (fun _ => Clocked.throw_bind) fun _ => ?_
  refine Clocked.bind (Clocked.onBus (clocked_command _ _) _) fun _ => ?_
  refine Clocked.ite (fun _ => Clocked.throw_bind) fun _ => ?_
  refine Clocked.bind (Clocked.onBus (clocked_receiveBytes 4) _) fun _ => ?_
  refine Clocked.ite (fun _ => Clocked.throw_bind) fun _ => ?_
  refine Clocked.bind (Clocked.onBus (Clocked.pollN clocked_readyRound _) _) fun _ => ?_
  refine Clocked.ite (fun _ => Clocked.throw_bind) fun _ => ?_
  refine Clocked.bind (Clocked.onBus (clocked_command _ _) _) fun _ => ?_
  refine Clocked.ite (fun _ => Clocked.pure _) fun _ => ?_
  exact Clocked.bind (Clocked.onBus (clocked_receiveBytes 4) _) fun _ => Clocked.pure _

theorem bringUp_of_identify {card : SdCard ScriptedLink} {r : Except InitError CardKind}
    {l : ScriptedLink} (h : (identify : EStateM InitError ScriptedLink CardKind).run card.link =
      resultOf r l) (hd : l.failDividerAt = none) (hsel : l.failSelectAt = none) :
    card.bringUp = match r with
      | .ok kind => (.ok ⟨kind, .div4⟩, ⟨(l.driven false).programmed .div4, .idle kind⟩)
      | .error e => (.error e, ⟨l.driven false, .failed⟩) := by
  have hfast : ClockDivider.nearest Board.sdFastDivisor.toNat = .div4 := rfl
  have hset := @run_setDivisor_scripted (l.driven false) hd Board.sdFastDivisor
  rw [hfast] at hset
  cases r with
  | ok kind =>
    simp only [bringUp, show (identify : EStateM InitError ScriptedLink CardKind).run card.link =
      .ok kind l from h, run_deselect_scripted hsel, hset, Bool.not_true, Bool.false_eq_true,
      if_false]
  | error e =>
    simp only [bringUp, show (identify : EStateM InitError ScriptedLink CardKind).run card.link =
      .error e l from h, run_deselect_scripted hsel]

theorem take_log (a : Array UInt8) (b : List UInt8) (m : Nat) :
    (a.toList ++ b).take (a.size + m) = a.toList ++ b.take m := by
  rw [List.take_append, List.take_of_length_le (by simp), Array.length_toList, Nat.add_sub_cancel_left]

/-- Bring-up from `card` with its `k`-th transfer call from now armed to fail, against the
fault-free bring-up `R`: it is `R` when `R` makes fewer than `k` calls, and otherwise a bus error
at call `k` that leaves the card failed, has logged only the bytes of the calls before it (the
wake-up bytes, clocked deselected, are not logged) and never programmed the fast clock. -/
def BringUpCutAt (card : SdCard ScriptedLink) (k : Nat) : Prop :=
  let n := card.link.transfers + k
  let R := card.bringUp
  let F := ({ card with link := card.link.armed n } : SdCard ScriptedLink).bringUp
  (R.2.link.transfers < n → F = (R.1, { R.2 with link := R.2.link.armed n })) ∧
  (n ≤ R.2.link.transfers → F.1 = .error .bus ∧ F.2.state = .failed ∧ F.2.link.transfers = n ∧
    F.2.link.sent.toList =
      R.2.link.sent.toList.take (card.link.sent.size + (k - 1 - Board.sdWakeFillerBytes)) ∧
    F.2.link.dividers = card.link.dividers.push .div128)

/-- A transfer fault cuts bring-up short: the wake-up or the handshake stops at the armed call,
and the release still runs. -/
theorem bringUp_cutAt {card : SdCard ScriptedLink} (hd : card.link.failDividerAt = none)
    (hsel : card.link.failSelectAt = none) (hf : card.link.failTransferAt = none) {k : Nat}
    (hk : 0 < k) : BringUpCutAt card k := by
  unfold BringUpCutAt
  intro n R F
  obtain ⟨r, bytes, hw⟩ := identify_wakes hd hsel hf
  have hR : R = _ := bringUp_of_identify hw.run hd hsel
  have hRlink : R.2.link.transfers = card.link.transfers + Board.sdWakeFillerBytes + bytes.length ∧
      R.2.link.sent.toList = card.link.sent.toList ++ bytes := by
    rw [hR]
    cases r <;> simp [woken, clocked, driven, idled, programmed]
  have hfault := hw.fault k hk
  by_cases hW : k ≤ Board.sdWakeFillerBytes
  · rw [if_pos hW] at hfault
    have hF : F = _ := @bringUp_of_identify { card with link := card.link.armed n } (.error .bus) _
      hfault hd hsel
    refine ⟨fun hlt => absurd hlt (by omega), fun _ => ?_⟩
    rw [hF, hRlink.2, show k - 1 - Board.sdWakeFillerBytes = 0 by omega, Nat.add_zero,
      List.take_left' Array.length_toList]
    simp [fired, driven, idled, programmed, n]
  · rw [if_neg hW] at hfault
    by_cases hlen : bytes.length + Board.sdWakeFillerBytes < k
    · rw [if_pos hlen] at hfault
      have hF : F = _ := @bringUp_of_identify { card with link := card.link.armed n } r _
        hfault hd hsel
      refine ⟨fun _ => ?_, fun hle => absurd hle (by omega)⟩
      rw [hF, hR]
      cases r <;> rfl
    · rw [if_neg hlen] at hfault
      have hF : F = _ := @bringUp_of_identify { card with link := card.link.armed n } (.error .bus)
        _ hfault hd hsel
      refine ⟨fun hlt => absurd hlt (by omega), fun _ => ?_⟩
      rw [hF, hRlink.2, show k - 1 - Board.sdWakeFillerBytes = k - Board.sdWakeFillerBytes - 1 by
        omega, take_log]
      simp [fired, clocked, woken, driven, idled, programmed, n]

end Wake

end SdCard

end PinballAudio
