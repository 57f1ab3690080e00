import PinballAudio.Card.Driver
import PinballAudio.Proofs.Card.Protocol

/-!
# Driver exchanges with the simulated card

The driver's link operations run against `SimulatedCard`, whose link never faults, so each of
them is an equation: a read returns `next 0` and leaves `drain 1`, a polling loop stops at the
first byte it accepts, and a command leaves the card as `sent` left it, less the bytes its
response took. `Linked B C` is a selected card of behaviour `B` and content `C` with no open
frame; every command and every read keeps it.

For programs whose path depends on what the card answers, `OkTriple P x Q` says that `x`, run
from a state in `P`, fails or returns a value and state in `Q`; its rules follow the structure
of a `do` block.
-/

namespace PinballAudio

/-- Run from a state in `P`, `x` fails, or returns a value `a` in a state `s'` with `Q a s'`. -/
def OkTriple {ε σ α : Type} (P : σ → Prop) (x : EStateM ε σ α) (Q : α → σ → Prop) : Prop :=
  ∀ s, P s → ∀ a s', x.run s = .ok a s' → Q a s'

namespace OkTriple

variable {ε ε' σ α β : Type} {P P' : σ → Prop} {Q Q' : α → σ → Prop}

theorem of_run {x : EStateM ε σ α} (h : ∀ s, P s → ∃ a s', x.run s = .ok a s' ∧ Q a s') :
    OkTriple P x Q := by
  intro s hs a s' hx
  obtain ⟨b, t, hrun, hq⟩ := h s hs
  rw [hrun] at hx
  cases hx
  exact hq

theorem pure {a : α} (h : ∀ s, P s → Q a s) : OkTriple P (Pure.pure a : EStateM ε σ α) Q := by
  intro s hs b s' hx
  cases hx
  exact h s hs

theorem throw {e : ε} : OkTriple P (MonadExcept.throw e : EStateM ε σ α) Q := by
  intro s _ a s' hx
  cases hx

theorem throw_bind {e : ε} {f : α → EStateM ε σ β} {Q : β → σ → Prop} :
    OkTriple P (MonadExcept.throw e >>= f) Q := by
  intro s _ b s' hx
  cases hx

theorem bind {x : EStateM ε σ α} {f : α → EStateM ε σ β} {R : α → σ → Prop}
    {Q : β → σ → Prop} (hx : OkTriple P x R) (hf : ∀ a, OkTriple (R a) (f a) Q) :
    OkTriple P (x >>= f) Q := by
  intro s hs b s'' h
  change (match x s with
    | EStateM.Result.ok a s' => f a s'
    | EStateM.Result.error e s' => EStateM.Result.error e s') = EStateM.Result.ok b s'' at h
  cases hrun : x s with
  | ok a s' =>
    rw [hrun] at h
    exact hf a s' (hx s hs a s' hrun) b s'' h
  | error e s' =>
    rw [hrun] at h
    cases h

theorem ite {c : Prop} [Decidable c] {x y : EStateM ε σ α} (ht : c → OkTriple P x Q)
    (he : ¬c → OkTriple P y Q) : OkTriple P (if c then x else y) Q := by
  by_cases hc : c
  · rw [if_pos hc]
    exact ht hc
  · rw [if_neg hc]
    exact he hc

theorem adaptExcept {x : EStateM ε σ α} (h : OkTriple P x Q) (f : ε → ε') :
    OkTriple P (EStateM.adaptExcept f x) Q := by
  intro s hs a s' hx
  change (match x s with
    | EStateM.Result.error e s' => EStateM.Result.error (f e) s'
    | EStateM.Result.ok a s' => EStateM.Result.ok a s') = EStateM.Result.ok a s' at hx
  cases hrun : x s with
  | ok b t =>
    rw [hrun] at hx
    cases hx
    exact h s hs _ _ hrun
  | error e t =>
    rw [hrun] at hx
    cases hx

theorem pollN {I : σ → Prop} {attempt : EStateM ε σ (Option α)}
    (h : OkTriple I attempt fun _ => I) (n : Nat) :
    OkTriple I (RetryBudget.pollN attempt n) fun _ => I := by
  induction n with
  | zero => exact pure fun _ hs => hs
  | succ n ih =>
    refine bind h fun r => ?_
    cases r with
    | some v => exact pure fun _ hs => hs
    | none => exact ih

end OkTriple

namespace Card.SimulatedCard

/-- A selected card of behaviour `B` and content `C` with no frame open. -/
structure Linked (B : CardBehavior) (C : UInt32 → Nat → UInt8) (c : SimulatedCard) : Prop where
  selected : c.selected = true
  frame : c.frame = []
  behavior : c.behavior = B
  content : c.content = C

theorem Linked.drain {B : CardBehavior} {C : UInt32 → Nat → UInt8} {c : SimulatedCard}
    (h : Linked B C c) (k : Nat) : Linked B C (c.drain k) :=
  ⟨h.selected, h.frame, h.behavior, h.content⟩

theorem Linked.sent {B : CardBehavior} {C : UInt32 → Nat → UInt8} {c : SimulatedCard}
    (h : Linked B C c) (cmd : Command) (a : UInt32) : Linked B C (c.sent cmd a) := by
  obtain ⟨hs, hf, hb, hc⟩ := sent_frame cmd a c
  exact ⟨hs.trans h.selected, hf, hb.trans h.behavior, hc.trans h.content⟩

end Card.SimulatedCard

namespace SdCard

open Card SimulatedCard

variable {c : SimulatedCard} {B : CardBehavior} {C : UInt32 → Nat → UInt8}

theorem run_bind_ok {ε σ α β : Type} {x : EStateM ε σ α} {f : α → EStateM ε σ β} {s s' : σ}
    {a : α} (h : x.run s = .ok a s') : (x >>= f).run s = (f a).run s' := by
  change (match x s with
    | EStateM.Result.ok a s' => f a s'
    | EStateM.Result.error e s' => EStateM.Result.error e s') = _
  rw [show x s = .ok a s' from h]
  rfl

theorem run_onLink {α : Type} {x : EStateM BusFault SimulatedCard α} {a : α} {c' : SimulatedCard}
    (h : x.run c = .ok a c') (buf : Array UInt8) :
    (onLink x).run (c, buf) = .ok a (c', buf) := by
  simp only [onLink, EStateM.run]
  rw [show x c = .ok a c' from h]

theorem run_forM_send (bytes : List UInt8) (c : SimulatedCard) :
    (bytes.forM SpiLink.send : EStateM BusFault SimulatedCard PUnit).run c =
      .ok () (feed bytes c) := by
  induction bytes generalizing c with
  | nil => rfl
  | cons b bytes ih => exact ih (transfer b c).2

theorem run_receive (h : Linked B C c) :
    (SpiLink.receive : EStateM BusFault SimulatedCard UInt8).run c = .ok (c.next 0) (c.drain 1) := by
  show EStateM.Result.ok (transfer 0xFF c).1 (transfer 0xFF c).2 = _
  rw [transfer_filler h.selected h.frame]

theorem run_attempt {α : Type} (f : UInt8 → Option α) (h : Linked B C c) :
    (do let b ← SpiLink.receive; Pure.pure (f b) : EStateM BusFault SimulatedCard (Option α)).run c =
      .ok (f (c.next 0)) (c.drain 1) := by
  rw [run_bind_ok (run_receive h)]
  rfl

theorem run_pollN_found {α : Type} {f : UInt8 → Option α} {n d : Nat} {v : α}
    (h : Linked B C c) (hd : d < n) (hnone : ∀ k < d, f (c.next k) = none)
    (hsome : f (c.next d) = some v) :
    (RetryBudget.pollN (do let b ← SpiLink.receive; Pure.pure (f b)) n :
      EStateM BusFault SimulatedCard (Option α)).run c = .ok (some v) (c.drain (d + 1)) := by
  induction n generalizing c d with
  | zero => omega
  | succ n ih =>
    simp only [RetryBudget.pollN]
    rw [run_bind_ok (run_attempt f h)]
    cases d with
    | zero =>
      rw [hsome]
      rfl
    | succ d =>
      rw [hnone 0 (by omega)]
      have hrest := @ih (c.drain 1) d (h.drain 1) (by omega)
        (fun k hk => by simpa [Nat.add_comm] using hnone (k + 1) (by omega))
        (by simpa [Nat.add_comm] using hsome)
      rw [drain_drain, Nat.add_comm 1] at hrest
      exact hrest

theorem run_pollN_none {α : Type} {f : UInt8 → Option α} {n : Nat} (h : Linked B C c)
    (hnone : ∀ k < n, f (c.next k) = none) :
    (RetryBudget.pollN (do let b ← SpiLink.receive; Pure.pure (f b)) n :
      EStateM BusFault SimulatedCard (Option α)).run c = .ok none (c.drain n) := by
  induction n generalizing c with
  | zero => rfl
  | succ n ih =>
    simp only [RetryBudget.pollN]
    rw [run_bind_ok (run_attempt f h), hnone 0 (by omega)]
    have hrest := ih (h.drain 1) (fun k hk => by simpa [Nat.add_comm] using hnone (k + 1) (by omega))
    rw [drain_drain, Nat.add_comm 1] at hrest
    exact hrest

theorem run_receiveBytes (h : Linked B C c) (n : Nat) :
    (receiveBytes n : EStateM BusFault SimulatedCard (List UInt8)).run c =
      .ok ((List.range n).map c.next) (c.drain n) := by
  induction n generalizing c with
  | zero => rfl
  | succ n ih =>
    simp only [receiveBytes]
    rw [run_bind_ok (run_receive h), run_bind_ok (ih (h.drain 1)), drain_drain,
      Nat.add_comm 1, List.range_succ_eq_map, List.map_cons, List.map_map]
    simp [Function.comp_def, Nat.add_comm 1]

theorem run_discard (h : Linked B C c) (n : Nat) :
    (discard n : EStateM BusFault SimulatedCard Unit).run c = .ok () (c.drain n) := by
  induction n generalizing c with
  | zero => rfl
  | succ n ih =>
    simp only [discard]
    rw [run_bind_ok (run_receive h), ih (h.drain 1), drain_drain, Nat.add_comm 1]

/-- Receiving `n` bytes into a buffer that holds them writes the next `n` bytes of the card at
positions `pos` on and leaves the rest of the buffer alone. -/
theorem run_receiveInto (h : Linked B C c) (pos n : Nat) (buf : Array UInt8)
    (hfit : pos + n ≤ buf.size) :
    ∃ buf', (receiveInto pos n : EStateM IoError (SimulatedCard × Array UInt8) Unit).run
        (c, buf) = .ok () (c.drain n, buf') ∧ buf'.size = buf.size ∧
      ∀ j, buf'[j]? = if pos ≤ j ∧ j < pos + n then some (c.next (j - pos)) else buf[j]? := by
  induction n generalizing c pos buf with
  | zero => exact ⟨buf, rfl, rfl, fun j => by rw [if_neg (by omega)]⟩
  | succ n ih =>
    obtain ⟨buf', hrun, hsize, hbytes⟩ :=
      ih (h.drain 1) (pos + 1) (buf.setIfInBounds pos (c.next 0))
        (by rw [Array.size_setIfInBounds]; omega)
    refine ⟨buf', ?_, by simpa using hsize, fun j => ?_⟩
    · simp only [receiveInto]
      rw [run_bind_ok (run_onLink (run_receive h) buf)]
      rw [drain_drain, Nat.add_comm 1] at hrun
      exact hrun
    · rw [hbytes j]
      by_cases hj : j = pos
      · rw [if_neg (by omega), if_pos (by omega), hj, Nat.sub_self,
          Array.getElem?_setIfInBounds_self_of_lt (by omega)]
      · by_cases hin : pos + 1 ≤ j ∧ j < pos + 1 + n
        · rw [if_pos hin, if_pos (by omega), next_drain]
          congr 2
          omega
        · rw [if_neg hin, if_neg (by omega), Array.getElem?_setIfInBounds_ne (Ne.symm hj)]

/-- A command whose frame the card answers with the idle byte and then `r` returns `r`. -/
theorem run_command (h : Linked B C c) (cmd : Command) (a : UInt32) {r : UInt8}
    {rest : List UInt8} (hout : (c.sent cmd a).outgoing = 0xFF :: r :: rest) (hr : r ≠ 0xFF) :
    (command cmd a).run c = .ok r ((c.sent cmd a).drain 2) := by
  have hsent := h.sent cmd a
  simp only [command, RetryBudget.poll]
  rw [run_bind_ok (run_forM_send _ c), feed_frame h.selected h.frame]
  have hpoll := @run_pollN_found _ _ _ _ (fun b => if b ≠ r1None then some b else none)
    responsePolls.maxAttempts.toNat 1 r hsent (by decide)
    (fun k hk => by
      have hk0 : k = 0 := by omega
      subst hk0
      simp [next, hout, r1None])
    (by simp [next, hout, r1None, hr])
  rw [run_bind_ok hpoll]
  rfl

theorem command_keeps (cmd : Command) (a : UInt32) :
    OkTriple (Linked B C) (command cmd a : EStateM BusFault SimulatedCard UInt8)
      fun _ => Linked B C := by
  have hsend : OkTriple (Linked B C)
      ((cmd.frame a).forM SpiLink.send : EStateM BusFault SimulatedCard PUnit)
      fun _ => Linked B C :=
    OkTriple.of_run fun c h => ⟨(), _, run_forM_send _ c, by
      rw [feed_frame h.selected h.frame]
      exact h.sent cmd a⟩
  have hreceive : OkTriple (Linked B C) (SpiLink.receive : EStateM BusFault SimulatedCard UInt8)
      fun _ => Linked B C :=
    OkTriple.of_run fun c h => ⟨_, _, run_receive h, h.drain 1⟩
  simp only [command]
  refine OkTriple.bind hsend fun _ => ?_
  refine OkTriple.bind (OkTriple.pollN ?_ _) fun _ => OkTriple.pure fun _ h => h
  exact OkTriple.bind hreceive fun _ => OkTriple.pure fun _ h => h

theorem receiveBytes_keeps (n : Nat) :
    OkTriple (Linked B C) (receiveBytes n : EStateM BusFault SimulatedCard (List UInt8))
      fun _ => Linked B C :=
  OkTriple.of_run fun _ h => ⟨_, _, run_receiveBytes h n, h.drain n⟩

end SdCard

end PinballAudio
