import PinballAudio.Proofs.Card.Validation
import PinballAudio.Proofs.Card.ReadFaults

/-!
# Every wait of the driver is bounded

Every loop of the driver polls a fixed budget, so bring-up and a read make a bounded number of
transfer calls whatever the card answers and wherever the link fails. Counted over a scripted
link, bring-up makes at most `10 + 14 + 18 + 5000 * 28 + 18 = 140060` calls: the wake-up filler,
the reset, the interface check and its four answer bytes, five thousand rounds of the two ready
commands, and the capacity query with its register. A read makes at most `14 + 5000 + 514 = 5528`:
the read command with its response poll, the token poll, and the block with its checksum. Each
count is the sum of the counts of the steps, taken from the `do` block with the rules of
`CostsAtMost`; a transfer that fails is still counted, so faults change nothing. `bringUp_eq`
and `readPartial_of_selected` give each call in terms of the runs of its steps, which carries the
counts of the steps to the whole call.

Both bounds are reached: a script that answers each poll at its last attempt makes bring-up take
all 140060 calls and a read all 5528. `ahead` reads the script from the link's position, and the
run lemmas of the section `Script` hold at any position, so the slow runs are chains of rewrites
rather than evaluations of 140000 steps.
-/

namespace PinballAudio

open Bench Bench.ScriptedLink HoldsLink

def transferCount {σ : Type} [HoldsLink σ] (t : σ) : Nat := (link t).transfers

namespace Bench.ScriptedLink

/-- The byte the script answers `j` selected transfers from now: the idle byte once it is used
up. -/
def ahead (s : ScriptedLink) (j : Nat) : UInt8 := s.script[s.pos + j]?.getD 0xFF

@[simp] theorem ahead_clocked (s : ScriptedLink) (bytes : List UInt8) (j : Nat) :
    (s.clocked bytes).ahead j = s.ahead (bytes.length + j) := by
  simp only [ahead, clocked, Nat.add_assoc]

theorem ahead_of_answers {g : Nat → UInt8} {N : Nat} (hg : ∀ i, N ≤ i → g i = Card.r1None)
    {s : ScriptedLink} (hs : s.script = ((List.range N).map g).toArray) (j : Nat) :
    s.ahead j = g (s.pos + j) := by
  rw [ahead, hs, List.getElem?_toArray, List.getElem?_map]
  by_cases h : s.pos + j < N
  · rw [List.getElem?_range h]
    rfl
  · rw [List.getElem?_eq_none (by simp only [List.length_range]; omega), hg _ (by omega)]
    rfl

end Bench.ScriptedLink

namespace CostsAtMost

variable {ε σ α β : Type} {c : σ → Nat} {n : Nat}

theorem ite_throw {p : Prop} [Decidable p] {e : ε} {f : α → EStateM ε σ β} {y : EStateM ε σ β}
    (hy : CostsAtMost c n y) : CostsAtMost c n (if p then MonadExcept.throw e >>= f else y) := by
  by_cases hp : p
  · rw [if_pos hp]
    exact mono (fun t => Nat.le_add_right (c t) 0) (Nat.zero_le n)
  · rw [if_neg hp]
    exact hy

end CostsAtMost

theorem exists_resultOf {ε σ α : Type} (x : EStateM.Result ε σ α) : ∃ r s, x = resultOf r s := by
  cases x with
  | ok a s => exact ⟨.ok a, s, rfl⟩
  | error e s => exact ⟨.error e, s, rfl⟩

@[simp] theorem finalState_resultOf {ε σ α : Type} (r : Except ε α) (s : σ) :
    finalState (resultOf r s) = s := by
  cases r <;> rfl

namespace SdCard

open Card SpiLink

section Costs

theorem costs_transfer (b : UInt8) :
    CostsAtMost transferCount 1 (SpiLink.transfer b : EStateM BusFault ScriptedLink UInt8) := by
  intro s
  change (finalState (ScriptedLink.transfer b s)).transfers ≤ s.transfers + 1
  unfold ScriptedLink.transfer
  dsimp only
  split
  · rfl
  · split <;> rfl

theorem costs_setDivider (d : ClockDivider) :
    CostsAtMost transferCount 0 (SpiLink.setDivider d : EStateM BusFault ScriptedLink Unit) := by
  intro s
  change (finalState (ScriptedLink.setDivider d s)).transfers ≤ s.transfers + 0
  unfold ScriptedLink.setDivider
  dsimp only
  split <;> rfl

theorem costs_drive (low : Bool) :
    CostsAtMost transferCount 0 (ScriptedLink.drive low : EStateM BusFault ScriptedLink Unit) := by
  intro s
  change (finalState (ScriptedLink.drive low s)).transfers ≤ s.transfers + 0
  unfold ScriptedLink.drive
  dsimp only
  split <;> rfl

theorem costs_select : CostsAtMost transferCount 0 (select : EStateM BusFault ScriptedLink Unit) :=
  costs_drive true

theorem costs_deselect :
    CostsAtMost transferCount 0 (deselect : EStateM BusFault ScriptedLink Unit) :=
  costs_drive false

theorem costs_send (b : UInt8) :
    CostsAtMost transferCount 1 (send b : EStateM BusFault ScriptedLink Unit) :=
  (costs_transfer b).bind fun _ => CostsAtMost.pure ()

theorem costs_sendAll (bytes : List UInt8) :
    CostsAtMost transferCount bytes.length (bytes.forM send : EStateM BusFault ScriptedLink PUnit) := by
  induction bytes with
  | nil => exact CostsAtMost.pure _
  | cons b bytes ih =>
    rw [List.length_cons, Nat.add_comm]
    exact (costs_send b).bind fun _ => ih

theorem costs_setDivisor (d : UInt32) :
    CostsAtMost transferCount 0 (setDivisor d : EStateM BusFault ScriptedLink ClockDivider) :=
  (costs_setDivider _).bind fun _ => CostsAtMost.pure _

theorem costs_command (cmd : Command) (a : UInt32) :
    CostsAtMost transferCount 14 (command cmd a : EStateM BusFault ScriptedLink UInt8) := by
  unfold command RetryBudget.poll
  refine CostsAtMost.mono ((costs_sendAll _).bind fun _ =>
    (CostsAtMost.pollN ((costs_transfer filler).bind fun _ => CostsAtMost.pure _) _).bind
      fun _ => CostsAtMost.pure _) ?_
  rw [frame_length]
  decide

theorem costs_receiveBytes (n : Nat) :
    CostsAtMost transferCount n (receiveBytes n : EStateM BusFault ScriptedLink (List UInt8)) := by
  induction n with
  | zero => exact CostsAtMost.pure _
  | succ n ih =>
    exact CostsAtMost.mono ((costs_transfer filler).bind fun _ => ih.bind fun _ =>
      CostsAtMost.pure _) (by omega)

theorem costs_readyRound :
    CostsAtMost transferCount 28 (readyRound : EStateM BusFault ScriptedLink (Option Unit)) :=
  (costs_command _ _).bind fun _ => (costs_command _ _).bind fun _ => CostsAtMost.pure _

theorem costs_onBus {ε α : Type} {n : Nat} {x : EStateM BusFault ScriptedLink α}
    (hx : CostsAtMost transferCount n x) (e : ε) :
    CostsAtMost transferCount n (onBus e x) :=
  hx.adaptExcept _

theorem costs_identify :
    CostsAtMost transferCount 140060 (identify : EStateM InitError ScriptedLink CardKind) := by
  unfold identify
  apply CostsAtMost.mono
  · apply (costs_onBus (costs_setDivisor _) _).bind
    intro _
    apply (costs_onBus costs_deselect _).bind
    intro _
    apply (costs_onBus (costs_sendAll _) _).bind
    intro _
    apply (costs_onBus costs_select _).bind
    intro _
    apply (costs_onBus (costs_command _ _) _).bind
    intro _
    apply CostsAtMost.ite_throw
    apply (costs_onBus (costs_command _ _) _).bind
    intro _
    apply CostsAtMost.ite_throw
    apply (costs_onBus (costs_receiveBytes 4) _).bind
    intro _
    apply CostsAtMost.ite_throw
    apply (costs_onBus (CostsAtMost.pollN costs_readyRound _) _).bind
    intro _
    apply CostsAtMost.ite_throw
    apply (costs_onBus (costs_command _ _) _).bind
    intro _
    -- the register read costs more than assuming a standard card, so it sets the count
    apply CostsAtMost.ite
    swap
    · exact fun _ => (costs_onBus (costs_receiveBytes 4) _).bind fun _ => CostsAtMost.pure _
    · exact fun _ => CostsAtMost.mono (CostsAtMost.pure _) (Nat.zero_le _)
  · simp [timeoutPolls_toNat, Board.sdWakeFillerBytes]

theorem costs_onLink {α : Type} {n : Nat} {x : EStateM BusFault ScriptedLink α}
    (hx : CostsAtMost transferCount n x) :
    CostsAtMost transferCount n (onLink x : EStateM IoError (ScriptedLink × Array UInt8) α) := by
  intro t
  have h := hx t.1
  change (finalState ((onLink x : EStateM IoError (ScriptedLink × Array UInt8) α).run t)).1.transfers ≤
    t.1.transfers + n
  rw [finalState_onLink]
  exact h

theorem costs_discard (n : Nat) :
    CostsAtMost transferCount n (discard n : EStateM BusFault ScriptedLink Unit) := by
  induction n with
  | zero => exact CostsAtMost.pure _
  | succ n ih => exact CostsAtMost.mono ((costs_transfer filler).bind fun _ => ih) (by omega)

theorem costs_store (pos : Nat) (b : UInt8) :
    CostsAtMost transferCount 0 (modify fun s => (s.1, s.2.setIfInBounds pos b) :
      EStateM IoError (ScriptedLink × Array UInt8) PUnit) :=
  fun t => Nat.le_add_right t.1.transfers 0

theorem costs_receiveInto (pos n : Nat) :
    CostsAtMost transferCount n
      (receiveInto pos n : EStateM IoError (ScriptedLink × Array UInt8) Unit) := by
  induction n generalizing pos with
  | zero => exact CostsAtMost.pure _
  | succ n ih =>
    exact CostsAtMost.mono ((costs_onLink (costs_transfer filler)).bind fun b =>
      (costs_store pos b).bind fun _ => ih (pos + 1)) (by omega)

theorem costs_awaitToken :
    CostsAtMost transferCount 5000 (awaitToken : EStateM BusFault ScriptedLink (Option Unit)) := by
  unfold awaitToken RetryBudget.poll
  refine CostsAtMost.mono (CostsAtMost.pollN ((costs_transfer filler).bind fun _ =>
    CostsAtMost.pure _) _) ?_
  rw [timeoutPolls_toNat]

theorem costs_readWindow (address : UInt32) (w : ReadWindow) :
    CostsAtMost transferCount 5528
      (readWindow address w : EStateM IoError (ScriptedLink × Array UInt8) Unit) := by
  have hblock := w.endOffset_add_trailing
  unfold readWindow
  apply CostsAtMost.mono
  · apply (costs_onLink (costs_command _ _)).bind
    intro _
    apply CostsAtMost.ite_throw
    apply (costs_onLink costs_awaitToken).bind
    intro _
    apply CostsAtMost.ite_throw
    apply (costs_onLink (costs_discard _)).bind
    intro _
    apply (costs_receiveInto _ _).bind
    intro _
    exact costs_onLink (costs_discard _)
  · simp only [ReadWindow.endOffset, Board.blockSize, Board.crcBytes] at hblock ⊢
    omega

end Costs

theorem run_onLink_of_ok {σ α : Type} {x : EStateM BusFault σ α} {l l' : σ} {a : α}
    (buf : Array UInt8) (h : x.run l = .ok a l') : (onLink x).run (l, buf) = .ok a (l', buf) := by
  simp only [onLink, EStateM.run]
  rw [show x l = .ok a l' from h]

section Shapes

variable {σ : Type} [SpiLink σ]

theorem bringUp_eq (card : SdCard σ) {r : Except InitError CardKind} {l₁ : σ}
    (hid : (identify : EStateM InitError σ CardKind).run card.link = resultOf r l₁) :
    card.bringUp = match (deselect : EStateM BusFault σ Unit).run l₁ with
      | .error _ l₂ => (r.bind fun _ => .error .bus, ⟨l₂, .failed⟩)
      | .ok () l₂ => match r with
        | .error e => (.error e, ⟨l₂, .failed⟩)
        | .ok kind =>
          match (setDivisor Board.sdFastDivisor : EStateM BusFault σ ClockDivider).run l₂ with
          | .ok d l₃ => (.ok ⟨kind, d⟩, ⟨l₃, .idle kind⟩)
          | .error _ l₃ => (.error .bus, ⟨l₃, .failed⟩) := by
  cases r with
  | error e =>
    have h : (identify : EStateM InitError σ CardKind).run card.link = .error e l₁ := hid
    cases hd : (deselect : EStateM BusFault σ Unit).run l₁ with
    | error f l₂ =>
      simp only [bringUp, h, hd]
      rfl
    | ok u l₂ => simp only [bringUp, h, hd]
  | ok kind =>
    have h : (identify : EStateM InitError σ CardKind).run card.link = .ok kind l₁ := hid
    cases hd : (deselect : EStateM BusFault σ Unit).run l₁ with
    | error f l₂ =>
      simp only [bringUp, h, hd]
      rfl
    | ok u l₂ =>
      cases hv : (setDivisor Board.sdFastDivisor : EStateM BusFault σ ClockDivider).run l₂ with
      | ok d l₃ =>
        simp only [bringUp, h, hd, hv]
        rfl
      | error f l₃ =>
        simp only [bringUp, h, hd, hv]
        rfl

theorem bringUp_link (card : SdCard σ) {l₁ l₂ : σ}
    (h₁ : finalState ((identify : EStateM InitError σ CardKind).run card.link) = l₁)
    (h₂ : finalState ((deselect : EStateM BusFault σ Unit).run l₁) = l₂) :
    card.bringUp.2.link = l₂ ∨ card.bringUp.2.link =
      finalState ((setDivisor Board.sdFastDivisor : EStateM BusFault σ ClockDivider).run l₂) := by
  obtain ⟨r, l, hid⟩ := exists_resultOf ((identify : EStateM InitError σ CardKind).run card.link)
  have hl : l = l₁ := by
    rw [← h₁, hid]
    cases r <;> rfl
  subst hl h₂
  rw [bringUp_eq card hid]
  cases (deselect : EStateM BusFault σ Unit).run l with
  | error f l => exact .inl rfl
  | ok u l =>
    rw [finalState_ok]
    cases r with
    | error e => exact .inl rfl
    | ok kind =>
      dsimp only
      cases (setDivisor Board.sdFastDivisor : EStateM BusFault σ ClockDivider).run l with
      | ok d l' => exact .inr rfl
      | error f l' => exact .inr rfl

section ReadShapes

variable {card : SdCard σ} {block : UInt32} {offset length : UInt16} {buf : Array UInt8}
  {w : ReadWindow} {k : CardKind} {a : UInt32}

theorem readPartial_of_select_error (hw : ReadWindow.make offset length buf.size = .ok w)
    (hs : card.state = .idle k) (ha : k.wireAddress block = some a) {f : BusFault} {l : σ}
    (hsel : (select : EStateM BusFault σ Unit).run card.link = .error f l) :
    card.readPartial block offset length buf = ((.error .bus, buf), { card with link := l }) := by
  simp only [readPartial, hw, hs, ha, hsel]

theorem readPartial_of_selected (hw : ReadWindow.make offset length buf.size = .ok w)
    (hs : card.state = .idle k) (ha : k.wireAddress block = some a) {l : σ}
    {r : Except IoError Unit} {t : σ × Array UInt8}
    (hsel : (select : EStateM BusFault σ Unit).run card.link = .ok () l)
    (hrun : (readWindow a w).run (l, buf) = resultOf r t) :
    card.readPartial block offset length buf =
      match (deselect : EStateM BusFault σ Unit).run t.1 with
      | .ok () l₂ => ((r, t.2), { card with link := l₂ })
      | .error _ l₂ => ((r.bind fun _ => .error .bus, t.2), { card with link := l₂ }) := by
  obtain ⟨l₁, buf₁⟩ := t
  cases r with
  | ok u =>
    have h : (readWindow a w).run (l, buf) = .ok u (l₁, buf₁) := hrun
    cases hd : (deselect : EStateM BusFault σ Unit).run l₁ with
    | ok v l₂ => simp only [readPartial, hw, hs, ha, hsel, h, hd]
    | error f l₂ =>
      simp only [readPartial, hw, hs, ha, hsel, h, hd]
      rfl
  | error e =>
    have h : (readWindow a w).run (l, buf) = .error e (l₁, buf₁) := hrun
    cases hd : (deselect : EStateM BusFault σ Unit).run l₁ with
    | ok v l₂ => simp only [readPartial, hw, hs, ha, hsel, h, hd]
    | error f l₂ =>
      simp only [readPartial, hw, hs, ha, hsel, h, hd]
      rfl

variable (card block offset length buf) in
theorem readPartial_link :
    (card.readPartial block offset length buf).2.link = card.link ∨
    (card.readPartial block offset length buf).2.link =
      finalState ((select : EStateM BusFault σ Unit).run card.link) ∨
    ∃ a w l, (select : EStateM BusFault σ Unit).run card.link = .ok () l ∧
      (card.readPartial block offset length buf).2.link = finalState
        ((deselect : EStateM BusFault σ Unit).run (finalState ((readWindow a w).run (l, buf))).1) := by
  cases h : card.state.refusal block offset length buf.size with
  | some e => exact .inl (by rw [readPartial_of_refusal h])
  | none =>
    obtain ⟨w, k, a, hw, -, -, hs, ha⟩ := CardState.accepted_of_refusal_eq_none h
    cases hsel : (select : EStateM BusFault σ Unit).run card.link with
    | error f l => exact .inr (.inl (by rw [readPartial_of_select_error hw hs ha hsel]; rfl))
    | ok u l =>
      obtain ⟨r, t, hrun⟩ := exists_resultOf ((readWindow a w).run (l, buf))
      refine .inr (.inr ⟨a, w, l, rfl, ?_⟩)
      rw [readPartial_of_selected hw hs ha hsel hrun, hrun, finalState_resultOf]
      cases (deselect : EStateM BusFault σ Unit).run t.1 <;> rfl

end ReadShapes

end Shapes

section Script

variable {s : ScriptedLink}

/-!
Runs over a selected link with no fault armed, where every transfer answers the next byte of the
script: what the worst-case scripts below make bring-up and a read do.
-/

theorem run_receive_script (hs : s.selected = true) (hf : s.failTransferAt = none) :
    (receive : EStateM BusFault ScriptedLink UInt8).run s = .ok (s.ahead 0) (s.clocked [filler]) :=
  transfer_selected hs hf filler

theorem run_attempt_script {α : Type} (f : UInt8 → Option α) (hs : s.selected = true)
    (hf : s.failTransferAt = none) :
    (do let b ← receive; Pure.pure (f b) : EStateM BusFault ScriptedLink (Option α)).run s =
      .ok (f (s.ahead 0)) (s.clocked [filler]) := by
  rw [run_bind_ok (run_receive_script hs hf)]
  rfl

theorem run_sendAll_script (hs : s.selected = true) (hf : s.failTransferAt = none)
    (bytes : List UInt8) :
    (bytes.forM send : EStateM BusFault ScriptedLink PUnit).run s = .ok () (s.clocked bytes) := by
  induction bytes generalizing s with
  | nil =>
    rw [clocked_nil]
    rfl
  | cons b bytes ih =>
    change (send b >>= fun _ => bytes.forM send).run s = _
    rw [run_bind_ok (run_send_ok (transfer_selected hs hf b)), @ih (s.clocked [b]) hs hf,
      clocked_append]
    rfl

theorem run_pollN_script_found {α : Type} {f : UInt8 → Option α} (hs : s.selected = true)
    (hf : s.failTransferAt = none) {n d : Nat} {v : α} (hd : d < n)
    (hnone : ∀ k < d, f (s.ahead k) = none) (hsome : f (s.ahead d) = some v) :
    (RetryBudget.pollN (do let b ← receive; Pure.pure (f b)) n :
      EStateM BusFault ScriptedLink (Option α)).run s =
        .ok (some v) (s.clocked (List.replicate (d + 1) filler)) := by
  induction n generalizing s d with
  | zero => omega
  | succ n ih =>
    simp only [RetryBudget.pollN]
    rw [run_bind_ok (run_attempt_script f hs hf)]
    cases d with
    | zero =>
      rw [hsome]
      rfl
    | succ d =>
      rw [hnone 0 (by omega)]
      have hrest := @ih (s.clocked [filler]) hs hf d (by omega)
        (fun k hk => by simpa [Nat.add_comm] using hnone (k + 1) (by omega))
        (by simpa [Nat.add_comm] using hsome)
      rw [clocked_append] at hrest
      exact hrest

theorem run_pollN_script_none {α : Type} {f : UInt8 → Option α} (hs : s.selected = true)
    (hf : s.failTransferAt = none) {n : Nat} (hnone : ∀ k < n, f (s.ahead k) = none) :
    (RetryBudget.pollN (do let b ← receive; Pure.pure (f b)) n :
      EStateM BusFault ScriptedLink (Option α)).run s =
        .ok none (s.clocked (List.replicate n filler)) := by
  induction n generalizing s with
  | zero =>
    rw [List.replicate_zero, clocked_nil]
    rfl
  | succ n ih =>
    simp only [RetryBudget.pollN]
    rw [run_bind_ok (run_attempt_script f hs hf), hnone 0 (by omega)]
    have hrest := @ih (s.clocked [filler]) hs hf
      (fun k hk => by simpa [Nat.add_comm] using hnone (k + 1) (by omega))
    rw [clocked_append] at hrest
    exact hrest

theorem run_receiveBytes_script (hs : s.selected = true) (hf : s.failTransferAt = none)
    (n : Nat) :
    (receiveBytes n : EStateM BusFault ScriptedLink (List UInt8)).run s =
      .ok ((List.range n).map s.ahead) (s.clocked (List.replicate n filler)) := by
  induction n generalizing s with
  | zero =>
    rw [List.replicate_zero, clocked_nil]
    rfl
  | succ n ih =>
    simp only [receiveBytes]
    rw [run_bind_ok (run_receive_script hs hf), run_bind_ok (@ih (s.clocked [filler]) hs hf),
      clocked_append, List.range_succ_eq_map, List.map_cons, List.map_map]
    simp [Function.comp_def, Nat.add_comm 1, List.replicate_succ]

theorem run_discard_script (hs : s.selected = true) (hf : s.failTransferAt = none) (n : Nat) :
    (discard n : EStateM BusFault ScriptedLink Unit).run s =
      .ok () (s.clocked (List.replicate n filler)) := by
  induction n generalizing s with
  | zero =>
    rw [List.replicate_zero, clocked_nil]
    rfl
  | succ n ih =>
    simp only [discard]
    rw [run_bind_ok (run_receive_script hs hf), @ih (s.clocked [filler]) hs hf, clocked_append]
    rfl

theorem run_command_script (hs : s.selected = true) (hf : s.failTransferAt = none)
    (cmd : Command) (a : UInt32) (hidle : ∀ k < 7, s.ahead (6 + k) = r1None) :
    (command cmd a : EStateM BusFault ScriptedLink UInt8).run s =
      .ok (s.ahead 13) (s.clocked (cmd.frame a ++ List.replicate 8 filler)) := by
  simp only [command, RetryBudget.poll]
  rw [run_bind_ok (run_sendAll_script hs hf _)]
  have hpolls : responsePolls.maxAttempts.toNat = 8 := rfl
  have hnone : ∀ k < 7, (fun b => if b ≠ r1None then some b else none)
      ((s.clocked (cmd.frame a)).ahead k) = none := by
    intro k hk
    simp [frame_length, hidle k hk]
  by_cases hlast : s.ahead 13 = r1None
  · have hpoll := @run_pollN_script_none (s.clocked (cmd.frame a)) _
      (fun b => if b ≠ r1None then some b else none) hs hf responsePolls.maxAttempts.toNat (by
        rw [hpolls]
        intro k hk
        by_cases hk7 : k < 7
        · exact hnone k hk7
        · obtain rfl : k = 7 := by omega
          simp [frame_length, hlast])
    rw [run_bind_ok hpoll, clocked_append, hlast, hpolls]
    rfl
  · have hpoll := @run_pollN_script_found (s.clocked (cmd.frame a)) _
      (fun b => if b ≠ r1None then some b else none) hs hf responsePolls.maxAttempts.toNat 7 (s.ahead 13) (by rw [hpolls]; omega) hnone
      (by simp [frame_length, hlast])
    rw [run_bind_ok hpoll, clocked_append]
    rfl

/-- The calls of one ready round: the application prefix and the operating-condition request,
each with its eight response polls. -/
def readyRoundBytes : List UInt8 :=
  Command.appCmd.frame 0 ++ List.replicate 8 filler ++
    (Command.sdSendOpCond.frame hostCapacitySupport ++ List.replicate 8 filler)

theorem length_readyRoundBytes : readyRoundBytes.length = 28 := by
  simp [readyRoundBytes, frame_length]

theorem length_readyRounds (n : Nat) : (List.replicate n readyRoundBytes).flatten.length = 28 * n := by
  simp [length_readyRoundBytes, Nat.mul_comm]

theorem run_readyRound_script (hs : s.selected = true) (hf : s.failTransferAt = none)
    (h₁ : ∀ k < 7, s.ahead (6 + k) = r1None) (h₂ : ∀ k < 7, s.ahead (20 + k) = r1None) :
    (readyRound : EStateM BusFault ScriptedLink (Option Unit)).run s =
      .ok (if s.ahead 27 = r1Ready then some () else none) (s.clocked readyRoundBytes) := by
  unfold readyRound
  rw [run_bind_ok (run_command_script hs hf _ _ h₁)]
  have h₂' : ∀ k < 7, (s.clocked (Command.appCmd.frame 0 ++ List.replicate 8 filler)).ahead
      (6 + k) = r1None := by
    intro k hk
    simpa [frame_length, ← Nat.add_assoc] using h₂ k hk
  rw [run_bind_ok (@run_command_script (s.clocked (Command.appCmd.frame 0 ++
    List.replicate 8 filler)) hs hf _ _ h₂'), clocked_append]
  simp [frame_length, readyRoundBytes]

theorem run_readyLoop_script (hs : s.selected = true) (hf : s.failTransferAt = none)
    {m n : Nat} (hmn : m < n) (hquiet : ∀ k < 28 * m + 27, s.ahead k = r1None)
    (hready : s.ahead (28 * m + 27) = r1Ready) :
    (RetryBudget.pollN readyRound n : EStateM BusFault ScriptedLink (Option Unit)).run s =
      .ok (some ()) (s.clocked (List.replicate (m + 1) readyRoundBytes).flatten) := by
  induction m generalizing s n with
  | zero =>
    obtain ⟨n, rfl⟩ : ∃ n', n = n' + 1 := ⟨n - 1, by omega⟩
    simp only [RetryBudget.pollN]
    rw [run_bind_ok (run_readyRound_script hs hf (fun k hk => hquiet (6 + k) (by omega))
      (fun k hk => hquiet (20 + k) (by omega))), if_pos hready]
    simp
  | succ m ih =>
    obtain ⟨n, rfl⟩ : ∃ n', n = n' + 1 := ⟨n - 1, by omega⟩
    simp only [RetryBudget.pollN]
    rw [run_bind_ok (run_readyRound_script hs hf (fun k hk => hquiet (6 + k) (by omega))
      (fun k hk => hquiet (20 + k) (by omega))), if_neg (by rw [hquiet 27 (by omega)]; decide)]
    have hrest := @ih (s.clocked readyRoundBytes) hs hf n (by omega)
      (fun k hk => by rw [ahead_clocked, length_readyRoundBytes]; exact hquiet _ (by omega))
      (by rw [ahead_clocked, length_readyRoundBytes, ← hready]; congr 1; omega)
    rw [clocked_append] at hrest
    rw [List.replicate_succ, List.flatten_cons]
    exact hrest

end Script

section Slowest

/-- The answers of a script that makes bring-up wait as long as it can, by position after the
wake-up: the reset and the interface check answered idle at their last poll, the check pattern
echoed, the card ready at the last poll of the last of the 5000 rounds, and the capacity query
answered at its last poll. Every other byte is idle, so the register read after it names a
high-capacity card. -/
def slowBringUpAnswer (i : Nat) : UInt8 :=
  if i = 13 ∨ i = 27 then r1Idle
  else if i = 31 then ifCondCheckPattern
  else if i = 140031 ∨ i = 140045 then r1Ready
  else r1None

theorem slowBringUpAnswer_idle {i : Nat}
    (h : i ≠ 13 ∧ i ≠ 27 ∧ i ≠ 31 ∧ i ≠ 140031 ∧ i ≠ 140045) : slowBringUpAnswer i = r1None := by
  rw [slowBringUpAnswer, if_neg (by omega), if_neg (by omega), if_neg (by omega)]

def slowBringUpScript : Array UInt8 := ((List.range 140046).map slowBringUpAnswer).toArray

def slowBringUpLink : ScriptedLink := { script := slowBringUpScript }

theorem ahead_slowBringUp (bytes : List UInt8) (j : Nat) :
    (slowBringUpLink.woken.clocked bytes).ahead j = slowBringUpAnswer (bytes.length + j) := by
  rw [ahead_clocked, ahead_of_answers (fun i hi => slowBringUpAnswer_idle (by omega)) rfl]
  exact congrArg slowBringUpAnswer (Nat.zero_add _)

theorem run_command_slowBringUp (bytes : List UInt8) (cmd : Command) (a : UInt32)
    (hidle : ∀ k < 7, slowBringUpAnswer (bytes.length + (6 + k)) = r1None) :
    (command cmd a : EStateM BusFault ScriptedLink UInt8).run (slowBringUpLink.woken.clocked bytes) =
      .ok (slowBringUpAnswer (bytes.length + 13))
        (slowBringUpLink.woken.clocked (bytes ++ (cmd.frame a ++ List.replicate 8 filler))) := by
  rw [@run_command_script (slowBringUpLink.woken.clocked bytes) rfl rfl cmd a
    (fun k hk => by rw [ahead_slowBringUp]; exact hidle k hk), ahead_slowBringUp, clocked_append]

theorem run_receiveBytes_slowBringUp (bytes : List UInt8) (n : Nat) :
    (receiveBytes n : EStateM BusFault ScriptedLink (List UInt8)).run
        (slowBringUpLink.woken.clocked bytes) =
      .ok ((List.range n).map fun j => slowBringUpAnswer (bytes.length + j))
        (slowBringUpLink.woken.clocked (bytes ++ List.replicate n filler)) := by
  have hahead : (slowBringUpLink.woken.clocked bytes).ahead =
      fun j => slowBringUpAnswer (bytes.length + j) := funext (ahead_slowBringUp bytes)
  rw [@run_receiveBytes_script (slowBringUpLink.woken.clocked bytes) rfl rfl n, clocked_append,
    hahead]

theorem run_readyLoop_slowBringUp (bytes : List UInt8) (hlen : bytes.length = 32) :
    (RetryBudget.pollN readyRound 5000 : EStateM BusFault ScriptedLink (Option Unit)).run
        (slowBringUpLink.woken.clocked bytes) =
      .ok (some ()) (slowBringUpLink.woken.clocked
        (bytes ++ (List.replicate 5000 readyRoundBytes).flatten)) := by
  rw [@run_readyLoop_script (slowBringUpLink.woken.clocked bytes) rfl rfl 4999 5000 (by omega)
    (fun k hk => by rw [ahead_slowBringUp, hlen]; exact slowBringUpAnswer_idle (by omega))
    (by rw [ahead_slowBringUp, hlen]; rfl), clocked_append]

/-- Identification against `slowBringUpLink` takes all of its calls: the reset, the interface
check and its four answer bytes, 5000 ready rounds, and the capacity query with its register,
140050 calls after the wake-up. -/
theorem run_identify_slowBringUp : ∃ bytes : List UInt8, bytes.length = 140050 ∧
    (identify : EStateM InitError ScriptedLink CardKind).run slowBringUpLink =
      .ok .highCapacity (slowBringUpLink.woken.clocked bytes) := by
  have a₁ : slowBringUpAnswer 13 = r1Idle := rfl
  have a₂ : slowBringUpAnswer 27 = r1Idle := rfl
  have a₃ : slowBringUpAnswer 31 = ifCondCheckPattern := rfl
  have a₄ : slowBringUpAnswer 140045 = r1Ready := rfl
  have a₅ : slowBringUpAnswer 140046 = r1None := rfl
  unfold identify
  rw [run_wake_scripted rfl (by decide) (by decide) rfl, ← clocked_nil slowBringUpLink.woken]
  rw [run_bind_ok (run_onBus_of_ok _ (run_command_slowBringUp _ _ _ ?reset))]
  case reset => exact fun k hk => slowBringUpAnswer_idle (by simp; omega)
  simp only [List.length_nil, List.nil_append, Nat.zero_add, a₁, ne_eq, not_true_eq_false,
    if_false]
  rw [run_bind_ok (run_onBus_of_ok _ (run_command_slowBringUp _ _ _ ?check))]
  case check => exact fun k hk => slowBringUpAnswer_idle (by simp [frame_length]; omega)
  simp only [List.length_append, List.length_replicate, frame_length, Nat.reduceAdd, a₂,
    not_true_eq_false, if_false]
  rw [run_bind_ok (run_onBus_of_ok _ (run_receiveBytes_slowBringUp _ 4))]
  simp only [List.length_append, List.length_replicate, frame_length, Nat.reduceAdd,
    List.getElem?_map, List.getElem?_range (show 3 < 4 by decide), Option.map_some, a₃,
    not_true_eq_false, if_false]
  simp only [RetryBudget.poll, timeoutPolls_toNat]
  rw [run_bind_ok (run_onBus_of_ok _ (run_readyLoop_slowBringUp _ ?loop))]
  case loop => simp [frame_length]
  simp only [Option.isNone_some, Bool.false_eq_true, if_false]
  rw [run_bind_ok (run_onBus_of_ok _ (run_command_slowBringUp _ _ _ ?query))]
  case query =>
    intro k hk
    apply slowBringUpAnswer_idle
    simp only [List.length_append, List.length_replicate, frame_length, length_readyRounds]
    omega
  simp only [List.length_append, List.length_replicate, frame_length, length_readyRounds,
    Nat.reduceAdd, Nat.reduceMul, a₄, not_true_eq_false, if_false]
  rw [run_bind_ok (run_onBus_of_ok _ (run_receiveBytes_slowBringUp _ 4))]
  simp only [List.length_append, List.length_replicate, frame_length, length_readyRounds,
    Nat.reduceAdd, Nat.reduceMul]
  have hocr : ((List.range 4).map fun j => slowBringUpAnswer (140046 + j)).headD 0 = r1None := by
    rw [List.range_succ_eq_map, List.map_cons, List.headD_cons, Nat.add_zero, a₅]
  rw [hocr, if_pos (by decide), clocked_nil]
  refine ⟨_, ?_, rfl⟩
  simp only [List.length_append, List.length_replicate, frame_length, length_readyRounds]

/-- The answers of a script that makes a read wait as long as it can, by position after the
select call: the read command answered ready at its last poll, and the data token at the last of
its 5000 polls. -/
def slowReadAnswer (i : Nat) : UInt8 :=
  if i = 13 then r1Ready else if i = 5013 then dataStartToken else r1None

theorem slowReadAnswer_idle {i : Nat} (h : i ≠ 13 ∧ i ≠ 5013) : slowReadAnswer i = r1None := by
  rw [slowReadAnswer, if_neg (by omega), if_neg (by omega)]

def slowReadScript : Array UInt8 := ((List.range 5014).map slowReadAnswer).toArray

def slowReadLink : ScriptedLink := { script := slowReadScript }

theorem ahead_slowRead (bytes : List UInt8) (j : Nat) :
    ((slowReadLink.driven true).clocked bytes).ahead j = slowReadAnswer (bytes.length + j) := by
  rw [ahead_clocked, ahead_of_answers (fun i hi => slowReadAnswer_idle (by omega)) rfl]
  exact congrArg slowReadAnswer (Nat.zero_add _)

def emptyWindow : ReadWindow := ⟨0, 0, by decide, by decide⟩

/-- The exchange of a read against `slowReadLink` takes all of its calls: the command with its
eight polls, the 5000 token polls and the 514 bytes of the block and its checksum. -/
theorem run_readWindow_slowRead : ∃ l : ScriptedLink,
    (readWindow 0 emptyWindow : EStateM IoError (ScriptedLink × Array UInt8) Unit).run
      (slowReadLink.driven true, #[]) = .ok () (l, #[]) ∧
    l.transfers = 5528 ∧ l.failSelectAt = none := by
  have hs : (slowReadLink.driven true).selected = true := rfl
  have hf : (slowReadLink.driven true).failTransferAt = none := rfl
  unfold readWindow
  rw [← clocked_nil (slowReadLink.driven true)]
  have hcmd := @run_command_script ((slowReadLink.driven true).clocked []) hs hf .readSingleBlock 0
    (fun k hk => by rw [ahead_slowRead, slowReadAnswer_idle (by simp; omega)])
  rw [ahead_slowRead, show slowReadAnswer (([] : List UInt8).length + 13) = r1Ready from rfl,
    clocked_append] at hcmd
  rw [run_bind_ok (run_onLink_of_ok _ hcmd)]
  simp only [ne_eq, not_true_eq_false, if_false]
  have htoken := @run_pollN_script_found ((slowReadLink.driven true).clocked
      ([] ++ (Command.readSingleBlock.frame 0 ++ List.replicate 8 filler))) _
    (fun b => if b = dataStartToken then some () else none) hs hf timeoutPolls.maxAttempts.toNat
    4999 () (by rw [timeoutPolls_toNat]; omega)
    (fun k hk => by
      rw [ahead_slowRead, slowReadAnswer_idle (by simp [frame_length]; omega)]
      rfl)
    (by
      rw [ahead_slowRead, show slowReadAnswer _ = dataStartToken by simp [frame_length]; rfl]
      rfl)
  rw [clocked_append] at htoken
  simp only [awaitToken, RetryBudget.poll]
  rw [run_bind_ok (run_onLink_of_ok _ htoken)]
  simp only [Option.isNone_some, Bool.false_eq_true, if_false]
  have hnone : ∀ t, (discard emptyWindow.offset : EStateM BusFault ScriptedLink Unit).run t =
      .ok () t := fun _ => rfl
  have hwindow : ∀ t, (receiveInto emptyWindow.offset emptyWindow.len :
      EStateM IoError (ScriptedLink × Array UInt8) Unit).run t = .ok () t := fun _ => rfl
  have htail := @run_discard_script ((slowReadLink.driven true).clocked ([] ++
    (Command.readSingleBlock.frame 0 ++ List.replicate 8 filler) ++ List.replicate (4999 + 1)
      filler)) hs hf (emptyWindow.trailing + Board.crcBytes)
  rw [clocked_append] at htail
  rw [run_bind_ok (run_onLink_of_ok _ (hnone _)), run_bind_ok (hwindow _)]
  refine ⟨_, run_onLink_of_ok _ htail, ?_, rfl⟩
  rw [transfers_clocked]
  simp only [List.length_append, List.length_nil, List.length_replicate, frame_length]
  rfl

end Slowest

section Totals

/-- Bring-up makes at most 140060 transfer calls, whatever the script answers and wherever the
link fails: identification's calls, and none for the release and the clock switch. -/
theorem bringUp_transfers_le (card : SdCard ScriptedLink) :
    card.bringUp.2.link.transfers ≤ card.link.transfers + 140060 := by
  obtain ⟨l₁, h₁⟩ : ∃ l₁, finalState
      ((identify : EStateM InitError ScriptedLink CardKind).run card.link) = l₁ := ⟨_, rfl⟩
  obtain ⟨l₂, h₂⟩ : ∃ l₂, finalState ((deselect : EStateM BusFault ScriptedLink Unit).run l₁) = l₂ :=
    ⟨_, rfl⟩
  have hid : l₁.transfers ≤ card.link.transfers + 140060 := h₁ ▸ costs_identify card.link
  have hdes : l₂.transfers ≤ l₁.transfers + 0 := h₂ ▸ costs_deselect l₁
  have hfast := costs_setDivisor Board.sdFastDivisor l₂
  simp only [transferCount, link_scripted] at hfast
  rcases bringUp_link card h₁ h₂ with h | h
  · rw [h]
    omega
  · rw [h]
    omega

/-- A read makes at most 5528 transfer calls, whatever the script answers and wherever the link
fails: none when the request is refused or the select call fails, and otherwise the exchange's. -/
theorem readPartial_transfers_le (card : SdCard ScriptedLink) (block : UInt32)
    (offset length : UInt16) (buf : Array UInt8) :
    (card.readPartial block offset length buf).2.link.transfers ≤ card.link.transfers + 5528 := by
  have hsel := costs_select card.link
  simp only [transferCount, link_scripted] at hsel
  rcases readPartial_link card block offset length buf with h | h | ⟨a, w, l, hl, h⟩
  · rw [h]
    omega
  · rw [h]
    omega
  · obtain ⟨t, ht⟩ : ∃ t, finalState ((readWindow a w :
        EStateM IoError (ScriptedLink × Array UInt8) Unit).run (l, buf)) = t := ⟨_, rfl⟩
    have hwin : t.1.transfers ≤ l.transfers + 5528 := ht ▸ costs_readWindow a w (l, buf)
    have hdes := costs_deselect t.1
    simp only [transferCount, link_scripted] at hdes
    rw [hl, finalState_ok] at hsel
    rw [h, ht]
    omega

end Totals

end SdCard

open SdCard

/-- Every wait of the driver is bounded. Over a scripted link with any script and any faults
armed, bring-up makes at most 140060 transfer calls and a read at most 5528, counted from the
link's own count. Both bounds are reached: bring-up takes all 140060 calls against a script that
answers each command at its last poll and is ready in the last of the 5000 rounds, and a read
takes all 5528 against a script that answers the command and the data token at their last
poll. -/
theorem every_wait_is_bounded_and_reached :
    (∀ card : SdCard ScriptedLink,
      card.bringUp.2.link.transfers ≤ card.link.transfers + 140060) ∧
    (∀ (card : SdCard ScriptedLink) (block : UInt32) (offset length : UInt16) (buf : Array UInt8),
      (card.readPartial block offset length buf).2.link.transfers ≤ card.link.transfers + 5528) ∧
    (∃ script : Array UInt8, (⟨{ script := script }, .uninitialized⟩ :
      SdCard ScriptedLink).bringUp.2.link.transfers = 140060) ∧
    (∃ script : Array UInt8, ((⟨{ script := script }, .idle .highCapacity⟩ :
      SdCard ScriptedLink).readPartial 0 0 0 #[]).2.link.transfers = 5528) := by
  refine ⟨bringUp_transfers_le, readPartial_transfers_le, ⟨slowBringUpScript, ?_⟩,
    ⟨slowReadScript, ?_⟩⟩
  · obtain ⟨bytes, hlen, hrun⟩ := run_identify_slowBringUp
    rw [show (⟨{ script := slowBringUpScript }, .uninitialized⟩ : SdCard ScriptedLink) =
      ⟨slowBringUpLink, .uninitialized⟩ from rfl]
    rw [@bringUp_of_identify ⟨slowBringUpLink, .uninitialized⟩ (.ok .highCapacity) _ hrun rfl rfl]
    dsimp only
    simp only [programmed, driven, transfers_clocked, hlen]
    rfl
  · obtain ⟨l, hrun, htransfers, hsel⟩ := run_readWindow_slowRead
    rw [show (⟨{ script := slowReadScript }, .idle .highCapacity⟩ : SdCard ScriptedLink) =
      ⟨slowReadLink, .idle .highCapacity⟩ from rfl]
    have hw : ReadWindow.make 0 0 (#[] : Array UInt8).size = .ok emptyWindow := by
      unfold ReadWindow.make
      rw [dif_pos (by decide)]
      rfl
    rw [@readPartial_of_window ⟨slowReadLink, .idle .highCapacity⟩ .highCapacity 0 0 0 #[]
      emptyWindow 0 rfl hw (wireAddress_highCapacity 0) rfl (.ok ()) (l, #[]) hrun hsel]
    exact htransfers

end PinballAudio
