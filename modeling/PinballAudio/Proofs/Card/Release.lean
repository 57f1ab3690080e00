import PinballAudio.Proofs.Card.Budget

/-!
# The select line is released on every exit

Bring-up and a read drive the select line low, talk to the card, and drive it high again on
every way out. Counted over a scripted link, whatever the script and wherever faults are armed:
bring-up's last select-line call is the release, so the card ends deselected unless that very
call was the injected fault; a refused read makes no call at all, and any other read makes one
call to select and, unless that one failed (a bus error with no transfer), exactly one release
after all of its transfers, none of which ran deselected; and bring-up ends idle only when
identification, the release and the clock switch all went through.

When the release is the one faulty call, the protocol's outcome still wins: bring-up and a read
return what they return without the fault when that is an error, and a bus error when it is a
success. The comparison rests on `Commutes`: the handshake and the exchange never look at the
select line's fault, so arming it changes their runs only in the armed field.

The frame facts come from `TransferClosed`, the properties that every transfer has and that
`pure` and `bind` keep: every command, poll and byte loop of the driver has them, and
`moves_identify` and `moves_readWindow` carry them through the two `do` blocks.
-/

namespace PinballAudio

open Bench Bench.ScriptedLink HoldsLink Card SpiLink

namespace Bench.ScriptedLink

def armSelect (s : ScriptedLink) (m : Nat) : ScriptedLink := { s with failSelectAt := some m }

/-- The link once a select-line call failed: counted and logged as a failure, the line as it
was. -/
def refused (s : ScriptedLink) : ScriptedLink :=
  { s with selectCalls := s.selectCalls + 1, selectLog := s.selectLog.push 'x' }

theorem drive_eq (low : Bool) (s : ScriptedLink) :
    drive low s = if s.failSelectAt = some (s.selectCalls + 1) then .error {} s.refused
      else .ok () (s.driven low) := by
  by_cases h : s.failSelectAt = some (s.selectCalls + 1)
  · rw [if_pos h]
    simp [drive, h, refused]
  · rw [if_neg h]
    exact SdCard.drive_of_ne low h

theorem drive_of_armed (low : Bool) {s : ScriptedLink}
    (h : s.failSelectAt = some (s.selectCalls + 1)) : drive low s = .error {} s.refused := by
  rw [drive_eq, if_pos h]

theorem woken_armSelect (s : ScriptedLink) (m : Nat) :
    (s.armSelect m).woken = s.woken.armSelect m := rfl

theorem driven_armSelect (s : ScriptedLink) (low : Bool) (m : Nat) :
    (s.armSelect m).driven low = (s.driven low).armSelect m := rfl

end Bench.ScriptedLink

def mapFinal {ε σ α : Type} (f : σ → σ) : EStateM.Result ε σ α → EStateM.Result ε σ α
  | .ok a s => .ok a (f s)
  | .error e s => .error e (f s)

@[simp] theorem mapFinal_resultOf {ε σ α : Type} (f : σ → σ) (r : Except ε α) (s : σ) :
    mapFinal f (resultOf r s) = resultOf r (f s) := by
  cases r <;> rfl

/-- `x` runs from `f t` as from `t`, up to `f` on the state it ends in: it never reads what `f`
changes. -/
def Commutes {ε σ α : Type} (f : σ → σ) (x : EStateM ε σ α) : Prop :=
  ∀ t, x.run (f t) = mapFinal f (x.run t)

namespace Commutes

variable {ε ε' σ α β : Type} {f : σ → σ}

theorem run_eq {x : EStateM ε σ α} (f : σ → σ) (t : σ) (h : Commutes f x) :
    x.run (f t) = mapFinal f (x.run t) :=
  h t

theorem pure (a : α) : Commutes f (Pure.pure a : EStateM ε σ α) :=
  fun _ => rfl

theorem throw (e : ε) : Commutes f (MonadExcept.throw e : EStateM ε σ α) :=
  fun _ => rfl

theorem bind {x : EStateM ε σ α} {g : α → EStateM ε σ β} (hx : Commutes f x)
    (hg : ∀ a, Commutes f (g a)) : Commutes f (x >>= g) := by
  intro t
  rw [run_bind, run_bind, hx t]
  cases x.run t with
  | ok a s => exact hg a s
  | error e s => rfl

theorem throw_bind {e : ε} {g : α → EStateM ε σ β} : Commutes f (MonadExcept.throw e >>= g) :=
  fun _ => rfl

theorem ite {c : Prop} [Decidable c] {x y : EStateM ε σ α} (hx : c → Commutes f x)
    (hy : ¬c → Commutes f y) : Commutes f (if c then x else y) := by
  by_cases hc : c
  · rw [if_pos hc]
    exact hx hc
  · rw [if_neg hc]
    exact hy hc

theorem adaptExcept {x : EStateM ε σ α} (hx : Commutes f x) (g : ε → ε') :
    Commutes f (EStateM.adaptExcept g x) := by
  intro t
  have h := hx t
  change (match x (f t) with
    | .error e s => EStateM.Result.error (g e) s
    | .ok a s => EStateM.Result.ok a s) = mapFinal f (match x t with
    | .error e s => EStateM.Result.error (g e) s
    | .ok a s => EStateM.Result.ok a s)
  change x (f t) = mapFinal f (x t) at h
  rw [h]
  cases x t <;> rfl

end Commutes

/-- A property of link programs that every transfer has and that `pure` and `bind` keep. Every
command, poll and byte loop of the driver has it. -/
structure TransferClosed {σ : Type} [SpiLink σ] (P : {ε α : Type} → EStateM ε σ α → Prop) :
    Prop where
  pure {ε α : Type} (a : α) : P (Pure.pure a : EStateM ε σ α)
  bind {ε α β : Type} {x : EStateM ε σ α} {f : α → EStateM ε σ β} :
    P x → (∀ a, P (f a)) → P (x >>= f)
  transfer (b : UInt8) : P (SpiLink.transfer b : EStateM BusFault σ UInt8)

namespace TransferClosed

variable {σ : Type} [SpiLink σ] {P : {ε α : Type} → EStateM ε σ α → Prop}
  (h : TransferClosed P)
include h

theorem pollN {ε α : Type} {attempt : EStateM ε σ (Option α)} (ha : P attempt) (n : Nat) :
    P (RetryBudget.pollN attempt n) := by
  induction n with
  | zero => exact h.pure none
  | succ n ih =>
    refine h.bind ha fun o => ?_
    cases o with
    | some v => exact h.pure (some v)
    | none => exact ih

theorem sendAll (bytes : List UInt8) : P (bytes.forM send : EStateM BusFault σ PUnit) := by
  induction bytes with
  | nil => exact h.pure _
  | cons b bytes ih => exact h.bind (h.bind (h.transfer b) fun _ => h.pure ()) fun _ => ih

theorem command (cmd : Command) (a : UInt32) : P (SdCard.command cmd a : EStateM BusFault σ UInt8) :=
  h.bind (h.sendAll _) fun _ =>
    h.bind (h.pollN (h.bind (h.transfer filler) fun _ => h.pure _) _) fun _ => h.pure _

theorem receiveBytes (n : Nat) : P (SdCard.receiveBytes n : EStateM BusFault σ (List UInt8)) := by
  induction n with
  | zero => exact h.pure _
  | succ n ih => exact h.bind (h.transfer filler) fun _ => h.bind ih fun _ => h.pure _

theorem discard (n : Nat) : P (SdCard.discard n : EStateM BusFault σ Unit) := by
  induction n with
  | zero => exact h.pure _
  | succ n ih => exact h.bind (h.transfer filler) fun _ => ih

theorem readyRound : P (SdCard.readyRound : EStateM BusFault σ (Option Unit)) :=
  h.bind (h.command _ _) fun _ => h.bind (h.command _ _) fun _ => h.pure _

theorem awaitToken : P (SdCard.awaitToken : EStateM BusFault σ (Option Unit)) :=
  h.pollN (h.bind (h.transfer filler) fun _ => h.pure _) _

end TransferClosed

theorem Moves.onLink {σ α : Type} {R : σ → σ → Prop} {x : EStateM BusFault σ α} (hx : Moves R x) :
    Moves (fun t t' => R t.1 t'.1) (SdCard.onLink x : EStateM IoError (σ × Array UInt8) α) := by
  intro t
  rw [SdCard.finalState_onLink]
  exact hx t.1

theorem Commutes.onLink {σ α : Type} {f : σ → σ} {x : EStateM BusFault σ α} (hx : Commutes f x) :
    Commutes (fun t => (f t.1, t.2)) (SdCard.onLink x : EStateM IoError (σ × Array UInt8) α) := by
  intro t
  have h := hx t.1
  simp only [SdCard.onLink, EStateM.run] at h ⊢
  rw [h]
  cases x t.1 <;> rfl

theorem Commutes.transferClosed {σ : Type} [SpiLink σ] {f : σ → σ}
    (hf : ∀ b, Commutes f (SpiLink.transfer b : EStateM BusFault σ UInt8)) :
    TransferClosed (fun x => Commutes f x : {ε α : Type} → EStateM ε σ α → Prop) where
  pure a := Commutes.pure a
  bind hx hg := Commutes.bind hx hg
  transfer := hf

theorem commutes_readWindow {σ : Type} [SpiLink σ] {f : σ → σ}
    (hf : ∀ b, Commutes f (SpiLink.transfer b : EStateM BusFault σ UInt8)) (a : UInt32)
    (w : ReadWindow) :
    Commutes (fun t => (f t.1, t.2))
      (SdCard.readWindow a w : EStateM IoError (σ × Array UInt8) Unit) := by
  have h := Commutes.transferClosed hf
  have hinto : ∀ pos n, Commutes (fun t : σ × Array UInt8 => (f t.1, t.2))
      (SdCard.receiveInto pos n : EStateM IoError (σ × Array UInt8) Unit) := by
    intro pos n
    induction n generalizing pos with
    | zero => exact Commutes.pure _
    | succ n ih =>
      exact Commutes.bind (Commutes.onLink (hf filler)) fun b =>
        Commutes.bind (fun _ => rfl) fun _ => ih (pos + 1)
  unfold SdCard.readWindow
  refine Commutes.bind (Commutes.onLink (h.command _ _)) fun _ => ?_
  refine Commutes.ite (fun _ => Commutes.throw_bind) fun _ => ?_
  refine Commutes.bind (Commutes.onLink h.awaitToken) fun _ => ?_
  refine Commutes.ite (fun _ => Commutes.throw_bind) fun _ => ?_
  refine Commutes.bind (Commutes.onLink (h.discard _)) fun _ => ?_
  exact Commutes.bind (hinto _ _) fun _ => Commutes.onLink (h.discard _)

section Frame

variable {σ : Type} [SpiLink σ] {R : σ → σ → Prop} (hrefl : ∀ t, R t t)
  (htrans : ∀ t t' t'', R t t' → R t' t'' → R t t'')
  (htransfer : ∀ b, Moves R (SpiLink.transfer b : EStateM BusFault σ UInt8))
include hrefl htrans htransfer

theorem Moves.transferClosed :
    TransferClosed (fun x => Moves R x : {ε α : Type} → EStateM ε σ α → Prop) where
  pure a := Moves.pure hrefl a
  bind hx hf := Moves.bind_trans hx hf htrans
  transfer := htransfer

theorem moves_identify (hdiv : ∀ d, Moves R (SpiLink.setDivider d : EStateM BusFault σ Unit))
    (hsel : Moves R (select : EStateM BusFault σ Unit))
    (hdes : Moves R (deselect : EStateM BusFault σ Unit)) :
    Moves R (SdCard.identify : EStateM InitError σ CardKind) := by
  have h := Moves.transferClosed hrefl htrans htransfer
  have hbus {α : Type} {x : EStateM BusFault σ α} (hx : Moves R x) :
      Moves R (SdCard.onBus InitError.bus x) := hx.adaptExcept _
  have hstop {α : Type} {e : InitError} {f : Unit → EStateM InitError σ α} :
      Moves R (MonadExcept.throw e >>= f) := Moves.throw_bind hrefl
  unfold SdCard.identify
  refine Moves.bind_trans (hbus ((hdiv _).bind_trans (fun _ => Moves.pure hrefl _) htrans))
    (fun _ => ?_) htrans
  refine Moves.bind_trans (hbus hdes) (fun _ => ?_) htrans
  refine Moves.bind_trans (hbus (h.sendAll _)) (fun _ => ?_) htrans
  refine Moves.bind_trans (hbus hsel) (fun _ => ?_) htrans
  refine Moves.bind_trans (hbus (h.command _ _)) (fun _ => ?_) htrans
  refine Moves.ite (fun _ => hstop) fun _ => ?_
  refine Moves.bind_trans (hbus (h.command _ _)) (fun _ => ?_) htrans
  refine Moves.ite (fun _ => hstop) fun _ => ?_
  refine Moves.bind_trans (hbus (h.receiveBytes 4)) (fun _ => ?_) htrans
  refine Moves.ite (fun _ => hstop) fun _ => ?_
  refine Moves.bind_trans (hbus (h.pollN h.readyRound _)) (fun _ => ?_) htrans
  refine Moves.ite (fun _ => hstop) fun _ => ?_
  refine Moves.bind_trans (hbus (h.command _ _)) (fun _ => ?_) htrans
  refine Moves.ite (fun _ => Moves.pure hrefl _) fun _ => ?_
  exact Moves.bind_trans (hbus (h.receiveBytes 4)) (fun _ => Moves.pure hrefl _) htrans

theorem moves_readWindow (a : UInt32) (w : ReadWindow) :
    Moves (fun t t' => R t.1 t'.1)
      (SdCard.readWindow a w : EStateM IoError (σ × Array UInt8) Unit) := by
  have h := Moves.transferClosed hrefl htrans htransfer
  have hrefl' : ∀ t : σ × Array UInt8, R t.1 t.1 := fun t => hrefl t.1
  have htrans' : ∀ t t' t'' : σ × Array UInt8, R t.1 t'.1 → R t'.1 t''.1 → R t.1 t''.1 :=
    fun _ _ _ => htrans _ _ _
  have hinto : ∀ pos n, Moves (fun t t' : σ × Array UInt8 => R t.1 t'.1)
      (SdCard.receiveInto pos n : EStateM IoError (σ × Array UInt8) Unit) := by
    intro pos n
    induction n generalizing pos with
    | zero => exact Moves.pure hrefl' _
    | succ n ih =>
      exact Moves.bind_trans (Moves.onLink (htransfer filler)) (fun b =>
        Moves.bind_trans (fun t => hrefl t.1) (fun _ => ih (pos + 1)) htrans') htrans'
  unfold SdCard.readWindow
  refine Moves.bind_trans (Moves.onLink (h.command _ _)) (fun _ => ?_) htrans'
  refine Moves.ite (fun _ => Moves.throw_bind hrefl') fun _ => ?_
  refine Moves.bind_trans (Moves.onLink h.awaitToken) (fun _ => ?_) htrans'
  refine Moves.ite (fun _ => Moves.throw_bind hrefl') fun _ => ?_
  refine Moves.bind_trans (Moves.onLink (h.discard _)) (fun _ => ?_) htrans'
  exact Moves.bind_trans (hinto _ _) (fun _ => Moves.onLink (h.discard _)) htrans'

end Frame

namespace Bench.ScriptedLink

/-- `t'` has the select-line calls of `t` and then more, each counted and logged once, with the
same call armed to fail. -/
def SelectGrows (t t' : ScriptedLink) : Prop :=
  ∃ u : List Char, t'.selectLog.toList = t.selectLog.toList ++ u ∧
    t'.selectCalls = t.selectCalls + u.length ∧ t'.failSelectAt = t.failSelectAt

/-- `t'` has the select line of `t` untouched, and while the card was selected no transfer ran
deselected. -/
structure KeepsSelect (t t' : ScriptedLink) : Prop where
  log : t'.selectLog = t.selectLog
  calls : t'.selectCalls = t.selectCalls
  selected : t'.selected = t.selected
  fault : t'.failSelectAt = t.failSelectAt
  deselectedTransfers : t.selected = true → t'.deselectedTransfers = t.deselectedTransfers

/-- What one select-line call driving the line to `low` leaves: the call counted and logged, as
`x` when it was the armed one, the line driven unless it was, and no transfer. -/
structure DriveStep (low : Bool) (s s' : ScriptedLink) : Prop where
  log : s'.selectLog.toList = s.selectLog.toList ++
    [if s'.failSelectAt = some s'.selectCalls then 'x' else if low then 'L' else 'H']
  calls : s'.selectCalls = s.selectCalls + 1
  fault : s'.failSelectAt = s.failSelectAt
  driven : s'.selected = low ∨ s'.failSelectAt = some s'.selectCalls
  transfers : s'.transfers = s.transfers
  deselectedTransfers : s'.deselectedTransfers = s.deselectedTransfers

variable {t t' t'' : ScriptedLink}

theorem selectGrows_refl (t : ScriptedLink) : SelectGrows t t := ⟨[], by simp, by simp, rfl⟩

theorem SelectGrows.trans (h₁ : SelectGrows t t') (h₂ : SelectGrows t' t'') : SelectGrows t t'' := by
  obtain ⟨u₁, hlog₁, hcalls₁, hfault₁⟩ := h₁
  obtain ⟨u₂, hlog₂, hcalls₂, hfault₂⟩ := h₂
  refine ⟨u₁ ++ u₂, ?_, ?_, hfault₂.trans hfault₁⟩
  · rw [hlog₂, hlog₁, List.append_assoc]
  · rw [hcalls₂, hcalls₁, List.length_append, Nat.add_assoc]

theorem keepsSelect_refl (t : ScriptedLink) : KeepsSelect t t := ⟨rfl, rfl, rfl, rfl, fun _ => rfl⟩

theorem KeepsSelect.trans (h₁ : KeepsSelect t t') (h₂ : KeepsSelect t' t'') : KeepsSelect t t'' :=
  ⟨h₂.log.trans h₁.log, h₂.calls.trans h₁.calls, h₂.selected.trans h₁.selected,
    h₂.fault.trans h₁.fault,
    fun hs => (h₂.deselectedTransfers (h₁.selected.trans hs)).trans (h₁.deselectedTransfers hs)⟩

theorem KeepsSelect.selectGrows (h : KeepsSelect t t') : SelectGrows t t' :=
  ⟨[], by rw [h.log, List.append_nil], by rw [h.calls, List.length_nil, Nat.add_zero], h.fault⟩

theorem driveStep_drive (low : Bool) (s : ScriptedLink) :
    DriveStep low s (finalState (drive low s)) := by
  rw [drive_eq]
  by_cases h : s.failSelectAt = some (s.selectCalls + 1)
  · rw [if_pos h]
    constructor <;> simp [refused, h]
  · rw [if_neg h]
    constructor <;> simp [driven, h]

theorem DriveStep.selectGrows {low : Bool} (h : DriveStep low t t') : SelectGrows t t' :=
  ⟨_, h.log, by rw [h.calls, List.length_singleton], h.fault⟩

end Bench.ScriptedLink

namespace SdCard

theorem keepsSelect_transfer (b : UInt8) :
    Moves KeepsSelect (SpiLink.transfer b : EStateM BusFault ScriptedLink UInt8) := by
  intro s
  change KeepsSelect s (finalState (ScriptedLink.transfer b s))
  by_cases h₁ : s.failTransferAt = some (s.transfers + 1)
  · constructor <;> simp [ScriptedLink.transfer, h₁]
  · by_cases h₂ : s.selected = true
    · constructor <;> simp [ScriptedLink.transfer, h₁, h₂]
    · constructor <;> simp [ScriptedLink.transfer, h₁, h₂]

theorem keepsSelect_setDivider (d : ClockDivider) :
    Moves KeepsSelect (SpiLink.setDivider d : EStateM BusFault ScriptedLink Unit) := by
  intro s
  change KeepsSelect s (finalState (ScriptedLink.setDivider d s))
  by_cases h : s.failDividerAt = some (s.dividerCalls + 1)
  · constructor <;> simp [ScriptedLink.setDivider, h]
  · constructor <;> simp [ScriptedLink.setDivider, h]

theorem commutes_transfer_armSelect (m : Nat) (b : UInt8) :
    Commutes (·.armSelect m) (SpiLink.transfer b : EStateM BusFault ScriptedLink UInt8) := by
  intro s
  change ScriptedLink.transfer b (s.armSelect m) = mapFinal _ (ScriptedLink.transfer b s)
  by_cases h₁ : s.failTransferAt = some (s.transfers + 1)
  · simp [ScriptedLink.transfer, armSelect, h₁, mapFinal]
  · by_cases h₂ : s.selected = true
    · simp [ScriptedLink.transfer, armSelect, h₁, h₂, mapFinal]
    · simp [ScriptedLink.transfer, armSelect, h₁, h₂, mapFinal]

theorem selectGrows_identify :
    Moves SelectGrows (identify : EStateM InitError ScriptedLink CardKind) :=
  moves_identify selectGrows_refl (fun _ _ _ => SelectGrows.trans)
    (fun b => (keepsSelect_transfer b).mono fun _ _ h => h.selectGrows)
    (fun d => (keepsSelect_setDivider d).mono fun _ _ h => h.selectGrows)
    (fun s => (driveStep_drive true s).selectGrows) (fun s => (driveStep_drive false s).selectGrows)

theorem keepsSelect_readWindow (a : UInt32) (w : ReadWindow) :
    Moves (fun t t' => KeepsSelect t.1 t'.1)
      (readWindow a w : EStateM IoError (ScriptedLink × Array UInt8) Unit) :=
  moves_readWindow keepsSelect_refl (fun _ _ _ => KeepsSelect.trans) keepsSelect_transfer a w

theorem keepsSelect_of_readWindow {a : UInt32} {w : ReadWindow} {l : ScriptedLink}
    {buf : Array UInt8} {r : Except IoError Unit} {t : ScriptedLink × Array UInt8}
    (hrun : (readWindow a w : EStateM IoError (ScriptedLink × Array UInt8) Unit).run (l, buf) =
      resultOf r t) : KeepsSelect l t.1 := by
  have hkeep := keepsSelect_readWindow a w (l, buf)
  rwa [hrun, finalState_resultOf] at hkeep

theorem run_setDivisor_eq (d : UInt32) (s : ScriptedLink) :
    (setDivisor d : EStateM BusFault ScriptedLink ClockDivider).run s =
      if s.failDividerAt = some (s.dividerCalls + 1) then
        .error {} { s with dividerCalls := s.dividerCalls + 1 }
      else .ok (ClockDivider.nearest d.toNat) (s.programmed (ClockDivider.nearest d.toNat)) := by
  by_cases h : s.failDividerAt = some (s.dividerCalls + 1)
  · rw [if_pos h]
    refine run_bind_error ?_
    change ScriptedLink.setDivider _ s = _
    simp [ScriptedLink.setDivider, h]
  · rw [if_neg h]
    refine @run_bind_ok _ _ _ _ _ _ _ _ () ?_
    change ScriptedLink.setDivider _ s = _
    simp [ScriptedLink.setDivider, h, programmed]

section Bringup

variable {card : SdCard ScriptedLink}

/-- Bring-up's last select-line call is the release: the link has the calls of identification
and then the release, logged `H`, or `x` when it was the armed call, and the card ends
deselected unless it was. -/
theorem bringUp_releases_last (card : SdCard ScriptedLink) :
    ∃ u : List Char, card.bringUp.2.link.selectLog.toList = card.link.selectLog.toList ++ u ++
        [if card.bringUp.2.link.failSelectAt = some card.bringUp.2.link.selectCalls then 'x'
          else 'H'] ∧
      (card.bringUp.2.link.selected = false ∨
        card.bringUp.2.link.failSelectAt = some card.bringUp.2.link.selectCalls) := by
  obtain ⟨l₁, h₁⟩ : ∃ l₁, finalState
      ((identify : EStateM InitError ScriptedLink CardKind).run card.link) = l₁ := ⟨_, rfl⟩
  obtain ⟨l₂, h₂⟩ : ∃ l₂, finalState ((deselect : EStateM BusFault ScriptedLink Unit).run l₁) = l₂ :=
    ⟨_, rfl⟩
  obtain ⟨u, hlog, -, -⟩ : SelectGrows card.link l₁ := by
    rw [← h₁]
    exact selectGrows_identify card.link
  have hrel : DriveStep false l₁ l₂ := by
    rw [← h₂]
    exact driveStep_drive false l₁
  have hlast : KeepsSelect l₂ card.bringUp.2.link := by
    rcases bringUp_link card h₁ h₂ with h | h
    · rw [h]
      exact keepsSelect_refl l₂
    · rw [h]
      exact Moves.bind_trans (keepsSelect_setDivider _) (fun _ => Moves.pure keepsSelect_refl _)
        (fun _ _ _ => KeepsSelect.trans) l₂
  obtain ⟨hlog', hcalls', hsel', hfault', -⟩ := hlast
  refine ⟨u, ?_, ?_⟩
  · rw [hlog', hcalls', hfault', hrel.log, hlog]
    simp only [Bool.false_eq_true, if_false]
  · rw [hsel', hcalls', hfault']
    exact hrel.driven

/-- Bring-up ends idle only when identification, the release and the clock switch all went
through: it returns the card's kind at the fast divider, with the card released and the fast
divider the last one programmed. -/
theorem bringUp_idle {k : CardKind} (h : card.bringUp.2.state = .idle k) :
    card.bringUp.1 = .ok ⟨k, .div4⟩ ∧ card.bringUp.2.link.selected = false ∧
      card.bringUp.2.link.selectLog.back? = some 'H' ∧
      card.bringUp.2.link.dividers.back? = some .div4 := by
  obtain ⟨r, l₁, hid⟩ :=
    exists_resultOf ((identify : EStateM InitError ScriptedLink CardKind).run card.link)
  revert h
  rw [bringUp_eq card hid]
  cases hd : (deselect : EStateM BusFault ScriptedLink Unit).run l₁ with
  | error f l₂ =>
    intro h
    cases h
  | ok u l₂ =>
    change drive false l₁ = _ at hd
    rw [drive_eq] at hd
    split at hd
    · cases hd
    cases hd
    cases r with
    | error e =>
      intro h
      cases h
    | ok kind =>
      dsimp only
      cases hv : (setDivisor Board.sdFastDivisor : EStateM BusFault ScriptedLink ClockDivider).run
          (l₁.driven false) with
      | error f l₃ =>
        intro h
        cases h
      | ok d l₃ =>
        intro h
        cases h
        rw [run_setDivisor_eq] at hv
        split at hv
        · cases hv
        cases hv
        have hfast : ClockDivider.nearest Board.sdFastDivisor.toNat = .div4 := rfl
        refine ⟨rfl, rfl, ?_, ?_⟩
        · simp [programmed, driven]
        · simp [programmed, hfast]

theorem identify_armSelect {s : ScriptedLink} (hd : s.failDividerAt = none)
    (hs : s.failSelectAt = none) (hf : s.failTransferAt = none) {m : Nat}
    (hm : s.selectCalls + 2 < m) :
    (identify : EStateM InitError ScriptedLink CardKind).run (s.armSelect m) =
      mapFinal (·.armSelect m) ((identify : EStateM InitError ScriptedLink CardKind).run s) := by
  unfold identify
  rw [@run_wake_scripted (s.armSelect m) _ _ hd (by simp [armSelect]; omega)
      (by simp [armSelect]; omega) hf,
    run_wake_scripted hd (by simp [hs]) (by simp [hs]) hf, woken_armSelect]
  refine Commutes.run_eq (·.armSelect m) s.woken ?_
  have h := Commutes.transferClosed (commutes_transfer_armSelect m)
  refine Commutes.bind ((h.command _ _).adaptExcept _) fun _ => ?_
  refine Commutes.ite (fun _ => Commutes.throw_bind) fun _ => ?_
  refine Commutes.bind ((h.command _ _).adaptExcept _) fun _ => ?_
  refine Commutes.ite (fun _ => Commutes.throw_bind) fun _ => ?_
  refine Commutes.bind ((h.receiveBytes 4).adaptExcept _) fun _ => ?_
  refine Commutes.ite (fun _ => Commutes.throw_bind) fun _ => ?_
  refine Commutes.bind ((h.pollN h.readyRound _).adaptExcept _) fun _ => ?_
  refine Commutes.ite (fun _ => Commutes.throw_bind) fun _ => ?_
  refine Commutes.bind ((h.command _ _).adaptExcept _) fun _ => ?_
  refine Commutes.ite (fun _ => Commutes.pure _) fun _ => ?_
  exact Commutes.bind ((h.receiveBytes 4).adaptExcept _) fun _ => Commutes.pure _

theorem bringUp_release_fault (hd : card.link.failDividerAt = none)
    (hs : card.link.failSelectAt = none) (hf : card.link.failTransferAt = none) :
    { card with link := card.link.armSelect (card.link.selectCalls + 3) }.bringUp.1 =
      (match card.bringUp.1 with
        | .ok _ => .error .bus
        | .error e => .error e) ∧
    { card with link := card.link.armSelect (card.link.selectCalls + 3) }.bringUp.2.state =
      .failed := by
  obtain ⟨r, bytes, hw⟩ := identify_wakes hd hs hf
  generalize hm : card.link.selectCalls + 3 = m
  have hid : (identify : EStateM InitError ScriptedLink CardKind).run (card.link.armSelect m) =
      resultOf r ((card.link.woken.clocked bytes).armSelect m) := by
    rw [identify_armSelect hd hs hf (by omega), hw.run, mapFinal_resultOf]
  -- identification made two select-line calls, so the release is the third
  have hrel : (deselect : EStateM BusFault ScriptedLink Unit).run
      ((card.link.woken.clocked bytes).armSelect m) =
        .error {} ((card.link.woken.clocked bytes).armSelect m).refused :=
    drive_of_armed false (by rw [← hm]; rfl)
  rw [bringUp_of_identify hw.run hd hs, bringUp_eq { card with link := card.link.armSelect m } hid,
    hrel]
  cases r with
  | ok kind => exact ⟨rfl, rfl⟩
  | error e => exact ⟨rfl, rfl⟩

end Bringup

section Read

variable {card : SdCard ScriptedLink} {block : UInt32} {offset length : UInt16}
  {buf : Array UInt8}

theorem refusal_eq_none_of_accepted
    (h : ∀ e, (card.readPartial block offset length buf).1.1 = .error e →
      e.refusesRequest = false) :
    card.state.refusal block offset length buf.size = none := by
  cases hr : card.state.refusal block offset length buf.size with
  | none => rfl
  | some e =>
    have herr := h e (by rw [readPartial_of_refusal hr])
    rw [CardState.refusesRequest_of_refusal hr] at herr
    cases herr

theorem readPartial_link_of_refuses {e : IoError} (he : e.refusesRequest = true)
    (hr : (card.readPartial block offset length buf).1.1 = .error e) :
    (card.readPartial block offset length buf).2.link = card.link := by
  rw [readPartial_of_refusal ((readPartial_eq_refusal_iff he).1 hr)]

theorem readPartial_of_select_fault (h : card.state.refusal block offset length buf.size = none)
    (hsel : card.link.failSelectAt = some (card.link.selectCalls + 1)) :
    card.readPartial block offset length buf =
      ((.error .bus, buf), { card with link := card.link.refused }) := by
  obtain ⟨w, k, a, hw, -, -, hs, ha⟩ := CardState.accepted_of_refusal_eq_none h
  exact readPartial_of_select_error hw hs ha (drive_of_armed true hsel)

theorem readPartial_of_select_ok (h : card.state.refusal block offset length buf.size = none)
    (hsel : card.link.failSelectAt ≠ some (card.link.selectCalls + 1)) :
    ∃ t, KeepsSelect (card.link.driven true) t ∧
      DriveStep false t (card.readPartial block offset length buf).2.link := by
  obtain ⟨w, k, a, hw, -, -, hs, ha⟩ := CardState.accepted_of_refusal_eq_none h
  obtain ⟨r, t, hrun⟩ := exists_resultOf
    ((readWindow a w : EStateM IoError (ScriptedLink × Array UInt8) Unit).run
      (card.link.driven true, buf))
  refine ⟨t.1, ?_, ?_⟩
  · exact keepsSelect_of_readWindow hrun
  · have hlink : (card.readPartial block offset length buf).2.link =
        finalState ((deselect : EStateM BusFault ScriptedLink Unit).run t.1) := by
      rw [readPartial_of_selected hw hs ha (run_select_of_ne hsel) hrun]
      cases (deselect : EStateM BusFault ScriptedLink Unit).run t.1 <;> rfl
    rw [hlink]
    exact driveStep_drive false t.1

/-- A read whose release is the one faulty select-line call: the exchange runs as without the
fault, and the read returns its error, or a bus error for its success, with the same buffer. -/
theorem readPartial_release_fault (h : card.state.refusal block offset length buf.size = none)
    (hs : card.link.failSelectAt = none) :
    ({ card with link := card.link.armSelect (card.link.selectCalls + 2) }.readPartial
        block offset length buf).1 =
      (match (card.readPartial block offset length buf).1.1 with
        | .ok _ => .error .bus
        | .error e => .error e, (card.readPartial block offset length buf).1.2) := by
  obtain ⟨w, k, a, hw, -, -, hst, ha⟩ := CardState.accepted_of_refusal_eq_none h
  obtain ⟨r, t, hrun⟩ := exists_resultOf
    ((readWindow a w : EStateM IoError (ScriptedLink × Array UInt8) Unit).run
      (card.link.driven true, buf))
  have hkeep : KeepsSelect (card.link.driven true) t.1 := keepsSelect_of_readWindow hrun
  rw [readPartial_of_window hst hw ha hs hrun (by rw [hkeep.fault]; exact hs)]
  generalize hm : card.link.selectCalls + 2 = m
  have hsel : (select : EStateM BusFault ScriptedLink Unit).run (card.link.armSelect m) =
      .ok () ((card.link.driven true).armSelect m) := by
    rw [@run_select_of_ne (card.link.armSelect m) (by simp [armSelect]; omega), driven_armSelect]
  have hrun' : (readWindow a w : EStateM IoError (ScriptedLink × Array UInt8) Unit).run
      ((card.link.driven true).armSelect m, buf) = resultOf r (t.1.armSelect m, t.2) := by
    rw [Commutes.run_eq (fun t => (t.1.armSelect m, t.2)) (card.link.driven true, buf)
      (commutes_readWindow (commutes_transfer_armSelect m) a w), hrun, mapFinal_resultOf]
  have hrel : (deselect : EStateM BusFault ScriptedLink Unit).run (t.1.armSelect m) =
      .error {} (t.1.armSelect m).refused :=
    drive_of_armed false (by simp [armSelect, hkeep.calls, driven]; omega)
  rw [@readPartial_of_selected ScriptedLink _ { card with link := card.link.armSelect m } block
    offset length buf w k a hw hst ha _ r (t.1.armSelect m, t.2) hsel hrun', hrel]
  cases r with
  | ok u => rfl
  | error e => rfl

end Read

end SdCard

open SdCard in
/-- The select line is released on every exit of bring-up and of a read, whatever the script
and wherever faults are armed. Bring-up's last select-line call is the release, which leaves the
card deselected unless it was the failing call. A read refused by its checks makes no call; any
other read makes one call to select, and either that call failed and the read returned a bus
error with no transfer, or the read ends with exactly one release, with no transfer made while
the card was deselected. When the release is the one faulty call, bring-up and a read return
what they return without the fault if that is an error, and a bus error if it is a success; and
bring-up ends idle only after identification, the release and the switch to the fast clock all
went through. -/
theorem select_line_released_on_every_exit :
    (∀ card : SdCard ScriptedLink, ∃ u : List Char,
      card.bringUp.2.link.selectLog.toList = card.link.selectLog.toList ++ u ++
        [if card.bringUp.2.link.failSelectAt = some card.bringUp.2.link.selectCalls then 'x'
          else 'H'] ∧
      (card.bringUp.2.link.selected = false ∨
        card.bringUp.2.link.failSelectAt = some card.bringUp.2.link.selectCalls)) ∧
    (∀ (card : SdCard ScriptedLink) (block : UInt32) (offset length : UInt16)
        (buf : Array UInt8),
      let R := card.readPartial block offset length buf
      (∀ e, e.refusesRequest = true → R.1.1 = .error e → R.2.link = card.link) ∧
      ((∀ e, R.1.1 = .error e → e.refusesRequest = false) →
        (card.link.failSelectAt = some (card.link.selectCalls + 1) →
          R.1.1 = .error .bus ∧ R.2.link.transfers = card.link.transfers ∧
          R.2.link.selectLog.toList = card.link.selectLog.toList ++ ['x']) ∧
        (card.link.failSelectAt ≠ some (card.link.selectCalls + 1) →
          R.2.link.selectLog.toList = card.link.selectLog.toList ++
            ['L', if R.2.link.failSelectAt = some R.2.link.selectCalls then 'x' else 'H'] ∧
          R.2.link.deselectedTransfers = card.link.deselectedTransfers ∧
          (R.2.link.selected = false ∨ R.2.link.failSelectAt = some R.2.link.selectCalls)))) ∧
    (∀ card : SdCard ScriptedLink, card.link.failDividerAt = none →
      card.link.failSelectAt = none → card.link.failTransferAt = none →
      let F := { card with link := card.link.armSelect (card.link.selectCalls + 3) }.bringUp
      F.1 = (match card.bringUp.1 with
        | .ok _ => .error .bus
        | .error e => .error e) ∧ F.2.state = .failed) ∧
    (∀ (card : SdCard ScriptedLink) (block : UInt32) (offset length : UInt16)
        (buf : Array UInt8),
      let R := card.readPartial block offset length buf
      let F := { card with link := card.link.armSelect (card.link.selectCalls + 2) }.readPartial
        block offset length buf
      card.link.failSelectAt = none → (∀ e, R.1.1 = .error e → e.refusesRequest = false) →
      F.1.1 = (match R.1.1 with
        | .ok _ => .error .bus
        | .error e => .error e) ∧ F.1.2 = R.1.2) ∧
    (∀ (card : SdCard ScriptedLink) (k : CardKind), card.bringUp.2.state = .idle k →
      card.bringUp.1 = .ok ⟨k, .div4⟩ ∧ card.bringUp.2.link.selected = false ∧
      card.bringUp.2.link.selectLog.back? = some 'H' ∧
      card.bringUp.2.link.dividers.back? = some .div4) := by
  refine ⟨bringUp_releases_last, fun card block offset length buf => ⟨?_, fun hacc => ⟨?_, ?_⟩⟩,
    fun card hd hs hf => bringUp_release_fault hd hs hf,
    fun card block offset length buf hs hacc => ?_, fun card k h => bringUp_idle h⟩
  · exact fun e he hr => readPartial_link_of_refuses he hr
  · -- the select call failed: nothing else ran
    intro hsel
    rw [readPartial_of_select_fault (refusal_eq_none_of_accepted hacc) hsel]
    exact ⟨rfl, rfl, by simp [refused]⟩
  · -- the select call went through: the exchange, then the release
    intro hsel
    obtain ⟨t, hkeep, hrel⟩ := readPartial_of_select_ok (refusal_eq_none_of_accepted hacc) hsel
    obtain ⟨hlog, -, -, -, hdes⟩ := hkeep
    refine ⟨?_, ?_, hrel.driven⟩
    · rw [hrel.log, hlog]
      simp [driven]
    · rw [hrel.deselectedTransfers, hdes rfl]
      rfl
  · have h := readPartial_release_fault (refusal_eq_none_of_accepted hacc) hs
    rw [h]
    exact ⟨rfl, rfl⟩

open Bench in
theorem bench_read_releases_select_line :
    let card : SdCard ScriptedLink := ⟨{ script := #[0, 0xFE, 7, 8] }, .idle .highCapacity⟩
    let R := card.readPartial 5 1 2 (Array.replicate 4 0)
    let F := { card with link := card.link.armSelect (card.link.selectCalls + 2) }.readPartial
      5 1 2 (Array.replicate 4 0)
    let boot : SdCard ScriptedLink := ⟨{ script := #[1, 1, 0] }, .uninitialized⟩
    (∀ e, R.1.1 = .error e → e.refusesRequest = false) ∧ card.link.failSelectAt = none ∧
      R.2.link.selectLog.toList = card.link.selectLog.toList ++
        ['L', if R.2.link.failSelectAt = some R.2.link.selectCalls then 'x' else 'H'] ∧
      F.1.2 = R.1.2 ∧
      boot.link.failDividerAt = none ∧ boot.link.failSelectAt = none ∧
      boot.link.failTransferAt = none ∧
      { boot with link := boot.link.armSelect (boot.link.selectCalls + 3) }.bringUp.2.state =
        .failed :=
  ⟨(SdCard.readPartial_of_no_refusal rfl).1, rfl,
    (((select_line_released_on_every_exit.2.1 _ _ _ _ _).2
      (SdCard.readPartial_of_no_refusal rfl).1).2 (by decide)).1,
    (select_line_released_on_every_exit.2.2.2.1 _ _ _ _ _ rfl
      (SdCard.readPartial_of_no_refusal rfl).1).2,
    rfl, rfl, rfl, (select_line_released_on_every_exit.2.2.1 _ rfl rfl rfl).2⟩

end PinballAudio
