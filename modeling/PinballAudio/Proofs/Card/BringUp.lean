import PinballAudio.Proofs.Card.Exchange

/-!
# Bringing the simulated card up

The link operations of bring-up never fail on the simulated card, and every command keeps it
selected with no frame open. So when identification succeeds its answer rests on the capacity
query alone: a card that rejects the query is taken for a standard card, and one that answers
it is taken for the kind its capacity bit reports, which is its own kind. Released and switched
to the fast clock, the card is then idle, deselected and with no frame open.
-/

namespace PinballAudio

namespace Card.SimulatedCard

/-- A deselected card of behaviour `B` and content `C` with no frame open. -/
structure Released (B : CardBehavior) (C : UInt32 → Nat → UInt8) (c : SimulatedCard) : Prop where
  selected : c.selected = false
  frame : c.frame = []
  behavior : c.behavior = B
  content : c.content = C

variable {B : CardBehavior} {C : UInt32 → Nat → UInt8} {c : SimulatedCard}

theorem Released.select (h : Released B C c) : Linked B C { c with selected := true } :=
  ⟨rfl, h.frame, h.behavior, h.content⟩

theorem Linked.deselect (h : Linked B C c) : Released B C { c with selected := false } :=
  ⟨rfl, h.frame, h.behavior, h.content⟩

theorem sent_readOcr (c : SimulatedCard) :
    (c.sent .readOcr 0).outgoing = 0xFF ::
      if c.behavior.rejectOcr then [0x05]
      else [0x00, if c.behavior.kind = .highCapacity then 0xC0 else 0x80, 0xFF, 0x80, 0x00] := by
  simp only [sent, Command.index]
  rw [execute_readOcr]
  rfl

theorem released_make (B : CardBehavior) (C : UInt32 → Nat → UInt8) : Released B C (make B C) :=
  ⟨rfl, rfl, rfl, rfl⟩

end Card.SimulatedCard

namespace SdCard

open Card SimulatedCard SpiLink

variable {c : SimulatedCard} {B : CardBehavior} {C : UInt32 → Nat → UInt8}

/-- A card the driver has up as kind `k`: idle, released, with no frame open. -/
structure Quiet (B : CardBehavior) (C : UInt32 → Nat → UInt8) (k : CardKind)
    (card : SdCard SimulatedCard) : Prop where
  state : card.state = .idle k
  released : Released B C card.link

theorem run_onBus {ε α : Type} {x : EStateM BusFault SimulatedCard α} {a : α} {c' : SimulatedCard}
    (e : ε) (h : x.run c = .ok a c') : (onBus e x).run c = .ok a c' := by
  simp only [onBus, EStateM.run, EStateM.adaptExcept]
  rw [show x c = .ok a c' from h]

theorem run_setDivisor (d : UInt32) (c : SimulatedCard) :
    (setDivisor d : EStateM BusFault SimulatedCard ClockDivider).run c =
      .ok (ClockDivider.nearest d.toNat)
        { c with dividers := c.dividers.push (ClockDivider.nearest d.toNat) } := rfl

theorem run_select (c : SimulatedCard) :
    (select : EStateM BusFault SimulatedCard Unit).run c = .ok () { c with selected := true } := rfl

theorem run_deselect (c : SimulatedCard) :
    (deselect : EStateM BusFault SimulatedCard Unit).run c = .ok () { c with selected := false } :=
  rfl

theorem run_readOcr (h : Linked B C c) :
    (command .readOcr 0).run c =
      .ok (if B.rejectOcr then 0x05 else 0x00) ((c.sent .readOcr 0).drain 2) := by
  have hout := sent_readOcr c
  rw [h.behavior] at hout
  by_cases hrej : B.rejectOcr
  · rw [if_pos hrej] at hout ⊢
    exact run_command h .readOcr 0 hout (by decide)
  · rw [if_neg hrej] at hout ⊢
    exact run_command h .readOcr 0 hout (by decide)

theorem ocr_capacity (h : Linked B C c) (hacc : B.rejectOcr = false) :
    ((c.sent .readOcr 0).drain 2).next 0 &&& ocrCapacityBit ≠ 0 ↔ B.kind = .highCapacity := by
  have hnext : ((c.sent .readOcr 0).drain 2).next 0 =
      if B.kind = .highCapacity then 0xC0 else 0x80 := by
    simp [next, drain, sent_readOcr, h.behavior, hacc]
  rw [hnext]
  cases B.kind <;> decide

theorem deselect_releases :
    OkTriple (Released B C) (deselect : EStateM BusFault SimulatedCard Unit)
      fun _ => Released B C :=
  OkTriple.of_run fun c h => ⟨_, _, run_deselect c, ⟨rfl, h.frame, h.behavior, h.content⟩⟩

theorem send_released (bytes : List UInt8) :
    OkTriple (Released B C) (bytes.forM send : EStateM BusFault SimulatedCard PUnit)
      fun _ => Released B C := by
  refine OkTriple.of_run fun c h => ⟨_, _, run_forM_send bytes c, ?_⟩
  rw [feed_deselected h.selected]
  exact ⟨h.selected, h.frame, h.behavior, h.content⟩

theorem select_links :
    OkTriple (Released B C) (select : EStateM BusFault SimulatedCard Unit) fun _ => Linked B C :=
  OkTriple.of_run fun c h => ⟨_, _, run_select c, h.select⟩

theorem setDivisor_keeps (d : UInt32) :
    OkTriple (Released B C) (setDivisor d : EStateM BusFault SimulatedCard ClockDivider)
      fun _ => Released B C :=
  OkTriple.of_run fun c h => ⟨_, _, run_setDivisor d c, ⟨h.selected, h.frame, h.behavior, h.content⟩⟩

theorem readyRound_keeps :
    OkTriple (Linked B C) (readyRound : EStateM BusFault SimulatedCard (Option Unit))
      fun _ => Linked B C := by
  unfold readyRound
  refine OkTriple.bind (command_keeps _ _) fun _ => ?_
  refine OkTriple.bind (command_keeps _ _) fun _ => ?_
  exact OkTriple.pure fun _ h => h

/-- Identification that succeeds leaves the card linked, and has taken it for a standard card if
it rejected the capacity query and for its own kind otherwise. -/
theorem identify_kind :
    OkTriple (Released B C) (identify : EStateM InitError SimulatedCard CardKind)
      fun k c => k = (if B.rejectOcr then .standard else B.kind) ∧ Linked B C c := by
  unfold identify
  refine OkTriple.bind (OkTriple.adaptExcept (setDivisor_keeps _) _) fun _ => ?_
  refine OkTriple.bind (OkTriple.adaptExcept deselect_releases _) fun _ => ?_
  refine OkTriple.bind (OkTriple.adaptExcept (send_released _) _) fun _ => ?_
  refine OkTriple.bind (OkTriple.adaptExcept select_links _) fun _ => ?_
  refine OkTriple.bind (OkTriple.adaptExcept (command_keeps _ _) _) fun _ => ?_
  refine OkTriple.ite (fun _ => OkTriple.throw_bind) fun _ => ?_
  refine OkTriple.bind (OkTriple.adaptExcept (command_keeps _ _) _) fun _ => ?_
  refine OkTriple.ite (fun _ => OkTriple.throw_bind) fun _ => ?_
  refine OkTriple.bind (OkTriple.adaptExcept (receiveBytes_keeps 4) _) fun _ => ?_
  refine OkTriple.ite (fun _ => OkTriple.throw_bind) fun _ => ?_
  refine OkTriple.bind (OkTriple.adaptExcept (OkTriple.pollN readyRound_keeps _) _) fun _ => ?_
  refine OkTriple.ite (fun _ => OkTriple.throw_bind) fun _ => ?_
  refine OkTriple.of_run fun c h => ?_
  have hsent := (h.sent .readOcr 0).drain 2
  rw [run_bind_ok (run_onBus _ (run_readOcr h))]
  cases hrej : B.rejectOcr with
  | true =>
    simp only [if_true, r1Ready]
    exact ⟨_, _, rfl, rfl, hsent⟩
  | false =>
    simp only [Bool.false_eq_true, if_false, r1Ready, ne_eq, not_true_eq_false]
    rw [run_bind_ok (run_onBus _ (run_receiveBytes hsent 4))]
    refine ⟨_, _, rfl, ?_, hsent.drain 4⟩
    have hhead : ((List.range 4).map ((c.sent .readOcr 0).drain 2).next).headD 0 =
        ((c.sent .readOcr 0).drain 2).next 0 := rfl
    have hcap := ocr_capacity h hrej
    rw [hhead]
    by_cases hk : B.kind = .highCapacity
    · rw [if_pos (hcap.2 hk), hk]
    · rw [if_neg (fun h => hk (hcap.1 h))]
      cases hB : B.kind
      · rfl
      · exact absurd hB hk
/-- A bring-up that leaves the card idle as kind `k` has settled `k` by the capacity query and
left the card quiet. -/
theorem bringUp_quiet {card : SdCard SimulatedCard} (hfresh : Released B C card.link)
    {k : CardKind} (hup : (bringUp card).2.state = .idle k) :
    k = (if B.rejectOcr then .standard else B.kind) ∧ Quiet B C k (bringUp card).2 := by
  cases hid : (identify : EStateM InitError SimulatedCard CardKind).run card.link with
  | error e l =>
    simp only [bringUp, hid, run_deselect] at hup
    cases hup
  | ok kind l =>
    obtain ⟨hkind, hl⟩ := identify_kind card.link hfresh kind l hid
    simp only [bringUp, hid, run_deselect, run_setDivisor, Bool.not_true, Bool.false_eq_true,
      if_false, CardState.idle.injEq] at hup ⊢
    subst hup
    exact ⟨hkind, rfl, rfl, hl.frame, hl.behavior, hl.content⟩
end SdCard

end PinballAudio
