import PinballAudio.Proofs.Card.Moves
import PinballAudio.Card.Simulated

/-!
# A read checks its request before it talks to the card

`readPartial` refuses a request in three ways, in this order and before any traffic: a window
that does not fit the block or the buffer, a card that is not idle, and a block whose byte
address does not fit in 32 bits on a standard card. `CardState.refusal` states the three checks
in numbers. A refused request comes back with the buffer and the card as they were, so no
operation of the link ran. Every other request ends, over any link and however the exchange
goes, with the card's state as it was, an error that is not one of the three refusals, and the
buffer written only inside the window: the exchange stores bytes only through `receiveInto`,
which writes the window's positions.
-/

namespace PinballAudio

namespace IoError

def refusesRequest : IoError → Bool
  | .offsetOutOfRange | .cardNotReady | .blockOutOfRange => true
  | _ => false

end IoError

/-- The error with which a card in state `s` refuses a read of `length` bytes of `block` from
`offset` into a buffer of `bufLen` bytes, if it refuses it: the window first, then the state,
then the block's byte address on a standard card. -/
def CardState.refusal (s : CardState) (block : UInt32) (offset length : UInt16) (bufLen : Nat) :
    Option IoError :=
  if offset.toNat < 512 ∧ offset.toNat + length.toNat ≤ 512 ∧ offset.toNat + length.toNat ≤ bufLen
  then
    match s with
    | .idle .standard => if 2 ^ 23 ≤ block.toNat then some .blockOutOfRange else none
    | .idle .highCapacity => none
    | _ => some .cardNotReady
  else some .offsetOutOfRange

namespace CardState

variable {s : CardState} {block : UInt32} {offset length : UInt16} {bufLen : Nat}

theorem refusesRequest_of_refusal {e : IoError} (h : s.refusal block offset length bufLen = some e) :
    e.refusesRequest = true := by
  unfold refusal at h
  split at h
  · split at h
    · split at h <;> cases h
      rfl
    · cases h
    · cases h
      rfl
  · cases h
    rfl

theorem refusal_of_not_fits
    (hfit : ¬(offset.toNat < 512 ∧ offset.toNat + length.toNat ≤ 512 ∧
      offset.toNat + length.toNat ≤ bufLen)) :
    s.refusal block offset length bufLen = some .offsetOutOfRange := by
  unfold refusal
  rw [if_neg hfit]

section Fits

variable (hfit : offset.toNat < 512 ∧ offset.toNat + length.toNat ≤ 512 ∧
  offset.toNat + length.toNat ≤ bufLen)
include hfit

theorem refusal_uninitialized :
    CardState.uninitialized.refusal block offset length bufLen = some .cardNotReady := by
  simp [refusal, hfit]

theorem refusal_failed : CardState.failed.refusal block offset length bufLen = some .cardNotReady := by
  simp [refusal, hfit]

theorem refusal_highCapacity :
    (CardState.idle .highCapacity).refusal block offset length bufLen = none := by
  simp [refusal, hfit]

theorem refusal_standard :
    (CardState.idle .standard).refusal block offset length bufLen =
      if 2 ^ 23 ≤ block.toNat then some .blockOutOfRange else none := by
  simp [refusal, hfit]

end Fits

theorem refusal_eq_offsetOutOfRange_iff :
    s.refusal block offset length bufLen = some .offsetOutOfRange ↔
      ¬(offset.toNat < 512 ∧ offset.toNat + length.toNat ≤ 512 ∧
        offset.toNat + length.toNat ≤ bufLen) := by
  unfold refusal
  split
  · rename_i hfit
    simp only [hfit]
    split
    · split <;> simp
    · simp
    · simp
  · simp [*]

theorem refusal_eq_cardNotReady_iff
    (hfit : offset.toNat < 512 ∧ offset.toNat + length.toNat ≤ 512 ∧
      offset.toNat + length.toNat ≤ bufLen) :
    s.refusal block offset length bufLen = some .cardNotReady ↔ ∀ k, s ≠ .idle k := by
  unfold refusal
  rw [if_pos hfit]
  cases s with
  | uninitialized => simp
  | failed => simp
  | idle k =>
    cases k with
    | standard => split <;> simp
    | highCapacity => simp

theorem refusal_eq_blockOutOfRange_iff
    (hfit : offset.toNat < 512 ∧ offset.toNat + length.toNat ≤ 512 ∧
      offset.toNat + length.toNat ≤ bufLen) {k : CardKind} (hs : s = .idle k) :
    s.refusal block offset length bufLen = some .blockOutOfRange ↔
      k = .standard ∧ 2 ^ 23 ≤ block.toNat := by
  unfold refusal
  rw [if_pos hfit, hs]
  cases k with
  | standard =>
    show (if 2 ^ 23 ≤ block.toNat then some IoError.blockOutOfRange else none) = _ ↔ _
    by_cases hb : 2 ^ 23 ≤ block.toNat <;> simp
  | highCapacity => simp

end CardState

namespace ReadWindow

variable {offset len : UInt16} {bufferLen : Nat}

theorem make_error {e : IoError} (h : make offset len bufferLen = .error e) :
    e = .offsetOutOfRange ∧ ¬(offset.toNat < 512 ∧ offset.toNat + len.toNat ≤ 512 ∧
      offset.toNat + len.toNat ≤ bufferLen) := by
  unfold make at h
  split at h
  · cases h
  · cases h
    exact ⟨rfl, by assumption⟩

theorem make_ok {w : ReadWindow} (h : make offset len bufferLen = .ok w) :
    w.offset = offset.toNat ∧ w.endOffset = offset.toNat + len.toNat ∧
      (offset.toNat < 512 ∧ offset.toNat + len.toNat ≤ 512 ∧ offset.toNat + len.toNat ≤ bufferLen) := by
  unfold make at h
  split at h
  · cases h
    exact ⟨rfl, rfl, by assumption⟩
  · cases h

end ReadWindow

theorem CardKind.wireAddress_standard_eq_none_iff (block : UInt32) :
    CardKind.standard.wireAddress block = none ↔ 2 ^ 23 ≤ block.toNat := by
  have hsize : UInt32.size = 2 ^ 32 := rfl
  simp only [CardKind.wireAddress, Board.blockSize, hsize]
  split <;> simp <;> omega

theorem CardState.accepted_of_refusal_eq_none {s : CardState} {block : UInt32} {offset length : UInt16}
    {bufLen : Nat} (h : s.refusal block offset length bufLen = none) :
    ∃ w k a, ReadWindow.make offset length bufLen = .ok w ∧ w.offset = offset.toNat ∧
      w.endOffset = offset.toNat + length.toNat ∧ s = .idle k ∧
      k.wireAddress block = some a := by
  obtain ⟨w, hw, hoff, hend⟩ : ∃ w, ReadWindow.make offset length bufLen = .ok w ∧
      w.offset = offset.toNat ∧ w.endOffset = offset.toNat + length.toNat := by
    cases hw : ReadWindow.make offset length bufLen with
    | error e =>
      rw [CardState.refusal_of_not_fits (ReadWindow.make_error hw).2] at h
      cases h
    | ok w => exact ⟨w, rfl, (ReadWindow.make_ok hw).1, (ReadWindow.make_ok hw).2.1⟩
  have hfit := (ReadWindow.make_ok hw).2.2
  cases hs : s with
  | uninitialized =>
    rw [hs, CardState.refusal_uninitialized hfit] at h
    cases h
  | failed =>
    rw [hs, CardState.refusal_failed hfit] at h
    cases h
  | idle k =>
    cases k with
    | highCapacity => exact ⟨w, _, _, hw, hoff, hend, rfl, wireAddress_highCapacity block⟩
    | standard =>
      rw [hs, CardState.refusal_standard hfit] at h
      split at h
      · cases h
      · rename_i hblock
        cases ha : CardKind.standard.wireAddress block with
        | none => exact absurd ((CardKind.wireAddress_standard_eq_none_iff block).1 ha) hblock
        | some a => exact ⟨w, _, a, hw, hoff, hend, rfl, ha⟩

def AgreesOutside (lo hi : Nat) (b b' : Array UInt8) : Prop :=
  b'.size = b.size ∧ ∀ i, i < lo ∨ hi ≤ i → b'[i]? = b[i]?

namespace AgreesOutside

variable {lo hi : Nat} {b b' b'' : Array UInt8}

theorem refl (lo hi : Nat) (b : Array UInt8) : AgreesOutside lo hi b b :=
  ⟨rfl, fun _ _ => rfl⟩

theorem trans (h₁ : AgreesOutside lo hi b b') (h₂ : AgreesOutside lo hi b' b'') :
    AgreesOutside lo hi b b'' :=
  ⟨h₂.1.trans h₁.1, fun i hi => (h₂.2 i hi).trans (h₁.2 i hi)⟩

theorem setIfInBounds {pos : Nat} (hlo : lo ≤ pos) (hhi : pos < hi) (v : UInt8) :
    AgreesOutside lo hi b (b.setIfInBounds pos v) :=
  ⟨Array.size_setIfInBounds, fun _ hi' => Array.getElem?_setIfInBounds_ne (by omega)⟩

end AgreesOutside

namespace SdCard

variable {σ α : Type}

theorem finalState_onLink (x : EStateM BusFault σ α) (t : σ × Array UInt8) :
    finalState ((onLink x : EStateM IoError (σ × Array UInt8) α).run t) =
      (finalState (x.run t.1), t.2) := by
  simp only [onLink, EStateM.run]
  cases x t.1 <;> rfl

theorem onLink_keeps (x : EStateM BusFault σ α) :
    Moves (fun t t' => t'.2 = t.2) (onLink x : EStateM IoError (σ × Array UInt8) α) := by
  intro t
  rw [finalState_onLink]

theorem onLink_raises (x : EStateM BusFault σ α) :
    Raises (· = IoError.bus) (onLink x : EStateM IoError (σ × Array UInt8) α) := by
  intro t e t' h
  simp only [onLink, EStateM.run] at h
  cases hx : x t.1 with
  | ok a l =>
    rw [hx] at h
    cases h
  | error f l =>
    rw [hx] at h
    cases h
    rfl

theorem onLink_agreesOutside (lo hi : Nat) (x : EStateM BusFault σ α) :
    Moves (fun t t' => AgreesOutside lo hi t.2 t'.2)
      (onLink x : EStateM IoError (σ × Array UInt8) α) :=
  (onLink_keeps x).mono fun t _ h => h ▸ AgreesOutside.refl lo hi t.2

variable [SpiLink σ]

open SpiLink

theorem receiveInto_agreesOutside {lo hi pos n : Nat} (hlo : lo ≤ pos) (hhi : pos + n ≤ hi) :
    Moves (fun t t' => AgreesOutside lo hi t.2 t'.2)
      (receiveInto pos n : EStateM IoError (σ × Array UInt8) Unit) := by
  induction n generalizing pos with
  | zero => exact Moves.pure (fun t => AgreesOutside.refl lo hi t.2) ()
  | succ n ih =>
    have htrans : ∀ t t' t'' : σ × Array UInt8, AgreesOutside lo hi t.2 t'.2 →
        AgreesOutside lo hi t'.2 t''.2 → AgreesOutside lo hi t.2 t''.2 :=
      fun _ _ _ h₁ h₂ => h₁.trans h₂
    refine Moves.bind_trans (onLink_agreesOutside lo hi receive) (fun b => ?_) htrans
    refine Moves.bind_trans (fun t => ?_) (fun _ => ih (by omega) (by omega)) htrans
    exact AgreesOutside.setIfInBounds hlo (by omega) b

theorem receiveInto_raises (pos n : Nat) :
    Raises (· = IoError.bus) (receiveInto pos n : EStateM IoError (σ × Array UInt8) Unit) := by
  induction n generalizing pos with
  | zero => exact Raises.pure ()
  | succ n ih =>
    refine Raises.bind (onLink_raises receive) fun _ => Raises.bind ?_ fun _ => ih (pos + 1)
    intro t e t' h
    cases h

/-- The exchange of a read writes the buffer only inside the window, on every exit. -/
theorem readWindow_agreesOutside (address : UInt32) (w : ReadWindow) :
    Moves (fun t t' => AgreesOutside w.offset w.endOffset t.2 t'.2)
      (readWindow address w : EStateM IoError (σ × Array UInt8) Unit) := by
  have htrans : ∀ t t' t'' : σ × Array UInt8, AgreesOutside w.offset w.endOffset t.2 t'.2 →
      AgreesOutside w.offset w.endOffset t'.2 t''.2 →
      AgreesOutside w.offset w.endOffset t.2 t''.2 :=
    fun _ _ _ h₁ h₂ => h₁.trans h₂
  have hrefl : ∀ t : σ × Array UInt8, AgreesOutside w.offset w.endOffset t.2 t.2 :=
    fun t => AgreesOutside.refl _ _ t.2
  unfold readWindow
  refine Moves.bind_trans (onLink_agreesOutside _ _ _) (fun r₁ => ?_) htrans
  dsimp only
  by_cases hr : r₁ ≠ Card.r1Ready
  · rw [if_pos hr]
    exact Moves.throw_bind hrefl
  rw [if_neg hr]
  refine Moves.bind_trans (onLink_agreesOutside _ _ _) (fun token => ?_) htrans
  by_cases ht : token.isNone = true
  · rw [if_pos ht]
    exact Moves.throw_bind hrefl
  rw [if_neg ht]
  refine Moves.bind_trans (onLink_agreesOutside _ _ _) (fun _ => ?_) htrans
  refine Moves.bind_trans (receiveInto_agreesOutside le_rfl le_rfl) (fun _ => ?_) htrans
  exact onLink_agreesOutside _ _ _

theorem readWindow_raises (address : UInt32) (w : ReadWindow) :
    Raises (fun e => e.refusesRequest = false)
      (readWindow address w : EStateM IoError (σ × Array UInt8) Unit) := by
  have hbus : ∀ {β : Type} (x : EStateM BusFault σ β),
      Raises (fun e : IoError => e.refusesRequest = false)
        (onLink x : EStateM IoError (σ × Array UInt8) β) :=
    fun x t e t' h => by rw [onLink_raises x t e t' h]; rfl
  unfold readWindow
  refine Raises.bind (hbus _) fun r₁ => ?_
  dsimp only
  by_cases hr : r₁ ≠ Card.r1Ready
  · rw [if_pos hr]
    exact Raises.throw_bind (by rfl)
  rw [if_neg hr]
  refine Raises.bind (hbus _) fun token => ?_
  by_cases ht : token.isNone = true
  · rw [if_pos ht]
    exact Raises.throw_bind (by rfl)
  rw [if_neg ht]
  refine Raises.bind (hbus _) fun _ => Raises.bind ?_ fun _ => hbus _
  intro t e t' h
  rw [receiveInto_raises w.offset w.len t e t' h]
  rfl

section Request

variable {card : SdCard σ} {block : UInt32} {offset length : UInt16} {buf : Array UInt8}

theorem readPartial_of_refusal {e : IoError}
    (h : card.state.refusal block offset length buf.size = some e) :
    card.readPartial block offset length buf = ((.error e, buf), card) := by
  unfold readPartial
  cases hw : ReadWindow.make offset length buf.size with
  | error e' =>
    obtain ⟨rfl, hfit⟩ := ReadWindow.make_error hw
    rw [CardState.refusal_of_not_fits hfit] at h
    cases h
    rfl
  | ok w =>
    have hfit := (ReadWindow.make_ok hw).2.2
    cases hs : card.state with
    | uninitialized =>
      rw [hs, CardState.refusal_uninitialized hfit] at h
      cases h
      rfl
    | failed =>
      rw [hs, CardState.refusal_failed hfit] at h
      cases h
      rfl
    | idle k =>
      cases k with
      | highCapacity =>
        rw [hs, CardState.refusal_highCapacity hfit] at h
        cases h
      | standard =>
        rw [hs, CardState.refusal_standard hfit] at h
        split at h
        · cases h
          rename_i hblock
          simp only [(CardKind.wireAddress_standard_eq_none_iff block).2 hblock]
        · cases h

/-- The exchange of a read on an idle card with an address for the block: whichever way the
select line, the card and the release go, an error that is not a refusal, the buffer written only
inside the window, and the card with a new link. -/
theorem readPartial_exchange {w : ReadWindow} {k : CardKind} {a : UInt32}
    (hw : ReadWindow.make offset length buf.size = .ok w) (hs : card.state = .idle k)
    (ha : k.wireAddress block = some a) :
    ∃ r buf' l', card.readPartial block offset length buf = ((r, buf'), { card with link := l' }) ∧
      (∀ e, r = .error e → e.refusesRequest = false) ∧
      AgreesOutside w.offset w.endOffset buf buf' := by
  cases hsel : (select : EStateM BusFault σ Unit).run card.link with
  | error f l =>
    exact ⟨.error .bus, buf, l, by simp only [readPartial, hw, hs, ha, hsel],
      fun e he => by cases he; rfl, AgreesOutside.refl _ _ buf⟩
  | ok u l =>
    have hframe := readWindow_agreesOutside a w (l, buf)
    have hraise := readWindow_raises a w (l, buf)
    cases hrun : (readWindow a w).run (l, buf) with
    | ok u' t =>
      obtain ⟨l₁, buf₁⟩ := t
      rw [hrun] at hframe
      cases hdes : (deselect : EStateM BusFault σ Unit).run l₁ with
      | ok u'' l₂ =>
        exact ⟨.ok (), buf₁, l₂, by simp only [readPartial, hw, hs, ha, hsel, hrun, hdes],
          fun e he => (by cases he), hframe⟩
      | error f l₂ =>
        -- a failed release turns a good read into a bus error
        exact ⟨.error .bus, buf₁, l₂, by simp only [readPartial, hw, hs, ha, hsel, hrun, hdes],
          fun e he => by cases he; rfl, hframe⟩
    | error e t =>
      obtain ⟨l₁, buf₁⟩ := t
      rw [hrun] at hframe
      have he := hraise e _ hrun
      cases hdes : (deselect : EStateM BusFault σ Unit).run l₁ with
      | ok u'' l₂ =>
        exact ⟨.error e, buf₁, l₂, by simp only [readPartial, hw, hs, ha, hsel, hrun, hdes],
          fun e' he' => by cases he'; exact he, hframe⟩
      | error f l₂ =>
        exact ⟨.error e, buf₁, l₂, by simp only [readPartial, hw, hs, ha, hsel, hrun, hdes],
          fun e' he' => by cases he'; exact he, hframe⟩

theorem readPartial_of_no_refusal (h : card.state.refusal block offset length buf.size = none) :
    (∀ e, (card.readPartial block offset length buf).1.1 = .error e → e.refusesRequest = false) ∧
      (card.readPartial block offset length buf).2.state = card.state ∧
      AgreesOutside offset.toNat (offset.toNat + length.toNat) buf
        (card.readPartial block offset length buf).1.2 := by
  obtain ⟨w, k, a, hw, hoff, hend, hs, ha⟩ := CardState.accepted_of_refusal_eq_none h
  obtain ⟨r, buf', l', hr, herr, hframe⟩ := readPartial_exchange hw hs ha
  rw [hr, ← hend, ← hoff]
  exact ⟨herr, rfl, hframe⟩

/-- A read fails with a refusal exactly when its request is refused. -/
theorem readPartial_eq_refusal_iff {e : IoError} (he : e.refusesRequest = true) :
    (card.readPartial block offset length buf).1.1 = .error e ↔
      card.state.refusal block offset length buf.size = some e := by
  constructor
  · intro hr
    cases h : card.state.refusal block offset length buf.size with
    | some e' =>
      rw [readPartial_of_refusal h] at hr
      cases hr
      rfl
    | none =>
      have := (readPartial_of_no_refusal h).1 e hr
      rw [he] at this
      cases this
  · intro h
    rw [readPartial_of_refusal h]

end Request

end SdCard

open SdCard

/-- A read checks its request before any traffic, over any link. It fails as out of range exactly
when the window starts past the block or ends past the block or the buffer; for a window that
fits, as not ready exactly when the card is not idle; for an idle card, as out of range exactly
when the card is standard and the block's byte offset needs more than 32 bits. A refused request
returns the buffer and the card as they were, so no link operation ran. Whatever else happens, the
card's state is unchanged and no buffer byte outside the window is written. -/
theorem read_checks_request_before_traffic {σ : Type} [SpiLink σ] (card : SdCard σ)
    (block : UInt32) (offset length : UInt16) (buf : Array UInt8) :
    let fits := offset.toNat < 512 ∧ offset.toNat + length.toNat ≤ 512 ∧
      offset.toNat + length.toNat ≤ buf.size
    let r := card.readPartial block offset length buf
    (r.1.1 = .error .offsetOutOfRange ↔ ¬fits) ∧
    (fits → (r.1.1 = .error .cardNotReady ↔ ∀ k, card.state ≠ .idle k)) ∧
    (fits → ∀ k, card.state = .idle k →
      (r.1.1 = .error .blockOutOfRange ↔ k = .standard ∧ 2 ^ 23 ≤ block.toNat)) ∧
    (∀ e, e.refusesRequest = true → r.1.1 = .error e → r = ((.error e, buf), card)) ∧
    r.2.state = card.state ∧ r.1.2.size = buf.size ∧
    ∀ i, i < offset.toNat ∨ offset.toNat + length.toNat ≤ i → r.1.2[i]? = buf[i]? := by
  intro fits r
  have hframe : r.2.state = card.state ∧
      AgreesOutside offset.toNat (offset.toNat + length.toNat) buf r.1.2 := by
    cases h : card.state.refusal block offset length buf.size with
    | some e =>
      have hr : r = ((.error e, buf), card) := readPartial_of_refusal h
      rw [hr]
      exact ⟨rfl, AgreesOutside.refl _ _ buf⟩
    | none => exact (readPartial_of_no_refusal h).2
  refine ⟨?_, fun hfit => ?_, fun hfit k hs => ?_, fun e he hr => ?_, hframe.1, hframe.2.1,
    hframe.2.2⟩
  · rw [readPartial_eq_refusal_iff rfl]
    exact CardState.refusal_eq_offsetOutOfRange_iff
  · rw [readPartial_eq_refusal_iff rfl]
    exact CardState.refusal_eq_cardNotReady_iff hfit
  · rw [readPartial_eq_refusal_iff rfl]
    exact CardState.refusal_eq_blockOutOfRange_iff hfit hs
  · exact readPartial_of_refusal ((readPartial_eq_refusal_iff he).1 hr)

theorem standard_card_refuses_block_past_byte_addresses :
    let card : SdCard Card.SimulatedCard :=
      ⟨Card.SimulatedCard.make { kind := .standard }, .idle .standard⟩
    let r := card.readPartial 8388608 0 4 (Array.replicate 4 0)
    ((0 : UInt16).toNat < 512 ∧ (0 : UInt16).toNat + (4 : UInt16).toNat ≤ 512 ∧
        (0 : UInt16).toNat + (4 : UInt16).toNat ≤ (Array.replicate 4 (0 : UInt8)).size) ∧
      card.state = .idle .standard ∧ r.1.1 = .error .blockOutOfRange ∧
      r = ((.error .blockOutOfRange, Array.replicate 4 0), card) := by
  intro card r
  obtain ⟨-, -, hblock, hrefuses, -⟩ :=
    read_checks_request_before_traffic card 8388608 0 4 (Array.replicate 4 0)
  have hfit : (0 : UInt16).toNat < 512 ∧ (0 : UInt16).toNat + (4 : UInt16).toNat ≤ 512 ∧
      (0 : UInt16).toNat + (4 : UInt16).toNat ≤ (Array.replicate 4 (0 : UInt8)).size := by decide
  have hout : r.1.1 = .error .blockOutOfRange := (hblock hfit .standard rfl).2 ⟨rfl, by decide⟩
  exact ⟨hfit, rfl, hout, hrefuses .blockOutOfRange rfl hout⟩

end PinballAudio
