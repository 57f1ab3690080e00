import PinballAudio.Proofs.Card.BringUp

/-!
# Partial reads from the simulated card

A read of a window of one block, as the card model answers it. The driver sends the read
command with the block's wire address; a card set to reject reads answers with an error byte,
and the read fails with the buffer untouched. Otherwise the card answers ready, waits
`tokenDelay` idle bytes and sends its token, the block and two checksum bytes: a withheld token
or a delay of the whole polling budget makes the read time out, again with the buffer untouched;
any other delay lets the driver skip to the window, copy it into the buffer, and clock out the
rest of the block and the checksum, so that nothing is left queued when the card is released.

The block whose bytes arrive is the block the card finds at the address: the address names the
block asked for when driver and card agree on the card's kind, which the bring-up settles from
the capacity query, except that a card rejecting that query is taken for a standard one.
-/

namespace PinballAudio

namespace ReadWindow

theorem make_fits {offset len : UInt16} {bufferLen : Nat} (hoff : offset.toNat < Board.blockSize)
    (hend : offset.toNat + len.toNat ≤ Board.blockSize) (hbuf : offset.toNat + len.toNat ≤ bufferLen) :
    ∃ w, make offset len bufferLen = .ok w ∧ w.offset = offset.toNat ∧
      w.endOffset = offset.toNat + len.toNat :=
  ⟨_, dif_pos ⟨hoff, hend, hbuf⟩, rfl, rfl⟩

theorem endOffset_le_of_make {offset len : UInt16} {bufferLen : Nat} {w : ReadWindow}
    (h : make offset len bufferLen = .ok w) : w.endOffset ≤ bufferLen := by
  unfold make at h
  split at h
  · rename_i hfit
    cases h
    exact hfit.2.2
  · cases h

end ReadWindow

namespace Card.SimulatedCard

variable {c : SimulatedCard}

theorem readPayload_sent (hw : c.behavior.withholdToken = false) (block : UInt32) :
    c.readPayload block = List.replicate c.behavior.tokenDelay 0xFF ++
      dataStartToken :: ((List.range Board.blockSize).map (c.content block) ++ [0xA5, 0x5A]) := by
  simp [readPayload, hw]

theorem readPayload_withheld (hw : c.behavior.withholdToken = true) (block : UInt32) :
    c.readPayload block = List.replicate c.behavior.tokenDelay 0xFF := by
  simp [readPayload, hw]

theorem sent_read (a : UInt32) (c : SimulatedCard) :
    (c.sent .readSingleBlock a).outgoing = 0xFF ::
      if c.behavior.rejectReads then [0x04]
      else 0x00 :: c.readPayload (c.blockForAddress a) := by
  simp only [sent, Command.index, Command.crc]
  rw [execute_read]
  simp [readPayload, blockForAddress]

theorem next_replicate {d k : Nat} {rest : List UInt8}
    (hout : c.outgoing = List.replicate d 0xFF ++ rest) (hk : k < d) : c.next k = 0xFF := by
  simp [next, hout, List.getD_eq_getElem?_getD, List.getElem?_append_left, hk]

theorem next_of_idle {d k : Nat} (hout : c.outgoing = List.replicate d 0xFF) : c.next k = 0xFF := by
  rw [next, hout, List.getD_eq_getElem?_getD]
  by_cases hk : k < d <;> simp [hk]

theorem sent_readSingleBlock (a : UInt32) (c : SimulatedCard) :
    c.sent .readSingleBlock a =
      { c with
        transfers := c.transfers + 6
        frame := []
        commands := c.commands.push ⟨17, a, 0xFF⟩
        appCommand := false
        readAddresses := c.readAddresses.push a
        outgoing := 0xFF ::
          if c.behavior.rejectReads then [0x04]
          else 0x00 :: c.readPayload (c.blockForAddress a) } := by
  simp only [sent, Command.index, Command.crc]
  rw [execute_read]
  rfl

theorem blockForAddress_wireAddress {k : CardKind} {b a : UInt32} (hk : c.behavior.kind = k)
    (ha : k.wireAddress b = some a) : c.blockForAddress a = b := by
  cases k with
  | standard =>
    simp only [CardKind.wireAddress, Option.ite_none_right_eq_some, Option.some.injEq] at ha
    obtain ⟨hfit, rfl⟩ := ha
    simp only [blockForAddress, hk]
    apply UInt32.toNat.inj
    have h512 : Board.blockSize.toUInt32.toNat = Board.blockSize := rfl
    rw [UInt32.toNat_div, UInt32.toNat_mul, h512, Nat.mod_eq_of_lt hfit,
      Nat.mul_div_cancel _ (by decide)]
  | highCapacity =>
    cases ha
    simp only [blockForAddress, hk]

end Card.SimulatedCard

namespace SdCard

open Card SimulatedCard

/-- The card after a sequence of reads, each of a block, an offset, a length and a buffer. -/
def afterReads {σ : Type} [SpiLink σ] (card : SdCard σ) :
    List (UInt32 × UInt16 × UInt16 × Array UInt8) → SdCard σ
  | [] => card
  | (b, o, n, buf) :: rs => (card.readPartial b o n buf).2.afterReads rs

variable {c : SimulatedCard} {B : CardBehavior} {C : UInt32 → Nat → UInt8}

theorem timeoutPolls_toNat : timeoutPolls.maxAttempts.toNat = 5000 := rfl

theorem run_readWindow_rejected (h : Linked B C c) (hrej : B.rejectReads = true) (a : UInt32)
    (w : ReadWindow) (buf : Array UInt8) :
    (readWindow a w).run (c, buf) =
      .error .commandRejected ((c.sent .readSingleBlock a).drain 2, buf) := by
  have hout : (c.sent .readSingleBlock a).outgoing = [0xFF, 0x04] := by
    rw [sent_read, h.behavior, hrej]
    rfl
  simp only [readWindow]
  rw [run_bind_ok (run_onLink (run_command h .readSingleBlock a hout (by decide)) buf)]
  rfl

theorem run_readWindow_timeout (h : Linked B C c) (hrej : B.rejectReads = false)
    (hto : B.withholdToken = true ∨ 5000 ≤ B.tokenDelay) (a : UInt32) (w : ReadWindow)
    (buf : Array UInt8) :
    (readWindow a w).run (c, buf) =
      .error .dataTokenTimeout ((c.sent .readSingleBlock a).drain (2 + 5000), buf) := by
  have hout : (c.sent .readSingleBlock a).outgoing =
      0xFF :: 0x00 :: c.readPayload (c.blockForAddress a) := by
    rw [sent_read, h.behavior, hrej]
    rfl
  have h₂ : Linked B C ((c.sent .readSingleBlock a).drain 2) := (h.sent _ a).drain 2
  have hidle : ∀ k < 5000, ((c.sent .readSingleBlock a).drain 2).next k = 0xFF := by
    intro k hk
    have hout₂ : ((c.sent .readSingleBlock a).drain 2).outgoing =
        c.readPayload (c.blockForAddress a) := by
      simp [drain, hout]
    rcases hto with hw | hd
    · exact next_of_idle (hout₂.trans (readPayload_withheld (h.behavior ▸ hw) _))
    · rw [readPayload] at hout₂
      exact next_replicate hout₂ (by rw [h.behavior]; omega)
  have htoken : (awaitToken : EStateM BusFault SimulatedCard (Option Unit)).run
      ((c.sent .readSingleBlock a).drain 2) =
        .ok none (((c.sent .readSingleBlock a).drain 2).drain 5000) :=
    run_pollN_none h₂ fun k hk => by
      rw [timeoutPolls_toNat] at hk
      simp [hidle k hk, dataStartToken]
  simp only [readWindow]
  rw [run_bind_ok (run_onLink (run_command h .readSingleBlock a hout (by decide)) buf)]
  simp only [r1Ready, ne_eq, not_true_eq_false, if_false]
  rw [run_bind_ok (run_onLink htoken buf), drain_drain]
  rfl

/-- A read whose token comes within the polling budget copies the window of the block the card
finds at the address into the buffer, leaves every other byte of the buffer, and clocks out the
whole block and its checksum. -/
theorem run_readWindow_ok (h : Linked B C c) (hrej : B.rejectReads = false)
    (hw : B.withholdToken = false) (hd : B.tokenDelay < 5000) (a : UInt32) (w : ReadWindow)
    (buf : Array UInt8) (hfit : w.endOffset ≤ buf.size) :
    ∃ buf', (readWindow a w).run (c, buf) =
        .ok () ((c.sent .readSingleBlock a).drain (B.tokenDelay + 517), buf') ∧
      buf'.size = buf.size ∧
      ∀ j, buf'[j]? = if w.offset ≤ j ∧ j < w.endOffset then some (C (c.blockForAddress a) j)
        else buf[j]? := by
  have hout : (c.sent .readSingleBlock a).outgoing =
      [0xFF, 0x00] ++ (List.replicate B.tokenDelay 0xFF ++ dataStartToken ::
        ((List.range Board.blockSize).map (C (c.blockForAddress a)) ++ [0xA5, 0x5A])) := by
    rw [sent_read, h.behavior, hrej, readPayload_sent (h.behavior ▸ hw), h.behavior, h.content]
    rfl
  have h₂ : Linked B C ((c.sent .readSingleBlock a).drain 2) := (h.sent _ a).drain 2
  have hout₂ : ((c.sent .readSingleBlock a).drain 2).outgoing =
      List.replicate B.tokenDelay 0xFF ++ dataStartToken ::
        ((List.range Board.blockSize).map (C (c.blockForAddress a)) ++ [0xA5, 0x5A]) := by
    simp [drain, hout]
  have htoken : (awaitToken : EStateM BusFault SimulatedCard (Option Unit)).run
      ((c.sent .readSingleBlock a).drain 2) =
        .ok (some ()) (((c.sent .readSingleBlock a).drain 2).drain (B.tokenDelay + 1)) :=
    run_pollN_found h₂ (by rw [timeoutPolls_toNat]; exact hd)
      (fun k hk => by simp [next_replicate hout₂ hk, dataStartToken])
      (by simpa [dataStartToken] using next_eq_of_outgoing hout₂ 0)
  have hblock : ∀ j < Board.blockSize,
      ((c.sent .readSingleBlock a).drain 2).next (B.tokenDelay + 1 + j) =
        C (c.blockForAddress a) j := by
    intro j hj
    have hsplit : ((c.sent .readSingleBlock a).drain 2).outgoing =
        (List.replicate B.tokenDelay 0xFF ++ [dataStartToken]) ++
          ((List.range Board.blockSize).map (C (c.blockForAddress a)) ++ [0xA5, 0x5A]) := by
      simp [hout₂]
    have := next_eq_of_outgoing hsplit j
    simp only [List.length_append, List.length_replicate, List.length_singleton] at this
    rw [this]
    simp [List.getD_eq_getElem?_getD, List.getElem?_append_left, hj]
  obtain ⟨c₃, hc₃⟩ : ∃ c₃, c₃ = ((c.sent .readSingleBlock a).drain 2).drain (B.tokenDelay + 1) :=
    ⟨_, rfl⟩
  have h₃ : Linked B C c₃ := hc₃ ▸ h₂.drain _
  rw [← hc₃] at htoken
  obtain ⟨buf', hrecv, hsize, hbytes⟩ :=
    run_receiveInto (h₃.drain w.offset) w.offset w.len buf hfit
  refine ⟨buf', ?_, hsize, fun j => ?_⟩
  · simp only [readWindow]
    rw [run_bind_ok (run_onLink (run_command h .readSingleBlock a
      (hout.trans (by rfl)) (by decide)) buf)]
    simp only [r1Ready, ne_eq, not_true_eq_false, if_false]
    rw [run_bind_ok (run_onLink htoken buf)]
    simp only [Option.isNone_some, Bool.false_eq_true, if_false]
    rw [run_bind_ok (run_onLink (run_discard h₃ w.offset) buf), run_bind_ok hrecv,
      run_onLink (run_discard ((h₃.drain w.offset).drain w.len) _) buf']
    have hend := w.endOffset_add_trailing
    simp only [hc₃, drain_drain, ReadWindow.endOffset] at hend ⊢
    congr 3
    simp only [Board.crcBytes, Board.blockSize] at hend ⊢
    omega
  · rw [hbytes j]
    split
    · rename_i hj
      have hlt : j < Board.blockSize := Nat.lt_of_lt_of_le hj.2 w.endOffset_le
      rw [if_pos (show w.offset ≤ j ∧ j < w.endOffset from hj), next_drain,
        Nat.add_sub_cancel' hj.1, hc₃, next_drain, hblock j hlt]
    · rename_i hj
      rw [if_neg (show ¬(w.offset ≤ j ∧ j < w.endOffset) from hj)]

section Quiet

variable {k : CardKind} {card : SdCard SimulatedCard} {b a : UInt32} {o n : UInt16}
  {buf : Array UInt8} {w : ReadWindow}

theorem readPartial_of_run_ok (hq : Quiet B C k card) (hw : ReadWindow.make o n buf.size = .ok w)
    (ha : k.wireAddress b = some a) {l : SimulatedCard} {buf' : Array UInt8}
    (hrun : (readWindow a w).run ({ card.link with selected := true }, buf) = .ok () (l, buf')) :
    card.readPartial b o n buf = ((.ok (), buf'), { card with link := { l with selected := false } }) := by
  simp only [readPartial, hw, hq.state, ha, run_select, hrun, run_deselect]

theorem readPartial_of_run_error (hq : Quiet B C k card)
    (hw : ReadWindow.make o n buf.size = .ok w) (ha : k.wireAddress b = some a) {e : IoError}
    {l : SimulatedCard} {buf' : Array UInt8}
    (hrun : (readWindow a w).run ({ card.link with selected := true }, buf) = .error e (l, buf')) :
    card.readPartial b o n buf =
      ((.error e, buf'), { card with link := { l with selected := false } }) := by
  simp only [readPartial, hw, hq.state, ha, run_select, hrun, run_deselect]

theorem readPartial_failed (hq : Quiet B C k card) (hw : ReadWindow.make o n buf.size = .ok w)
    (ha : k.wireAddress b = some a) {e : IoError} {m : Nat}
    (hrun : (readWindow a w).run ({ card.link with selected := true }, buf) =
      .error e (({ card.link with selected := true }.sent .readSingleBlock a).drain m, buf)) :
    (card.readPartial b o n buf).1 = (.error e, buf) ∧
      Quiet B C k (card.readPartial b o n buf).2 := by
  rw [readPartial_of_run_error hq hw ha hrun]
  exact ⟨rfl, hq.state, ((hq.released.select.sent _ a).drain m).deselect⟩

theorem readPartial_rejected (hq : Quiet B C k card) (hw : ReadWindow.make o n buf.size = .ok w)
    (ha : k.wireAddress b = some a) (hrej : B.rejectReads = true) :
    (card.readPartial b o n buf).1 = (.error .commandRejected, buf) ∧
      Quiet B C k (card.readPartial b o n buf).2 :=
  readPartial_failed hq hw ha (run_readWindow_rejected hq.released.select hrej a w buf)

theorem readPartial_timeout (hq : Quiet B C k card) (hw : ReadWindow.make o n buf.size = .ok w)
    (ha : k.wireAddress b = some a) (hrej : B.rejectReads = false)
    (hto : B.withholdToken = true ∨ 5000 ≤ B.tokenDelay) :
    (card.readPartial b o n buf).1 = (.error .dataTokenTimeout, buf) ∧
      Quiet B C k (card.readPartial b o n buf).2 :=
  readPartial_failed hq hw ha (run_readWindow_timeout hq.released.select hrej hto a w buf)

/-- Otherwise the read copies the window of the block the card finds at the address, keeps the
rest of the buffer, sends one read command and clocks out the whole answer. -/
theorem readPartial_delivers (hq : Quiet B C k card) (hw : ReadWindow.make o n buf.size = .ok w)
    (ha : k.wireAddress b = some a) (hrej : B.rejectReads = false)
    (hwh : B.withholdToken = false) (hd : B.tokenDelay < 5000) :
    ∃ buf' link, card.readPartial b o n buf = ((.ok (), buf'), { card with link }) ∧
      buf'.size = buf.size ∧
      (∀ j, buf'[j]? = if w.offset ≤ j ∧ j < w.endOffset
        then some (C (card.link.blockForAddress a) j) else buf[j]?) ∧
      link.commands = card.link.commands.push ⟨17, a, 0xFF⟩ ∧
      link.readAddresses = card.link.readAddresses.push a ∧
      link.transfers = card.link.transfers + 523 + B.tokenDelay ∧
      link.outgoing = [] ∧ Released B C link := by
  have hl := hq.released.select
  obtain ⟨buf', hrun, hsize, hbytes⟩ :=
    run_readWindow_ok hl hrej hwh hd a w buf (ReadWindow.endOffset_le_of_make hw)
  rw [readPartial_of_run_ok hq hw ha hrun]
  have hsent := sent_readSingleBlock a { card.link with selected := true }
  refine ⟨buf', _, rfl, hsize, hbytes, ?_, ?_, ?_, ?_, ((hl.sent _ a).drain _).deselect⟩
  · simp [hsent, drain]
  · simp [hsent, drain]
  · simp only [hsent, drain]
    omega
  · have hlen : ({ card.link with selected := true }.sent .readSingleBlock a).outgoing.length =
        B.tokenDelay + 517 := by
      rw [sent_read, hl.behavior, hrej, readPayload_sent (hl.behavior ▸ hwh), hl.behavior]
      simp [Board.blockSize]
    simp only [drain, List.drop_eq_nil_iff, hlen, Nat.le_refl]

theorem readPartial_quiet (hq : Quiet B C k card) (b : UInt32) (o n : UInt16) (buf : Array UInt8) :
    Quiet B C k (card.readPartial b o n buf).2 := by
  cases hw : ReadWindow.make o n buf.size with
  | error e => simpa [readPartial, hw] using hq
  | ok w =>
    cases ha : k.wireAddress b with
    | none => simpa [readPartial, hw, hq.state, ha] using hq
    | some a =>
      cases hrej : B.rejectReads with
      | true => exact (readPartial_rejected hq hw ha hrej).2
      | false =>
        by_cases hto : B.withholdToken = true ∨ 5000 ≤ B.tokenDelay
        · exact (readPartial_timeout hq hw ha hrej hto).2
        · have hwh : B.withholdToken = false := by
            cases h : B.withholdToken
            · rfl
            · exact absurd (Or.inl h) hto
          obtain ⟨buf', link, hr, -, -, -, -, -, -, hrel⟩ :=
            readPartial_delivers hq hw ha hrej hwh (by omega)
          rw [hr]
          exact ⟨hq.state, hrel⟩
theorem quiet_afterReads (hq : Quiet B C k card) (rs : List (UInt32 × UInt16 × UInt16 × Array UInt8)) :
    Quiet B C k (card.afterReads rs) := by
  induction rs generalizing card with
  | nil => exact hq
  | cons r rs ih => exact ih (readPartial_quiet hq r.1 r.2.1 r.2.2.1 r.2.2.2)

/-- The block a card of behaviour `B` finds at the address the driver sends for block `b`, the
kind settled by bring-up: `b`, except on a high-capacity card that rejected the capacity query,
which reads the byte offset `512 b` as a block number. -/
theorem blockForAddress_settled (hk : k = if B.rejectOcr then .standard else B.kind)
    (hB : c.behavior = B) (ha : k.wireAddress b = some a) :
    c.blockForAddress a = if B.rejectOcr = true ∧ B.kind = .highCapacity then b * 512 else b := by
  by_cases hmis : B.rejectOcr = true ∧ B.kind = .highCapacity
  · rw [if_pos hmis]
    rw [hk, if_pos hmis.1] at ha
    simp only [CardKind.wireAddress, Option.ite_none_right_eq_some, Option.some.injEq] at ha
    obtain ⟨-, rfl⟩ := ha
    simp only [blockForAddress, hB, hmis.2]
    rfl
  · rw [if_neg hmis]
    refine blockForAddress_wireAddress ?_ ha
    rw [hB, hk]
    cases hrej : B.rejectOcr with
    | false => rfl
    | true =>
      cases hkind : B.kind with
      | standard => rfl
      | highCapacity => exact absurd ⟨hrej, hkind⟩ hmis

end Quiet

end SdCard

open Card SimulatedCard

/-- A partial read on the simulated card, after bring-up and any earlier reads. Bring-up takes a
card that rejects the capacity query for a standard card and any other for its own kind. A read
whose window fits block and buffer, of a block that has an address, fails with the rejection or
with the token timeout, keeping the buffer, when the card rejects reads, withholds its token or
holds it back for the whole polling budget. Otherwise it succeeds: the window of the block the
card finds at the address lands in the buffer and every other byte stays, one read command goes
out with the address, the command, the answer and the whole block with its checksum are clocked,
nothing is left queued, and the card is released and still idle. The block found is `b`, except
on a high-capacity card that rejected the capacity query, where it is `512 b`. -/
theorem partial_read_copies_window (B : CardBehavior) (C : UInt32 → Nat → UInt8) {k : CardKind}
    (hup : (SdCard.bringUp ⟨make B C, .uninitialized⟩).2.state = .idle k)
    (rs : List (UInt32 × UInt16 × UInt16 × Array UInt8)) {b a : UInt32}
    (ha : k.wireAddress b = some a) (o n : UInt16) (buf : Array UInt8)
    (hoff : o.toNat < Board.blockSize) (hend : o.toNat + n.toNat ≤ Board.blockSize)
    (hbuf : o.toNat + n.toNat ≤ buf.size) :
    let card := (SdCard.bringUp ⟨make B C, .uninitialized⟩).2.afterReads rs
    let r := card.readPartial b o n buf
    k = (if B.rejectOcr then .standard else B.kind) ∧
    (B.rejectReads = true → r.1 = (.error .commandRejected, buf)) ∧
    (B.rejectReads = false → (B.withholdToken = true ∨ 5000 ≤ B.tokenDelay) →
      r.1 = (.error .dataTokenTimeout, buf)) ∧
    (B.rejectReads = false → B.withholdToken = false → B.tokenDelay < 5000 →
      r.1.1 = .ok () ∧ r.1.2.size = buf.size ∧
      (∀ i, o.toNat ≤ i → i < o.toNat + n.toNat →
        r.1.2[i]? = some (C (r.2.link.blockForAddress a) i)) ∧
      (∀ i, ¬(o.toNat ≤ i ∧ i < o.toNat + n.toNat) → r.1.2[i]? = buf[i]?) ∧
      r.2.link.blockForAddress a =
        (if B.rejectOcr = true ∧ B.kind = .highCapacity then b * 512 else b) ∧
      r.2.link.commands = card.link.commands.push ⟨17, a, 0xFF⟩ ∧
      r.2.link.readAddresses = card.link.readAddresses.push a ∧
      r.2.link.transfers = card.link.transfers + 523 + B.tokenDelay ∧
      r.2.link.outgoing = [] ∧ r.2.link.selected = false ∧ r.2.state = .idle k) := by
  intro card r
  obtain ⟨hk, hq₀⟩ := SdCard.bringUp_quiet (released_make B C) hup
  have hq := SdCard.quiet_afterReads hq₀ rs
  obtain ⟨w, hw, hwo, hwe⟩ := ReadWindow.make_fits hoff hend hbuf
  refine ⟨hk, fun hrej => (SdCard.readPartial_rejected hq hw ha hrej).1,
    fun hrej hto => (SdCard.readPartial_timeout hq hw ha hrej hto).1, fun hrej hwh hd => ?_⟩
  obtain ⟨buf', link, hr, hsize, hbytes, hcmd, haddr, htr, hout, hrel⟩ :=
    SdCard.readPartial_delivers hq hw ha hrej hwh hd
  -- the card's kind is the same before and after the read, so it finds the same block
  have hbehavior : card.link.behavior = B := hq.released.behavior
  have hsame : card.link.blockForAddress a = link.blockForAddress a := by
    simp only [blockForAddress, hbehavior, hrel.behavior]
  rw [show r = ((.ok (), buf'), { card with link }) from hr]
  refine ⟨rfl, hsize, fun i h₁ h₂ => ?_, fun i hi => ?_,
    SdCard.blockForAddress_settled hk hrel.behavior ha, hcmd, haddr, htr, hout, hrel.selected,
    hq.state⟩
  · rw [hbytes i, if_pos ⟨hwo ▸ h₁, hwe ▸ h₂⟩, hsame]
  · rw [hbytes i, if_neg (by rw [hwo, hwe]; exact hi)]

theorem bench_partial_read_copies_window :
    let card := (SdCard.bringUp ⟨make {} blockPattern, .uninitialized⟩).2.afterReads
      [(0, 0, 2, #[0, 0])]
    let r := card.readPartial 1 0 4 #[0, 0, 0, 0]
    r.1.1 = .ok () ∧ ∀ i < 4, r.1.2[i]? = some (blockPattern 1 i) := by
  have hup : (SdCard.bringUp ⟨make {} blockPattern, .uninitialized⟩).2.state =
      .idle .highCapacity := by
    decide +kernel
  obtain ⟨-, -, -, hok⟩ := partial_read_copies_window {} blockPattern hup [(0, 0, 2, #[0, 0])]
    (wireAddress_highCapacity 1) 0 4 #[0, 0, 0, 0] (by decide) (by decide) (by decide)
  obtain ⟨hres, -, hbytes, -, hblock, -⟩ := hok rfl rfl (by decide)
  refine ⟨hres, fun i hi => ?_⟩
  rw [hbytes i (Nat.zero_le i) hi, hblock]
  rfl

theorem rejected_capacity_query_reads_block_at_byte_offset :
    let card := (SdCard.bringUp ⟨make { rejectOcr := true } blockPattern, .uninitialized⟩).2
    let r := card.readPartial 1 0 1 #[0]
    card.state = .idle .standard ∧ r.1.1 = .ok () ∧ r.1.2[0]? = some (blockPattern 512 0) ∧
      blockPattern 512 0 ≠ blockPattern 1 0 := by
  intro card r
  have hup : card.state = .idle .standard := by decide +kernel
  obtain ⟨hk, hq⟩ := SdCard.bringUp_quiet (released_make _ _) hup
  have ha : CardKind.standard.wireAddress 1 = some 512 := by decide
  have hw : ReadWindow.make 0 1 (#[0] : Array UInt8).size = .ok ⟨0, 1, by decide, by decide⟩ :=
    rfl
  obtain ⟨buf', link, hr, -, hbytes, -⟩ := SdCard.readPartial_delivers hq hw ha rfl rfl (by decide)
  have hblock := SdCard.blockForAddress_settled hk hq.released.behavior ha
  rw [show r = ((.ok (), buf'), { card with link }) from hr]
  refine ⟨hup, rfl, ?_, by decide⟩
  rw [hbytes 0, if_pos ⟨Nat.le_refl 0, by decide⟩, hblock]
  rfl

end PinballAudio
