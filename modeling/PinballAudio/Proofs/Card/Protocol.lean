import Mathlib
import PinballAudio.Card.Simulated

/-!
# The simulated card's side of the wire

What the card does with the bytes a driver sends. A command frame sent to a selected card with
no open frame is read back as the command, argument and checksum it was built from, whatever
the argument; the card drops the response it still had queued and executes the command.
`DecodesAs` says so prefix by prefix, from one step lemma for each move of the frame collector
(open, extend, complete): no argument byte restarts the frame, even one whose top bits are `01`. A
filler byte reads the next queued response byte, or an idle byte once the queue is empty. So
the bytes a driver reads after a command are the queue that `execute` leaves: `next k` is the
byte of the `k`-th read from now, and `drain k` the card after `k` reads.
-/

namespace PinballAudio.Card

theorem argument_ofBytes (a : UInt32) :
    ((a >>> 24).toUInt8.toUInt32 <<< 24) ||| ((a >>> 16).toUInt8.toUInt32 <<< 16) |||
      ((a >>> 8).toUInt8.toUInt32 <<< 8) ||| a.toUInt8.toUInt32 = a := by
  apply UInt32.toBitVec_inj.1
  apply BitVec.eq_of_getLsbD_eq
  intro i hi
  have h24 : (UInt32.toBitVec 24 % 32).toNat = 24 := rfl
  have h16 : (UInt32.toBitVec 16 % 32).toNat = 16 := rfl
  have h8 : (UInt32.toBitVec 8 % 32).toNat = 8 := rfl
  simp only [UInt32.toBitVec_or, UInt32.toBitVec_shiftLeft, UInt32.toBitVec_shiftRight,
    UInt8.toBitVec_toUInt32, UInt32.toBitVec_toUInt8, BitVec.getLsbD_or, BitVec.shiftLeft_eq',
    BitVec.ushiftRight_eq', h24, h16, h8, BitVec.getLsbD_shiftLeft, BitVec.getLsbD_setWidth,
    BitVec.getLsbD_ushiftRight]
  rcases (by omega : i < 8 ∨ (8 ≤ i ∧ i < 16) ∨ (16 ≤ i ∧ i < 24) ∨ (24 ≤ i ∧ i < 32)) with
    h | ⟨h, h'⟩ | ⟨h, h'⟩ | ⟨h, h'⟩
  · simp [h, show i < 16 by omega, show i < 24 by omega, hi]
  · simp [show ¬ i < 8 by omega, h', show i < 24 by omega, show i - 8 < 8 by omega,
      show i - 8 < 32 by omega, Nat.add_sub_cancel' h, hi]
  · simp [show ¬ i < 8 by omega, show ¬ i < 16 by omega, h', show i - 16 < 8 by omega,
      show i - 16 < 32 by omega, show ¬ i - 8 < 8 by omega, Nat.add_sub_cancel' h, hi]
  · simp [show ¬ i < 8 by omega, show ¬ i < 16 by omega, show ¬ i < 24 by omega,
      show i - 24 < 8 by omega, show i - 24 < 32 by omega, show ¬ i - 16 < 8 by omega,
      show ¬ i - 8 < 8 by omega, Nat.add_sub_cancel' h, hi]

namespace Command

theorem startsFrame_token (c : Command) : startsFrame c.token = true := by
  cases c <;> decide

theorem token_index (c : Command) : c.token &&& 0x3F = c.index := by
  cases c <;> decide

/-- A card reads a frame back as the command, argument and checksum it was built from. -/
theorem ofBytes_frame (c : Command) (a : UInt32) :
    Frame.ofBytes c.token (a >>> 24).toUInt8 (a >>> 16).toUInt8 (a >>> 8).toUInt8 a.toUInt8 c.crc =
      ⟨c.index, a, c.crc⟩ := by
  simp only [Frame.ofBytes, token_index, argument_ofBytes]

end Command

namespace SimulatedCard

def next (c : SimulatedCard) (k : Nat) : UInt8 := c.outgoing.getD k 0xFF

def drain (c : SimulatedCard) (k : Nat) : SimulatedCard :=
  { c with outgoing := c.outgoing.drop k, transfers := c.transfers + k }

/-- The card after it received `bytes`. -/
def feed (bytes : List UInt8) (c : SimulatedCard) : SimulatedCard :=
  bytes.foldl (fun c b => (transfer b c).2) c

def sent (cmd : Command) (argument : UInt32) (c : SimulatedCard) : SimulatedCard :=
  execute ⟨cmd.index, argument, cmd.crc⟩
    { c with transfers := c.transfers + 6, outgoing := [], frame := [] }

variable {c : SimulatedCard}

@[simp] theorem next_drain (c : SimulatedCard) (j k : Nat) : (c.drain j).next k = c.next (j + k) := by
  simp [next, drain, List.getD_eq_getElem?_getD]

@[simp] theorem drain_drain (c : SimulatedCard) (j k : Nat) : (c.drain j).drain k = c.drain (j + k) := by
  simp [drain, Nat.add_assoc]

@[simp] theorem drain_zero (c : SimulatedCard) : c.drain 0 = c := rfl

@[simp] theorem selected_drain (c : SimulatedCard) (k : Nat) : (c.drain k).selected = c.selected := rfl

@[simp] theorem frame_drain (c : SimulatedCard) (k : Nat) : (c.drain k).frame = c.frame := rfl

@[simp] theorem behavior_drain (c : SimulatedCard) (k : Nat) : (c.drain k).behavior = c.behavior := rfl

@[simp] theorem content_drain (c : SimulatedCard) (k : Nat) : (c.drain k).content = c.content := rfl

theorem feed_cons (b : UInt8) (bytes : List UInt8) (c : SimulatedCard) :
    feed (b :: bytes) c = feed bytes (transfer b c).2 := rfl

theorem feed_append (bytes bytes' : List UInt8) (c : SimulatedCard) :
    feed (bytes ++ bytes') c = feed bytes' (feed bytes c) :=
  List.foldl_append ..

theorem next_eq_of_outgoing {pre rest : List UInt8} (h : c.outgoing = pre ++ rest) (k : Nat) :
    c.next (pre.length + k) = rest.getD k 0xFF := by
  simp [next, h, List.getD_eq_getElem?_getD, List.getElem?_append_right]

theorem transfer_deselected (hs : c.selected = false) (b : UInt8) :
    transfer b c =
      (0xFF, { c with
        transfers := c.transfers + 1
        deselectedTransfers := c.deselectedTransfers + 1 }) := by
  simp [transfer, hs]

theorem transfer_filler (hs : c.selected = true) (hf : c.frame = []) :
    transfer 0xFF c = (c.next 0, c.drain 1) := by
  have hstart : startsFrame 0xFF = false := by decide
  cases ho : c.outgoing <;> simp [transfer, clock, next, drain, hs, hf, hstart, ho]

/-! The frame collector, one byte at a time: with no frame open, a byte with top bits `01` opens
one and drops the queued response; an open frame short of six bytes takes the next byte whatever
its value; the sixth byte completes it and the card executes what the six bytes read as. -/

theorem transfer_start (hs : c.selected = true) (hf : c.frame = []) {b : UInt8}
    (hb : startsFrame b = true) :
    transfer b c = (0xFF, { c with transfers := c.transfers + 1, outgoing := [], frame := [b] }) := by
  simp [transfer, clock, hs, hf, hb]

theorem transfer_extend (hs : c.selected = true) (hne : c.frame ≠ []) (hlen : c.frame.length < 5)
    (b : UInt8) :
    transfer b c = (0xFF, { c with transfers := c.transfers + 1, frame := c.frame ++ [b] }) := by
  simp only [transfer, clock, hs, if_true]
  split
  case h_1 hf => simp [hf] at hlen
  case h_2 => rfl
  case h_3 hf => exact absurd hf hne

theorem transfer_complete (hs : c.selected = true) {b0 b1 b2 b3 b4 : UInt8}
    (hf : c.frame = [b0, b1, b2, b3, b4]) (b : UInt8) :
    transfer b c =
      (0xFF, execute (Frame.ofBytes b0 b1 b2 b3 b4 b)
        { c with transfers := c.transfers + 1, frame := [] }) := by
  simp [transfer, clock, hs, hf]

theorem feed_extend (hs : c.selected = true) (hne : c.frame ≠ []) (bytes : List UInt8)
    (hlen : c.frame.length + bytes.length ≤ 5) :
    feed bytes c = { c with transfers := c.transfers + bytes.length, frame := c.frame ++ bytes } := by
  induction bytes generalizing c with
  | nil => simp [feed]
  | cons b bytes ih =>
    have hlen' : c.frame.length < 5 := by
      simp at hlen
      omega
    simp only [feed_cons, transfer_extend hs hne hlen' b]
    -- the card after one more byte is again selected with a short open frame
    rw [ih]
    · simp [Nat.add_assoc, Nat.add_comm 1]
    · exact hs
    · simp
    · simp at hlen ⊢
      omega

theorem feed_open (hs : c.selected = true) (hf : c.frame = []) {b : UInt8}
    (hb : startsFrame b = true) (bytes : List UInt8) (hlen : bytes.length ≤ 4) :
    feed (b :: bytes) c =
      { c with transfers := c.transfers + (bytes.length + 1), outgoing := [], frame := b :: bytes } := by
  rw [feed_cons, transfer_start hs hf hb]
  dsimp only
  rw [feed_extend]
  · simp [Nat.add_assoc, Nat.add_comm 1]
  · exact hs
  · simp
  · simp
    omega

/-- A whole command frame sent to a selected card with no open frame is executed. -/
theorem feed_frame (hs : c.selected = true) (hf : c.frame = []) (cmd : Command) (a : UInt32) :
    feed (cmd.frame a) c = c.sent cmd a := by
  have hopen := feed_open hs hf cmd.startsFrame_token (Command.argumentBytes a) (by rfl)
  have hs' : (feed (cmd.token :: Command.argumentBytes a) c).selected = true := by
    rw [hopen]
    exact hs
  have hf' : (feed (cmd.token :: Command.argumentBytes a) c).frame =
      [cmd.token, (a >>> 24).toUInt8, (a >>> 16).toUInt8, (a >>> 8).toUInt8, a.toUInt8] := by
    rw [hopen]
    rfl
  rw [Command.frame, feed_append, feed_cons, transfer_complete hs' hf', Command.ofBytes_frame, hopen]
  rfl

theorem feed_deselected (hs : c.selected = false) (bytes : List UInt8) :
    feed bytes c =
      { c with
        transfers := c.transfers + bytes.length
        deselectedTransfers := c.deselectedTransfers + bytes.length } := by
  induction bytes generalizing c with
  | nil => rfl
  | cons b bytes ih =>
    have hs' : (transfer b c).2.selected = false := by rw [transfer_deselected hs]; exact hs
    rw [feed_cons, ih hs', transfer_deselected hs]
    simp [Nat.add_assoc, Nat.add_comm 1]

theorem execute_frame (f : Frame) (c : SimulatedCard) :
    (execute f c).selected = c.selected ∧ (execute f c).frame = c.frame ∧
      (execute f c).behavior = c.behavior ∧ (execute f c).content = c.content := by
  unfold execute
  simp only
  repeat' split
  all_goals simp [respond]

theorem execute_log (f : Frame) (c : SimulatedCard) :
    (execute f c).commands = c.commands.push f ∧ (execute f c).dividers = c.dividers ∧
      (execute f c).deselectedTransfers = c.deselectedTransfers := by
  unfold execute
  simp only
  repeat' split
  all_goals simp [respond]

theorem sent_frame (cmd : Command) (a : UInt32) (c : SimulatedCard) :
    (c.sent cmd a).selected = c.selected ∧ (c.sent cmd a).frame = [] ∧
      (c.sent cmd a).behavior = c.behavior ∧ (c.sent cmd a).content = c.content :=
  execute_frame _ _

/-- Clocking the six bytes `bytes` into card `c` decodes them as the frame `f`: each proper
prefix is held as the open frame, with the pending response dropped and nothing else touched,
and the whole executes `f` once on the card with its queue emptied. -/
structure DecodesAs (c : SimulatedCard) (bytes : List UInt8) (f : Frame) : Prop where
  opens : ∀ k, 0 < k → k < 6 →
    feed (bytes.take k) c =
      { c with transfers := c.transfers + k, outgoing := [], frame := bytes.take k }
  executes :
    feed bytes c = execute f { c with transfers := c.transfers + 6, outgoing := [], frame := [] }
  records : (feed bytes c).commands = c.commands.push f

/-- A card decodes every command frame as the command it was built from, whatever the argument
and whatever response it still had queued: argument bytes that look like a frame start do not
restart the frame. -/
theorem clocked_frame_decodes_to_command (cmd : Command) (a : UInt32) (hs : c.selected = true)
    (hf : c.frame = []) : c.DecodesAs (cmd.frame a) ⟨cmd.index, a, cmd.crc⟩ where
  opens k hk hk6 := by
    obtain ⟨j, rfl⟩ : ∃ j, k = j + 1 := ⟨k - 1, by omega⟩
    have hrest : ((Command.argumentBytes a ++ [cmd.crc]).take j).length = j := by
      simp [Command.argumentBytes]
      omega
    rw [Command.frame, List.cons_append, List.take_succ_cons,
      feed_open hs hf cmd.startsFrame_token _ (by omega), hrest]
  executes := feed_frame hs hf cmd a
  records := by
    rw [feed_frame hs hf cmd a]
    exact (execute_log _ _).1

theorem read_frame_with_start_like_argument_decodes :
    ({ selected := true, outgoing := [0x00, 0xFE] } : SimulatedCard).selected = true ∧
      ({ selected := true, outgoing := [0x00, 0xFE] } : SimulatedCard).frame = [] ∧
      ({ selected := true, outgoing := [0x00, 0xFE] } : SimulatedCard).DecodesAs
        (Command.readSingleBlock.frame 0x7F404142)
        ⟨Command.readSingleBlock.index, 0x7F404142, Command.readSingleBlock.crc⟩ :=
  ⟨rfl, rfl, clocked_frame_decodes_to_command _ _ rfl rfl⟩

theorem execute_read (a : UInt32) (crc : UInt8) (c : SimulatedCard) :
    execute ⟨17, a, crc⟩ c =
      { c with
        commands := c.commands.push ⟨17, a, crc⟩
        appCommand := false
        readAddresses := c.readAddresses.push a
        outgoing := c.outgoing ++ 0xFF ::
          if c.behavior.rejectReads then [0x04]
          else 0x00 :: c.readPayload (c.blockForAddress a) } := by
  by_cases h : c.behavior.rejectReads <;>
    simp [execute, respond, h, readPayload, blockForAddress]

theorem execute_readOcr (crc : UInt8) (c : SimulatedCard) :
    (execute ⟨58, 0, crc⟩ c).outgoing = c.outgoing ++ 0xFF ::
      if c.behavior.rejectOcr then [0x05]
      else [0x00, if c.behavior.kind = .highCapacity then 0xC0 else 0x80, 0xFF, 0x80, 0x00] := by
  by_cases h : c.behavior.rejectOcr <;> simp [execute, respond, h]

end SimulatedCard

end PinballAudio.Card
