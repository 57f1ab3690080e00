import PinballAudio.Proofs.Card.Read

/-!
# Bring-up classifies the simulated card

Bring-up asks the card five things in turn, and the first one the card gets wrong decides the
error: silence after reset, a rejected interface check, a wrong echo of the check pattern, and a
ready loop that runs out of its 5000 rounds. A card that passes all four is up, as a standard card
when it rejects the capacity query and as its own kind otherwise. The reset command restarts the
card's busy counter, so a card that was brought up or read before answers exactly as a fresh one:
the ready loop ends on its round `busyRounds + 1`, which fits the budget exactly when
`busyRounds < 5000`.

The cards a run goes through are written with `woken` (the wake-up bytes clocked and the card
selected) and `round` (one round of the ready loop), and `Logged` keeps what a stretch of the run
has sent. `identifyOutcome`, `bringUpOutcome` and `bringUpFrames` are the answer and the command
frames the classification predicts; `afterCalls` runs any earlier requests on the same card.
-/

namespace PinballAudio

def resultOf {ε σ α : Type} : Except ε α → σ → EStateM.Result ε σ α
  | .ok a, s => .ok a s
  | .error e, s => .error e s

/-- A request to the driver: bring the card up, or read a window of a block into a buffer. -/
inductive CardCall where
  | bringUp
  | readPartial (block : UInt32) (offset length : UInt16) (buffer : Array UInt8)

/-- The card after a sequence of requests. -/
def SdCard.afterCalls {σ : Type} [SpiLink σ] (card : SdCard σ) : List CardCall → SdCard σ
  | [] => card
  | .bringUp :: calls => card.bringUp.2.afterCalls calls
  | .readPartial b o n buf :: calls => (card.readPartial b o n buf).2.afterCalls calls

theorem toNat_countDown (u : UInt32) : (u - if 0 < u then 1 else 0).toNat = u.toNat - 1 := by
  split
  case isTrue h =>
    have h1 : (1 : UInt32) ≤ u := UInt32.le_iff_toNat_le.2 (UInt32.lt_iff_toNat_lt.1 h)
    rw [UInt32.toNat_sub_of_le _ _ h1]
    rfl
  case isFalse h =>
    have hu : u.toNat = 0 := by
      have h0 := mt UInt32.lt_iff_toNat_lt.2 h
      change ¬0 < u.toNat at h0
      omega
    rw [UInt32.sub_zero, hu]

namespace Card.SimulatedCard

variable {c : SimulatedCard}

@[simp] theorem commands_drain (c : SimulatedCard) (k : Nat) : (c.drain k).commands = c.commands :=
  rfl

@[simp] theorem dividers_drain (c : SimulatedCard) (k : Nat) : (c.drain k).dividers = c.dividers :=
  rfl

@[simp] theorem deselectedTransfers_drain (c : SimulatedCard) (k : Nat) :
    (c.drain k).deselectedTransfers = c.deselectedTransfers := rfl

@[simp] theorem busyLeft_drain (c : SimulatedCard) (k : Nat) : (c.drain k).busyLeft = c.busyLeft :=
  rfl

@[simp] theorem appCommand_drain (c : SimulatedCard) (k : Nat) :
    (c.drain k).appCommand = c.appCommand := rfl

@[simp] theorem commands_sent (cmd : Command) (a : UInt32) (c : SimulatedCard) :
    (c.sent cmd a).commands = c.commands.push ⟨cmd.index, a, cmd.crc⟩ :=
  (execute_log _ _).1

@[simp] theorem dividers_sent (cmd : Command) (a : UInt32) (c : SimulatedCard) :
    (c.sent cmd a).dividers = c.dividers :=
  (execute_log _ _).2.1

@[simp] theorem deselectedTransfers_sent (cmd : Command) (a : UInt32) (c : SimulatedCard) :
    (c.sent cmd a).deselectedTransfers = c.deselectedTransfers :=
  (execute_log _ _).2.2

theorem sent_goIdleState (c : SimulatedCard) :
    (c.sent .goIdleState 0).outgoing = (if c.behavior.silent then [] else [0xFF, 0x01]) ∧
      (c.behavior.silent = false → (c.sent .goIdleState 0).busyLeft = c.behavior.busyRounds) := by
  cases hs : c.behavior.silent <;> simp [sent, execute, respond, hs, Command.index]

theorem sent_sendIfCond (c : SimulatedCard) :
    (c.sent .sendIfCond ifCondArgument).outgoing =
      (if c.behavior.rejectIfCond then [0xFF, 0x05]
        else [0xFF, 0x01, 0x00, 0x00, 0x01, if c.behavior.wrongEcho then 0x55 else 0xAA]) ∧
      (c.sent .sendIfCond ifCondArgument).busyLeft = c.busyLeft := by
  have hecho : ifCondArgument.toUInt8 = 0xAA := rfl
  cases hr : c.behavior.rejectIfCond <;> simp [sent, execute, respond, hr, Command.index, hecho]

theorem echo_sendIfCond (c : SimulatedCard) (hr : c.behavior.rejectIfCond = false) :
    ((List.range 4).map ((c.sent .sendIfCond ifCondArgument).drain 2).next)[3]? =
      some (if c.behavior.wrongEcho then 0x55 else 0xAA) := by
  have hout := (sent_sendIfCond c).1
  rw [hr, if_neg Bool.false_ne_true] at hout
  simp [next, drain, hout]

theorem sent_appCmd (c : SimulatedCard) :
    (c.sent .appCmd 0).outgoing = [0xFF, 0x01] ∧ (c.sent .appCmd 0).appCommand = true ∧
      (c.sent .appCmd 0).busyLeft = c.busyLeft := by
  simp [sent, execute, respond, Command.index]

theorem sent_sdSendOpCond (c : SimulatedCard) (happ : c.appCommand = true) :
    (c.sent .sdSendOpCond hostCapacitySupport).outgoing =
      (if c.behavior.neverReady = false ∧ c.busyLeft = 0 then [0xFF, 0x00] else [0xFF, 0x01]) ∧
      (c.sent .sdSendOpCond hostCapacitySupport).busyLeft.toNat = c.busyLeft.toNat - 1 := by
  by_cases hready : c.behavior.neverReady = false ∧ c.busyLeft = 0
  · have hbusy : ¬ (c.behavior.neverReady = true ∨ 0 < c.busyLeft) := by
      rintro (h | h)
      · simp [hready.1] at h
      · simp [hready.2] at h
    simp [sent, execute, respond, happ, hready, Command.index]
  · have hbusy : c.behavior.neverReady = true ∨ 0 < c.busyLeft := by
      by_cases hn : c.behavior.neverReady = true
      · exact .inl hn
      · refine .inr (UInt32.pos_iff_ne_zero.2 fun h0 => hready ⟨by simpa using hn, h0⟩)
    simp only [sent, execute, respond, happ, Command.index, if_neg hready]
    simp [hbusy, toNat_countDown]

/-- One round of the ready loop as the card sees it: the application prefix and the
operating-condition request, each answered by two bytes. -/
def round (c : SimulatedCard) : SimulatedCard :=
  (((c.sent .appCmd 0).drain 2).sent .sdSendOpCond hostCapacitySupport).drain 2

/-- The card once the identification clock is set, the wake-up bytes are clocked with the card
deselected, and the card is selected. -/
def woken (c : SimulatedCard) : SimulatedCard :=
  { c with dividers := c.dividers.push .div128, transfers := c.transfers + 10,
           deselectedTransfers := c.deselectedTransfers + 10, selected := true }

def roundFrames : List Frame := [⟨55, 0, 0xFF⟩, ⟨41, 0x40000000, 0xFF⟩]

theorem busyLeft_round (c : SimulatedCard) : c.round.busyLeft.toNat = c.busyLeft.toNat - 1 := by
  have happ := sent_appCmd c
  have hop := sent_sdSendOpCond ((c.sent .appCmd 0).drain 2) (by simpa using happ.2.1)
  rw [round, busyLeft_drain, hop.2, busyLeft_drain, happ.2.2]

variable {B : CardBehavior} {C : UInt32 → Nat → UInt8}

/-- A stretch of bring-up from `c` to `c'`: the card is still linked, has seen the command frames
`frames`, and its clock and count of deselected bytes are as they were. -/
structure Logged (B : CardBehavior) (C : UInt32 → Nat → UInt8) (c : SimulatedCard)
    (frames : List Frame) (c' : SimulatedCard) : Prop where
  linked : Linked B C c'
  commands : c'.commands.toList = c.commands.toList ++ frames
  dividers : c'.dividers = c.dividers
  deselectedTransfers : c'.deselectedTransfers = c.deselectedTransfers

namespace Logged

variable {fs gs : List Frame} {c' : SimulatedCard}

theorem start (h : Linked B C c) : Logged B C c [] c :=
  ⟨h, by simp, rfl, rfl⟩

theorem frames_eq (h : Logged B C c fs c') (he : fs = gs) : Logged B C c gs c' :=
  he ▸ h

theorem drain (h : Logged B C c fs c') (k : Nat) : Logged B C c fs (c'.drain k) :=
  ⟨h.linked.drain k, h.commands, h.dividers, h.deselectedTransfers⟩

theorem sent (h : Logged B C c fs c') (cmd : Command) (a : UInt32) :
    Logged B C c (fs ++ [⟨cmd.index, a, cmd.crc⟩]) (c'.sent cmd a) :=
  ⟨h.linked.sent cmd a, by simp [h.commands], by simp [h.dividers],
    by simp [h.deselectedTransfers]⟩

theorem round (h : Logged B C c fs c') : Logged B C c (fs ++ roundFrames) c'.round :=
  (((h.sent .appCmd 0).drain 2).sent .sdSendOpCond hostCapacitySupport).drain 2 |>.frames_eq
    (by simp [roundFrames]; decide)

theorem rounds (h : Logged B C c fs c') (m : Nat) :
    Logged B C c (fs ++ (List.replicate m roundFrames).flatten) (SimulatedCard.round^[m] c') := by
  induction m with
  | zero => simpa using h
  | succ m ih =>
    rw [Function.iterate_succ_apply']
    exact ih.round.frames_eq (by rw [List.replicate_succ', List.flatten_append]; simp)

end Logged

theorem Linked.woken (h : Released B C c) : Linked B C c.woken :=
  ⟨rfl, h.frame, h.behavior, h.content⟩

end Card.SimulatedCard

namespace Card.CardBehavior

open SimulatedCard

/-- What identification makes of a card of behaviour `B`: the first check it fails decides
the error, and a card that passes them all is taken for a standard card when it rejects the
capacity query and for its own kind otherwise. -/
def identifyOutcome (B : CardBehavior) : Except InitError CardKind :=
  if B.silent then .error .notResponding
  else if B.rejectIfCond then .error .unsupportedCard
  else if B.wrongEcho then .error .voltageCheckFailed
  else if B.neverReady ∨ 5000 ≤ B.busyRounds.toNat then .error .timeout
  else .ok (if B.rejectOcr then .standard else B.kind)

def bringUpOutcome (B : CardBehavior) : Except InitError CardInfo :=
  B.identifyOutcome.map fun kind => ⟨kind, .div4⟩

/-- The command frames a card of behaviour `B` receives during bring-up: the reset, then the
interface check, then the rounds of the ready loop, then the capacity query, each only when
the card passed the step before it. -/
def bringUpFrames (B : CardBehavior) : List Frame :=
  if B.silent then [⟨0, 0, 0x95⟩]
  else [⟨0, 0, 0x95⟩, ⟨8, 0x1AA, 0x87⟩] ++
    if B.rejectIfCond ∨ B.wrongEcho then []
    else if B.neverReady ∨ 5000 ≤ B.busyRounds.toNat then (List.replicate 5000 roundFrames).flatten
    else (List.replicate (B.busyRounds.toNat + 1) roundFrames).flatten ++ [⟨58, 0, 0xFF⟩]

variable {B : CardBehavior}

theorem outcome_frames_of_silent (hs : B.silent = true) :
    B.identifyOutcome = .error .notResponding ∧ B.bringUpFrames = [⟨0, 0, 0x95⟩] := by
  simp [identifyOutcome, bringUpFrames, hs]

theorem outcome_frames_of_rejectIfCond (hs : B.silent = false) (hr : B.rejectIfCond = true) :
    B.identifyOutcome = .error .unsupportedCard ∧
      B.bringUpFrames = [⟨0, 0, 0x95⟩, ⟨8, 0x1AA, 0x87⟩] := by
  simp [identifyOutcome, bringUpFrames, hs, hr]

theorem outcome_frames_of_wrongEcho (hs : B.silent = false) (hr : B.rejectIfCond = false)
    (hw : B.wrongEcho = true) :
    B.identifyOutcome = .error .voltageCheckFailed ∧
      B.bringUpFrames = [⟨0, 0, 0x95⟩, ⟨8, 0x1AA, 0x87⟩] := by
  simp [identifyOutcome, bringUpFrames, hs, hr, hw]

theorem outcome_frames_of_timeout (hs : B.silent = false) (hr : B.rejectIfCond = false)
    (hw : B.wrongEcho = false) (hto : ¬(B.neverReady = false ∧ B.busyRounds.toNat < 5000)) :
    B.identifyOutcome = .error .timeout ∧
      B.bringUpFrames = [⟨0, 0, 0x95⟩, ⟨8, 0x1AA, 0x87⟩] ++ (List.replicate 5000 roundFrames).flatten := by
  have htimeout : B.neverReady = true ∨ 5000 ≤ B.busyRounds.toNat := by
    cases hn : B.neverReady with
    | true => exact .inl rfl
    | false => exact .inr (Nat.le_of_not_lt fun hlt => hto ⟨hn, hlt⟩)
  constructor
  · simp [identifyOutcome, hs, hr, hw, htimeout]
  · rw [bringUpFrames, if_neg (by simp [hs]), if_neg (by simp [hr, hw]), if_pos htimeout]

theorem outcome_frames_of_ready (hs : B.silent = false) (hr : B.rejectIfCond = false)
    (hw : B.wrongEcho = false) (hto : B.neverReady = false ∧ B.busyRounds.toNat < 5000) :
    B.identifyOutcome = .ok (if B.rejectOcr then .standard else B.kind) ∧
      B.bringUpFrames = [⟨0, 0, 0x95⟩, ⟨8, 0x1AA, 0x87⟩] ++
        ((List.replicate (B.busyRounds.toNat + 1) roundFrames).flatten ++ [⟨58, 0, 0xFF⟩]) := by
  have hready : ¬(B.neverReady = true ∨ 5000 ≤ B.busyRounds.toNat) := by
    rintro (hn | hle)
    · simp [hto.1] at hn
    · exact absurd hto.2 (Nat.not_lt_of_le hle)
  constructor
  · simp [identifyOutcome, hs, hr, hw, hready]
  · rw [bringUpFrames, if_neg (by simp [hs]), if_neg (by simp [hr, hw]), if_neg hready]

end Card.CardBehavior

namespace SdCard

open Card SimulatedCard CardBehavior SpiLink

variable {c : SimulatedCard} {B : CardBehavior} {C : UInt32 → Nat → UInt8}

theorem run_command_silent (h : Linked B C c) (cmd : Command) (a : UInt32)
    (hout : (c.sent cmd a).outgoing = []) :
    (command cmd a).run c = .ok r1None ((c.sent cmd a).drain 8) := by
  have hsent := h.sent cmd a
  simp only [command, RetryBudget.poll]
  rw [run_bind_ok (run_forM_send _ c), feed_frame h.selected h.frame]
  have hpoll := @run_pollN_none _ _ _ _ (fun b => if b ≠ r1None then some b else none)
    responsePolls.maxAttempts.toNat hsent (fun k _ => by simp [next, hout, r1None])
  rw [run_bind_ok hpoll]
  rfl

theorem run_readyRound (h : Linked B C c) :
    (readyRound : EStateM BusFault SimulatedCard (Option Unit)).run c =
      .ok (if B.neverReady = false ∧ c.busyLeft = 0 then some () else none) c.round := by
  have happ := sent_appCmd c
  have h₁ := (h.sent .appCmd 0).drain 2
  have hout := (sent_sdSendOpCond ((c.sent .appCmd 0).drain 2) (by simpa using happ.2.1)).1
  rw [h₁.behavior, busyLeft_drain, happ.2.2] at hout
  unfold readyRound
  rw [run_bind_ok (run_command h .appCmd 0 happ.1 (by decide))]
  by_cases hready : B.neverReady = false ∧ c.busyLeft = 0
  · rw [if_pos hready] at hout
    rw [run_bind_ok (run_command h₁ _ _ hout (by decide)), if_pos hready]
    rfl
  · rw [if_neg hready] at hout
    rw [run_bind_ok (run_command h₁ _ _ hout (by decide)), if_neg hready]
    rfl

theorem run_readyLoop (h : Linked B C c) (n : Nat) :
    (RetryBudget.pollN readyRound n : EStateM BusFault SimulatedCard (Option Unit)).run c =
      if B.neverReady = false ∧ c.busyLeft.toNat < n then
        .ok (some ()) (SimulatedCard.round^[c.busyLeft.toNat + 1] c)
      else .ok none (SimulatedCard.round^[n] c) := by
  induction n generalizing c with
  | zero =>
    rw [if_neg (fun hc => Nat.not_lt_zero _ hc.2)]
    rfl
  | succ n ih =>
    simp only [RetryBudget.pollN]
    rw [run_bind_ok (run_readyRound h)]
    by_cases hready : B.neverReady = false ∧ c.busyLeft = 0
    · -- ready on this round
      have hz : c.busyLeft.toNat = 0 := by simp [hready.2]
      rw [if_pos hready, if_pos ⟨hready.1, by omega⟩, hz]
      rfl
    · -- busy on this round: the rest of the loop starts from the next card
      rw [if_neg hready]
      have hrest := ih (SimulatedCard.Logged.start h).round.linked
      rw [busyLeft_round] at hrest
      change (RetryBudget.pollN readyRound n).run c.round = _
      rw [hrest, Function.iterate_succ_apply SimulatedCard.round n c]
      by_cases hn : B.neverReady = false
      · have hpos : 0 < c.busyLeft.toNat := by
          refine Nat.pos_of_ne_zero fun h0 => hready ⟨hn, ?_⟩
          exact UInt32.toNat_inj.1 (by simpa using h0)
        rw [Nat.sub_add_cancel hpos, ← Function.iterate_succ_apply SimulatedCard.round, Nat.succ_eq_add_one]
        by_cases hlt : c.busyLeft.toNat < n + 1
        · rw [if_pos ⟨hn, by omega⟩, if_pos ⟨hn, hlt⟩]
        · rw [if_neg (fun hc => hlt (by omega)), if_neg (fun hc => hlt hc.2)]
      · rw [if_neg (fun hc => hn hc.1), if_neg (fun hc => hn hc.1)]

theorem run_wake_then {α : Type} (k : EStateM InitError SimulatedCard α) :
    (do
      let _ ← onBus InitError.bus (setDivisor Board.sdIdentDivisor)
      onBus InitError.bus deselect
      onBus InitError.bus ((List.replicate Board.sdWakeFillerBytes r1None).forM send)
      onBus InitError.bus select
      k : EStateM InitError SimulatedCard α).run c = k.run c.woken := by
  rw [run_bind_ok (run_onBus _ (run_setDivisor _ c)), run_bind_ok (run_onBus _ (run_deselect _)),
    run_bind_ok (run_onBus _ (run_forM_send _ _)), run_bind_ok (run_onBus _ (run_select _)),
    feed_deselected rfl]
  rfl

theorem ocr_kind (h : Linked B C c) (hacc : B.rejectOcr = false) :
    (if ((List.range 4).map ((c.sent .readOcr 0).drain 2).next).headD 0 &&& ocrCapacityBit ≠ 0
      then CardKind.highCapacity else .standard) = B.kind := by
  have hcap := ocr_capacity h hacc
  change (if ((c.sent .readOcr 0).drain 2).next 0 &&& ocrCapacityBit ≠ 0 then _ else _) = _
  cases hk : B.kind with
  | highCapacity => exact if_pos (hcap.2 hk)
  | standard => exact if_neg fun hc => absurd (hcap.1 hc) (by rw [hk]; decide)

theorem run_reset_then {α : Type} (h : Linked B C c) (k : EStateM InitError SimulatedCard α) :
    (do
      if (← onBus InitError.bus (command .goIdleState 0)) ≠ r1Idle then
        throw InitError.notResponding
      k : EStateM InitError SimulatedCard α).run c =
      if B.silent then .error .notResponding ((c.sent .goIdleState 0).drain 8)
      else k.run ((c.sent .goIdleState 0).drain 2) := by
  cases hs : B.silent with
  | true =>
    have hout : (c.sent .goIdleState 0).outgoing = [] := by
      simp [(sent_goIdleState _).1, h.behavior, hs]
    rw [run_bind_ok (run_onBus _ (run_command_silent h _ _ hout))]
    rfl
  | false =>
    have hout : (c.sent .goIdleState 0).outgoing = [0xFF, 0x01] := by
      simp [(sent_goIdleState _).1, h.behavior, hs]
    rw [run_bind_ok (run_onBus _ (run_command h _ _ hout (by decide)))]
    rfl

theorem run_interfaceCheck_then {α : Type} (h : Linked B C c)
    (k : EStateM InitError SimulatedCard α) :
    (do
      if (← onBus InitError.bus (command .sendIfCond ifCondArgument)) ≠ r1Idle then
        throw InitError.unsupportedCard
      let r7 ← onBus InitError.bus (receiveBytes 4)
      if r7[3]? ≠ some ifCondCheckPattern then throw InitError.voltageCheckFailed
      k : EStateM InitError SimulatedCard α).run c =
      if B.rejectIfCond then .error .unsupportedCard ((c.sent .sendIfCond ifCondArgument).drain 2)
      else if B.wrongEcho then
        .error .voltageCheckFailed (((c.sent .sendIfCond ifCondArgument).drain 2).drain 4)
      else k.run (((c.sent .sendIfCond ifCondArgument).drain 2).drain 4) := by
  have hout := sent_sendIfCond c
  rw [h.behavior] at hout
  cases hr : B.rejectIfCond with
  | true =>
    simp only [hr, if_true] at hout
    rw [run_bind_ok (run_onBus _ (run_command h _ _ hout.1 (by decide)))]
    rfl
  | false =>
    simp only [hr, Bool.false_eq_true, if_false] at hout
    have h₁ := (h.sent .sendIfCond ifCondArgument).drain 2
    rw [run_bind_ok (run_onBus _ (run_command h _ _ hout.1 (by decide)))]
    simp only [r1Idle, ne_eq, not_true_eq_false, if_false]
    rw [run_bind_ok (run_onBus _ (run_receiveBytes h₁ 4)),
      echo_sendIfCond _ (by rw [h.behavior]; exact hr), h.behavior]
    cases hw : B.wrongEcho <;> rfl

theorem run_readyLoop_then {α : Type} (h : Linked B C c) (k : EStateM InitError SimulatedCard α) :
    (do
      let ready ← onBus InitError.bus (timeoutPolls.poll readyRound)
      if ready.isNone then throw InitError.timeout
      k : EStateM InitError SimulatedCard α).run c =
      if B.neverReady = false ∧ c.busyLeft.toNat < 5000 then
        k.run (SimulatedCard.round^[c.busyLeft.toNat + 1] c)
      else .error .timeout (SimulatedCard.round^[5000] c) := by
  have hloop := run_readyLoop h 5000
  simp only [RetryBudget.poll, timeoutPolls_toNat]
  by_cases hready : B.neverReady = false ∧ c.busyLeft.toNat < 5000
  · rw [if_pos hready] at hloop
    rw [run_bind_ok (run_onBus _ hloop), if_pos hready]
    rfl
  · rw [if_neg hready] at hloop
    rw [run_bind_ok (run_onBus _ hloop), if_neg hready]
    rfl

theorem run_capacityQuery (h : Linked B C c) :
    (do
      if (← onBus InitError.bus (command .readOcr 0)) ≠ r1Ready then return CardKind.standard
      let ocr ← onBus InitError.bus (receiveBytes 4)
      pure (if (ocr.headD 0) &&& ocrCapacityBit ≠ 0 then CardKind.highCapacity else .standard) :
        EStateM InitError SimulatedCard CardKind).run c =
      if B.rejectOcr then .ok .standard ((c.sent .readOcr 0).drain 2)
      else .ok B.kind (((c.sent .readOcr 0).drain 2).drain 4) := by
  rw [run_bind_ok (run_onBus _ (run_readOcr h))]
  cases hocr : B.rejectOcr with
  | true => rfl
  | false =>
    simp only [Bool.false_eq_true, if_false, r1Ready, ne_eq, not_true_eq_false]
    rw [run_bind_ok (run_onBus _ (run_receiveBytes ((h.sent .readOcr 0).drain 2) 4)),
      ← ocr_kind h hocr]
    rfl

/-- Identification on a released card ends as `identifyOutcome` predicts, having sent the frames
`bringUpFrames` to the woken card and left it linked. -/
theorem run_identify (h : Released B C c) :
    ∃ c', (identify : EStateM InitError SimulatedCard CardKind).run c =
        resultOf B.identifyOutcome c' ∧ Logged B C c.woken B.bringUpFrames c' := by
  have hl := Linked.woken h
  have h₀ := Logged.start hl
  unfold identify
  rw [run_wake_then, run_reset_then hl]
  cases hs : B.silent with
  | true =>
    obtain ⟨ho, hf⟩ := outcome_frames_of_silent hs
    exact ⟨_, by rw [ho]; rfl, ((h₀.sent .goIdleState 0).drain 8).frames_eq (by rw [hf]; rfl)⟩
  | false =>
    have h₁ := (h₀.sent .goIdleState 0).drain 2
    rw [if_neg Bool.false_ne_true, run_interfaceCheck_then h₁.linked]
    cases hr : B.rejectIfCond with
    | true =>
      obtain ⟨ho, hf⟩ := outcome_frames_of_rejectIfCond hs hr
      exact ⟨_, by rw [ho]; rfl,
        ((h₁.sent .sendIfCond ifCondArgument).drain 2).frames_eq (by rw [hf]; rfl)⟩
    | false =>
      have h₂ := ((h₁.sent .sendIfCond ifCondArgument).drain 2).drain 4
      rw [if_neg Bool.false_ne_true]
      cases hw : B.wrongEcho with
      | true =>
        obtain ⟨ho, hf⟩ := outcome_frames_of_wrongEcho hs hr hw
        exact ⟨_, by rw [ho]; rfl, h₂.frames_eq (by rw [hf]; rfl)⟩
      | false =>
        -- the ready loop counts down from the busy count the reset restored
        have hbusy : (((((c.woken.sent .goIdleState 0).drain 2).sent .sendIfCond
            ifCondArgument).drain 2).drain 4).busyLeft = B.busyRounds := by
          rw [busyLeft_drain, busyLeft_drain, (sent_sendIfCond _).2, busyLeft_drain,
            (sent_goIdleState _).2 (by rw [hl.behavior]; exact hs), hl.behavior]
        rw [if_neg Bool.false_ne_true, run_readyLoop_then h₂.linked, hbusy]
        by_cases hto : B.neverReady = false ∧ B.busyRounds.toNat < 5000
        · obtain ⟨ho, hf⟩ := outcome_frames_of_ready hs hr hw hto
          have h₃ := h₂.rounds (B.busyRounds.toNat + 1)
          rw [if_pos hto, run_capacityQuery h₃.linked, ho]
          cases hocr : B.rejectOcr with
          | true =>
            exact ⟨_, rfl, ((h₃.sent .readOcr 0).drain 2).frames_eq
              (by rw [hf]; simp only [List.append_assoc]; rfl)⟩
          | false =>
            exact ⟨_, rfl, (((h₃.sent .readOcr 0).drain 2).drain 4).frames_eq
              (by rw [hf]; simp only [List.append_assoc]; rfl)⟩
        · obtain ⟨ho, hf⟩ := outcome_frames_of_timeout hs hr hw hto
          exact ⟨_, by rw [if_neg hto, ho]; rfl, (h₂.rounds 5000).frames_eq (by rw [hf]; rfl)⟩

/-- Bring-up of a released card: identification as `run_identify` has it, then the card is
released, and switched to the fast clock and idle when identification succeeded. -/
theorem bringUp_of_released {card : SdCard SimulatedCard} (h : Released B C card.link) :
    ∃ c', Logged B C card.link.woken B.bringUpFrames c' ∧
      card.bringUp = (B.bringUpOutcome, match B.identifyOutcome with
        | .ok k => ⟨{ c' with selected := false, dividers := c'.dividers.push .div4 }, .idle k⟩
        | .error _ => ⟨{ c' with selected := false }, .failed⟩) := by
  obtain ⟨c', hrun, hlog⟩ := run_identify h
  refine ⟨c', hlog, ?_⟩
  cases ho : B.identifyOutcome with
  | error e =>
    rw [ho] at hrun
    simp only [bringUp, hrun, resultOf, run_deselect, bringUpOutcome, ho, Except.map]
  | ok k =>
    rw [ho] at hrun
    simp only [bringUp, hrun, resultOf, run_deselect, run_setDivisor, bringUpOutcome, ho,
      Except.map, Bool.not_true, Bool.false_eq_true, if_false]
    rfl

theorem bringUp_released {card : SdCard SimulatedCard} (h : Released B C card.link) :
    Released B C card.bringUp.2.link := by
  obtain ⟨c', hlog, hr⟩ := bringUp_of_released h
  have hrel := hlog.linked.deselect
  rw [hr]
  cases B.identifyOutcome with
  | ok k => exact ⟨rfl, hrel.frame, hrel.behavior, hrel.content⟩
  | error e => exact hrel

theorem readPartial_released {card : SdCard SimulatedCard} (h : Released B C card.link)
    (b : UInt32) (o n : UInt16) (buf : Array UInt8) :
    Released B C (card.readPartial b o n buf).2.link := by
  cases hs : card.state with
  | idle k => exact (readPartial_quiet ⟨hs, h⟩ b o n buf).released
  | uninitialized =>
    unfold readPartial
    split <;> simp only [hs] <;> exact h
  | failed =>
    unfold readPartial
    split <;> simp only [hs] <;> exact h

theorem released_afterCalls {card : SdCard SimulatedCard} (h : Released B C card.link)
    (calls : List CardCall) : Released B C (card.afterCalls calls).link := by
  induction calls generalizing card with
  | nil => exact h
  | cons call calls ih =>
    cases call with
    | bringUp =>
      rw [afterCalls]
      exact ih (bringUp_released h)
    | readPartial b o n buf =>
      rw [afterCalls]
      exact ih (readPartial_released h b o n buf)

end SdCard

open Card SimulatedCard CardBehavior

/-- Bring-up classifies every card, fresh or after any earlier bring-ups and reads: the result is
`bringUpOutcome` (the first check the card fails decides the error; a card that passes them all
is up on the fast clock, as a standard card when it rejects the capacity query and as its own
kind otherwise); the driver has the card idle as that kind or failed; the identification clock
and, on success, the fast clock are programmed; exactly the ten wake-up bytes are clocked while
deselected; the card receives exactly the frames `bringUpFrames`; and it is released. -/
theorem bring_up_classifies_card (B : CardBehavior) (C : UInt32 → Nat → UInt8)
    (calls : List CardCall) :
    let card := (⟨make B C, .uninitialized⟩ : SdCard SimulatedCard).afterCalls calls
    let r := card.bringUp
    r.1 = B.bringUpOutcome ∧
    (∀ info, r.1 = .ok info → r.2.state = .idle info.kind) ∧
    (∀ e, r.1 = .error e → r.2.state = .failed) ∧
    r.2.link.dividers.toList =
      card.link.dividers.toList ++ .div128 :: (if r.1.toBool then [.div4] else []) ∧
    r.2.link.deselectedTransfers = card.link.deselectedTransfers + 10 ∧
    r.2.link.commands.toList = card.link.commands.toList ++ B.bringUpFrames ∧
    r.2.link.selected = false := by
  intro card r
  have hrel : Released B C card.link :=
    SdCard.released_afterCalls
      (show Released B C (⟨make B C, .uninitialized⟩ : SdCard SimulatedCard).link from
        released_make B C) calls
  obtain ⟨c', hlog, hr⟩ := SdCard.bringUp_of_released hrel
  have hdiv : c'.dividers.toList = card.link.dividers.toList ++ [.div128] := by
    rw [hlog.dividers]
    simp [woken]
  have hdes : c'.deselectedTransfers = card.link.deselectedTransfers + 10 := hlog.deselectedTransfers
  have hcmd : c'.commands.toList = card.link.commands.toList ++ B.bringUpFrames := hlog.commands
  rw [show r = card.bringUp from rfl, hr]
  cases ho : B.identifyOutcome with
  | ok k =>
    have hout : B.bringUpOutcome = .ok ⟨k, .div4⟩ := by simp [bringUpOutcome, ho, Except.map]
    rw [hout]
    refine ⟨rfl, ?_, ?_, ?_, hdes, hcmd, rfl⟩
    · intro info hinfo
      cases hinfo
      rfl
    · intro e he
      cases he
    · simp [hdiv, Except.toBool]
  | error e =>
    have hout : B.bringUpOutcome = .error e := by simp [bringUpOutcome, ho, Except.map]
    rw [hout]
    refine ⟨rfl, ?_, fun _ _ => rfl, ?_, hdes, hcmd, rfl⟩
    · intro info hinfo
      cases hinfo
    · simpa [Except.toBool] using hdiv

end PinballAudio
