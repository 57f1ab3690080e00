import PinballAudio.Board
import PinballAudio.Retry
import PinballAudio.Storage.Card
import PinballAudio.Storage.Window
import PinballAudio.Storage.Device
import PinballAudio.Card.Command
import PinballAudio.Card.Link

/-!
# The SD card driver

Brings a card from power-up into SPI mode and serves windowed reads of single blocks over any
`SpiLink`. Every wait is bounded by a `RetryBudget`: a command waits at most `responsePolls`
bytes for its response, and the ready loop and the data token wait at most `timeoutPolls`
rounds, so a silent card yields an error, not a hang. The select line is released on every exit
path after it was driven low; when both the protocol and the release fail, the protocol's error
is the one reported.
-/

namespace PinballAudio

def responsePolls : RetryBudget := ⟨8⟩

def timeoutPolls : RetryBudget := ⟨5000⟩

/-- A card driver: the link and what the driver knows of the card. -/
structure SdCard (σ : Type) where
  link : σ
  state : CardState := .uninitialized

namespace SdCard

variable {σ : Type} [SpiLink σ]

open Card SpiLink

/-- Run a link operation where bring-up errors are expected; a fault is a bus error. -/
def onBus {ε α : Type} (e : ε) (x : EStateM BusFault σ α) : EStateM ε σ α :=
  EStateM.adaptExcept (fun _ => e) x

/-- Send a command frame and wait for the first byte that is not idle; the idle byte when the
card stays silent. -/
def command (c : Command) (argument : UInt32) : EStateM BusFault σ UInt8 := do
  (c.frame argument).forM send
  let r1 ← responsePolls.poll (m := EStateM BusFault σ) do
    let b ← receive
    pure (if b ≠ r1None then some b else none)
  pure (r1.getD r1None)

def receiveBytes : Nat → EStateM BusFault σ (List UInt8)
  | 0 => pure []
  | n + 1 => do
    let b ← receive
    let rest ← receiveBytes n
    pure (b :: rest)

def discard : Nat → EStateM BusFault σ Unit
  | 0 => pure ()
  | n + 1 => do
    let _ ← receive
    discard n

/-- One round of the ready loop: the application prefix, then the operating-condition request;
done when the card answers ready. -/
def readyRound : EStateM BusFault σ (Option Unit) := do
  let _ ← command .appCmd 0
  let r1 ← command .sdSendOpCond hostCapacitySupport
  pure (if r1 = r1Ready then some () else none)

/-- Steps one to five of bring-up: identification clock, wake-up bytes with the card
deselected, reset, interface check, the ready loop and the capacity query. Leaves the card
selected. -/
def identify : EStateM InitError σ CardKind := do
  let _ ← onBus .bus (setDivisor Board.sdIdentDivisor)
  onBus .bus deselect
  onBus .bus ((List.replicate Board.sdWakeFillerBytes r1None).forM send)
  onBus .bus select
  if (← onBus .bus (command .goIdleState 0)) ≠ r1Idle then throw .notResponding
  if (← onBus .bus (command .sendIfCond ifCondArgument)) ≠ r1Idle then throw .unsupportedCard
  let r7 ← onBus .bus (receiveBytes 4)
  if r7[3]? ≠ some ifCondCheckPattern then throw .voltageCheckFailed
  let ready ← onBus .bus (timeoutPolls.poll readyRound)
  if ready.isNone then throw .timeout
  if (← onBus .bus (command .readOcr 0)) ≠ r1Ready then return .standard
  let ocr ← onBus .bus (receiveBytes 4)
  pure (if (ocr.headD 0) &&& ocrCapacityBit ≠ 0 then .highCapacity else .standard)

/-- Bring the card up. Identification runs, then the select line is released whatever
happened; an identification error wins over a release error. On success the bus switches to the
fast divisor and the card is idle; on any failure it is failed. -/
def bringUp (card : SdCard σ) : Except InitError CardInfo × SdCard σ :=
  let (identified, l₁) := match identify.run card.link with
    | .ok k l => (Except.ok k, l)
    | .error e l => (Except.error e, l)
  let (released, l₂) := match (deselect : EStateM BusFault σ Unit).run l₁ with
    | .ok () l => (true, l)
    | .error _ l => (false, l)
  match identified with
  | .error e => (.error e, ⟨l₂, .failed⟩)
  | .ok kind =>
    if !released then (.error .bus, ⟨l₂, .failed⟩)
    else match (setDivisor Board.sdFastDivisor : EStateM BusFault σ ClockDivider).run l₂ with
      | .ok d l₃ => (.ok ⟨kind, d⟩, ⟨l₃, .idle kind⟩)
      | .error _ l₃ => (.error .bus, ⟨l₃, .failed⟩)

/-- Run a link operation inside a read, where the buffer is part of the state. -/
def onLink {α : Type} (x : EStateM BusFault σ α) : EStateM IoError (σ × Array UInt8) α :=
  fun s => match x s.1 with
    | .ok a l => .ok a (l, s.2)
    | .error _ l => .error .bus (l, s.2)

def receiveInto (pos : Nat) : Nat → EStateM IoError (σ × Array UInt8) Unit
  | 0 => pure ()
  | n + 1 => do
    let b ← onLink receive
    modify fun s => (s.1, s.2.setIfInBounds pos b)
    receiveInto (pos + 1) n

def awaitToken : EStateM BusFault σ (Option Unit) :=
  timeoutPolls.poll do
    let b ← receive
    pure (if b = dataStartToken then some () else none)

/-- The single-block read with the card selected: the command, the token, the bytes before
the window, the window into the buffer, the bytes after it and the checksum. -/
def readWindow (address : UInt32) (w : ReadWindow) : EStateM IoError (σ × Array UInt8) Unit := do
  if (← onLink (command .readSingleBlock address)) ≠ r1Ready then throw .commandRejected
  if (← onLink awaitToken).isNone then throw .dataTokenTimeout
  onLink (discard w.offset)
  receiveInto w.offset w.len
  onLink (discard (w.trailing + Board.crcBytes))

/-- Read `length` bytes of `block` from `offset` into the same positions of `buffer`. The
window, the card state and the block's address are checked before any traffic; the card state
never changes. -/
def readPartial (block : UInt32) (offset length : UInt16) (buffer : Array UInt8)
    (card : SdCard σ) : (Except IoError Unit × Array UInt8) × SdCard σ :=
  match ReadWindow.make offset length buffer.size with
  | .error e => ((.error e, buffer), card)
  | .ok w =>
    match card.state with
    | .idle kind =>
      match kind.wireAddress block with
      | none => ((.error .blockOutOfRange, buffer), card)
      | some address =>
        match (select : EStateM BusFault σ Unit).run card.link with
        | .error _ l => ((.error .bus, buffer), { card with link := l })
        | .ok () l =>
          let (result, l₁, buf) := match (readWindow address w).run (l, buffer) with
            | .ok () s => (Except.ok (), s)
            | .error e s => (Except.error e, s)
          match (deselect : EStateM BusFault σ Unit).run l₁ with
          | .ok () l₂ => ((result, buf), { card with link := l₂ })
          | .error _ l₂ =>
            ((match result with
              | .error e => .error e
              | .ok () => .error .bus, buf), { card with link := l₂ })
    | _ => ((.error .cardNotReady, buffer), card)

instance : BlockDevice (SdCard σ) := ⟨readPartial⟩

end SdCard

end PinballAudio
