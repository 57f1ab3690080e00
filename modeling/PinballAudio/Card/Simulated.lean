import PinballAudio.Board
import PinballAudio.Storage.Card
import PinballAudio.Card.Command
import PinballAudio.Card.Link

/-!
# A behavioural model of an SD card in SPI mode

`SimulatedCard` speaks the command protocol of a card: a byte with top bits `01` while no frame
is open starts a frame and drops any response still pending; the sixth byte of a frame completes
it and the card executes the command, queueing its response behind one idle byte. While
deselected the card ignores the bus and answers idle bytes. `CardBehavior` switches on the ways
a card can misbehave: silence on reset, an old card that rejects the interface check, a wrong
echo, a long or endless busy phase, a rejected capacity query, rejected reads, a slow or
withheld data token.
-/

namespace PinballAudio.Card

/-- How a simulated card behaves. -/
structure CardBehavior where
  kind : CardKind := .highCapacity
  silent : Bool := false
  rejectIfCond : Bool := false
  wrongEcho : Bool := false
  busyRounds : UInt32 := 3
  neverReady : Bool := false
  rejectOcr : Bool := false
  rejectReads : Bool := false
  tokenDelay : Nat := 2
  withholdToken : Bool := false
  deriving DecidableEq, Repr

def blockPattern (block : UInt32) (i : Nat) : UInt8 := (block.toNat + i).toUInt8

/-- The state of a simulated card and what it has seen of the bus. -/
structure SimulatedCard where
  behavior : CardBehavior := {}
  content : UInt32 → Nat → UInt8 := blockPattern
  selected : Bool := false
  frame : List UInt8 := []
  outgoing : List UInt8 := []
  appCommand : Bool := false
  busyLeft : UInt32 := behavior.busyRounds
  commands : Array Frame := #[]
  transfers : Nat := 0
  deselectedTransfers : Nat := 0
  dividers : Array ClockDivider := #[]
  readAddresses : Array UInt32 := #[]

namespace SimulatedCard

def make (b : CardBehavior) (content : UInt32 → Nat → UInt8 := blockPattern) : SimulatedCard :=
  { behavior := b, content := content, busyLeft := b.busyRounds }

/-- The block a read address names for this card's kind. -/
def blockForAddress (c : SimulatedCard) (address : UInt32) : UInt32 :=
  match c.behavior.kind with
  | .standard => address / Board.blockSize.toUInt32
  | .highCapacity => address

def respond (bytes : List UInt8) (c : SimulatedCard) : SimulatedCard :=
  { c with outgoing := c.outgoing ++ 0xFF :: bytes }

/-- The bytes a read sends after its response: the delay, and unless withheld the token, the
block and two checksum bytes. -/
def readPayload (c : SimulatedCard) (block : UInt32) : List UInt8 :=
  List.replicate c.behavior.tokenDelay 0xFF ++
    if c.behavior.withholdToken then []
    else dataStartToken :: (List.range Board.blockSize).map (c.content block) ++ [0xA5, 0x5A]

/-- Execute a completed command frame. -/
def execute (cmd : Frame) (c₀ : SimulatedCard) : SimulatedCard :=
  let app := c₀.appCommand
  let c := { c₀ with commands := c₀.commands.push cmd, appCommand := false }
  let b := c.behavior
  if cmd.index = 0 then
    if b.silent then c else { c with busyLeft := b.busyRounds }.respond [0x01]
  else if cmd.index = 8 then
    if b.rejectIfCond then c.respond [0x05]
    else c.respond [0x01, 0x00, 0x00, 0x01, if b.wrongEcho then 0x55 else cmd.argument.toUInt8]
  else if cmd.index = 55 then
    { c with appCommand := true }.respond [0x01]
  else if app ∧ cmd.index = 41 then
    if b.neverReady ∨ c.busyLeft > 0 then
      { c with busyLeft := c.busyLeft - (if c.busyLeft > 0 then 1 else 0) }.respond [0x01]
    else c.respond [0x00]
  else if cmd.index = 58 then
    if b.rejectOcr then c.respond [0x05]
    else c.respond [0x00, if b.kind = .highCapacity then 0xC0 else 0x80, 0xFF, 0x80, 0x00]
  else if cmd.index = 17 then
    let c := { c with readAddresses := c.readAddresses.push cmd.argument }
    if b.rejectReads then c.respond [0x04]
    else
      let c := c.respond [0x00]
      { c with outgoing := c.outgoing ++ c.readPayload (c.blockForAddress cmd.argument) }
  else c.respond [0x04]

/-- One byte on the bus while selected: extend an open frame (executing it when complete),
open a new frame, or answer the next queued response byte. -/
def clock (b : UInt8) (c : SimulatedCard) : UInt8 × SimulatedCard :=
  match c.frame with
  | [b0, b1, b2, b3, b4] => (0xFF, execute (Frame.ofBytes b0 b1 b2 b3 b4 b) { c with frame := [] })
  | _ :: _ => (0xFF, { c with frame := c.frame ++ [b] })
  | [] =>
    if startsFrame b then (0xFF, { c with outgoing := [], frame := [b] })
    else match c.outgoing with
      | [] => (0xFF, c)
      | o :: rest => (o, { c with outgoing := rest })

/-- One transfer: counted always, ignored while deselected. -/
def transfer (b : UInt8) (c₀ : SimulatedCard) : UInt8 × SimulatedCard :=
  let c := { c₀ with transfers := c₀.transfers + 1 }
  if c.selected then clock b c
  else (0xFF, { c with deselectedTransfers := c.deselectedTransfers + 1 })

instance : SpiLink SimulatedCard where
  transfer b := fun c => let (r, c') := transfer b c; .ok r c'
  setDivider d := fun c => .ok () { c with dividers := c.dividers.push d }
  select := fun c => .ok () { c with selected := true }
  deselect := fun c => .ok () { c with selected := false }

end SimulatedCard

end PinballAudio.Card
