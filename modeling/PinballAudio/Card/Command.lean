/-!
# Card commands in SPI mode

Every command goes out as a six-byte frame: a token with the top bits `01` and the command
index, the 32-bit argument most significant byte first, and a checksum byte. The card checks the
checksum only while it is still in SD mode, so the reset and interface-check commands carry
their real checksum and every other command a dummy byte. `Frame` is what a card reads back out
of six received bytes.
-/

namespace PinballAudio.Card

def r1Idle : UInt8 := 0x01

def r1Ready : UInt8 := 0x00

def r1None : UInt8 := 0xFF

def dataStartToken : UInt8 := 0xFE

def ifCondArgument : UInt32 := 0x000001AA

def ifCondCheckPattern : UInt8 := 0xAA

def hostCapacitySupport : UInt32 := 0x40000000

def ocrCapacityBit : UInt8 := 0x40

/-- The commands the board sends: the reset into SPI mode (CMD0), the interface condition
(CMD8), the single-block read (CMD17), the application prefix (CMD55), the start of
initialisation (ACMD41) and the operating-condition read (CMD58). -/
inductive Command where
  | goIdleState
  | sendIfCond
  | readSingleBlock
  | appCmd
  | sdSendOpCond
  | readOcr
  deriving DecidableEq, Repr, Inhabited

namespace Command

def index : Command → UInt8
  | goIdleState => 0
  | sendIfCond => 8
  | readSingleBlock => 17
  | appCmd => 55
  | sdSendOpCond => 41
  | readOcr => 58

def token (c : Command) : UInt8 := 0x40 ||| c.index

def crc : Command → UInt8
  | goIdleState => 0x95
  | sendIfCond => 0x87
  | _ => 0xFF

def argumentBytes (a : UInt32) : List UInt8 :=
  [(a >>> 24).toUInt8, (a >>> 16).toUInt8, (a >>> 8).toUInt8, a.toUInt8]

/-- The six bytes sent for this command with `argument`. -/
def frame (c : Command) (argument : UInt32) : List UInt8 :=
  c.token :: argumentBytes argument ++ [c.crc]

end Command

/-- A command frame as a card reads it. -/
structure Frame where
  index : UInt8
  argument : UInt32
  crc : UInt8
  deriving DecidableEq, Repr

/-- Whether a byte starts a frame: its top two bits are `01`. -/
def startsFrame (b : UInt8) : Bool := b &&& 0xC0 == 0x40

/-- The frame of six received bytes: the index from the low six bits of the first, the
argument from the next four, the checksum from the last. -/
def Frame.ofBytes (b0 b1 b2 b3 b4 b5 : UInt8) : Frame :=
  { index := b0 &&& 0x3F
    argument := (b1.toUInt32 <<< 24) ||| (b2.toUInt32 <<< 16) ||| (b3.toUInt32 <<< 8) ||| b4.toUInt32
    crc := b5 }

theorem frame_length (c : Command) (a : UInt32) : (c.frame a).length = 6 := rfl

end PinballAudio.Card
