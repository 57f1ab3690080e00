import PinballAudio.Board
import PinballAudio.Playback.Sink
import PinballAudio.I2c.Transport

/-!
# The MCP4725 DAC

A sample is one fast-write frame: start, the address byte, the write command, the sample as the
high byte and zero as the low nibble, stop. The frame stops at the first byte that fails, and
the stop is sent whatever happened, so the bus is always released; any failure is a transport
stall. Bringing the DAC up parks it at mid-scale.
-/

namespace PinballAudio.Dac

def defaultAddress : UInt8 := Board.dacAddress

def writeCommand : UInt8 := 0x40

def lowNibble : UInt8 := 0x00

/-- The address byte of a write to a 7-bit address: shifted left, read bit clear. -/
def writeAddress (address : UInt8) : UInt8 := (address <<< 1) &&& 0xFE

/-- Why a DAC write failed. -/
inductive DacError where
  | transportStall
  deriving DecidableEq, Repr

def DacError.message : DacError → String
  | .transportStall => "I2C transport stalled"

/-- Something that plays samples and can be parked at mid-scale. -/
class Driver (δ : Type) (ε : outParam Type) extends SampleSink δ ε where
  init : δ → Except ε Unit × δ

def Driver.mute {δ ε : Type} [Driver δ ε] (d : δ) : Except ε Unit × δ :=
  SampleSink.writeSample Board.silence d

/-- An MCP4725 on a byte-level transport. -/
structure Mcp4725 (σ : Type) where
  link : σ
  addressByte : UInt8

namespace Mcp4725

variable {σ ε : Type} [I2c.Transport σ ε]

def withAddress (link : σ) (address : UInt8) : Mcp4725 σ := ⟨link, writeAddress address⟩

def new (link : σ) : Mcp4725 σ := withAddress link defaultAddress

def frameBytes (d : Mcp4725 σ) (v : UInt8) : List UInt8 := [d.addressByte, writeCommand, v, lowNibble]

def sendFrame (d : Mcp4725 σ) (v : UInt8) : EStateM ε σ Unit := do
  I2c.Transport.start
  (d.frameBytes v).forM I2c.Transport.write

/-- Write one sample: the frame, then always the stop. -/
def writeSample (v : UInt8) (d : Mcp4725 σ) : Except DacError Unit × Mcp4725 σ :=
  let (framed, s₁) := I2c.runStep (d.sendFrame v) d.link
  let (stopped, s₂) := I2c.runStep (I2c.Transport.stop : EStateM ε σ Unit) s₁
  let ok := match framed, stopped with
    | .ok (), .ok () => true
    | _, _ => false
  (if ok then .ok () else .error .transportStall, { d with link := s₂ })

instance : Driver (Mcp4725 σ) DacError where
  writeSample := writeSample
  init := writeSample Board.silence

end Mcp4725

end PinballAudio.Dac
