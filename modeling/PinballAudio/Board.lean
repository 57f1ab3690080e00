/-!
# Board constants

The fixed numbers of the audio board: where the asset sits on the card, the geometry of the
sample ring, the clocks of the sample timer and of the card bus, and the polling budgets that
bound every wait on the card. Derived values (`totalMusicBlocks`, `sampleRateHz`) are computed
from the primary ones so that their relation is part of the definition.
-/

namespace PinballAudio.Board

def blockSize : Nat := 512

def crcBytes : Nat := 2

def musicStartBlock : UInt32 := 100

def musicFileSize : UInt32 := 248000

/-- Blocks the asset occupies; the player loops over exactly these. -/
def totalMusicBlocks : UInt32 := musicFileSize / blockSize.toUInt32

def ringCapacity : Nat := 400

def halfCapacity : Nat := ringCapacity / 2

def silence : UInt8 := 0x80

def timerClockHz : UInt32 := 16000000

/-- Compare value of the sample timer: the period is this plus one clock. -/
def sampleTimerCompare : UInt16 := 0x0B55

def sampleRateHz : UInt32 := timerClockHz / (sampleTimerCompare.toUInt32 + 1)

def spiKernelHz : UInt32 := 50000000

/-- Divisor asked for while the card is identified (at most 400 kHz). -/
def sdIdentDivisor : UInt32 := 128

/-- Divisor asked for once the card is ready (default speed). -/
def sdFastDivisor : UInt32 := 4

def sdWakeFillerBytes : Nat := 10

def dacAddress : UInt8 := 0x60

/-- Wait for the master board before preloading, in milliseconds. -/
def startupSettleMs : UInt32 := 5000

def timerKernelHz : UInt32 := 200000000

/-- Watchdog timeout in milliseconds; it must exceed the settle wait. -/
def watchdogTimeoutMs : UInt32 := 8000

def watchdogTimeoutUs : UInt32 := watchdogTimeoutMs * 1000

def refillQueueDepth : Nat := 2

/-- The boot steps in the order they must run. -/
def bootSequenceSteps : List String :=
  [ "1. RCC: HSI → PLL1 400 MHz, APB 100 MHz, PLL1Q 50 MHz for SPI1",
    "2. IWDG: arm before any bounded-poll bring-up",
    "3. SD: identify at /128 (390 kHz), switch to /4 (fatal on failure)",
    "4. DAC: MCP4725 parked at mid-scale",
    "5. TIM3: sample period programmed, update interrupt masked",
    "6. Settle: wait for the master board",
    "7. Preload: lower then upper half from the first asset block",
    "8. Tasks: spawn refill producer and serial command handler" ]

theorem totalMusicBlocks_eq : totalMusicBlocks = 484 := by decide

theorem halfCapacity_add : halfCapacity + halfCapacity = ringCapacity := by decide

theorem sampleRateHz_eq : sampleRateHz = 5513 := by decide

end PinballAudio.Board
