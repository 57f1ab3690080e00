/-!
# Clock dividers of the card bus

The bus clock is the kernel clock divided by one of seven powers of two. `nearest` picks the
supported divider closest to a requested divisor; of two equally close ones it takes the larger,
since a card tolerates a slow bus but not one above its limit. It scans the dividers fastest
first and lets a later candidate win a tie, which is what makes the slower one win.
-/

namespace PinballAudio

/-- A supported divider of the bus kernel clock. -/
inductive ClockDivider where
  | div2 | div4 | div8 | div16 | div32 | div64 | div128
  deriving DecidableEq, Repr, Inhabited

namespace ClockDivider

def all : List ClockDivider := [div2, div4, div8, div16, div32, div64, div128]

def divisor : ClockDivider → Nat
  | div2 => 2
  | div4 => 4
  | div8 => 8
  | div16 => 16
  | div32 => 32
  | div64 => 64
  | div128 => 128

def ofDivisor? (d : Nat) : Option ClockDivider :=
  all.find? (fun c => c.divisor == d)

def distance (c : ClockDivider) (d : Nat) : Nat :=
  if c.divisor ≤ d then d - c.divisor else c.divisor - d

def closer (d : Nat) (best : ClockDivider × Nat) (c : ClockDivider) : ClockDivider × Nat :=
  if c.distance d ≤ best.2 then (c, c.distance d) else best

/-- The supported divider closest to `d`; ties go to the larger divider. -/
def nearest (d : Nat) : ClockDivider :=
  match ofDivisor? d with
  | some exact => exact
  | none => (all.foldl (closer d) (div2, UInt32.size - 1)).1

def frequencyHz (c : ClockDivider) (kernelHz : UInt32) : UInt32 :=
  kernelHz / c.divisor.toUInt32

end ClockDivider

end PinballAudio
