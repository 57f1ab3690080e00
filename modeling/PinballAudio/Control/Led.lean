/-!
# LED selections

The master board picks an LED animation (`U` to `Z`) and a speed (`1` to `3`) with single bytes.
A selection is stored as its two command bytes packed into one 16-bit word, so a reader never
sees the pattern of one update with the speed of another; a byte that names nothing unpacks to
the default. `LedPublisher` holds the packed word and a signal that wakes one reader per
update; a second update before the reader looks replaces the first.
-/

namespace PinballAudio

/-- An LED matrix animation. -/
inductive LedPattern where
  | blink | sweep | chase | checker | fill | pulse
  deriving DecidableEq, Repr, Inhabited

namespace LedPattern

def ofByte? : UInt8 → Option LedPattern
  | 85 => some blink
  | 86 => some sweep
  | 87 => some chase
  | 88 => some checker
  | 89 => some fill
  | 90 => some pulse
  | _ => none

def toByte : LedPattern → UInt8
  | blink => 85
  | sweep => 86
  | chase => 87
  | checker => 88
  | fill => 89
  | pulse => 90

def name : LedPattern → String
  | blink => "Blink"
  | sweep => "Sweep"
  | chase => "Chase"
  | checker => "Checker"
  | fill => "Fill"
  | pulse => "Pulse"

theorem ofByte?_toByte (p : LedPattern) : ofByte? p.toByte = some p := by
  cases p <;> rfl

end LedPattern

/-- An LED animation speed. -/
inductive LedSpeed where
  | slow | medium | fast
  deriving DecidableEq, Repr, Inhabited

namespace LedSpeed

def ofByte? : UInt8 → Option LedSpeed
  | 49 => some slow
  | 50 => some medium
  | 51 => some fast
  | _ => none

def toByte : LedSpeed → UInt8
  | slow => 49
  | medium => 50
  | fast => 51

def cyclesPerFrame : LedSpeed → UInt8
  | slow => 20
  | medium => 10
  | fast => 5

def name : LedSpeed → String
  | slow => "Slow"
  | medium => "Medium"
  | fast => "Fast"

theorem ofByte?_toByte (s : LedSpeed) : ofByte? s.toByte = some s := by
  cases s <;> rfl

end LedSpeed

/-- What the LED matrix should show. -/
structure LedSelection where
  pattern : LedPattern := .blink
  speed : LedSpeed := .slow
  deriving DecidableEq, Repr, Inhabited

namespace LedSelection

/-- The two command bytes in one word, the pattern's in the high byte. -/
def pack (s : LedSelection) : UInt16 := (s.pattern.toByte.toUInt16 <<< 8) ||| s.speed.toByte.toUInt16

/-- The selection of a packed word; a byte that names nothing gives the default. -/
def unpack (w : UInt16) : LedSelection :=
  { pattern := (LedPattern.ofByte? (w >>> 8).toUInt8).getD .blink
    speed := (LedSpeed.ofByte? w.toUInt8).getD .slow }

theorem unpack_pack (s : LedSelection) : unpack s.pack = s := by
  obtain ⟨p, v⟩ := s
  cases p <;> cases v <;> rfl

end LedSelection

/-- The current selection, readable at any time, and a one-place signal of updates. -/
structure LedPublisher where
  packed : UInt16 := LedSelection.pack {}
  signal : Option LedSelection := none
  deriving DecidableEq, Repr

namespace LedPublisher

def current (p : LedPublisher) : LedSelection := LedSelection.unpack p.packed

def publish (s : LedSelection) (p : LedPublisher) : LedPublisher :=
  { p with packed := s.pack, signal := some s }

/-- Look once for an update: the last one signalled, which is then consumed, or nothing. -/
def changed (p : LedPublisher) : Option LedSelection × LedPublisher :=
  (p.signal, { p with signal := none })

theorem current_publish (s : LedSelection) (p : LedPublisher) : (p.publish s).current = s :=
  LedSelection.unpack_pack s

end LedPublisher

end PinballAudio
