import PinballAudio.Board

/-!
# The sample ring

Four hundred sample slots in two halves of two hundred, each half with a flag that says it
holds fresh data. The producer fills a half and sets its flag; the consumer takes the flag when
it enters the half. A slot outside the ring reads as silence. The view `AudioRing.slots` is the
list of all slots; `fill_half` and `take_ready` are described through it and the flags.
-/

namespace PinballAudio

/-- One half of the ring. -/
inductive Half where
  | lower
  | upper
  deriving DecidableEq, Repr, Inhabited

namespace Half

def offset : Half → Nat
  | lower => 0
  | upper => Board.halfCapacity

def stop (h : Half) : Nat := h.offset + Board.halfCapacity

def other : Half → Half
  | lower => upper
  | upper => lower

/-- The half a slot index falls in; every index from the half capacity on counts as upper. -/
def containing (i : Nat) : Half := if i < Board.halfCapacity then lower else upper

def name : Half → String
  | lower => "lower"
  | upper => "upper"

theorem other_other (h : Half) : h.other.other = h := by cases h <;> rfl

theorem other_ne (h : Half) : h.other ≠ h := by cases h <;> decide

end Half

/-- Sample slots and the two ready flags. -/
structure AudioRing where
  samples : Array UInt8 := Array.replicate Board.ringCapacity Board.silence
  lowerReady : Bool := false
  upperReady : Bool := false
  deriving DecidableEq, Repr

namespace AudioRing

def capacity (_ : AudioRing) : Nat := Board.ringCapacity

def sample (r : AudioRing) (i : Nat) : UInt8 := r.samples[i]?.getD Board.silence

def isReady (r : AudioRing) : Half → Bool
  | .lower => r.lowerReady
  | .upper => r.upperReady

def setReady (r : AudioRing) (h : Half) (v : Bool) : AudioRing :=
  match h with
  | .lower => { r with lowerReady := v }
  | .upper => { r with upperReady := v }

/-- Copy `data` into the half, as far as both reach, and mark the half ready. -/
def fillHalf (h : Half) (data : List UInt8) (r : AudioRing) : AudioRing :=
  let filled := r.samples.mapIdx fun i v =>
    if h.offset ≤ i ∧ i < h.stop then data[i - h.offset]?.getD v else v
  ({ r with samples := filled }).setReady h true

/-- Take the half's flag: report it and clear it. -/
def takeReady (h : Half) (r : AudioRing) : Bool × AudioRing := (r.isReady h, r.setReady h false)

def slots (r : AudioRing) : List UInt8 := r.samples.toList

theorem isReady_setReady (r : AudioRing) (h : Half) (v : Bool) :
    (r.setReady h v).isReady h = v := by
  cases h <;> rfl

theorem isReady_setReady_other (r : AudioRing) (h : Half) (v : Bool) :
    (r.setReady h v).isReady h.other = r.isReady h.other := by
  cases h <;> rfl

theorem takeReady_clears (h : Half) (r : AudioRing) : ((takeReady h r).2).isReady h = false :=
  isReady_setReady r h false

end AudioRing

end PinballAudio
