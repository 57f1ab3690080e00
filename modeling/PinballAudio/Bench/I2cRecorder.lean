import PinballAudio.I2c.Transport

/-!
# A recording byte-level transport

A bench transport that logs every start, byte and stop it accepts. Starts, writes and stops are
numbered from one each, and the call whose number is set to fail fails without being logged.
-/

namespace PinballAudio.Bench

/-- One logged transport event. -/
inductive I2cEvent where
  | start
  | byte (b : UInt8)
  | stop
  deriving DecidableEq, Repr

/-- The failure of a recording transport. -/
structure RecorderFault where
  deriving DecidableEq, Repr

/-- Log, call counters and the calls set to fail. -/
structure I2cRecorder where
  events : Array I2cEvent := #[]
  starts : Nat := 0
  writes : Nat := 0
  stops : Nat := 0
  failStartAt : Option Nat := none
  failWriteAt : Option Nat := none
  failStopAt : Option Nat := none
  deriving Repr

namespace I2cRecorder

def start : EStateM RecorderFault I2cRecorder Unit := fun r =>
  let r := { r with starts := r.starts + 1 }
  if r.failStartAt = some r.starts then .error {} r else .ok () { r with events := r.events.push .start }

def write (b : UInt8) : EStateM RecorderFault I2cRecorder Unit := fun r =>
  let r := { r with writes := r.writes + 1 }
  if r.failWriteAt = some r.writes then .error {} r else .ok () { r with events := r.events.push (.byte b) }

def stop : EStateM RecorderFault I2cRecorder Unit := fun r =>
  let r := { r with stops := r.stops + 1 }
  if r.failStopAt = some r.stops then .error {} r else .ok () { r with events := r.events.push .stop }

instance : I2c.Transport I2cRecorder RecorderFault := ⟨start, write, stop⟩

end I2cRecorder

end PinballAudio.Bench
