/-!
# I²C transports and buses

Two levels of I²C master. A byte-level transport lets the caller frame a transaction itself:
a start condition, the address byte (the 7-bit address shifted left, the read bit in bit 0),
data bytes, a stop condition. A bus takes a whole write at once, address and payload, and
reports failures by kind. Both keep their state on failure.
-/

namespace PinballAudio.I2c

/-- A byte-level I²C master that fails with errors of type `ε`. -/
class Transport (σ : Type) (ε : outParam Type) where
  start : EStateM ε σ Unit
  write : UInt8 → EStateM ε σ Unit
  stop : EStateM ε σ Unit

/-- Who did not acknowledge. -/
inductive NackSource where
  | unknown
  | address
  | data
  deriving DecidableEq, Repr

/-- The kinds of bus failure. -/
inductive ErrorKind where
  | bus
  | arbitrationLoss
  | noAcknowledge (source : NackSource)
  | overrun
  | other
  deriving DecidableEq, Repr

/-- A whole-transaction I²C bus: write `payload` to the 7-bit `address`. -/
class Bus (β : Type) where
  write : UInt8 → List UInt8 → EStateM ErrorKind β Unit

def runStep {σ ε α : Type} (x : EStateM ε σ α) (s : σ) : Except ε α × σ :=
  match x.run s with
  | .ok a s => (.ok a, s)
  | .error e s => (.error e, s)

end PinballAudio.I2c
