import PinballAudio.I2c.Transport

/-!
# A fake whole-transaction bus

A bench bus that records every write as its address and payload. Transactions are numbered
from one, and the one whose number is set to fail fails with the configured kind and is not
recorded.
-/

namespace PinballAudio.Bench

/-- Recorded writes, the transaction counter and the failure to inject. -/
structure FakeI2cBus where
  writes : Array (UInt8 × List UInt8) := #[]
  transactions : Nat := 0
  failAt : Option Nat := none
  failKind : I2c.ErrorKind := .other
  deriving Repr

def FakeI2cBus.write (address : UInt8) (payload : List UInt8) :
    EStateM I2c.ErrorKind FakeI2cBus Unit := fun b =>
  let b := { b with transactions := b.transactions + 1 }
  if b.failAt = some b.transactions then .error b.failKind b
  else .ok () { b with writes := b.writes.push (address, payload) }

instance : I2c.Bus FakeI2cBus := ⟨FakeI2cBus.write⟩

end PinballAudio.Bench
