import PinballAudio.I2c.Transport

/-!
# A buffered byte-level transport

`BufferedI2c` turns a framed transaction into one bus write. A start opens a frame and discards
whatever a previous start collected; writes collect up to eight bytes; a stop closes the frame
and, when the frame holds an address byte for writing, sends the other bytes to that address in
one bus write. A write or stop with no frame open is refused, and so is a ninth byte (the frame
stays open); a read address is refused at the stop.
-/

namespace PinballAudio.I2c

def maxFrame : Nat := 8

/-- Why a buffered transaction failed. -/
inductive BufferedError where
  | notStarted
  | frameTooLong
  | readNotSupported
  | bus (kind : ErrorKind)
  deriving DecidableEq, Repr

def BufferedError.message : BufferedError → String
  | .notStarted => "no transaction in progress"
  | .frameTooLong => "transaction exceeds frame buffer"
  | .readNotSupported => "read transactions are not supported"
  | .bus _ => "I2C bus error"

/-- A bus, the bytes collected since the last start, and whether a frame is open. -/
structure BufferedI2c (β : Type) where
  bus : β
  frame : List UInt8 := []
  isOpen : Bool := false

namespace BufferedI2c

variable {β : Type} [Bus β]

def start : EStateM BufferedError (BufferedI2c β) Unit :=
  modify fun t => { t with frame := [], isOpen := true }

def write (b : UInt8) : EStateM BufferedError (BufferedI2c β) Unit := do
  let t ← get
  if !t.isOpen then throw .notStarted
  if t.frame.length < maxFrame then set { t with frame := t.frame ++ [b] }
  else throw .frameTooLong

/-- Close the frame and send it: the first byte addresses, the others are the payload. -/
def stop : EStateM BufferedError (BufferedI2c β) Unit := do
  let t ← get
  set { t with isOpen := false }
  if !t.isOpen then throw .notStarted
  match t.frame with
  | [] => pure ()
  | a :: payload =>
    if a &&& 1 ≠ 0 then throw .readNotSupported
    match (Bus.write (a >>> 1) payload).run t.bus with
    | .ok () bus => set { t with bus := bus, isOpen := false }
    | .error k bus =>
      set { t with bus := bus, isOpen := false }
      throw (.bus k)

instance : Transport (BufferedI2c β) BufferedError := ⟨start, write, stop⟩

end BufferedI2c

end PinballAudio.I2c
