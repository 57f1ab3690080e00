/-!
# Storage errors

Two closed sets of causes: why a card could not be brought up (`InitError`) and why a block read
failed (`IoError`). Each cause has one fixed message.
-/

namespace PinballAudio

/-- Why bringing up a card failed. -/
inductive InitError where
  | notResponding
  | unsupportedCard
  | voltageCheckFailed
  | timeout
  | bus
  deriving DecidableEq, Repr, Inhabited

def InitError.message : InitError → String
  | .notResponding => "card did not enter idle state"
  | .unsupportedCard => "card does not support CMD8 (v1 or MMC)"
  | .voltageCheckFailed => "voltage check pattern mismatch"
  | .timeout => "card did not leave idle state in time"
  | .bus => "SPI transport error"

/-- Why a block read failed. -/
inductive IoError where
  | offsetOutOfRange
  | commandRejected
  | dataTokenTimeout
  | cardNotReady
  | blockOutOfRange
  | bus
  deriving DecidableEq, Repr, Inhabited

def IoError.message : IoError → String
  | .offsetOutOfRange => "read window outside block or buffer"
  | .commandRejected => "read command rejected"
  | .dataTokenTimeout => "timed out waiting for data token"
  | .cardNotReady => "card not initialized"
  | .blockOutOfRange => "block out of addressable range"
  | .bus => "SPI transport error"

end PinballAudio
