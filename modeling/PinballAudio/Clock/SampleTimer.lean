import PinballAudio.Board

/-!
# The sample timer's reload value

The sample period is fixed as `sampleTimerCompare + 1` ticks of the 16 MHz reference clock. On a
timer with another kernel clock the same period takes `period · kernel / 16 MHz` ticks, rounded
to nearest; the timer counts from zero, so the reload value is one less. A period that takes no
tick at all or more than a 16-bit counter holds has no reload value.
-/

namespace PinballAudio.SampleTimer

/-- The reload value that gives the sample period at `kernelHz`, if a 16-bit timer holds it. -/
def autoReload (kernelHz : UInt32) : Option UInt16 :=
  let period := Board.sampleTimerCompare.toNat + 1
  let ticks := (period * kernelHz.toNat + Board.timerClockHz.toNat / 2) / Board.timerClockHz.toNat
  if ticks = 0 then none
  else if ticks - 1 > 65535 then none
  else some (ticks - 1).toUInt16

end PinballAudio.SampleTimer
