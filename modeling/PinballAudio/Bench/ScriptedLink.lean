import PinballAudio.Card.Link

/-!
# A scripted link

A bench link that answers from a fixed script of reply bytes and can inject one fault per kind
of operation. Transfer calls are numbered from one; the call whose number is `failTransferAt`
fails without consuming a reply or being logged. A deselected transfer answers the idle byte and
is counted apart; a selected one logs the byte sent and answers the next script byte (the idle
byte once the script is spent). Divider calls and select-line calls are numbered the same way;
the failing select-line call is logged as `x` and leaves the line as it was.
-/

namespace PinballAudio.Bench

/-- State and logs of a scripted link. -/
structure ScriptedLink where
  script : Array UInt8 := #[]
  pos : Nat := 0
  transfers : Nat := 0
  deselectedTransfers : Nat := 0
  selected : Bool := false
  sent : Array UInt8 := #[]
  dividerCalls : Nat := 0
  dividers : Array ClockDivider := #[]
  selectCalls : Nat := 0
  selectLog : Array Char := #[]
  failTransferAt : Option Nat := none
  failDividerAt : Option Nat := none
  failSelectAt : Option Nat := none
  deriving Repr

namespace ScriptedLink

def transfer (b : UInt8) (s₀ : ScriptedLink) : EStateM.Result BusFault ScriptedLink UInt8 :=
  let s := { s₀ with transfers := s₀.transfers + 1 }
  if s.failTransferAt = some s.transfers then .error {} s
  else if !s.selected then .ok 0xFF { s with deselectedTransfers := s.deselectedTransfers + 1 }
  else .ok (s.script[s.pos]?.getD 0xFF) { s with sent := s.sent.push b, pos := s.pos + 1 }

def setDivider (d : ClockDivider) (s₀ : ScriptedLink) : EStateM.Result BusFault ScriptedLink Unit :=
  let s := { s₀ with dividerCalls := s₀.dividerCalls + 1 }
  if s.failDividerAt = some s.dividerCalls then .error {} s
  else .ok () { s with dividers := s.dividers.push d }

def drive (low : Bool) (s₀ : ScriptedLink) : EStateM.Result BusFault ScriptedLink Unit :=
  let s := { s₀ with selectCalls := s₀.selectCalls + 1 }
  if s.failSelectAt = some s.selectCalls then .error {} { s with selectLog := s.selectLog.push 'x' }
  else .ok () { s with selected := low, selectLog := s.selectLog.push (if low then 'L' else 'H') }

instance : SpiLink ScriptedLink where
  transfer := transfer
  setDivider := setDivider
  select := drive true
  deselect := drive false

end ScriptedLink

end PinballAudio.Bench
