import PinballAudio.Tooling.Run
import PinballAudio.Tooling.TestSummary

/-!
# Build steps

A step is one run of the build tool with fixed arguments. Its output is shown only when it
fails. A step that succeeds reports the tests its output counted and how long it took; a step
that fails either stops the task, echoing the tool's output under its name, or only warns,
echoing the tool's error output, and the task goes on.
-/

namespace PinballAudio.Tooling

/-- What a failing step does to the task that runs it. -/
inductive OnFailure where
  | abort
  | warn
  deriving DecidableEq, Repr

/-- One run of the build tool. -/
structure Step where
  label : String
  args : List String
  onFailure : OnFailure
  deriving DecidableEq, Repr

def buildTool : String := "cargo"

def firmwareTarget : String := "thumbv7em-none-eabihf"

def firmwarePackage : String := "pinball-slave"

def totalsDetail (t : TestTotals) : String :=
  if t = {} then "" else " (" ++ t.display ++ ")"

/-- Run `step`; whether it succeeded and the test totals its output gives. -/
def runStep (tools : Toolbox) (step : Step) : TaskM (Bool × TestTotals) := do
  say ("  " ++ step.label ++ "...")
  let start ← now
  match ← startTool tools buildTool step.args with
  | none => throw ⟨["Failed to spawn " ++ buildTool ++ " for '" ++ step.label ++ "'",
      IoFailure.notFound.message]⟩
  | some r =>
    let totals := TestTotals.ofOutput r.stdout
    if r.code = 0 then
      say ("  ✓ " ++ step.label ++ totalsDetail totals ++ " in " ++ secondsText ((← now) - start) ++ "s")
      pure (true, totals)
    else match step.onFailure with
      | .abort =>
        warn ("  ✗ " ++ step.label ++ " failed")
        warn ""
        for line in textLines r.stdout ++ textLines r.stderr do
          warn ("  " ++ line)
        throw (.plain (step.label ++ " failed"))
      | .warn =>
        warn ("  ⚠ " ++ step.label ++ " reported problems")
        warn r.stderr
        pure (false, totals)

end PinballAudio.Tooling
