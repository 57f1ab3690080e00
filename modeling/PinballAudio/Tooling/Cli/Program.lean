import PinballAudio.Tooling.Cli.Parse
import PinballAudio.Tooling.Tasks

/-!
# The development command line

`xtask flash [--release]`, `xtask check`, `xtask test [--tier TIER]` and
`xtask pack-audio --input FILE --output FILE`, with help and version. A run prints help or the
version and succeeds, refuses a malformed line with exit code 2, or runs the task: exit code 0
when it succeeds, 1 with the error and its causes on standard error when it fails.
-/

namespace PinballAudio.Tooling.Cli

def flashCommand : CommandSpec :=
  { name := "flash", about := "Flash firmware to STM32H7 hardware via probe-rs", group := some "Flash"
    options := [{ id := "release", short := some 'r', long := "release"
                  help := "Build and flash release version", action := .flag }, helpOption false] }

def checkCommand : CommandSpec :=
  { name := "check", about := "Check every build configuration and pack a silent card image"
    options := [helpOption false] }

def tierValues : List PossibleValue :=
  [ { name := "unit", help := "`#[cfg(test)]` modules of every crate" },
    { name := "pipeline", help := "Simulated card → SD driver → producer → consumer" },
    { name := "property", help := "proptest suites for addressing, dividers and partial reads" },
    { name := "doc", help := "Doc examples" } ]

def testCommand : CommandSpec :=
  { name := "test", about := "Run the host test tiers against the simulated peripherals"
    group := some "Test"
    options := [{ id := "tier", long := "tier", valueName := "TIER", help := "Run only this tier"
                  choices := tierValues, action := .value }, helpOption true] }

def packAudioCommand : CommandSpec :=
  { name := "pack-audio", about := "Lay an 8-bit unsigned PCM file into a raw SD card image"
    group := some "PackAudio"
    options := [{ id := "input", long := "input", valueName := "INPUT", required := true
                  help := "Raw PCM input (8-bit unsigned, mono, ≈5513 Hz)", action := .value },
                { id := "output", long := "output", valueName := "OUTPUT", required := true
                  help := "Card image to write", action := .value }, helpOption false] }

def xtaskLevel : Level :=
  { spec := { name := "xtask", about := "Pinball audio slave development tasks"
              options := [helpOption false, versionOption] }
    binName := "xtask", version := some "0.1.0"
    subcommands := [flashCommand, checkCommand, testCommand, packAudioCommand, helpCommand] }

/-- A task as the command line asks for it. -/
inductive Invocation where
  | flash (release : Bool)
  | check
  | test (only : Option Tier)
  | packAudio (input output : String)
  deriving DecidableEq, Repr

def tierOf : String → Option Tier
  | "unit" => some .unit
  | "pipeline" => some .pipeline
  | "property" => some .property
  | "doc" => some .doc
  | _ => none

def firstValue (given : List (String × List String)) (id : String) : Option String :=
  (given.find? (·.1 == id)).bind (·.2.head?)

def requiredValue (given : List (String × List String)) (id : String) : Except Stop String :=
  match firstValue given id with
  | some v => .ok v
  | none => .error (xtaskLevel.refuse
      { message := "The following required argument was not provided: " ++ id
        usage := some xtaskLevel.usage })

/-- The task a parsed command line asks for. -/
def invocationOf (sc : CommandSpec) (given : List (String × List String)) : Except Stop Invocation :=
  if sc.name == flashCommand.name then .ok (.flash (given.any (·.1 == "release")))
  else if sc.name == testCommand.name then .ok (.test ((firstValue given "tier").bind tierOf))
  else if sc.name == packAudioCommand.name then do
    let input ← requiredValue given "input"
    let output ← requiredValue given "output"
    pure (.packAudio input output)
  else .ok .check

def Invocation.run (tools : Toolbox) : Invocation → TaskM Unit
  | .flash release => Tooling.flash tools release
  | .check => Tooling.check tools
  | .test only => Tooling.test tools only
  | .packAudio input output => Tooling.packAudio input output

/-- Run the command line `args`: the exit code and the world after. -/
def runCommandLine (tools : Toolbox) (args : List String) (w : TaskWorld) : Nat × TaskWorld :=
  match parseProgram xtaskLevel args >>= fun (sc, given) => invocationOf sc given with
  | .error (.show text) => (0, { w with stdout := w.stdout ++ text.toUTF8 })
  | .error (.refuse text) => (2, { w with stderr := w.stderr ++ text.toUTF8 })
  | .ok inv =>
    match (inv.run tools).run w with
    | .ok _ w => (0, w)
    | .error e w => (1, { w with stderr := w.stderr ++ ("Error: " ++ e.report ++ "\n").toUTF8 })

end PinballAudio.Tooling.Cli
