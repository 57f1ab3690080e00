import PinballAudio.Tooling.Step
import PinballAudio.Image.Pack

/-!
# Development tasks

The four tasks of the board's development workflow. `check` builds every configuration the
board ships or is tested in, then leaves a silent card image for bench bring-up; `test` runs the
host test tiers, or one of them, and sums their counts; `flash` builds the firmware, reports its
size when the size tool is at hand, and hands it to the probe, whose output goes straight to the
console; `packAudio` lays a PCM file into a card image.
-/

namespace PinballAudio.Tooling

def tryWorkspace (f : Workspace → Except IoFailure Workspace) : TaskM (Except IoFailure Unit) := do
  match f (← get).workspace with
  | .ok w =>
    modify fun s => { s with workspace := w }
    pure (.ok ())
  | .error e => pure (.error e)

/-- Write `bytes` to the file at `path`: a file of the workspace or of the host, or one of the
task's own output streams, which then carries the bytes after what was printed to it. -/
def writeFile (path : String) (bytes : Array UInt8) : TaskM (Except IoFailure Unit) := do
  let w ← get
  match w.workspace.create path with
  | .error e => pure (.error e)
  | .ok (ws, .device (.stream .output)) =>
    set { w with workspace := ws, stdout := w.stdout ++ ByteArray.mk bytes }
    pure (.ok ())
  | .ok (ws, .device (.stream .error)) =>
    set { w with workspace := ws, stderr := w.stderr ++ ByteArray.mk bytes }
    pure (.ok ())
  | .ok (ws, o) =>
    match ws.put o bytes with
    | .error e => pure (.error e)
    | .ok ws =>
      set { w with workspace := ws }
      pure (.ok ())

def echoOutput (r : ToolResult) : TaskM Unit := do
  print r.stdout
  eprint r.stderr

def TestTotals.merge (a b : TestTotals) : TestTotals :=
  { passed := saturatingAdd a.passed b.passed, failed := saturatingAdd a.failed b.failed }

section Check

def silentImage : String := "target/xtask/silence.img"

def silentImageDir : String := "target/xtask"

/-- Every build configuration: the firmware, the portable crates without the standard library,
the host tests, then lints and formatting, which only warn. -/
def checkSteps : List Step :=
  [ { label := "Firmware (STM32H743, hardware)"
      args := ["check", "-p", firmwarePackage, "--target", firmwareTarget, "--features",
        "hardware", "--bins"]
      onFailure := .abort },
    { label := "platform + playback (no_std)"
      args := ["check", "-p", "platform", "-p", "playback", "--target", firmwareTarget]
      onFailure := .abort },
    { label := "Host tests (simulated card)"
      args := ["check", "--workspace", "--tests"]
      onFailure := .abort },
    { label := "Clippy"
      args := ["clippy", "--workspace", "--all-targets", "--", "-D", "warnings"]
      onFailure := .warn },
    { label := "Formatting"
      args := ["fmt", "--all", "--check"]
      onFailure := .warn } ]

def countWarnings (tools : Toolbox) : List Step → TaskM Nat
  | [] => pure 0
  | s :: rest => do
    let (ok, _) ← runStep tools s
    let n ← countWarnings tools rest
    pure (if ok then n else n + 1)

/-- Check every configuration and pack a silent card image. -/
def check (tools : Toolbox) : TaskM Unit := do
  say ""
  say "🔍 Checking pinball audio slave..."
  say ""
  let start ← now
  let warnings ← countWarnings tools checkSteps
  say "  Packing silent card image..."
  liftIo (← tryWorkspace (·.createDirAll silentImageDir))
  liftIo (← writeFile silentImage (Image.pack #[]))
  say ("  ✓ " ++ silentImage)
  say ""
  say ("✓ Checks completed in " ++ secondsText ((← now) - start) ++ "s (" ++ toString warnings ++
    " warning step(s))")
  say ""

end Check

section Test

/-- A test tier: the unit tests of every crate, the pipeline of simulated card, driver,
producer and consumer, the property suites, and the documentation examples. -/
inductive Tier where
  | unit
  | pipeline
  | property
  | doc
  deriving DecidableEq, Repr

def tierSteps : List (Tier × Step) :=
  [ (.unit, { label := "Unit tests", args := ["test", "--workspace", "--lib", "--bins"]
              onFailure := .abort }),
    (.pipeline, { label := "Pipeline integration"
                  args := ["test", "-p", firmwarePackage, "--test", "integration_pipeline"]
                  onFailure := .abort }),
    (.property, { label := "Address and divider properties"
                  args := ["test", "-p", "platform", "--test", "storage_proptest"]
                  onFailure := .abort }),
    (.property, { label := "Partial-read properties"
                  args := ["test", "-p", firmwarePackage, "--test", "partial_read_proptest"]
                  onFailure := .abort }),
    (.doc, { label := "Doc tests", args := ["test", "--workspace", "--doc"]
             onFailure := .warn }) ]

def selectedSteps (only : Option Tier) : List Step :=
  (tierSteps.filter fun ts => only.all (· = ts.1)).map (·.2)

def sumTotals (tools : Toolbox) : List Step → TaskM TestTotals
  | [] => pure {}
  | s :: rest => do
    let (_, t) ← runStep tools s
    let u ← sumTotals tools rest
    pure (t.merge u)

/-- Run the test tier `only`, or every tier. -/
def test (tools : Toolbox) (only : Option Tier) : TaskM Unit := do
  say ""
  say "🧪 Running tests..."
  say ""
  let start ← now
  let totals ← sumTotals tools (selectedSteps only)
  say ""
  say ("✓ " ++ totals.display ++ " in " ++ secondsText ((← now) - start) ++ "s")
  say ""

end Test

section Flash

def chip : String := "STM32H743ZITx"

def sizeTool : String := "rust-size"

def probeTool : String := "probe-rs"

def debugBuild : List String :=
  ["build", "-p", firmwarePackage, "--target", firmwareTarget, "--features", "hardware", "--bin",
    "firmware"]

def releaseBuild : List String := debugBuild ++ ["--release"]

def elfPath (release : Bool) : String :=
  "target/" ++ firmwareTarget ++ "/" ++ (if release then "release" else "debug") ++ "/firmware"

def showSections (tools : Toolbox) (elf : String) : TaskM Unit := do
  match ← startTool tools sizeTool [elf] with
  | some r =>
    if r.code = 0 then
      say "📊 Image size:"
      for line in textLines r.stdout do
        say ("   " ++ line)
    else say "   rust-size not found; skipping size report (cargo install cargo-binutils)"
  | none => say "   rust-size not found; skipping size report (cargo install cargo-binutils)"

/-- Build the firmware and run it on the board. -/
def flash (tools : Toolbox) (release : Bool) : TaskM Unit := do
  say ""
  say "🔨 Building pinball audio slave..."
  say ""
  let _ ← runStep tools
    { label := if release then "Release build" else "Debug build"
      args := if release then releaseBuild else debugBuild
      onFailure := .abort }
  let elf := elfPath release
  showSections tools elf
  say ""
  say ("📡 Flashing " ++ elf ++ " to " ++ chip ++ "...")
  say "   The board waits 5 s for the master, then sends 'A'. Ctrl-C detaches."
  match ← startTool tools probeTool ["run", "--chip", chip, elf] with
  | none => throw ⟨["Failed to run probe-rs. Is probe-rs installed? (cargo install probe-rs-tools)",
      IoFailure.notFound.message]⟩
  | some r =>
    echoOutput r
    if r.code ≠ 0 then
      throw (.plain ("probe-rs exited with exit status: " ++ toString r.code ++
        ": check the probe and board power"))

end Flash

section PackAudio

/-- Lay the PCM file `input` into a card image written to `output`. -/
def packAudio (input output : String) : TaskM Unit := do
  let pcm ← match (← get).workspace.read input with
    | .ok bytes => pure bytes
    | .error e => failWith ("Failed to read " ++ input) e
  if pcm.size > Image.playableSamples then
    say ("⚠ Input has " ++ toString pcm.size ++ " samples; only the first " ++
      toString Image.playableSamples ++ " are played")
  let image := Image.pack pcm
  match ← writeFile output image with
  | .error e => failWith ("Failed to write " ++ output) e
  | .ok () => pure ()
  say ("✓ Wrote " ++ output ++ " (" ++ toString image.size ++ " bytes, " ++
    toString Board.totalMusicBlocks ++ " blocks of audio at block " ++
    toString Board.musicStartBlock ++ ")")

end PackAudio

end PinballAudio.Tooling
