import PinballAudio.Tooling.Cli.Program

/-!
# The development command line as a program

The thin outer layer around `runCommandLine`. It reads the files the command line names, runs
the command line over them, writes the files the task produced, and prints what it wrote to
standard output and standard error. External programs cannot be started from here, so the tasks
that need one report it missing.
-/

open PinballAudio.Tooling PinballAudio.Tooling.Cli

def noTools : Toolbox := ⟨fun _ _ => none⟩

/-- The files a command line reads and the files it may write. -/
def namedFiles (args : List String) : List String × List String :=
  match parseProgram xtaskLevel args >>= fun (sc, given) => invocationOf sc given with
  | .ok (.packAudio input output) => ([input], [output])
  | _ => ([], [])

def parentDirs (path : String) : List (List String) :=
  let p := pathComponents path
  (List.range p.length).map fun n => p.take n

def loadFile (path : String) : IO (List (String × Array UInt8)) := do
  try
    let bytes ← IO.FS.readBinFile path
    pure [(path, bytes.data)]
  catch _ => pure []

def main (args : List String) : IO UInt32 := do
  let (reads, writes) := namedFiles args
  let loaded ← reads.flatMapM loadFile
  let workspace := { Workspace.ofFiles loaded with dirs := writes.flatMap parentDirs }
  let (code, w) := runCommandLine noTools args { workspace }
  let written := w.workspace.listing.filter fun (p, _) => writes.any (pathComponents · == pathComponents p)
  for (p, bytes) in written do
    IO.FS.writeBinFile p ⟨bytes⟩
  (← IO.getStdout).write w.stdout
  (← IO.getStderr).write w.stderr
  pure code.toUInt32
