import PinballAudio.Tooling.Workspace

/-!
# Running tasks

A task runs in a world of its own: the workspace, the text it wrote to standard output and to
standard error, the external programs it started, in order, and the time that has passed. External programs come from a
toolbox: a program that is not installed cannot be started; an installed one answers with its
output and exit code. A task fails with a chain of messages, outermost first; its one-line
form joins them with `: `, and its report names the first and lists the others as causes.
-/

namespace PinballAudio.Tooling

/-- What an external program did: its output and its exit code. -/
structure ToolResult where
  stdout : String := ""
  stderr : String := ""
  code : Nat := 0
  centis : Nat := 0
  deriving DecidableEq, Repr

/-- The external programs at hand: the result of running a program with arguments, or `none`
when the program is not installed. -/
structure Toolbox where
  run : String → List String → Option ToolResult

/-- A failure with its chain of causes, outermost first. -/
structure TaskError where
  chain : List String
  deriving DecidableEq, Repr

namespace TaskError

def plain (msg : String) : TaskError := ⟨[msg]⟩

def context (msg : String) (e : TaskError) : TaskError := ⟨msg :: e.chain⟩

def oneLine (e : TaskError) : String := ": ".intercalate e.chain

/-- The chain as a report: the failure, then its causes. -/
def report (e : TaskError) : String :=
  match e.chain with
  | [] => ""
  | [m] => m
  | [m, c] => m ++ "\n\nCaused by:\n    " ++ c
  | m :: cs =>
    m ++ "\n\nCaused by:" ++ String.join ((cs.zipIdx.map fun (c, i) =>
      let n := toString i
      "\n" ++ String.ofList (List.replicate (5 - n.length) ' ') ++ n ++ ": " ++ c))

end TaskError

/-- The world a task runs in. Its output streams hold bytes: text, or whatever else a task
writes to them as files. -/
structure TaskWorld where
  workspace : Workspace
  stdout : ByteArray := .empty
  stderr : ByteArray := .empty
  calls : Array (List String) := #[]
  clock : Nat := 0

/-- A computation of a task. -/
abbrev TaskM := EStateM TaskError TaskWorld

/-- The text of a captured output stream: its bytes read as UTF-8, and nothing when they are not
text. -/
def capturedText (bytes : ByteArray) : String := (String.fromUTF8? bytes).getD ""

def print (text : String) : TaskM Unit := modify fun w => { w with stdout := w.stdout ++ text.toUTF8 }

def eprint (text : String) : TaskM Unit := modify fun w => { w with stderr := w.stderr ++ text.toUTF8 }

def say (line : String) : TaskM Unit := print (line ++ "\n")

def warn (line : String) : TaskM Unit := eprint (line ++ "\n")

/-- Start a program; `none` if it is not installed. A started program is logged, and the
clock moves on by the time it ran. -/
def startTool (tools : Toolbox) (program : String) (args : List String) : TaskM (Option ToolResult) := do
  match tools.run program args with
  | none => pure none
  | some r =>
    modify fun w => { w with calls := w.calls.push (program :: args), clock := w.clock + r.centis }
    pure (some r)

def now : TaskM Nat := do pure (← get).clock

def failWith {α : Type} (msg : String) (e : IoFailure) : TaskM α := throw ⟨[msg, e.message]⟩

def liftIo {α : Type} : Except IoFailure α → TaskM α
  | .ok a => pure a
  | .error e => throw (.plain e.message)

/-- The lines of a text: split at line feeds, with a carriage return just before a line feed
dropped; a text ending in a line feed has no empty last line. -/
def textLines (s : String) : List String :=
  go (s.splitOn "\n")
where
  go : List String → List String
  | [] => []
  | [last] => if last.isEmpty then [] else [last]
  | l :: rest => (if l.endsWith "\r" then (l.dropEnd 1).toString else l) :: go rest

def secondsText (centis : Nat) : String :=
  let c := centis % 100
  toString (centis / 100) ++ "." ++ (if c < 10 then "0" else "") ++ toString c

end PinballAudio.Tooling
