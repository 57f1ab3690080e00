import PinballAudio.Bench.StreamSuite
import PinballAudio.Tooling.Workspace

/-!
# Running named checks from a command line

A suite of named checks is run the way a test harness runs its tests: a command line chooses
which checks run and how, the selected checks run, and a summary line reports how many passed
and failed. The command line is read in two steps.

First the words are split into options and free words. A word that starts with `-` and has more
after it is an option: `--name` or `--name=value` for a long one (a one-letter name counts as
the short option of that letter), `-abc` for a cluster of short ones, where an option that
takes a value takes the rest of the cluster or, when nothing follows it there, the next word
whatever it looks like. The word `--` ends the options. An unknown option, a value given to a
flag, a missing value and an option given twice (only `--skip` may repeat) are refused.

Then the options are checked and turned into a plan. The settings reserved for experimental
toolchains (`-Z` and what only it unlocks) are refused, as are contradicting or malformed
settings. The free words are filters: a check runs when its path contains one of them, or,
with `--exact`, equals one. `--skip` filters remove checks the same way. `--help` prints the
usage and `--list` the checks, and neither runs any.

A run or a listing with `--logfile` first opens the log in the runner's directory, and writes a
line to it for each check it reports; a log that cannot be opened or written ends the run.
A refused command line exits with status 101, and so does a failed log or a run in which a check
failed.
-/

namespace PinballAudio.Bench.TestRunner

open PinballAudio.Tooling

/-- An option of the command line. -/
structure RunnerOption where
  long : String
  short : Option Char := none
  takesValue : Bool := false
  repeatable : Bool := false
  deriving DecidableEq, Repr

def RunnerOption.key (o : RunnerOption) : String :=
  if o.long.isEmpty then (o.short.map Char.toString).getD "" else o.long

def options : List RunnerOption :=
  [{ long := "include-ignored" }, { long := "ignored" }, { long := "force-run-in-process" },
   { long := "exclude-should-panic" }, { long := "test" }, { long := "bench" },
   { long := "list" }, { long := "help", short := some 'h' },
   { long := "logfile", takesValue := true }, { long := "no-capture" }, { long := "nocapture" },
   { long := "test-threads", takesValue := true },
   { long := "skip", takesValue := true, repeatable := true },
   { long := "quiet", short := some 'q' }, { long := "exact" },
   { long := "color", takesValue := true }, { long := "format", takesValue := true },
   { long := "show-output" }, { long := "", short := some 'Z', takesValue := true },
   { long := "report-time" }, { long := "ensure-time" }, { long := "shuffle" },
   { long := "shuffle-seed", takesValue := true }]

/-- How an option is named on the command line. -/
inductive OptionName where
  | long (name : String)
  | short (letter : Char)
  deriving DecidableEq, Repr

def OptionName.text : OptionName → String
  | .long name => name
  | .short letter => letter.toString

def OptionName.ofLong (name : String) : OptionName :=
  match name.toList with
  | [c] => .short c
  | _ => .long name

def find? (n : OptionName) : Option RunnerOption :=
  options.find? fun o =>
    match n with
    | .long name => !o.long.isEmpty && o.long == name
    | .short letter => o.short == some letter

/-- Why a command line could not be split into options and free words. -/
inductive Failure where
  | unrecognized (name : OptionName)
  | argumentMissing (name : OptionName)
  | duplicated (key : String)
  | unexpectedArgument (name : OptionName)
  deriving DecidableEq, Repr

def Failure.message : Failure → String
  | .unrecognized n => "Unrecognized option: '" ++ n.text ++ "'"
  | .argumentMissing n => "Argument to option '" ++ n.text ++ "' missing"
  | .duplicated k => "Option '" ++ k ++ "' given more than once"
  | .unexpectedArgument n => "Option '" ++ n.text ++ "' does not take an argument"

/-- A command line split into the options given, by key and in order, with their values, and the
free words. -/
structure Matches where
  given : List (String × Option String) := []
  free : List String := []
  deriving DecidableEq, Repr

def Matches.present (m : Matches) (key : String) : Bool := m.given.any (·.1 == key)

def Matches.values (m : Matches) (key : String) : List String :=
  m.given.filterMap fun g => if g.1 == key then g.2 else none

def Matches.value? (m : Matches) (key : String) : Option String := (m.values key).head?

def isOptionWord (w : String) : Bool := w.startsWith "-" && w.length > 1

/-- The names of a cluster of short options, and the value written after the first of them that
takes one. An unknown letter ends the scan with a failure. -/
def clusterNames : List Char → Except Failure (List OptionName × Option String)
  | [] => .ok ([], none)
  | c :: rest =>
    match find? (.short c) with
    | none => .error (.unrecognized (.short c))
    | some o =>
      if o.takesValue && !rest.isEmpty then .ok ([.short c], some (String.ofList rest))
      else
        match clusterNames rest with
        | .error e => .error e
        | .ok (names, v) => .ok (.short c :: names, v)

def namesOf (w : String) : Except Failure (List OptionName × Option String) :=
  if w.startsWith "--" then
    let tail := w.drop 2
    match tail.toString.splitOn "=" with
    | [] => .ok ([.ofLong ""], none)
    | [name] => .ok ([.ofLong name], none)
    | name :: rest => .ok ([.ofLong name], some ("=".intercalate rest))
  else clusterNames (w.drop 1).toString.toList

/-- Record the names of one option word, the last of which may take the next word as its
value. Returns the options recorded and whether the next word was taken. -/
def recordNames (next : Option String) :
    List OptionName → Option String → Except Failure (List (String × Option String) × Bool)
  | [], _ => .ok ([], false)
  | [n], inline =>
    match find? n with
    | none => .error (.unrecognized n)
    | some o =>
      if !o.takesValue then
        if inline.isSome then .error (.unexpectedArgument n) else .ok ([(o.key, none)], false)
      else match inline, next with
        | some v, _ => .ok ([(o.key, some v)], false)
        | none, some v => .ok ([(o.key, some v)], true)
        | none, none => .error (.argumentMissing n)
  | n :: more, inline =>
    match find? n with
    | none => .error (.unrecognized n)
    | some o =>
      match recordNames next more inline with
      | .error e => .error e
      | .ok (rest, took) => .ok ((o.key, none) :: rest, took)

/-- Split the words of a command line into options and free words. -/
def split : List String → Except Failure Matches
  | [] => .ok {}
  | w :: rest =>
    if !isOptionWord w then
      match split rest with
      | .error e => .error e
      | .ok m => .ok { m with free := w :: m.free }
    else if w = "--" then .ok { free := rest }
    else
      match namesOf w with
      | .error e => .error e
      | .ok (names, inline) =>
        match recordNames rest.head? names inline with
        | .error e => .error e
        | .ok (given, took) =>
          match (if took then split rest.tail else split rest) with
          | .error e => .error e
          | .ok m => .ok { m with given := given ++ m.given }
termination_by ws => ws.length
decreasing_by all_goals (simp only [List.length_tail, List.length_cons]; omega)

/-- Split a command line and refuse an option given more than once. -/
def parse (words : List String) : Except Failure Matches :=
  match split words with
  | .error e => .error e
  | .ok m =>
    match options.find? fun o => !o.repeatable && (m.given.filter (·.1 == o.key)).length > 1 with
    | some o => .error (.duplicated o.key)
    | none => .ok m

/-- Which checks marked as ignored run. -/
inductive IgnoredMode where
  | skipIgnored
  | includeIgnored
  | onlyIgnored
  deriving DecidableEq, Repr

/-- What a valid command line asks for. -/
structure Plan where
  filters : List String
  skip : List String
  exact : Bool
  runChecks : Bool
  ignored : IgnoredMode
  list : Bool
  logfile : Option String
  deriving DecidableEq, Repr

def stableFlag (m : Matches) (key : String) : Except String Unit :=
  if m.present key then
    .error ("The \"" ++ key ++ "\" flag is only accepted on the nightly compiler with -Z unstable-options")
  else .ok ()

/-- Whether a text is a count the harness reads: an optional `+` and decimal digits that fit in
a machine word. -/
def parseCount (s : String) : Option Nat :=
  let digits := if s.startsWith "+" then (s.drop 1).toString else s
  if !digits.isEmpty && digits.all Char.isDigit && digits.toNat! < UInt64.size then some digits.toNat!
  else none

/-- Check the options and build the plan. -/
def plan (m : Matches) : Except String Plan := do
  if m.present "Z" then throw "the option \x60Z\x60 is only accepted on the nightly compiler"
  for key in ["force-run-in-process", "exclude-should-panic", "report-time", "ensure-time",
      "shuffle"] do
    stableFlag m key
  if m.present "shuffle-seed" then
    throw "The \"shuffle-seed\" option is only accepted on the nightly compiler with -Z unstable-options"
  let ignored ← match m.present "include-ignored", m.present "ignored" with
    | true, true => throw "the options --include-ignored and --ignored are mutually exclusive"
    | true, false => pure IgnoredMode.includeIgnored
    | false, true => pure .onlyIgnored
    | false, false => pure .skipIgnored
  match m.value? "test-threads" with
  | none => pure ()
  | some n =>
    match parseCount n with
    | some 0 => throw "argument for --test-threads must not be 0"
    | some _ => pure ()
    | none => throw "argument for --test-threads must be a number > 0"
  match m.value? "color" with
  | none => pure ()
  | some c =>
    unless c = "auto" ∨ c = "always" ∨ c = "never" do
      throw ("argument for --color must be auto, always, or never (was " ++ c ++ ")")
  match m.value? "format" with
  | none => pure ()
  | some f =>
    if f = "json" ∨ f = "junit" then
      throw ("The \"" ++ f ++ "\" format is only accepted on the nightly compiler with -Z unstable-options")
    else unless f = "pretty" ∨ f = "terse" do
      throw ("argument for --format must be pretty, terse, json or junit (was " ++ f ++ ")")
  pure { filters := m.free, skip := m.values "skip", exact := m.present "exact",
         runChecks := !m.present "bench" || m.present "test", ignored, list := m.present "list",
         logfile := m.value? "logfile" }

def Plan.picks (p : Plan) (path filter : String) : Bool :=
  if p.exact then path == filter
  else @decide (filter.toList <:+: path.toList) (List.instDecidableIsInfixOfDecidableEq _ _)

/-- The checks a plan selects: those a filter picks (all when there is none) that no skip filter
picks. None of the suite's checks is marked as ignored, so asking for only those selects none. -/
def Plan.select (p : Plan) (suite : List (String × Bool)) : List (String × Bool) :=
  suite.filter fun (path, _) =>
    (p.filters.isEmpty || p.filters.any (p.picks path)) && !p.skip.any (p.picks path) &&
      p.ignored != .onlyIgnored

/-- How a check ended in a run. -/
inductive Verdict where
  | passed
  | failed
  | ignored
  deriving DecidableEq, Repr

def Verdict.word : Verdict → String
  | .passed => "ok"
  | .failed => "failed"
  | .ignored => "ignored"

/-- What a command line leads to, with the exit status. -/
inductive Outcome where
  | usage
  | refused (message : String)
  | logFailed (failure : IoFailure)
  | listed (paths : List String)
  | ran (results : List (String × Verdict)) (filteredOut : Nat)
  deriving DecidableEq, Repr

def Outcome.logLines : Outcome → List String
  | .listed paths => paths.map fun path => "test " ++ path ++ "\n"
  | .ran results _ => results.map fun (path, v) => v.word ++ " " ++ path ++ "\n"
  | _ => []

def writeLog (dir : Workspace) (path : String) (lines : List String) : Except IoFailure Unit :=
  match dir.create path with
  | .error e => .error e
  | .ok (w, o) =>
    match lines.foldlM (fun w line => w.put o line.toUTF8.data) w with
    | .error e => .error e
    | .ok _ => .ok ()

/-- Read a command line and run the checks of `suite` it selects, with `dir` as the runner's
directory. -/
def run (dir : Workspace) (suite : List (String × Bool)) (words : List String) : Outcome :=
  match parse words with
  | .error f => .refused f.message
  | .ok m =>
    if m.present "help" then .usage
    else match plan m with
      | .error msg => .refused msg
      | .ok p =>
        let selected := p.select suite
        let filteredOut := suite.length - selected.length
        let outcome :=
          if p.list then .listed (selected.map (·.1))
          else if p.runChecks then
            .ran (selected.map fun (path, ok) => (path, if ok then .passed else .failed)) filteredOut
          else .ran (selected.map fun (path, _) => (path, .ignored)) filteredOut
        match p.logfile with
        | none => outcome
        | some path =>
          match writeLog dir path outcome.logLines with
          | .error e => .logFailed e
          | .ok () => outcome

/-- The exit status of an outcome: 101 for a refused command line, a failed log or a failed
check. -/
def Outcome.exitCode : Outcome → Nat
  | .refused _ => 101
  | .logFailed _ => 101
  | .ran results _ => if results.any (·.2 == .failed) then 101 else 0
  | _ => 0

def Outcome.summary : Outcome → Option String
  | .ran results filteredOut =>
    let count (v : Verdict) := (results.filter (·.2 == v)).length
    let failed := count .failed
    some ("test result: " ++ (if failed = 0 then "ok" else "FAILED") ++ ". " ++
      toString (count .passed) ++ " passed; " ++ toString failed ++ " failed; " ++
      toString (count .ignored) ++ " ignored; 0 measured; " ++ toString filteredOut ++
      " filtered out; finished in 0.00s")
  | _ => none

/-- The command line that runs, one at a time, the checks `filter` selects: by exact path, or by
every path that contains it. -/
def commandLine (filter : String) (exact : Bool) : List String :=
  [filter] ++ (if exact then ["--exact"] else []) ++ ["--test-threads=1"]

def runStreamSuite (filter : String) (exact : Bool) : Outcome :=
  run {} StreamSuite.checks (commandLine filter exact)

end PinballAudio.Bench.TestRunner
