import PinballAudio.Tooling.Cli.Help
import PinballAudio.Tooling.Similarity

/-!
# Parsing a command line

Arguments are read left to right. `--name` and `--name=value` give a long option, `-abc` gives
short options in a row (an option taking a value takes the rest of the group), `--` makes every
later argument an operand, and at the top level a subcommand name hands the remaining arguments
to that subcommand. An option that takes a value without an attached one waits for the next
argument; it is acted on when the next option is read or the arguments end: refused if no value
came, then refused if it was given before, then its value checked. Help and version options stop parsing at once.

Unknown names are refused, with a tip when a known name is close enough: a similar option of
this command, or of a subcommand named later on the line, or a similar subcommand. When the
arguments end, required options never given are refused; at the top level, no subcommand brings up the help page on standard error.
-/

namespace PinballAudio.Tooling.Cli

/-- How parsing stops early. -/
inductive Stop where
  | show (text : String)
  | refuse (text : String)
  deriving DecidableEq, Repr

/-- The parser between two arguments. -/
structure ParseState where
  present : List (String × List String) := []
  pending : Option (OptionSpec × List String) := none
  awaiting : Option OptionSpec := none
  trailing : Bool := false
  deriving Repr

/-- How a level's arguments end: all read, or a subcommand with the arguments after it. -/
inductive LevelEnd where
  | finished (st : ParseState)
  | enter (sc : CommandSpec) (rest : List String) (st : ParseState)

/-- A step of the parser: the state it leaves, and the stop it reached, if any. -/
abbrev Outcome := ParseState × Option Stop

namespace Level

def refuse (l : Level) (e : UsageError) : Stop := .refuse (e.render l)

def given (st : ParseState) (id : String) : Bool := st.present.any (·.1 == id)

def valuesOf (st : ParseState) (id : String) : List String :=
  ((st.present.find? (·.1 == id)).map (·.2)).getD []

def similarTip (what : String) : List String → Option String
  | [] => none
  | [c] => some ("a similar " ++ what ++ " exists: '" ++ c ++ "'")
  | cs => some ("some similar " ++ what ++ "s exist: " ++ ", ".intercalate (cs.map fun c => "'" ++ c ++ "'"))

/-- Check one value of option `o`: a possible value, or at least not empty. -/
def checkValue (l : Level) (o : OptionSpec) (v : String) : Option Stop :=
  let names := o.choices.map (·.name)
  let listed := if names.isEmpty then "" else "\n  " ++ possibleValuesText o
  if !names.isEmpty && names.contains v then none
  else if v.isEmpty then
    some (l.refuse { message := "a value is required for '" ++ o.display ++ "' but none was supplied" ++ listed })
  else if names.isEmpty then none
  else
    some (l.refuse { message := "invalid value '" ++ v ++ "' for '" ++ o.display ++ "'" ++ listed
                     tip := (bestCandidate v names).map fun c => "a similar value exists: '" ++ c ++ "'" })

def addValues (l : Level) (o : OptionSpec) : ParseState → List String → Outcome
  | st, [] => (st, none)
  | st, v :: vs =>
    match l.checkValue o v with
    | some stop => (st, some stop)
    | none =>
      l.addValues o { st with present := st.present.map fun e => if e.1 == o.id then (e.1, e.2 ++ [v]) else e } vs

def record (l : Level) (st : ParseState) (o : OptionSpec) : ParseState :=
  let st := if given st o.id then st else { st with present := st.present ++ [(o.id, [])] }
  match l.spec.groupOf o with
  | some g => if given st g then st else { st with present := st.present ++ [(g, [])] }
  | none => st

def emptyValue (l : Level) (o : OptionSpec) : Stop :=
  l.refuse { message := "a value is required for '" ++ o.display ++ "' but none was supplied" ++
    (if o.choices.isEmpty then "" else "\n  " ++ possibleValuesText o) }

/-- Act on option `o` with `values`; `byLong` tells whether it was named in long form. An option
that takes a value and got none is refused before anything else. -/
def apply (l : Level) (st : ParseState) (o : OptionSpec) (values : List String) (byLong : Bool) : Outcome :=
  match o.action with
  | .help => (st, some (.show (l.helpPage byLong)))
  | .version => (st, some (.show l.versionText))
  | .flag | .value =>
    if o.action == .value && values.isEmpty then (st, some (l.emptyValue o))
    else if given st o.id then
      ({ st with present := st.present.filter (·.1 != o.id) },
        some (l.refuse { message := "the argument '" ++ o.display ++ "' cannot be used multiple times"
                         usage := some l.usage }))
    else
      let values := if o.action == .flag && values.isEmpty then ["true"] else values
      l.addValues o (l.record st o) values

def resolvePending (l : Level) (st : ParseState) : Outcome :=
  match st.pending with
  | none => (st, none)
  | some (o, vs) => l.apply { st with pending := none } o vs true

def react (l : Level) (st : ParseState) (o : OptionSpec) (values : List String) (byLong : Bool) : Outcome :=
  match l.resolvePending st with
  | (st, some stop) => (st, some stop)
  | (st, none) => l.apply st o values byLong

def strict : Outcome → Except Stop ParseState
  | (st, none) => .ok st
  | (_, some stop) => .error stop

def takeValue (l : Level) (st : ParseState) (o : OptionSpec) (attached : Option String) (byLong : Bool) :
    Except Stop ParseState :=
  match attached with
  | some v => do
    let st ← strict (l.react st o [v] byLong)
    pure { st with awaiting := none }
  | none => do
    let st ← strict (l.resolvePending st)
    pure { st with pending := some (o, []), awaiting := some o }

def pushValue (st : ParseState) (o : OptionSpec) (v : String) : ParseState :=
  let vs := match st.pending with
    | some (p, vs) => if p.id == o.id then vs else []
    | none => []
  { st with pending := some (o, vs ++ [v]), awaiting := none }

def noteSuggested (l : Level) (st : ParseState) (long : String) : ParseState :=
  match l.spec.findLong long with
  | some o => if given st o.id then st else { st with present := st.present ++ [(o.id, [])] }
  | none => st

def earliest (l : List (Nat × String × String)) : Option (String × String) :=
  (l.foldl (fun best e => match best with
    | none => some e
    | some b => if e.1 < b.1 then some e else some b) none).map (·.2)

def suggestLong (l : Level) (name : String) (rest : List String) : Option (String × Option String) :=
  match bestCandidate name l.spec.longs with
  | some c => some (c, none)
  | none =>
    let found := l.subcommands.filterMap fun sc => do
      let c ← bestCandidate name sc.longs
      let pos ← rest.findIdx? (· == sc.name)
      pure (pos, c, sc.name)
    (earliest found).map fun (c, n) => (c, some n)

def unknownLong (l : Level) (st : ParseState) (name : String) (rest : List String) : Stop :=
  let st := (l.resolvePending st).1
  let suggestion := l.suggestLong name rest
  let st := match suggestion with
    | some (c, none) => l.noteSuggested st c
    | _ => st
  let tip := suggestion.map fun
    | (c, none) => "a similar argument exists: '--" ++ c ++ "'"
    | (c, some sc) => "'" ++ sc ++ " --" ++ c ++ "' exists"
  l.refuse { message := "unexpected argument '--" ++ name ++ "' found", tip
             usage := some (l.usageWith ((st.present.map (·.1)).filter (l.spec.findId · |>.isSome))) }

def unneededValue (l : Level) (st : ParseState) (o : OptionSpec) (v : String) : Stop :=
  let used := (st.present.map (·.1)).filter fun id => !((l.spec.findId id).map (·.required)).getD false
  l.refuse { message := "unexpected value '" ++ v ++ "' for '" ++ o.display ++ "' found; no more were expected"
             usage := some (l.usageWith (used ++ [o.id])) }

def unexpectedOperand (l : Level) (st : ParseState) (arg : String) : Stop :=
  if st.trailing && l.subcommandNames.contains arg then
    l.refuse { message := "unexpected argument '" ++ arg ++ "' found"
               tip := some ("subcommand '" ++ arg ++ "' exists; to use it, remove the '--' before it")
               usage := some l.usage }
  else if l.subcommands.isEmpty then
    l.refuse { message := "unexpected argument '" ++ arg ++ "' found", usage := some l.usage }
  else
    l.refuse { message := "unrecognized subcommand '" ++ arg ++ "'"
               tip := similarTip "subcommand" (closeCandidates arg l.subcommandNames)
               usage := some l.usage }

/-- Read a group of short options. -/
def shortFlags (l : Level) (st : ParseState) : List Char → Except Stop ParseState
  | [] => .ok { st with awaiting := none }
  | c :: cs =>
    match l.spec.findShort c with
    | some o =>
      if o.takesValue then
        let rest := String.ofList cs
        let attached := if rest.isEmpty then none
          else some (if rest.startsWith "=" then (rest.drop 1).toString else rest)
        l.takeValue st o attached false
      else do
        let st ← strict (l.react st o [] false)
        l.shortFlags { st with awaiting := none } cs
    | none =>
      .error (l.refuse { message := "unexpected argument '-" ++ c.toString ++ "' found", usage := some l.usage })

def helpFor (l : Level) : List String → Stop
  | [] => .show (l.helpPage true)
  | n :: ns =>
    match l.subcommands.find? (·.name == n) with
    | some sc => (l.child sc).helpFor ns
    | none => l.refuse { message := "unrecognized subcommand '" ++ n ++ "'", usage := some l.usage }

def splitAttached (body : String) : String × Option String :=
  match body.splitOn "=" with
  | [] => (body, none)
  | [name] => (name, none)
  | name :: rest => (name, some ("=".intercalate rest))

/-- Read the arguments of one level. -/
def parseArgs (l : Level) : ParseState → List String → Except Stop LevelEnd
  | st, [] => .ok (.finished st)
  | st, arg :: rest =>
    if st.trailing then .error (l.unexpectedOperand st arg)
    else
      match (if st.awaiting.isNone then l.subcommands.find? (·.name == arg) else none) with
      | some sc =>
        if sc.name == helpCommand.name then .error (l.helpFor rest) else .ok (.enter sc rest st)
      | none =>
        if arg == "--" then l.parseArgs { st with trailing := true } rest
        else if arg.startsWith "--" then
          let (name, attached) := splitAttached (arg.drop 2).toString
          match l.spec.findLong name with
          | some o =>
            if o.takesValue then do
              let st ← l.takeValue st o attached true
              l.parseArgs st rest
            else match attached with
              | some v => .error (l.unneededValue st o v)
              | none => do
                let st ← strict (l.react st o [] true)
                l.parseArgs { st with awaiting := none } rest
          | none => .error (l.unknownLong st name rest)
        else if arg.startsWith "-" && arg != "-" then do
          let st ← l.shortFlags st (arg.drop 1).toString.toList
          l.parseArgs st rest
        else match st.awaiting with
          | some o => l.parseArgs (pushValue st o arg) rest
          | none => .error (l.unexpectedOperand st arg)

/-- Check a level whose arguments are all read: the options given, with their values. -/
def finish (l : Level) (st : ParseState) : Except Stop (List (String × List String)) := do
  let st ← strict (l.resolvePending st)
  let missing := l.spec.options.filter fun o => o.required && !given st o.id
  if !missing.isEmpty then
    throw (l.refuse { message := "the following required arguments were not provided:" ++
                        String.join (missing.map ("\n  " ++ ·.display))
                      usage := some (l.usageWith ((st.present.map (·.1)).filter (l.spec.findId · |>.isSome) ++
                        missing.map (·.id))) })
  pure st.present

end Level

/-- Parse a program's arguments: the subcommand chosen and the options given to it. Without a
subcommand the top level's help page goes to standard error. -/
def parseProgram (top : Level) (args : List String) :
    Except Stop (CommandSpec × List (String × List String)) := do
  match ← top.parseArgs {} args with
  | .finished st => do
    let _ ← top.finish st
    throw (.refuse (top.helpPage false))
  | .enter sc rest _ =>
    let sub := top.child sc
    match ← sub.parseArgs {} rest with
    | .finished st => pure (sc, ← sub.finish st)
    | .enter _ _ st => pure (sc, ← sub.finish st)

end PinballAudio.Tooling.Cli
