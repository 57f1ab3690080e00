/-!
# Command-line specifications

A command names its options and, for the help command, its operands; the options of a
subcommand's own form a group, which usage lines can show as one alternative. An option has a long name
and maybe a short one; it is a flag, takes one value, or prints help or the version. A value may
be limited to a list of possible values, each with its own help; any other value must not be
empty. The top level of a program also has a version and subcommands, each a command of its own.
-/

namespace PinballAudio.Tooling.Cli

/-- What giving an option does. -/
inductive Action where
  | flag
  | value
  | help
  | version
  deriving DecidableEq, Repr

/-- A possible value of an option, with its help. -/
structure PossibleValue where
  name : String
  help : String := ""
  deriving DecidableEq, Repr

/-- An option of a command. -/
structure OptionSpec where
  id : String
  short : Option Char := none
  long : String
  valueName : String := ""
  help : String
  longHelp : Option String := none
  required : Bool := false
  choices : List PossibleValue := []
  action : Action
  deriving DecidableEq, Repr

namespace OptionSpec

def takesValue (o : OptionSpec) : Bool := o.action == .value

def display (o : OptionSpec) : String :=
  "--" ++ o.long ++ (if o.takesValue then " <" ++ o.valueName ++ ">" else "")

def hasLongHelp (o : OptionSpec) : Bool :=
  o.action != .help && (o.longHelp.isSome || o.choices.any (·.help != ""))

end OptionSpec

/-- A command: its name, what it does, its options, its operands (a value name and help), and
the name of the group its own options form, if they form one. -/
structure CommandSpec where
  name : String
  about : String
  options : List OptionSpec := []
  operands : Option (String × String) := none
  group : Option String := none
  deriving Repr

namespace CommandSpec

def hasLongHelp (c : CommandSpec) : Bool := c.options.any (·.hasLongHelp)

def findLong (c : CommandSpec) (name : String) : Option OptionSpec :=
  c.options.find? (·.long == name)

def findShort (c : CommandSpec) (s : Char) : Option OptionSpec :=
  c.options.find? (·.short == some s)

def findId (c : CommandSpec) (id : String) : Option OptionSpec :=
  c.options.find? (·.id == id)

def longs (c : CommandSpec) : List String := c.options.map (·.long)

/-- The command's own options: those that set a flag or take a value. -/
def ownOptions (c : CommandSpec) : List OptionSpec :=
  c.options.filter fun o => o.action == .flag || o.action == .value

def groupOf (c : CommandSpec) (o : OptionSpec) : Option String :=
  if c.ownOptions.any (·.id == o.id) then c.group else none

def hasHelpFlag (c : CommandSpec) : Bool := c.options.any (·.action == .help)

end CommandSpec

def helpOption (longForm : Bool) : OptionSpec :=
  if longForm then
    { id := "help", short := some 'h', long := "help", action := .help
      help := "Print help (see more with '--help')"
      longHelp := some "Print help (see a summary with '-h')" }
  else { id := "help", short := some 'h', long := "help", help := "Print help", action := .help }

def versionOption : OptionSpec :=
  { id := "version", short := some 'V', long := "version", help := "Print version", action := .version }

def helpCommand : CommandSpec :=
  { name := "help", about := "Print this message or the help of the given subcommand(s)"
    operands := some ("COMMAND", "Print help for the subcommand(s)") }

/-- Where parsing happens: a command, the name it is called by, and its subcommands. -/
structure Level where
  spec : CommandSpec
  binName : String
  version : Option String := none
  subcommands : List CommandSpec := []
  deriving Repr

namespace Level

def child (l : Level) (sc : CommandSpec) : Level :=
  { spec := sc, binName := l.binName ++ " " ++ sc.name }

def subcommandNames (l : Level) : List String := l.subcommands.map (·.name)

end Level

end PinballAudio.Tooling.Cli
