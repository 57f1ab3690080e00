import PinballAudio.Tooling.Cli.Spec

/-!
# Help, usage and usage errors

The help page of a command is its summary, its usage line, then its sections: subcommands,
operands and options, each a column of names padded two spaces past the widest, then the help.
The long form puts each option's help on the next line, indented ten columns, with the possible
values listed one to a line, and a blank line between options.

The usage line names the command, `[OPTIONS]` when it has optional options, its required options
with their value placeholders, its operands and `<COMMAND>` when a subcommand is expected. After
a usage error the usage line instead lists the options the error concerns, after the required
ones, and the command's group of options once one of them was given. A usage error reads `error: ` and the message, then perhaps a tip, the usage line, and a
pointer to `--help`.
-/

namespace PinballAudio.Tooling.Cli

def spaces (n : Nat) : String := String.ofList (List.replicate n ' ')

def trimRight (s : String) : String :=
  String.ofList (s.toList.reverse.dropWhile Char.isWhitespace).reverse

def firstOccurrences (l : List String) : List String :=
  l.foldl (fun acc s => if acc.contains s then acc else acc ++ [s]) []

def possibleValuesText (o : OptionSpec) : String :=
  "[possible values: " ++ ", ".intercalate (o.choices.map (·.name)) ++ "]"

namespace Level

def operandsText (l : Level) : Option String := l.spec.operands.map fun (n, _) => "[" ++ n ++ "]..."

def needsOptionsTag (l : Level) : Bool :=
  l.spec.options.any fun o => (o.action == .flag || o.action == .value) && !o.required

/-- The usage line of a help page. -/
def usage (l : Level) : String :=
  l.binName ++ (if l.needsOptionsTag then " [OPTIONS]" else "") ++
    String.join ((l.spec.options.filter (·.required)).map (" " ++ ·.display)) ++
    (match l.operandsText with | some t => " " ++ t | none => "") ++
    (if l.subcommands.isEmpty then "" else " <COMMAND>")

def groupText (l : Level) : String :=
  "<" ++ "|".intercalate (l.spec.ownOptions.map (·.display)) ++ ">"

/-- The usage line after an error concerning `used`, identifiers of options or of the command's
group: the required options and those used, each once, then the group if it was used, in which
case its members are not listed on their own. -/
def usageWith (l : Level) (used : List String) : String :=
  if used.isEmpty then l.usage
  else
    let ids := (l.spec.options.filter (·.required)).map (·.id) ++ used
    let grouped := l.spec.group.isSome && ids.contains (l.spec.group.getD "")
    let shown := firstOccurrences (ids.filterMap fun id => (l.spec.findId id).bind fun o =>
      if grouped && (l.spec.groupOf o).isSome then none else some o.display)
    l.binName ++ String.join (shown.map (" " ++ ·)) ++ (if grouped then " " ++ l.groupText else "") ++
      (if l.subcommands.isEmpty then "" else " <COMMAND>")

def commandsSection (l : Level) : String :=
  let longest := l.subcommands.foldl (fun m c => max m c.name.length) 2
  "Commands:\n" ++ "\n".intercalate (l.subcommands.map fun c =>
    "  " ++ c.name ++ spaces (longest + 2 - c.name.length) ++ c.about)

def operandsSection (name help : String) : String :=
  let shown := "[" ++ name ++ "]..."
  "Arguments:\n  " ++ shown ++ "  " ++ help

def optionHead (o : OptionSpec) : String :=
  "  " ++ (match o.short with | some c => "-" ++ c.toString ++ ", " | none => "    ") ++ o.display

def optionLine (longest : Nat) (o : OptionSpec) : String :=
  optionHead o ++ spaces (longest + 2 - (o.display.length + 4)) ++ o.help ++
    (if o.choices.isEmpty then "" else " " ++ possibleValuesText o)

def longIndent : String := spaces 10

def optionBlock (o : OptionSpec) : String :=
  let longest := o.choices.foldl (fun m v => max m v.name.length) 0
  let values :=
    if o.choices.isEmpty then ""
    else if o.choices.any (·.help != "") then
      "\n\n" ++ longIndent ++ "Possible values:" ++ String.join (o.choices.map fun v =>
        "\n" ++ longIndent ++ "- " ++ v.name ++
          (if v.help.isEmpty then "" else ": " ++ spaces (longest - v.name.length) ++ v.help))
    else "\n\n" ++ longIndent ++ possibleValuesText o
  optionHead o ++ "\n" ++ longIndent ++ o.longHelp.getD o.help ++ values

def optionsSection (l : Level) (long : Bool) : String :=
  let longest := l.spec.options.foldl (fun m o => max m (o.display.length + 4)) 2
  "Options:\n" ++
    if long then "\n\n".intercalate (l.spec.options.map optionBlock)
    else "\n".intercalate (l.spec.options.map (optionLine longest))

/-- The help page; `long` asks for the long form, shown when the command has one. -/
def helpPage (l : Level) (long : Bool) : String :=
  let long := long && l.spec.hasLongHelp
  let sections :=
    (if l.subcommands.isEmpty then [] else [l.commandsSection]) ++
    (match l.spec.operands with | some (n, h) => [operandsSection n h] | none => []) ++
    (if l.spec.options.isEmpty then [] else [l.optionsSection long])
  trimRight (l.spec.about ++ "\n\nUsage: " ++ l.usage ++ "\n\n" ++ "\n\n".intercalate sections) ++ "\n"

def versionText (l : Level) : String := l.spec.name ++ " " ++ l.version.getD "" ++ "\n"

end Level

/-- A usage error: its message, maybe a tip, and maybe a usage line. -/
structure UsageError where
  message : String
  tip : Option String := none
  usage : Option String := none
  deriving DecidableEq, Repr

/-- The text of a usage error raised at level `l`. -/
def UsageError.render (l : Level) (e : UsageError) : String :=
  "error: " ++ e.message ++
    (match e.tip with | some t => "\n\n  tip: " ++ t | none => "") ++
    (match e.usage with | some u => "\n\nUsage: " ++ u | none => "") ++
    (if l.spec.hasHelpFlag then "\n\nFor more information, try '--help'.\n" else "\n")

end PinballAudio.Tooling.Cli
