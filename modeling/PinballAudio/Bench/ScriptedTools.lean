import PinballAudio.Tooling.Run

/-!
# Scripted programs

A bench stand-in for the external programs. Each installed program has a list of rules; a call
joins its arguments with single spaces and answers with the first rule whose pattern occurs in
that line: the rule's output, error output and exit status, the status taken modulo 256 as an
exit code is. A call that no rule matches prints nothing and succeeds. A program with no entry,
or with no rule list, is not installed.
-/

namespace PinballAudio.Bench

open PinballAudio.Tooling

/-- One scripted answer. -/
structure ToolRule where
  pattern : String := ""
  stdout : String := ""
  stderr : String := ""
  status : Int := 0
  deriving DecidableEq, Repr

/-- Programs and their rules; `none` marks a program that is not installed. -/
structure ToolScript where
  programs : List (String × Option (List ToolRule)) := [("cargo", some [])]
  deriving Repr

def occursIn (pattern line : String) : Bool :=
  go line.toList
where
  go : List Char → Bool
  | [] => pattern.isEmpty
  | c :: cs => pattern.toList.isPrefixOf (c :: cs) || go cs

def ToolRule.result (r : ToolRule) : ToolResult :=
  { stdout := r.stdout, stderr := r.stderr, code := (r.status % 256).toNat }

/-- Answer a call of `program` with `args`. -/
def ToolScript.run (s : ToolScript) (program : String) (args : List String) : Option ToolResult :=
  match s.programs.find? (·.1 == program) with
  | some (_, some rules) =>
    let line := " ".intercalate args
    some ((rules.find? fun r => occursIn r.pattern line).map ToolRule.result |>.getD {})
  | _ => none

def ToolScript.toolbox (s : ToolScript) : Toolbox := ⟨s.run⟩

end PinballAudio.Bench
