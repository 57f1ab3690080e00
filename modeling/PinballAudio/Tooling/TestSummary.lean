/-!
# Test-summary lines

A test run prints one summary line per test binary, such as
`test result: ok. 3 passed; 0 failed; 0 ignored; 0 measured; 0 filtered out; finished in 0.01s`.
`TestTotals.ofOutput` sums the passed and failed counts of every such line. Of a line it reads
the text after the first marker (up to a second one, if any), splits it at semicolons, takes the
first part that ends with the label once blanks are trimmed, and reads the last word before the
label as a 32-bit count with an optional plus sign; anything else counts zero. Sums saturate at
the largest 32-bit value. Blanks are the Unicode white-space characters.
-/

namespace PinballAudio.Tooling

def isBlank (c : Char) : Bool :=
  let n := c.toNat
  (0x09 ≤ n ∧ n ≤ 0x0D) ∨ n = 0x20 ∨ n = 0x85 ∨ n = 0xA0 ∨ n = 0x1680 ∨
    (0x2000 ≤ n ∧ n ≤ 0x200A) ∨ n = 0x2028 ∨ n = 0x2029 ∨ n = 0x202F ∨ n = 0x205F ∨ n = 0x3000

/-- The pieces of `s` between the non-overlapping occurrences of `sep`, left to right. -/
def splitOnSeq (sep : List Char) (s : List Char) : List (List Char) :=
  go s []
where
  go : List Char → List Char → List (List Char)
  | [], acc => [acc.reverse]
  | c :: cs, acc =>
    if sep ≠ [] ∧ sep.isPrefixOf (c :: cs) then acc.reverse :: go (cs.drop (sep.length - 1)) []
    else go cs (c :: acc)
  termination_by s => s.length
  decreasing_by all_goals (simp only [List.length_drop, List.length_cons]; omega)

def trimBlanks (s : List Char) : List Char :=
  ((s.dropWhile isBlank).reverse.dropWhile isBlank).reverse

def words (s : List Char) : List (List Char) :=
  (splitOnSeq [' '] (s.map fun c => if isBlank c then ' ' else c)).filter (· ≠ [])

def parseCount (s : List Char) : Option UInt32 :=
  let digits := match s with
    | '+' :: rest => rest
    | _ => s
  if digits ≠ [] ∧ digits.all Char.isDigit then
    let n := digits.foldl (fun acc c => acc * 10 + (c.toNat - '0'.toNat)) 0
    if n < UInt32.size then some n.toUInt32 else none
  else none

def saturatingAdd (a b : UInt32) : UInt32 :=
  if a.toNat + b.toNat < UInt32.size then a + b else 0xFFFFFFFF

/-- The count a summary gives for `label`: the first semicolon part ending with the label. -/
def countOf (summary : List Char) (label : String) : UInt32 :=
  let l := label.toList
  match (splitOnSeq [';'] summary).map trimBlanks |>.find? (fun p => l.isSuffixOf p) with
  | none => 0
  | some part =>
    match (words (part.take (part.length - l.length))).getLast? with
    | none => 0
    | some w => (parseCount w).getD 0

/-- Passed and failed tests. -/
structure TestTotals where
  passed : UInt32 := 0
  failed : UInt32 := 0
  deriving DecidableEq, Repr

namespace TestTotals

def marker : List Char := "test result:".toList

def summaryOf (line : List Char) : Option (List Char) := (splitOnSeq marker line)[1]?

def add (t : TestTotals) (summary : List Char) : TestTotals :=
  { passed := saturatingAdd t.passed (countOf summary "passed")
    failed := saturatingAdd t.failed (countOf summary "failed") }

/-- The totals over every summary line of a test run's output. -/
def ofOutput (output : String) : TestTotals :=
  ((splitOnSeq ['\n'] output.toList).filterMap summaryOf).foldl add {}

def display (t : TestTotals) : String :=
  toString t.passed ++ " passed, " ++ toString t.failed ++ " failed"

end TestTotals

end PinballAudio.Tooling
