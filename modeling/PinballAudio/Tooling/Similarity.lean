/-!
# Jaro similarity

How alike two words are, for suggesting a known word in place of a mistyped one. Characters of
the two words match when they are equal and no further apart than half the longer length less
one, each character matching at most once, left to right; half the matched characters that
appear in a different order are transpositions. With `m` matches and `t` transpositions of words
of lengths `a` and `b` the similarity is `(m/a + m/b + (m-t)/m) / 3`, evaluated in double
precision: every quotient and sum is rounded to the nearest double, ties to even. The rounding
matters at the threshold: a word is suggested when its similarity exceeds the double nearest
`0.7`, and a similarity of exactly seven tenths, such as that of `p` and `pack-audio`, rounds
above it. Of several close words the most similar comes last; equally similar ones keep their
order.
-/

namespace PinballAudio.Tooling

/-- A non-negative rational `num / den`, with `den > 0`. -/
structure Similarity where
  num : Nat
  den : Nat
  deriving DecidableEq, Repr

namespace Similarity

def lt (s t : Similarity) : Bool := s.num * t.den < t.num * s.den

def add (s t : Similarity) : Similarity := ⟨s.num * t.den + t.num * s.den, s.den * t.den⟩

def atLeastPow2 (p q : Nat) (k : Int) : Bool :=
  if 0 ≤ k then q * Nat.pow 2 k.toNat ≤ p else q ≤ p * Nat.pow 2 (-k).toNat

def binaryExponent (p q : Nat) : Int :=
  let k : Int := (Nat.log2 p : Int) - Nat.log2 q
  if atLeastPow2 p q k then k else k - 1

def roundHalfEven (p q : Nat) : Nat :=
  let n := p / q
  let r := p % q
  if 2 * r < q then n else if q < 2 * r then n + 1 else if n % 2 = 0 then n else n + 1

/-- `p / q` rounded to the nearest double: 53 significant bits, ties to even. -/
def toDouble (p q : Nat) : Similarity :=
  if p = 0 then ⟨0, 1⟩
  else
    let e := 52 - binaryExponent p q
    if 0 ≤ e then ⟨roundHalfEven (p * Nat.pow 2 e.toNat) q, Nat.pow 2 e.toNat⟩
    else ⟨roundHalfEven p (q * Nat.pow 2 (-e).toNat) * Nat.pow 2 (-e).toNat, 1⟩

def round (s : Similarity) : Similarity := toDouble s.num s.den

/-- The threshold: the double nearest seven tenths. -/
def threshold : Similarity := toDouble 7 10

def isClose (s : Similarity) : Bool := threshold.lt s

end Similarity

/-- Mark, for each character of `a`, the first unmarked equal character of `b` within the window;
the marks on `a` and on `b`. -/
def jaroMarks (a b : Array Char) : Array Bool × Array Bool :=
  let range := max a.size b.size / 2 - 1
  (List.range a.size).foldl (fun (ma, mb) i =>
    let lo := i - range
    let hi := min b.size (i + range + 1)
    match (List.range' lo (hi - lo)).find? (fun j => a[i]! == b[j]! && !mb[j]!) with
    | some j => (ma.set! i true, mb.set! j true)
    | none => (ma, mb)) (Array.replicate a.size false, Array.replicate b.size false)

def marked (w : Array Char) (marks : Array Bool) : List Char :=
  (List.range w.size).filterMap fun i => if marks[i]! then some w[i]! else none

/-- The Jaro similarity of two words, as a double. -/
def jaro (x y : String) : Similarity :=
  let a := x.toList.toArray
  let b := y.toList.toArray
  if a.size = 0 ∧ b.size = 0 then ⟨1, 1⟩
  else if a.size = 0 ∨ b.size = 0 then ⟨0, 1⟩
  else
    let (ma, mb) := jaroMarks a b
    let ca := marked a ma
    let cb := marked b mb
    let m := ca.length
    let t := ((ca.zip cb).filter fun p => p.1 ≠ p.2).length / 2
    if m = 0 then ⟨0, 1⟩
    else
      let sum := ((Similarity.toDouble m a.size).add (Similarity.toDouble m b.size)).round
      let sum := (sum.add (Similarity.toDouble (m - t) m)).round
      Similarity.toDouble sum.num (3 * sum.den)

def insertBySimilarity (e : Similarity × String) : List (Similarity × String) → List (Similarity × String)
  | [] => [e]
  | f :: rest => if e.1.lt f.1 then e :: f :: rest else f :: insertBySimilarity e rest

/-- The candidates close to `word`, least similar first. -/
def closeCandidates (word : String) (candidates : List String) : List String :=
  ((candidates.map fun c => (jaro word c, c)).filter (·.1.isClose)).foldl
    (fun acc e => insertBySimilarity e acc) [] |>.map (·.2)

/-- The candidate most like `word`, if any is close. -/
def bestCandidate (word : String) (candidates : List String) : Option String :=
  (closeCandidates word candidates).getLast?

end PinballAudio.Tooling
