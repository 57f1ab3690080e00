import Mathlib
import PinballAudio.Tooling.TestSummary

/-!
# Summing the summaries of a test run

Each test binary ends its output with a summary line such as
`test result: ok. 3 passed; 0 failed; 0 ignored; 0 measured; 0 filtered out; finished in 0.01s`.
A summary line is described here by its fields (`SummaryLine`, with the counts as decimal
numerals) and any other line by its text, which holds no summary marker (`PlainLine`). Over any
mix of the two, joined by newlines, the totals are the sums of the summaries' passed and failed
counts, saturated at the largest 32-bit value; and the totals of output joined at a newline are
the saturated sums of the totals of its two sides.

The reading goes through the line splitter, the marker split, the semicolon split, trimming, the
label suffix and the last word: `SummaryLine.summaryOf_text` says what follows a summary's marker
starts with its two counts, `SummaryLine.parts_counts` how that splits at semicolons, and
`countOf_passed` and `countOf_failed` that each label reads its own numeral, the passed part never
ending with the failed label.
-/

namespace PinballAudio.Tooling

/-! ### Splitting at a separator -/

section Split

variable {sep : List Char}

@[simp] theorem splitOnSeq_go_nil (sep acc : List Char) :
    splitOnSeq.go sep [] acc = [acc.reverse] :=
  splitOnSeq.go.eq_1 sep acc

theorem splitOnSeq_go_cons_skip {c : Char} {cs : List Char} (acc : List Char)
    (h : ¬ sep <+: c :: cs) :
    splitOnSeq.go sep (c :: cs) acc = splitOnSeq.go sep cs (c :: acc) := by
  rw [splitOnSeq.go.eq_2, if_neg]
  rintro ⟨-, hp⟩
  exact h (List.isPrefixOf_iff_prefix.1 hp)

theorem splitOnSeq_go_prefix (hsep : sep ≠ []) (s acc : List Char) :
    splitOnSeq.go sep (sep ++ s) acc = acc.reverse :: splitOnSeq.go sep s [] := by
  obtain ⟨c, cs, rfl⟩ := List.exists_cons_of_ne_nil hsep
  rw [List.cons_append, splitOnSeq.go.eq_2,
    if_pos ⟨hsep, List.isPrefixOf_iff_prefix.2 (by simp)⟩]
  simp

theorem splitOnSeq_go_acc (s acc : List Char) :
    splitOnSeq.go sep s acc = (splitOnSeq.go sep s []).modifyHead (acc.reverse ++ ·) := by
  induction hn : s.length using Nat.strong_induction_on generalizing s acc with
  | _ n ih =>
    cases s with
    | nil => simp
    | cons c cs =>
      have hlt : cs.length < n := by simp [← hn]
      rw [splitOnSeq.go.eq_2, splitOnSeq.go.eq_2 sep []]
      split
      · simp
      · rw [ih _ hlt cs (c :: acc) rfl, ih _ hlt cs [c] rfl, List.modifyHead_modifyHead]
        congr 1
        funext x
        simp

theorem splitOnSeq_go_ne_nil (s acc : List Char) : splitOnSeq.go sep s acc ≠ [] := by
  induction s, acc using splitOnSeq.go.induct sep with
  | case1 acc => simp
  | case2 c cs acc hp _ => rw [splitOnSeq.go.eq_2, if_pos hp]; simp
  | case3 c cs acc hp ih => rw [splitOnSeq.go.eq_2, if_neg hp]; exact ih

theorem splitOnSeq_go_append_of_not_mem {c : Char} {rest : List Char} (hsep : sep = c :: rest)
    {u : List Char} (hu : c ∉ u) (v acc : List Char) :
    splitOnSeq.go sep (u ++ v) acc = splitOnSeq.go sep v (u.reverse ++ acc) := by
  induction u generalizing acc with
  | nil => simp
  | cons x u ih =>
    have hx : ¬ sep <+: x :: (u ++ v) := by
      intro hp
      rw [hsep, List.cons_prefix_cons] at hp
      exact hu (hp.1 ▸ List.mem_cons_self)
    rw [List.cons_append, splitOnSeq_go_cons_skip acc hx,
      ih (fun h => hu (List.mem_cons_of_mem x h)) (x :: acc)]
    simp

theorem splitOnSeq_go_of_not_infix {s : List Char} (h : ¬ sep <:+: s) (acc : List Char) :
    splitOnSeq.go sep s acc = [acc.reverse ++ s] := by
  induction s generalizing acc with
  | nil => simp
  | cons c cs ih =>
    rw [splitOnSeq_go_cons_skip acc (fun hp => h hp.isInfix),
      ih (fun hi => h (List.infix_cons hi)) (c :: acc)]
    simp

/-- A one-character separator splits as the list library does. -/
theorem splitOnSeq_singleton (c : Char) (s : List Char) : splitOnSeq [c] s = s.splitOn c := by
  suffices ∀ acc, splitOnSeq.go [c] s acc = List.splitOnPPrepend (· == c) s acc from this []
  induction s with
  | nil => simp
  | cons x xs ih =>
    intro acc
    rw [splitOnSeq.go.eq_2]
    by_cases hx : x = c
    · subst hx
      simpa [List.splitOnPPrepend_cons_pos] using ih []
    · rw [if_neg (by simp [List.isPrefixOf, Ne.symm hx]),
        List.splitOnPPrepend_cons_neg (by simpa using hx)]
      exact ih _

end Split

/-! ### Blanks, words and counts -/

section Words

theorem isBlank_space : isBlank ' ' = true := by decide

theorem isBlank_of_isDigit {c : Char} (h : c.isDigit) : isBlank c = false := by
  simp only [Char.isDigit, Bool.and_eq_true, decide_eq_true_eq] at h
  simp only [isBlank, decide_eq_false_iff_not]
  have h1 : 48 ≤ c.toNat := h.1
  have h2 : c.toNat ≤ 57 := h.2
  omega

theorem ne_of_isDigit {c : Char} (h : c.isDigit) {d : Char} (hd : d.toNat < 48 ∨ 57 < d.toNat) :
    c ≠ d := by
  rintro rfl
  simp only [Char.isDigit, Bool.and_eq_true, decide_eq_true_eq] at h
  have h1 : 48 ≤ c.toNat := h.1
  have h2 : c.toNat ≤ 57 := h.2
  omega

theorem trimBlanks_space_cons {t : List Char} (hhead : ∀ c ∈ t.head?, isBlank c = false)
    (hlast : ∀ c ∈ t.getLast?, isBlank c = false) : trimBlanks (' ' :: t) = t := by
  have hfront : (' ' :: t).dropWhile isBlank = t := by
    rw [List.dropWhile_cons_of_pos isBlank_space]
    cases t with
    | nil => rfl
    | cons x xs => exact List.dropWhile_cons_of_neg (by simpa using hhead x)
  have hback : t.reverse.dropWhile isBlank = t.reverse := by
    cases h : t.reverse with
    | nil => rfl
    | cons x xs =>
      have hx : t.getLast? = some x := by rw [← List.head?_reverse, h]; rfl
      exact List.dropWhile_cons_of_neg (by simpa using hlast x hx)
  unfold trimBlanks
  rw [hfront, hback, List.reverse_reverse]

@[simp] theorem words_nil : words [] = [] := by
  simp [words, splitOnSeq_singleton]

theorem words_append_space (pre rest : List Char) :
    words (pre ++ ' ' :: rest) = words pre ++ words rest := by
  simp only [words, List.map_append, List.map_cons, isBlank_space, if_true, splitOnSeq_singleton,
    List.splitOn_append_cons_self, List.filter_append]

theorem words_of_not_blank {w : List Char} (hne : w ≠ []) (h : ∀ c ∈ w, isBlank c = false) :
    words w = [w] := by
  have hmap : (w.map fun c => if isBlank c then ' ' else c) = w := by
    conv => rhs; rw [← List.map_id w]
    exact List.map_congr_left fun c hc => by simp [h c hc]
  have hsplit : w.splitOn ' ' = [w] :=
    List.splitOn_eq_singleton fun hc => absurd (h ' ' hc) (by simp [isBlank_space])
  simp [words, hmap, splitOnSeq_singleton, hsplit, hne]

end Words

/-! ### Numerals -/

/-- A decimal numeral: one digit or more. -/
structure Numeral where
  digits : List Char
  nonempty : digits ≠ []
  isDigit : ∀ c ∈ digits, c.isDigit

namespace Numeral

def value (n : Numeral) : Nat := Nat.ofDigits 10 (n.digits.reverse.map fun c => c.toNat - '0'.toNat)

theorem not_blank (n : Numeral) : ∀ c ∈ n.digits, isBlank c = false :=
  fun c hc => isBlank_of_isDigit (n.isDigit c hc)

theorem words_digits_space (n : Numeral) : words (n.digits ++ [' ']) = [n.digits] := by
  rw [words_append_space, words_of_not_blank n.nonempty n.not_blank, words_nil, List.append_nil]

end Numeral

theorem foldl_digits (ds : List Char) :
    ds.foldl (fun acc c => acc * 10 + (c.toNat - '0'.toNat)) 0 =
      Nat.ofDigits 10 (ds.reverse.map fun c => c.toNat - '0'.toNat) := by
  induction ds using List.reverseRecOn with
  | nil => rfl
  | append_singleton ds c ih =>
    simp only [List.foldl_append, ih, List.foldl_cons, List.foldl_nil, List.reverse_append,
      List.reverse_cons, List.reverse_nil, List.nil_append, List.cons_append, List.map_cons,
      Nat.ofDigits_cons]
    ring

theorem parseCount_numeral (n : Numeral) (h : n.value < UInt32.size) :
    parseCount n.digits = some n.value.toUInt32 := by
  obtain ⟨d, ds, hds⟩ := List.exists_cons_of_ne_nil n.nonempty
  have hd : d ≠ '+' := ne_of_isDigit (n.isDigit d (by simp [hds])) (by decide)
  have hall : (d :: ds).all Char.isDigit := List.all_eq_true.2 (hds ▸ n.isDigit)
  have hval : (d :: ds).foldl (fun acc c => acc * 10 + (c.toNat - '0'.toNat)) 0 = n.value := by
    rw [← hds, foldl_digits]; rfl
  rw [hds]
  unfold parseCount
  split
  · rename_i rest heq
    exact absurd (List.cons.inj heq).1 hd
  · rw [if_pos ⟨List.cons_ne_nil d ds, hall⟩, hval, if_pos h]

/-! ### Summary lines -/

/-- A summary line as a test binary prints it: the verdict, the passed and failed counts as
numerals, the ignored, measured and filtered-out counts, and the seconds taken. -/
structure SummaryLine where
  ok : Bool
  passed : Numeral
  failed : Numeral
  ignored : Nat
  measured : Nat
  filteredOut : Nat
  seconds : List Char
  seconds_one_line : '\n' ∉ seconds

namespace SummaryLine

def verdict (s : SummaryLine) : List Char := if s.ok then "ok".toList else "FAILED".toList

/-- The line, such as
`test result: ok. 3 passed; 0 failed; 0 ignored; 0 measured; 0 filtered out; finished in 0.01s`. -/
def text (s : SummaryLine) : List Char :=
  "test result: ".toList ++ s.verdict ++ ". ".toList ++ s.passed.digits ++ " passed; ".toList ++
    s.failed.digits ++ " failed; ".toList ++ (toString s.ignored).toList ++ " ignored; ".toList ++
    (toString s.measured).toList ++ " measured; ".toList ++ (toString s.filteredOut).toList ++
    " filtered out; finished in ".toList ++ s.seconds ++ "s".toList

def passedPart (s : SummaryLine) : List Char :=
  s.verdict ++ ['.', ' '] ++ s.passed.digits ++ ' ' :: "passed".toList

def failedPart (s : SummaryLine) : List Char := s.failed.digits ++ ' ' :: "failed".toList

def otherCounts (s : SummaryLine) : List Char :=
  ' ' :: ((toString s.ignored).toList ++ " ignored; ".toList ++ (toString s.measured).toList ++
    " measured; ".toList ++ (toString s.filteredOut).toList ++ " filtered out; finished in ".toList ++
    s.seconds ++ "s".toList)

def counts (s : SummaryLine) : List Char := ' ' :: s.passedPart ++ ';' :: ' ' :: s.failedPart ++ [';']

theorem text_eq (s : SummaryLine) : s.text = TestTotals.marker ++ s.counts ++ s.otherCounts := by
  have hmarker : "test result: ".toList = TestTotals.marker ++ [' '] := by decide
  have hstop : ". ".toList = ['.', ' '] := by decide
  have hpassed : " passed; ".toList = ' ' :: "passed".toList ++ [';', ' '] := by decide
  have hfailed : " failed; ".toList = ' ' :: "failed".toList ++ [';', ' '] := by decide
  unfold text counts passedPart failedPart otherCounts
  rw [hmarker, hstop, hpassed, hfailed]
  simp only [List.append_assoc, List.cons_append, List.nil_append]

theorem not_mem_digits (n : Numeral) {d : Char} (hd : d.toNat < 48 ∨ 57 < d.toNat) :
    d ∉ n.digits :=
  fun h => ne_of_isDigit (n.isDigit d h) hd rfl

theorem summaryOf_text (s : SummaryLine) :
    ∃ w, TestTotals.summaryOf s.text = some (s.counts ++ w) := by
  -- the marker's first letter is in neither count, so the marker is found only where it stands
  have hmarker : TestTotals.marker = 't' :: "est result:".toList := by decide
  have ht : ∀ n : Numeral, 't' ∉ n.digits := fun n => not_mem_digits n (by decide)
  have hnot : 't' ∉ s.counts := by
    cases hok : s.ok <;> simp [counts, passedPart, failedPart, verdict, hok, ht]
  obtain ⟨w, ws, hw⟩ :=
    List.exists_cons_of_ne_nil (@splitOnSeq_go_ne_nil TestTotals.marker s.otherCounts [])
  refine ⟨w, ?_⟩
  rw [TestTotals.summaryOf, splitOnSeq, text_eq, List.append_assoc,
    splitOnSeq_go_prefix (by decide), splitOnSeq_go_append_of_not_mem hmarker hnot,
    splitOnSeq_go_acc, hw]
  simp [counts]

theorem label_suffix_part (pre : List Char) (n : Numeral) (label : List Char) :
    label <:+ pre ++ n.digits ++ ' ' :: label := by
  simpa using List.suffix_append (pre ++ n.digits ++ [' ']) label

theorem parts_counts (s : SummaryLine) (w : List Char) :
    (splitOnSeq [';'] (s.counts ++ w)).map trimBlanks =
      s.passedPart :: s.failedPart :: (w.splitOn ';').map trimBlanks := by
  have hsemi : ∀ n : Numeral, ';' ∉ n.digits := fun n => not_mem_digits n (by decide)
  have hp : ';' ∉ ' ' :: s.passedPart := by
    cases hok : s.ok <;> simp [passedPart, verdict, hok, hsemi]
  have hf : ';' ∉ ' ' :: s.failedPart := by simp [failedPart, hsemi]
  have hphead : ∀ c ∈ s.passedPart.head?, isBlank c = false := by
    cases hok : s.ok <;> simp [passedPart, verdict, hok] <;> decide
  have hplast : ∀ c ∈ s.passedPart.getLast?, isBlank c = false := by
    rw [passedPart, List.getLast?_append_of_ne_nil _ (List.cons_ne_nil _ _)]
    intro c hc
    cases hc
    decide
  have hfhead : ∀ c ∈ s.failedPart.head?, isBlank c = false := by
    intro c hc
    obtain ⟨d, ds, hds⟩ := List.exists_cons_of_ne_nil s.failed.nonempty
    simp only [failedPart, hds, List.cons_append, List.head?_cons, Option.mem_def,
      Option.some.injEq] at hc
    exact s.failed.not_blank c (by simp [hds, hc])
  have hflast : ∀ c ∈ s.failedPart.getLast?, isBlank c = false := by
    rw [failedPart, List.getLast?_append_of_ne_nil _ (List.cons_ne_nil _ _)]
    intro c hc
    cases hc
    decide
  rw [splitOnSeq_singleton,
    show s.counts ++ w = (' ' :: s.passedPart) ++ ';' :: ((' ' :: s.failedPart) ++ ';' :: w) by
      simp [counts],
    List.splitOn_append_cons_self_of_not_mem hp, List.splitOn_append_cons_self_of_not_mem hf,
    List.map_cons, List.map_cons, trimBlanks_space_cons hphead hplast,
    trimBlanks_space_cons hfhead hflast]

/-- Reading a count off the part that carries it: the label is cut off and the last word before
it is read as a numeral. -/
theorem countOf_of_find {summary pre : List Char} {label : String} {n : Numeral}
    (hfind : ((splitOnSeq [';'] summary).map trimBlanks).find?
      (fun p => label.toList.isSuffixOf p) = some (pre ++ n.digits ++ ' ' :: label.toList))
    (hwords : (words (pre ++ n.digits ++ [' '])).getLast? = some n.digits)
    (h : n.value < UInt32.size) :
    countOf summary label = n.value.toUInt32 := by
  have htake : (pre ++ n.digits ++ ' ' :: label.toList).take
      ((pre ++ n.digits ++ ' ' :: label.toList).length - label.toList.length) =
        pre ++ n.digits ++ [' '] := by
    rw [show pre ++ n.digits ++ ' ' :: label.toList =
      (pre ++ n.digits ++ [' ']) ++ label.toList by simp]
    exact List.take_left' (by simp; omega)
  simp only [countOf, hfind, htake, hwords, parseCount_numeral n h, Option.getD_some]

theorem countOf_passed (s : SummaryLine) (w : List Char) (h : s.passed.value < UInt32.size) :
    countOf (s.counts ++ w) "passed" = s.passed.value.toUInt32 := by
  have hfind : ((splitOnSeq [';'] (s.counts ++ w)).map trimBlanks).find?
      (fun p => "passed".toList.isSuffixOf p) = some s.passedPart := by
    rw [parts_counts]
    exact List.find?_cons_of_pos (List.isSuffixOf_iff_suffix.2 (label_suffix_part _ _ _))
  have hwords : (words ((s.verdict ++ ['.', ' ']) ++ s.passed.digits ++ [' '])).getLast? =
      some s.passed.digits := by
    rw [show (s.verdict ++ ['.', ' ']) ++ s.passed.digits ++ [' '] =
      (s.verdict ++ ['.']) ++ ' ' :: (s.passed.digits ++ [' ']) by simp,
      words_append_space, Numeral.words_digits_space]
    simp
  exact countOf_of_find hfind hwords h

theorem countOf_failed (s : SummaryLine) (w : List Char) (h : s.failed.value < UInt32.size) :
    countOf (s.counts ++ w) "failed" = s.failed.value.toUInt32 := by
  have hnot : ¬ "failed".toList.isSuffixOf s.passedPart = true := by
    intro hs
    have hsame := (List.suffix_of_suffix_length_le (List.isSuffixOf_iff_suffix.1 hs)
      (label_suffix_part _ _ "passed".toList) (by decide)).eq_of_length (by decide)
    exact absurd hsame (by decide)
  have hfind : ((splitOnSeq [';'] (s.counts ++ w)).map trimBlanks).find?
      (fun p => "failed".toList.isSuffixOf p) =
        some ([] ++ s.failed.digits ++ ' ' :: "failed".toList) := by
    rw [parts_counts, List.find?_cons_of_neg hnot]
    exact List.find?_cons_of_pos (List.isSuffixOf_iff_suffix.2 (label_suffix_part [] _ _))
  have hwords : (words ([] ++ s.failed.digits ++ [' '])).getLast? = some s.failed.digits := by
    simp [Numeral.words_digits_space]
  exact countOf_of_find hfind hwords h

theorem newline_not_mem_text (s : SummaryLine) : '\n' ∉ s.text := by
  have hdigits : ∀ n : Numeral, '\n' ∉ n.digits := fun n => not_mem_digits n (by decide)
  have hnat : ∀ n : Nat, '\n' ∉ Nat.toDigits 10 n := fun n h =>
    absurd (@Nat.isDigit_of_mem_toDigits 10 n '\n' (by decide) (by decide) h) (by decide)
  have hmarker : '\n' ∉ TestTotals.marker := by decide
  rw [text_eq]
  cases hok : s.ok <;>
    simp [hmarker, counts, passedPart, failedPart, otherCounts, verdict, hok, hdigits, hnat,
      s.seconds_one_line]

end SummaryLine

/-! ### The output of a test run -/

/-- Any other line of a test run's output: one line, with no summary marker in it. -/
structure PlainLine where
  text : List Char
  one_line : '\n' ∉ text
  no_marker : ¬ TestTotals.marker <:+: text

theorem PlainLine.summaryOf_text (p : PlainLine) : TestTotals.summaryOf p.text = none := by
  simp [TestTotals.summaryOf, splitOnSeq, splitOnSeq_go_of_not_infix p.no_marker]

/-- A line of a test run's output. -/
inductive OutputLine where
  | summary (s : SummaryLine)
  | plain (p : PlainLine)

namespace OutputLine

def text : OutputLine → List Char
  | summary s => s.text
  | plain p => p.text

def passedCount : OutputLine → Nat
  | summary s => s.passed.value
  | plain _ => 0

def failedCount : OutputLine → Nat
  | summary s => s.failed.value
  | plain _ => 0

def render (ls : List OutputLine) : String := String.ofList (['\n'].intercalate (ls.map text))

theorem newline_not_mem_text (l : OutputLine) : '\n' ∉ l.text := by
  cases l with
  | summary s => exact s.newline_not_mem_text
  | plain p => exact p.one_line

end OutputLine

/-! ### Totals -/

theorem saturatingAdd_toNat (a b : UInt32) :
    (saturatingAdd a b).toNat = min (a.toNat + b.toNat) (2 ^ 32 - 1) := by
  have ha := a.toNat_lt
  have hb := b.toNat_lt
  unfold saturatingAdd
  split
  · rename_i h
    have hsize : UInt32.size = 2 ^ 32 := rfl
    rw [UInt32.toNat_add, Nat.mod_eq_of_lt (by omega)]
    omega
  · rename_i h
    have hsize : UInt32.size = 2 ^ 32 := rfl
    simp only [UInt32.reduceToNat]
    omega

namespace TestTotals

theorem foldl_add_toNat (S : List (List Char)) (t : TestTotals) :
    (S.foldl add t).passed.toNat =
        min (t.passed.toNat + (S.map fun s => (countOf s "passed").toNat).sum) (2 ^ 32 - 1) ∧
      (S.foldl add t).failed.toNat =
        min (t.failed.toNat + (S.map fun s => (countOf s "failed").toNat).sum) (2 ^ 32 - 1) := by
  induction S generalizing t with
  | nil =>
    have hp := t.passed.toNat_lt
    have hf := t.failed.toNat_lt
    have hsize : UInt32.size = 2 ^ 32 := rfl
    simp only [List.foldl_nil, List.map_nil, List.sum_nil, Nat.add_zero]
    omega
  | cons s S ih =>
    obtain ⟨hp, hf⟩ := ih (t.add s)
    simp only [List.foldl_cons, List.map_cons, List.sum_cons]
    rw [hp, hf]
    simp only [add, saturatingAdd_toNat]
    omega

theorem foldl_add_eq (S : List (List Char)) (t : TestTotals) :
    S.foldl add t = ⟨saturatingAdd t.passed (S.foldl add {}).passed,
      saturatingAdd t.failed (S.foldl add {}).failed⟩ := by
  obtain ⟨hp, hf⟩ := foldl_add_toNat S t
  obtain ⟨hp₀, hf₀⟩ := foldl_add_toNat S {}
  have hpassed : (S.foldl add t).passed = saturatingAdd t.passed (S.foldl add {}).passed := by
    rw [← UInt32.toNat_inj, hp, saturatingAdd_toNat, hp₀]
    simp only [UInt32.toNat_zero, Nat.zero_add]
    omega
  have hfailed : (S.foldl add t).failed = saturatingAdd t.failed (S.foldl add {}).failed := by
    rw [← UInt32.toNat_inj, hf, saturatingAdd_toNat, hf₀]
    simp only [UInt32.toNat_zero, Nat.zero_add]
    omega
  rw [← hpassed, ← hfailed]

theorem summaries_render (ls : List OutputLine) :
    (splitOnSeq ['\n'] (OutputLine.render ls).toList).filterMap summaryOf =
      ls.filterMap fun l => summaryOf l.text := by
  rw [OutputLine.render, String.toList_ofList, splitOnSeq_singleton]
  cases ls with
  | nil => simp [summaryOf, splitOnSeq]
  | cons l ls =>
    have hlines : ∀ x ∈ (l :: ls).map OutputLine.text, '\n' ∉ x := fun x hx => by
      obtain ⟨l', -, rfl⟩ := List.mem_map.1 hx
      exact l'.newline_not_mem_text
    rw [List.splitOn_intercalate '\n' hlines (by simp), List.filterMap_map]
    rfl

/-- Over the lines, the counts read add up to the counts the summary lines report. -/
theorem sum_counts_lines (ls : List OutputLine)
    (hbound : ∀ l ∈ ls, l.passedCount < 2 ^ 32 ∧ l.failedCount < 2 ^ 32) :
    ((ls.filterMap fun l => summaryOf l.text).map fun s => (countOf s "passed").toNat).sum =
        (ls.map OutputLine.passedCount).sum ∧
      ((ls.filterMap fun l => summaryOf l.text).map fun s => (countOf s "failed").toNat).sum =
        (ls.map OutputLine.failedCount).sum := by
  induction ls with
  | nil => simp
  | cons l ls ih =>
    obtain ⟨hp, hf⟩ := ih fun l' hl' => hbound l' (List.mem_cons_of_mem l hl')
    cases l with
    | summary s =>
      obtain ⟨hbp, hbf⟩ := hbound (.summary s) List.mem_cons_self
      have hpv : s.passed.value.toUInt32.toNat = s.passed.value := UInt32.toNat_ofNat_of_lt' hbp
      have hfv : s.failed.value.toUInt32.toNat = s.failed.value := UInt32.toNat_ofNat_of_lt' hbf
      obtain ⟨w, hw⟩ := s.summaryOf_text
      rw [@List.filterMap_cons_some _ _ (fun l => summaryOf l.text) (.summary s) ls _ hw]
      simp only [List.map_cons, List.sum_cons, SummaryLine.countOf_passed s w hbp,
        SummaryLine.countOf_failed s w hbf, hp, hf, hpv, hfv]
      exact ⟨rfl, rfl⟩
    | plain p =>
      rw [@List.filterMap_cons_none _ _ (fun l => summaryOf l.text) (.plain p) ls p.summaryOf_text,
        hp, hf]
      simp [OutputLine.passedCount, OutputLine.failedCount]

theorem ofOutput_append_newline (a b : String) :
    ofOutput (a ++ "\n" ++ b) =
      ⟨saturatingAdd (ofOutput a).passed (ofOutput b).passed,
        saturatingAdd (ofOutput a).failed (ofOutput b).failed⟩ := by
  have hjoin : (a ++ "\n" ++ b).toList = a.toList ++ '\n' :: b.toList := by simp
  rw [ofOutput, hjoin, splitOnSeq_singleton, List.splitOn_append_cons_self, List.filterMap_append,
    List.foldl_append, foldl_add_eq, ← splitOnSeq_singleton, ← splitOnSeq_singleton]
  rfl

end TestTotals

/-- The totals of a test run's output: over summary lines mixed in any order with other lines,
the passed and the failed totals are the sums of the lines' counts, stopped at the largest 32-bit
value; and output joined at a newline has the saturated sums of the totals of its two sides. -/
theorem test_totals_saturate_line_sums (ls : List OutputLine)
    (hbound : ∀ l ∈ ls, l.passedCount < 2 ^ 32 ∧ l.failedCount < 2 ^ 32) :
    (TestTotals.ofOutput (OutputLine.render ls)).passed.toNat =
        min (ls.map OutputLine.passedCount).sum (2 ^ 32 - 1) ∧
      (TestTotals.ofOutput (OutputLine.render ls)).failed.toNat =
        min (ls.map OutputLine.failedCount).sum (2 ^ 32 - 1) ∧
      ∀ a b : String, TestTotals.ofOutput (a ++ "\n" ++ b) =
        ⟨saturatingAdd (TestTotals.ofOutput a).passed (TestTotals.ofOutput b).passed,
          saturatingAdd (TestTotals.ofOutput a).failed (TestTotals.ofOutput b).failed⟩ := by
  obtain ⟨hp, hf⟩ :=
    TestTotals.foldl_add_toNat (ls.filterMap fun l => TestTotals.summaryOf l.text) {}
  obtain ⟨hsp, hsf⟩ := TestTotals.sum_counts_lines ls hbound
  rw [hsp] at hp
  rw [hsf] at hf
  refine ⟨?_, ?_, TestTotals.ofOutput_append_newline⟩
  · rw [TestTotals.ofOutput, TestTotals.summaries_render, hp]
    simp
  · rw [TestTotals.ofOutput, TestTotals.summaries_render, hf]
    simp

theorem colon_mem_marker : ':' ∈ TestTotals.marker := by decide

/-- The output of two test binaries, the second with a failing test: each summary follows the
line that announces its tests, and the output ends with a newline. -/
def twoBinaryRun : List OutputLine :=
  [.plain ⟨"running 3 tests".toList, by simp, fun h => absurd (h.subset colon_mem_marker) (by simp)⟩,
   .summary ⟨true, ⟨['3'], by simp, by simp⟩, ⟨['0'], by simp, by simp⟩, 0, 0, 0,
     "0.01".toList, by simp⟩,
   .plain ⟨[], by decide, by decide⟩,
   .plain ⟨"running 5 tests".toList, by simp, fun h => absurd (h.subset colon_mem_marker) (by simp)⟩,
   .summary ⟨false, ⟨['4'], by simp, by simp⟩, ⟨['1'], by simp, by simp⟩, 0, 0, 0,
     "0.20".toList, by simp⟩,
   .plain ⟨[], by decide, by decide⟩]

theorem two_binary_run_totals :
    (∀ l ∈ twoBinaryRun, l.passedCount < 2 ^ 32 ∧ l.failedCount < 2 ^ 32) ∧
      ((TestTotals.ofOutput (OutputLine.render twoBinaryRun)).passed.toNat =
          min (twoBinaryRun.map OutputLine.passedCount).sum (2 ^ 32 - 1) ∧
        (TestTotals.ofOutput (OutputLine.render twoBinaryRun)).failed.toNat =
          min (twoBinaryRun.map OutputLine.failedCount).sum (2 ^ 32 - 1) ∧
        ∀ a b : String, TestTotals.ofOutput (a ++ "\n" ++ b) =
          ⟨saturatingAdd (TestTotals.ofOutput a).passed (TestTotals.ofOutput b).passed,
            saturatingAdd (TestTotals.ofOutput a).failed (TestTotals.ofOutput b).failed⟩) :=
  have hbound : ∀ l ∈ twoBinaryRun, l.passedCount < 2 ^ 32 ∧ l.failedCount < 2 ^ 32 := by
    simp [twoBinaryRun, OutputLine.passedCount, OutputLine.failedCount, Numeral.value]
  ⟨hbound, test_totals_saturate_line_sums twoBinaryRun hbound⟩

end PinballAudio.Tooling
