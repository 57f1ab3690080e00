import Mathlib
import PinballAudio.Retry

/-!
# Bounded polling stops at the first decisive attempt

An attempt is decisive when it yields a value or fails. Polled with a budget of `n` attempts, a
sequence of attempt outcomes is answered by its first decisive attempt below `n`, after exactly
that attempt; when there is none, all `n` attempts are made and the answer is `none`. Every wait
on the card rests on this count, and on a failure ending the loop at once.

The attempt whose `k`-th call has outcome `a k` is `attemptsOf a`; its state counts the calls
made, so a run from zero ends at the number of attempts.
-/

namespace PinballAudio.RetryBudget

variable {ε α : Type}

def attemptsOf (a : Nat → Except ε (Option α)) : EStateM ε Nat (Option α) :=
  fun k => match a k with
    | .ok v => .ok v (k + 1)
    | .error e => .error e (k + 1)

variable {a : Nat → Except ε (Option α)} {k : Nat}

@[simp] theorem run_pollN_zero (k : Nat) : (pollN (attemptsOf a) 0).run k = .ok none k := rfl

theorem run_pollN_succ_of_none (n : Nat) (h : a k = .ok none) :
    (pollN (attemptsOf a) (n + 1)).run k = (pollN (attemptsOf a) n).run (k + 1) := by
  simp only [pollN, EStateM.run, bind, EStateM.bind, attemptsOf, h]

theorem run_pollN_succ_of_some (n : Nat) {v : α} (h : a k = .ok (some v)) :
    (pollN (attemptsOf a) (n + 1)).run k = .ok (some v) (k + 1) := by
  simp only [pollN, EStateM.run, bind, EStateM.bind, attemptsOf, h]
  rfl

theorem run_pollN_succ_of_error (n : Nat) {e : ε} (h : a k = .error e) :
    (pollN (attemptsOf a) (n + 1)).run k = .error e (k + 1) := by
  simp only [pollN, EStateM.run, bind, EStateM.bind, attemptsOf, h]

/-- Attempts that yield nothing only use up the budget. -/
theorem run_pollN_skip_quiet {i : Nat} (m : Nat) (hq : ∀ j < i, a (k + j) = .ok none) :
    (pollN (attemptsOf a) (i + m)).run k = (pollN (attemptsOf a) m).run (k + i) := by
  induction i generalizing k with
  | zero => simp
  | succ i ih =>
    have hk : a k = .ok none := hq 0 (Nat.succ_pos i)
    have hrest : ∀ j < i, a (k + 1 + j) = .ok none := fun j hj => by
      rw [Nat.add_assoc, Nat.add_comm 1 j]
      exact hq (j + 1) (Nat.succ_lt_succ hj)
    rw [Nat.add_right_comm, run_pollN_succ_of_none _ hk, ih hrest, Nat.add_assoc, Nat.add_comm 1 i]

/-- A budget of `n` attempts over the outcomes `a`: the first decisive attempt `k` below `n` is
the answer, after `k + 1` calls; with none below `n` the answer is `none`, after `n` calls. -/
theorem poll_returns_first_decisive (n : UInt32) (a : Nat → Except ε (Option α)) :
    (∀ k < n.toNat, (∀ j < k, a j = .ok none) → ∀ v, a k = .ok (some v) →
      ((⟨n⟩ : RetryBudget).poll (attemptsOf a)).run 0 = .ok (some v) (k + 1)) ∧
    (∀ k < n.toNat, (∀ j < k, a j = .ok none) → ∀ e, a k = .error e →
      ((⟨n⟩ : RetryBudget).poll (attemptsOf a)).run 0 = .error e (k + 1)) ∧
    ((∀ j < n.toNat, a j = .ok none) →
      ((⟨n⟩ : RetryBudget).poll (attemptsOf a)).run 0 = .ok none n.toNat) := by
  -- the budget splits at the decisive attempt: `k` quiet ones, then at least one more
  have split : ∀ k < n.toNat, n.toNat = k + ((n.toNat - k - 1) + 1) := fun k hk => by omega
  refine ⟨fun k hk hq v hv => ?some, fun k hk hq e he => ?error, fun hq => ?none⟩
  case some =>
    rw [poll, split k hk, run_pollN_skip_quiet _ (by simpa using hq),
      run_pollN_succ_of_some _ (by simpa using hv)]
    simp
  case error =>
    rw [poll, split k hk, run_pollN_skip_quiet _ (by simpa using hq),
      run_pollN_succ_of_error _ (by simpa using he)]
    simp
  case none =>
    rw [poll, ← Nat.add_zero n.toNat, run_pollN_skip_quiet _ (by simpa using hq), run_pollN_zero]
    simp

theorem five_polls_answer_fail_or_run_out :
    ((⟨5⟩ : RetryBudget).poll (attemptsOf (fun j => if j < 2 then .ok none else .ok (some 7) :
        Nat → Except Unit (Option Nat)))).run 0 = .ok (some 7) 3 ∧
      ((⟨5⟩ : RetryBudget).poll (attemptsOf (fun _ => .error () :
        Nat → Except Unit (Option Nat)))).run 0 = .error () 1 ∧
      ((⟨5⟩ : RetryBudget).poll (attemptsOf (fun _ => .ok none :
        Nat → Except Unit (Option Nat)))).run 0 = .ok none 5 :=
  ⟨(poll_returns_first_decisive 5 _).1 2 (by decide) (fun _ hj => if_pos hj) 7 rfl,
    (poll_returns_first_decisive 5 _).2.1 0 (by decide) (fun _ hj => absurd hj (Nat.not_lt_zero _))
      () rfl,
    (poll_returns_first_decisive 5 _).2.2 fun _ _ => rfl⟩

end PinballAudio.RetryBudget
