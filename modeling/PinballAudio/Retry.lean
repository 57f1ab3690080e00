/-!
# Bounded polling

Every wait on a peripheral is a loop of at most a fixed number of attempts, so a device that
never answers yields a value instead of a hung task. `RetryBudget.poll` runs an attempt until it
yields a value, until it fails in its monad (the failure passes through), or until the budget is
spent, which is `none`. `pollOutcomes` runs the same loop over a given list of outcomes and
counts the attempts it made.
-/

namespace PinballAudio

/-- The largest number of attempts a polling loop may make. -/
structure RetryBudget where
  maxAttempts : UInt32
  deriving DecidableEq, Repr

namespace RetryBudget

/-- At most `n` attempts of `attempt`, stopping at the first value. -/
def pollN {m : Type → Type} [Monad m] {α : Type} (attempt : m (Option α)) : Nat → m (Option α)
  | 0 => pure none
  | n + 1 => do
    match ← attempt with
    | some v => pure (some v)
    | none => pollN attempt n

/-- Run `attempt` until it yields a value, fails, or the budget is spent. -/
def poll {m : Type → Type} [Monad m] {α : Type} (b : RetryBudget) (attempt : m (Option α)) :
    m (Option α) :=
  pollN attempt b.maxAttempts.toNat

/-- One attempt that reads its outcome from a list by the number of attempts already made;
past the end of the list an attempt yields nothing. The state counts the attempts. -/
def scripted {ε α : Type} (outcomes : Array (Except ε (Option α))) : EStateM ε Nat (Option α) :=
  fun k =>
    match outcomes[k]?.getD (.ok none) with
    | .ok v => .ok v (k + 1)
    | .error e => .error e (k + 1)

/-- The outcome of polling a list of attempt outcomes, and how many attempts were made. -/
def pollOutcomes {ε α : Type} (b : RetryBudget) (outcomes : Array (Except ε (Option α))) :
    Except ε (Option α) × Nat :=
  match (b.poll (scripted outcomes)).run 0 with
  | .ok v calls => (.ok v, calls)
  | .error e calls => (.error e, calls)

end RetryBudget

end PinballAudio
