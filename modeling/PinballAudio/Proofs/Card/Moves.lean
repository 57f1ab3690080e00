import Mathlib
import PinballAudio.Card.Driver

/-!
# What every run of a link program does to its state

Link operations run in `EStateM`, which keeps its state when it fails, so a fact about the state
a program leaves is only proved once it holds on every exit, the failed ones included.
`Moves R x` says that every run of `x` from a state `t` ends in a state `t'` with `R t t'`, and
`Raises P x` that every error `x` fails with satisfies `P`. Both are closed under the monad's
operations and under bounded polling, so a program's frame (what it leaves alone), the errors it
can fail with and the calls it can make follow its `do` block step by step. `CostsAtMost c n x`
is the cost form of `Moves`: every run raises the measure `c` (a call counter) by at most `n`.
-/

namespace PinballAudio

def finalState {ε σ α : Type} : EStateM.Result ε σ α → σ
  | .ok _ s => s
  | .error _ s => s

@[simp] theorem finalState_ok {ε σ α : Type} (a : α) (s : σ) :
    finalState (.ok a s : EStateM.Result ε σ α) = s := rfl

@[simp] theorem finalState_error {ε σ α : Type} (e : ε) (s : σ) :
    finalState (.error e s : EStateM.Result ε σ α) = s := rfl

/-- Every run of `x`, from any state `t`, ends in a state `t'` with `R t t'`. -/
def Moves {ε σ α : Type} (R : σ → σ → Prop) (x : EStateM ε σ α) : Prop :=
  ∀ t, R t (finalState (x.run t))

/-- Every error that `x` fails with satisfies `P`. -/
def Raises {ε σ α : Type} (P : ε → Prop) (x : EStateM ε σ α) : Prop :=
  ∀ t e t', x.run t = .error e t' → P e

/-- Every run of `x` raises the measure `c` by at most `n`. -/
def CostsAtMost {ε σ α : Type} (c : σ → Nat) (n : Nat) (x : EStateM ε σ α) : Prop :=
  Moves (fun t t' => c t' ≤ c t + n) x

section Rules

variable {ε ε' σ α β : Type} {R R₁ R₂ : σ → σ → Prop} {P : ε → Prop}

theorem run_bind {x : EStateM ε σ α} {f : α → EStateM ε σ β} (t : σ) :
    (x >>= f).run t = match x.run t with
      | .ok a s => (f a).run s
      | .error e s => .error e s := rfl

namespace Moves

theorem pure (hR : ∀ t, R t t) (a : α) : Moves R (Pure.pure a : EStateM ε σ α) :=
  fun t => hR t

theorem throw (hR : ∀ t, R t t) (e : ε) : Moves R (MonadExcept.throw e : EStateM ε σ α) :=
  fun t => hR t

theorem throw_bind (hR : ∀ t, R t t) {e : ε} {f : α → EStateM ε σ β} :
    Moves R (MonadExcept.throw e >>= f) :=
  fun t => hR t

theorem mono {x : EStateM ε σ α} (hx : Moves R₁ x) (h : ∀ t t', R₁ t t' → R₂ t t') :
    Moves R₂ x :=
  fun t => h _ _ (hx t)

theorem bind {x : EStateM ε σ α} {f : α → EStateM ε σ β} (hx : Moves R₁ x)
    (hf : ∀ a, Moves R₂ (f a)) (hstop : ∀ t t', R₁ t t' → R t t')
    (hthen : ∀ t t' t'', R₁ t t' → R₂ t' t'' → R t t'') : Moves R (x >>= f) := by
  intro t
  have h₁ := hx t
  rw [run_bind]
  cases hrun : x.run t with
  | ok a s =>
    rw [hrun] at h₁
    exact hthen _ _ _ h₁ (hf a s)
  | error e s =>
    rw [hrun] at h₁
    exact hstop _ _ h₁

theorem bind_trans {x : EStateM ε σ α} {f : α → EStateM ε σ β} (hx : Moves R x)
    (hf : ∀ a, Moves R (f a)) (htrans : ∀ t t' t'', R t t' → R t' t'' → R t t'') :
    Moves R (x >>= f) :=
  bind hx hf (fun _ _ h => h) htrans

theorem ite {c : Prop} [Decidable c] {x y : EStateM ε σ α} (hx : c → Moves R x)
    (hy : ¬c → Moves R y) : Moves R (if c then x else y) := by
  by_cases hc : c
  · rw [if_pos hc]
    exact hx hc
  · rw [if_neg hc]
    exact hy hc

theorem adaptExcept {x : EStateM ε σ α} (hx : Moves R x) (g : ε → ε') :
    Moves R (EStateM.adaptExcept g x) := by
  intro t
  have h := hx t
  change R t (finalState (match x t with
    | .error e s => EStateM.Result.error (g e) s
    | .ok a s => EStateM.Result.ok a s))
  change R t (finalState (x t)) at h
  cases hrun : x t with
  | ok a s =>
    rw [hrun] at h
    exact h
  | error e s =>
    rw [hrun] at h
    exact h

theorem pollN {attempt : EStateM ε σ (Option α)} (h : Moves R attempt) (hR : ∀ t, R t t)
    (htrans : ∀ t t' t'', R t t' → R t' t'' → R t t'') (n : Nat) :
    Moves R (RetryBudget.pollN attempt n) := by
  induction n with
  | zero => exact pure hR none
  | succ n ih =>
    refine bind_trans h (fun o => ?_) htrans
    cases o with
    | some v => exact pure hR (some v)
    | none => exact ih

end Moves

namespace Raises

theorem pure (a : α) : Raises P (Pure.pure a : EStateM ε σ α) := by
  intro t e t' h
  cases h

theorem throw {e : ε} (he : P e) : Raises P (MonadExcept.throw e : EStateM ε σ α) := by
  intro t e' t' h
  cases h
  exact he

theorem throw_bind {e : ε} (he : P e) {f : α → EStateM ε σ β} :
    Raises P (MonadExcept.throw e >>= f) := by
  intro t e' t' h
  cases h
  exact he

theorem bind {x : EStateM ε σ α} {f : α → EStateM ε σ β} (hx : Raises P x)
    (hf : ∀ a, Raises P (f a)) : Raises P (x >>= f) := by
  intro t e t' h
  rw [run_bind] at h
  cases hrun : x.run t with
  | ok a s =>
    rw [hrun] at h
    exact hf a s e t' h
  | error e₀ s =>
    rw [hrun] at h
    cases h
    exact hx t _ _ hrun

theorem ite {c : Prop} [Decidable c] {x y : EStateM ε σ α} (hx : c → Raises P x)
    (hy : ¬c → Raises P y) : Raises P (if c then x else y) := by
  by_cases hc : c
  · rw [if_pos hc]
    exact hx hc
  · rw [if_neg hc]
    exact hy hc

theorem adaptExcept {P' : ε' → Prop} (x : EStateM ε σ α) {g : ε → ε'} (hg : ∀ e, P' (g e)) :
    Raises P' (EStateM.adaptExcept g x) := by
  intro t e t' h
  change (match x t with
    | .error e s => EStateM.Result.error (g e) s
    | .ok a s => EStateM.Result.ok a s) = .error e t' at h
  cases hrun : x t with
  | ok a s =>
    rw [hrun] at h
    cases h
  | error e₀ s =>
    rw [hrun] at h
    cases h
    exact hg e₀

theorem pollN {attempt : EStateM ε σ (Option α)} (h : Raises P attempt) (n : Nat) :
    Raises P (RetryBudget.pollN attempt n) := by
  induction n with
  | zero => exact pure none
  | succ n ih =>
    refine bind h fun o => ?_
    cases o with
    | some v => exact pure (some v)
    | none => exact ih

end Raises

namespace CostsAtMost

variable {c : σ → Nat} {n m : Nat}

theorem pure (a : α) : CostsAtMost c 0 (Pure.pure a : EStateM ε σ α) :=
  fun t => Nat.le_add_right (c t) 0

theorem throw (e : ε) : CostsAtMost c 0 (MonadExcept.throw e : EStateM ε σ α) :=
  fun t => Nat.le_add_right (c t) 0

theorem mono {x : EStateM ε σ α} (hx : CostsAtMost c n x) (h : n ≤ m) : CostsAtMost c m x :=
  Moves.mono hx fun _ _ ht => by omega

theorem bind {x : EStateM ε σ α} {f : α → EStateM ε σ β} (hx : CostsAtMost c n x)
    (hf : ∀ a, CostsAtMost c m (f a)) : CostsAtMost c (n + m) (x >>= f) :=
  Moves.bind hx hf (fun _ _ h => by omega) fun _ _ _ h₁ h₂ => by omega

theorem ite {p : Prop} [Decidable p] {x y : EStateM ε σ α} (hx : p → CostsAtMost c n x)
    (hy : ¬p → CostsAtMost c n y) : CostsAtMost c n (if p then x else y) :=
  Moves.ite hx hy

theorem adaptExcept {x : EStateM ε σ α} (hx : CostsAtMost c n x) (g : ε → ε') :
    CostsAtMost c n (EStateM.adaptExcept g x) :=
  Moves.adaptExcept hx g

theorem pollN {attempt : EStateM ε σ (Option α)} (h : CostsAtMost c n attempt) (k : Nat) :
    CostsAtMost c (k * n) (RetryBudget.pollN attempt k) := by
  induction k with
  | zero => exact mono (pure none) (Nat.zero_le _)
  | succ k ih =>
    rw [Nat.succ_mul, Nat.add_comm]
    refine bind h fun o => ?_
    cases o with
    | some v => exact mono (pure (some v)) (Nat.zero_le _)
    | none => exact ih

end CostsAtMost

end Rules

end PinballAudio
