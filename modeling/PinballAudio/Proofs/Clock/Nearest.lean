import Mathlib
import PinballAudio.Card.Link
import PinballAudio.Clock.SampleTimer

/-!
# The nearest clock divider

`nearest d` scans the dividers fastest first and lets a candidate at least as close as the best
so far replace it. Over dividers in increasing order this ends at the largest of the closest
ones: a candidate that ties the final distance replaced the best when it was scanned, and only
larger dividers came after it. So for every 32-bit divisor the result is a closest supported
divider, the slower one on a tie; an exact match is found directly and agrees with the scan's
answer; and programming a divisor on a link programs and returns that divider.

The sample timer rounds the same way: its reload value is one less than the number of kernel
clock ticks nearest to the sample period, a half tick rounding up.
-/

namespace PinballAudio.ClockDivider

theorem divisor_injective : Function.Injective divisor := by
  intro a b h
  cases a <;> cases b <;> first | rfl | cases h

theorem distance_eq_abs (c : ClockDivider) (d : Nat) :
    (c.distance d : ℤ) = |(c.divisor : ℤ) - d| := by
  unfold distance
  split
  · rw [abs_of_nonpos (by omega)]; omega
  · rw [abs_of_nonneg (by omega)]; omega

theorem distance_eq_zero {c : ClockDivider} {d : Nat} : c.distance d = 0 ↔ c.divisor = d := by
  unfold distance
  split <;> omega

theorem distance_lt_of_lt (c : ClockDivider) {d : Nat} (hd : d < UInt32.size) :
    c.distance d < UInt32.size - 1 := by
  have hsize : UInt32.size = 4294967296 := rfl
  have hc : 2 ≤ c.divisor ∧ c.divisor ≤ 128 := by cases c <;> decide
  unfold distance
  split <;> omega

/-- `c` is among `cs`, no divider of `cs` is closer to `d`, and every one as close is at most as
large. -/
structure NearestAmong (d : Nat) (cs : List ClockDivider) (c : ClockDivider) : Prop where
  mem : c ∈ cs
  closest : ∀ c' ∈ cs, c.distance d ≤ c'.distance d
  largest : ∀ c' ∈ cs, c'.distance d = c.distance d → c'.divisor ≤ c.divisor

namespace NearestAmong

variable {d : Nat} {cs : List ClockDivider} {x : ClockDivider}

theorem cons (h : NearestAmong d cs x) {b : ClockDivider} (hdist : x.distance d ≤ b.distance d)
    (hdiv : b.distance d = x.distance d → b.divisor ≤ x.divisor) :
    NearestAmong d (b :: cs) x where
  mem := List.mem_cons_of_mem _ h.mem
  closest c hc := by
    rcases List.mem_cons.1 hc with rfl | hc
    · exact hdist
    · exact h.closest c hc
  largest c hc htie := by
    rcases List.mem_cons.1 hc with rfl | hc
    · exact hdiv htie
    · exact h.largest c hc htie

theorem perm (h : NearestAmong d cs x) {cs' : List ClockDivider} (hp : cs.Perm cs') :
    NearestAmong d cs' x :=
  ⟨hp.subset h.mem, fun c hc => h.closest c (hp.symm.subset hc),
    fun c hc => h.largest c (hp.symm.subset hc)⟩

end NearestAmong

theorem closer_cases (d : Nat) (best : ClockDivider × Nat) (c : ClockDivider) :
    (c.distance d ≤ best.2 ∧ closer d best c = (c, c.distance d)) ∨
      (best.2 < c.distance d ∧ closer d best c = best) := by
  unfold closer
  split
  · exact .inl ⟨‹_›, rfl⟩
  · exact .inr ⟨by omega, rfl⟩

theorem foldl_closer_nearestAmong (d : Nat) (l : List ClockDivider) :
    ∀ b : ClockDivider, (b :: l).Pairwise (fun x y => x.divisor < y.divisor) →
      (l.foldl (closer d) (b, b.distance d)).2 =
          (l.foldl (closer d) (b, b.distance d)).1.distance d ∧
        NearestAmong d (b :: l) (l.foldl (closer d) (b, b.distance d)).1 := by
  induction l with
  | nil => exact fun b _ => ⟨rfl, by simp, by simp, by simp⟩
  | cons c l ih =>
    intro b hsorted
    have hb : ∀ x ∈ c :: l, b.divisor < x.divisor := (List.pairwise_cons.1 hsorted).1
    have hcl : (c :: l).Pairwise (fun x y => x.divisor < y.divisor) :=
      (List.pairwise_cons.1 hsorted).2
    rw [List.foldl_cons]
    rcases closer_cases d (b, b.distance d) c with ⟨hle, hstep⟩ | ⟨hlt, hstep⟩
    · -- `c` takes over: the rest of the scan starts from `c`, and `b` is smaller than all of it
      rw [hstep]
      obtain ⟨hdist, hnear⟩ := ih c hcl
      exact ⟨hdist, hnear.cons ((hnear.closest c (by simp)).trans hle)
        fun _ => (hb _ hnear.mem).le⟩
    · -- `b` stays: `c` is strictly farther than everything the scan keeps
      rw [hstep]
      have hbl : (b :: l).Pairwise (fun x y => x.divisor < y.divisor) :=
        List.pairwise_cons.2
          ⟨fun x hx => hb x (List.mem_cons_of_mem _ hx), (List.pairwise_cons.1 hcl).2⟩
      obtain ⟨hdist, hnear⟩ := ih b hbl
      have hfar : (l.foldl (closer d) (b, b.distance d)).1.distance d < c.distance d :=
        lt_of_le_of_lt (hnear.closest b (by simp)) hlt
      exact ⟨hdist,
        (hnear.cons hfar.le fun htie => absurd htie hfar.ne').perm (List.Perm.swap b c l)⟩

theorem all_pairwise : all.Pairwise (fun x y => x.divisor < y.divisor) := by decide

theorem mem_all (c : ClockDivider) : c ∈ all := by cases c <;> decide

theorem ofDivisor?_eq_some_iff {d : Nat} {c : ClockDivider} :
    ofDivisor? d = some c ↔ c.divisor = d := by
  constructor
  · intro h
    simpa using List.find?_some h
  · intro h
    obtain ⟨c', hc'⟩ := Option.isSome_iff_exists.1
      (List.find?_isSome.2 ⟨c, mem_all c, by simp [h]⟩ : (ofDivisor? d).isSome)
    have hdiv : c'.divisor = d := by simpa using List.find?_some hc'
    rw [show ofDivisor? d = some c' from hc', divisor_injective (hdiv.trans h.symm)]

theorem exists_divisor_eq_iff {d : Nat} :
    (∃ c : ClockDivider, c.divisor = d) ↔ d ∈ [2, 4, 8, 16, 32, 64, 128] := by
  constructor
  · rintro ⟨c, rfl⟩
    cases c <;> decide
  · intro h
    simp only [List.mem_cons, List.not_mem_nil, or_false] at h
    rcases h with rfl | rfl | rfl | rfl | rfl | rfl | rfl
    exacts [⟨div2, rfl⟩, ⟨div4, rfl⟩, ⟨div8, rfl⟩, ⟨div16, rfl⟩, ⟨div32, rfl⟩,
      ⟨div64, rfl⟩, ⟨div128, rfl⟩]

theorem nearest_of_ofDivisor? {d : Nat} {c : ClockDivider} (h : ofDivisor? d = some c) :
    nearest d = c := by
  simp only [nearest, h]

/-- For every divisor that fits in 32 bits the answer is the largest of the closest dividers.
Past that the starting distance `UInt32.size - 1` would be beaten by no candidate. -/
theorem nearestAmong_nearest {d : Nat} (hd : d < UInt32.size) :
    NearestAmong d all (nearest d) := by
  cases hexact : ofDivisor? d with
  | some c =>
    rw [nearest_of_ofDivisor? hexact]
    have hc : c.distance d = 0 := distance_eq_zero.2 (ofDivisor?_eq_some_iff.1 hexact)
    refine ⟨mem_all c, fun c' _ => by omega, fun c' _ htie => ?_⟩
    have hdiv : c'.divisor = c.divisor :=
      (distance_eq_zero.1 (htie.trans hc)).trans (ofDivisor?_eq_some_iff.1 hexact).symm
    rw [divisor_injective hdiv]
  | none =>
    -- the fastest divider always beats the starting distance, so the scan starts from it
    have hfirst : closer d (div2, UInt32.size - 1) div2 = (div2, div2.distance d) := by
      rcases closer_cases d (div2, UInt32.size - 1) div2 with ⟨_, h⟩ | ⟨hlt, _⟩
      · exact h
      · exact absurd hlt (Nat.not_lt.2 (distance_lt_of_lt div2 hd).le)
    simp only [nearest, hexact, all, List.foldl_cons, hfirst]
    exact (foldl_closer_nearestAmong d _ div2 all_pairwise).2

example : nearest 3 = div4 := by decide

example : nearest 48 = div64 := by decide

example : nearest 100 = div128 := by decide

/-- The divider programmed for a 32-bit divisor: a closest supported one, the larger on a tie;
an exact match exactly for the seven supported divisors, and then the same divider; and a link
asked for the divisor programs that divider and returns it. -/
theorem nearest_divider_closest_then_slowest (d : UInt32) :
    (∀ c ∈ all, |((nearest d.toNat).divisor : ℤ) - d.toNat| ≤ |(c.divisor : ℤ) - d.toNat|) ∧
    (∀ c ∈ all, |(c.divisor : ℤ) - d.toNat| = |((nearest d.toNat).divisor : ℤ) - d.toNat| →
      c.divisor ≤ (nearest d.toNat).divisor) ∧
    (∀ c, ofDivisor? d.toNat = some c ↔
      d.toNat ∈ [2, 4, 8, 16, 32, 64, 128] ∧ c = nearest d.toNat) ∧
    (∀ (σ : Type) [SpiLink σ] (s s' : σ),
      (SpiLink.setDivider (nearest d.toNat) : EStateM BusFault σ Unit) s = .ok () s' →
        (SpiLink.setDivisor d : EStateM BusFault σ ClockDivider) s = .ok (nearest d.toNat) s') ∧
    (∀ (σ : Type) [SpiLink σ] (s s' : σ) (e : BusFault),
      (SpiLink.setDivider (nearest d.toNat) : EStateM BusFault σ Unit) s = .error e s' →
        (SpiLink.setDivisor d : EStateM BusFault σ ClockDivider) s = .error e s') := by
  have hnear := nearestAmong_nearest d.toNat_lt
  refine ⟨fun c hc => ?closest, fun c hc htie => ?largest, fun c => ?exact, ?ok, ?error⟩
  case closest =>
    rw [← distance_eq_abs, ← distance_eq_abs]
    exact_mod_cast hnear.closest c hc
  case largest =>
    rw [← distance_eq_abs, ← distance_eq_abs] at htie
    exact hnear.largest c hc (by exact_mod_cast htie)
  case exact =>
    constructor
    · intro h
      exact ⟨exists_divisor_eq_iff.1 ⟨c, ofDivisor?_eq_some_iff.1 h⟩,
        (nearest_of_ofDivisor? h).symm⟩
    · rintro ⟨hmem, rfl⟩
      obtain ⟨c', hc'⟩ := exists_divisor_eq_iff.2 hmem
      have h : ofDivisor? d.toNat = some c' := ofDivisor?_eq_some_iff.2 hc'
      rw [h, nearest_of_ofDivisor? h]
  case ok =>
    intro σ _ s s' h
    simp only [SpiLink.setDivisor, bind, EStateM.bind, h]
    rfl
  case error =>
    intro σ _ s s' e h
    simp only [SpiLink.setDivisor, bind, EStateM.bind, h]

end PinballAudio.ClockDivider

namespace PinballAudio.SampleTimer

/-- The reload value is one less than the number of kernel-clock ticks nearest to the sample
period, halves rounding up: `r + 1` ticks are within half a tick of the period. -/
theorem autoReload_eq_some_iff (k : UInt32) (r : UInt16) :
    autoReload k = some r ↔
      2 * (r.toNat + 1) * Board.timerClockHz.toNat ≤
          2 * ((Board.sampleTimerCompare.toNat + 1) * k.toNat) + Board.timerClockHz.toNat ∧
        2 * ((Board.sampleTimerCompare.toNat + 1) * k.toNat) + Board.timerClockHz.toNat <
          2 * (r.toNat + 2) * Board.timerClockHz.toNat := by
  have hT : Board.timerClockHz.toNat = 16000000 := rfl
  have hP : Board.sampleTimerCompare.toNat + 1 = 2902 := rfl
  have hr := r.toNat_lt
  unfold autoReload
  simp only [hT, hP]
  split_ifs with h0 h1
  · simp only [false_iff, not_and, not_lt]
    omega
  · simp only [false_iff, not_and, not_lt]
    omega
  · have hsize : UInt16.size = 65536 := rfl
    rw [Option.some.injEq, ← UInt16.toNat_inj, UInt16.toNat_ofNat_of_lt' (by omega)]
    omega

example : autoReload Board.timerKernelHz = some 36274 := by decide

example : autoReload Board.timerClockHz = some 2901 := by decide

end PinballAudio.SampleTimer
