import PinballAudio.Proofs.Stream.Session

/-!
# Which halves the refill task receives

The sample interrupt posts the half it leaves, so its posts alternate: from play index zero the
post made after `a` earlier posts is of the half of parity `a`. The queue refuses a post whose
half is still queued, and the refill task receives the accepted posts in order. So the halves it
receives are the alternating posts with the refused ones taken out: the `k`-th received half is
the half of parity `k + r`, where `r` posts were refused before that message was posted. The
received halves alternate exactly when every such `r` is even; a refused post of one half followed
by an accepted post of the other, as when the task drains both halves before the interrupt posts
again, makes the task receive the same half twice in a row.
-/

namespace PinballAudio

def Half.ofParity (n : Nat) : Half := if n % 2 = 0 then .lower else .upper

namespace Half

theorem ofParity_succ (n : Nat) : ofParity (n + 1) = (ofParity n).other := by
  unfold ofParity
  by_cases hn : n % 2 = 0
  · simp [hn, Nat.add_mod, other]
  · have h1 : n % 2 = 1 := by omega
    simp [h1, Nat.add_mod, other]

theorem ofParity_add_eq_iff (k r : Nat) : ofParity (k + r) = ofParity k ↔ r % 2 = 0 := by
  unfold ofParity
  by_cases hk : k % 2 = 0 <;> by_cases hr : r % 2 = 0 <;> simp [hk, hr, Nat.add_mod]
  omega

end Half

namespace QueueNote

def postedHalf? : QueueNote → Option Half
  | posted h _ => some h
  | received _ => none

end QueueNote

def postedHalves (ns : List QueueNote) : List Half := ns.filterMap QueueNote.postedHalf?

@[simp] theorem postedHalves_nil : postedHalves [] = [] := rfl

@[simp] theorem postedHalves_posted (h : Half) (ok : Bool) (ns : List QueueNote) :
    postedHalves (.posted h ok :: ns) = h :: postedHalves ns := rfl

@[simp] theorem postedHalves_received (h : Half) (ns : List QueueNote) :
    postedHalves (.received h :: ns) = postedHalves ns := rfl

@[simp] theorem postedHalves_append (ns ms : List QueueNote) :
    postedHalves (ns ++ ms) = postedHalves ns ++ postedHalves ms :=
  List.filterMap_append

/-- For each accepted post of a run, in order, the number of posts refused before it, counting
from `r`. -/
def refusalsBefore (r : Nat) : List QueueNote → List Nat
  | [] => []
  | .posted _ true :: ns => r :: refusalsBefore r ns
  | .posted _ false :: ns => refusalsBefore (r + 1) ns
  | .received _ :: ns => refusalsBefore r ns

theorem length_refusalsBefore (r : Nat) (ns : List QueueNote) :
    (refusalsBefore r ns).length = (acceptedHalves ns).length := by
  induction ns generalizing r with
  | nil => rfl
  | cons n ns ih =>
    rcases n with ⟨h, _ | _⟩ | h <;>
      simp [refusalsBefore, ih, QueueNote.acceptedHalf?]

/-- When the posts of a run alternate from parity `k + r`, the accepted ones are, in order, the
halves of parity `k + i + r'`, where `r'` counts the refusals before the `i`-th of them. -/
theorem acceptedHalves_eq_parity (ns : List QueueNote) (k r : Nat)
    (hns : postedHalves ns = (List.range' (k + r) (postedHalves ns).length).map Half.ofParity) :
    acceptedHalves ns =
      ((refusalsBefore r ns).zipIdx k).map fun p => Half.ofParity (p.2 + p.1) := by
  induction ns generalizing k r with
  | nil => rfl
  | cons n ns ih =>
    rcases n with ⟨h, _ | _⟩ | h
    · simp only [postedHalves_posted, List.length_cons, List.range'_succ, List.map_cons,
        List.cons.injEq] at hns
      have hrest := ih k (r + 1) (by rw [show k + (r + 1) = k + r + 1 by omega]; exact hns.2)
      simpa [refusalsBefore, QueueNote.acceptedHalf?] using hrest
    · simp only [postedHalves_posted, List.length_cons, List.range'_succ, List.map_cons,
        List.cons.injEq] at hns
      have hrest := ih (k + 1) r (by rw [show k + 1 + r = k + r + 1 by omega]; exact hns.2)
      simp [refusalsBefore, QueueNote.acceptedHalf?, hns.1, hrest]
    · simpa [refusalsBefore, QueueNote.acceptedHalf?] using ih k r (by simpa using hns)

def AlternatesFrom (a : Nat) (l : List Half) : Prop :=
  l = (List.range' a l.length).map Half.ofParity

theorem alternatesFrom_append {a : Nat} {l₁ l₂ : List Half} :
    AlternatesFrom a (l₁ ++ l₂) ↔ AlternatesFrom a l₁ ∧ AlternatesFrom (a + l₁.length) l₂ := by
  unfold AlternatesFrom
  rw [List.length_append, ← List.range'_append_1, List.map_append]
  constructor
  · intro h
    exact List.append_inj h (by simp)
  · rintro ⟨h₁, h₂⟩
    rw [← h₁, ← h₂]

theorem zipIdx_parity_eq_iff (l : List Nat) (k : Nat) :
    (l.zipIdx k).map (fun p => Half.ofParity (p.2 + p.1)) =
        (List.range' k l.length).map Half.ofParity ↔ ∀ r ∈ l, r % 2 = 0 := by
  induction l generalizing k with
  | nil => simp
  | cons r l ih =>
    simp only [List.zipIdx_cons, List.map_cons, List.length_cons, List.range'_succ,
      List.cons.injEq, Half.ofParity_add_eq_iff, ih, List.mem_cons, forall_eq_or_imp]

theorem take_zipIdx (l : List Nat) (k n : Nat) : (l.zipIdx k).take n = (l.take n).zipIdx k := by
  induction l generalizing k n with
  | nil => simp
  | cons r l ih =>
    cases n with
    | zero => simp
    | succ n => simp [ih]

namespace Consumer

theorem vacatedAt_succ {i : Nat} (hi : i < Board.ringCapacity) :
    vacatedAt (i + 1) =
      if i + 1 = Board.halfCapacity ∨ i + 1 = Board.ringCapacity then some (Half.containing i)
      else none := by
  have hh : Board.halfCapacity = 200 := rfl
  have hr : Board.ringCapacity = 400 := rfl
  rw [hr] at hi
  by_cases h₁ : i + 1 = 200
  · simp [vacatedAt, Half.containing, hh, hr, h₁, show i < 200 by omega]
  · by_cases h₂ : i + 1 = 400
    · simp [vacatedAt, Half.containing, hh, hr, h₂, show ¬ i < 200 by omega]
    · simp [vacatedAt, hh, hr, h₁, h₂, show ¬ 400 ≤ i + 1 by omega]

theorem nextIndex_lt (i : Nat) : nextIndex i < Board.ringCapacity := by
  unfold nextIndex Board.ringCapacity
  split <;> omega

theorem containing_nextIndex {i : Nat} (hi : i < Board.ringCapacity) :
    Half.containing (nextIndex i) =
      if i + 1 = Board.halfCapacity ∨ i + 1 = Board.ringCapacity then (Half.containing i).other
      else Half.containing i := by
  have hh : Board.halfCapacity = 200 := rfl
  have hr : Board.ringCapacity = 400 := rfl
  rw [hr] at hi
  by_cases h₁ : i + 1 = 200
  · simp [nextIndex, Half.containing, Half.other, hh, hr, h₁, show i < 200 by omega]
  · by_cases h₂ : i + 1 = 400
    · simp [nextIndex, Half.containing, Half.other, hh, hr, h₂, show ¬ i < 200 by omega]
    · have hlt : ¬ 400 ≤ i + 1 := by omega
      by_cases h₃ : i < 200
      · simp [nextIndex, Half.containing, hh, hr, h₁, h₂, hlt, h₃, show i + 1 < 200 by omega]
      · simp [nextIndex, Half.containing, hh, hr, h₁, h₂, hlt, h₃, show ¬ i + 1 < 200 by omega]

end Consumer

/-- The queue operations of a schedule run from play index `i`: a tick posts the half it
leaves, if it leaves one, and a service takes the oldest message. -/
def queueOps : Nat → List StreamEvent → List QueueOp
  | _, [] => []
  | i, .tick :: es =>
    ((Consumer.vacatedAt (i + 1)).map QueueOp.post).toList ++ queueOps (Consumer.nextIndex i) es
  | i, .serve :: es => .receive :: queueOps i es

namespace StreamSession

variable {κ ε δ : Type} [SampleSink κ ε] [BlockDevice δ]

theorem step_posts (e : StreamEvent) (s : StreamSession κ δ) {a : Nat}
    (hi : s.consumer.index < Board.ringCapacity)
    (ha : Half.containing s.consumer.index = Half.ofParity a) :
    AlternatesFrom a (postedHalves (queueNotes (step e s).1)) ∧
      Half.containing (step e s).2.consumer.index =
        Half.ofParity (a + (postedHalves (queueNotes (step e s).1)).length) ∧
      (step e s).2.consumer.index < Board.ringCapacity := by
  cases e with
  | tick =>
    rw [step_tick]
    refine ⟨?_, ?_, Consumer.nextIndex_lt _⟩ <;>
      simp only [Consumer.vacatedAt_succ hi, Consumer.containing_nextIndex hi] <;>
      by_cases hl : s.consumer.index + 1 = Board.halfCapacity ∨
        s.consumer.index + 1 = Board.ringCapacity <;>
      simp [hl, AlternatesFrom, ha, Half.ofParity_succ]
  | serve =>
    simp only [step]
    rcases s.pipeline.queue.tryNext with ⟨_ | h, r⟩ <;> simpa [AlternatesFrom] using ⟨ha, hi⟩

/-- From any play index, the posts of a run alternate, beginning with the half the play index
is in. -/
theorem run_posts (es : List StreamEvent) (s : StreamSession κ δ) {a : Nat}
    (hi : s.consumer.index < Board.ringCapacity)
    (ha : Half.containing s.consumer.index = Half.ofParity a) :
    AlternatesFrom a (postedHalves (queueNotes (run es s).1)) ∧
      Half.containing (run es s).2.consumer.index =
        Half.ofParity (a + (postedHalves (queueNotes (run es s).1)).length) ∧
      (run es s).2.consumer.index < Board.ringCapacity := by
  induction es generalizing s a with
  | nil => simpa [AlternatesFrom] using ⟨ha, hi⟩
  | cons e es ih =>
    obtain ⟨hfirst, ha', hi'⟩ := step_posts e s hi ha
    obtain ⟨hrest, hend, hlt⟩ := ih (step e s).2 hi' ha'
    rw [run_cons, queueNotes_append, postedHalves_append]
    refine ⟨alternatesFrom_append.2 ⟨hfirst, hrest⟩, ?_, hlt⟩
    rw [hend, List.length_append, Nat.add_assoc]

/-- What a run notes of the queue depends only on the play index and the queue it starts from:
it is the replay of the schedule's queue operations. -/
theorem queueNotes_run (es : List StreamEvent) (s : StreamSession κ δ) :
    queueNotes (s.run es).1 =
      (RefillQueue.replay (queueOps s.consumer.index es) s.pipeline.queue).1 := by
  induction es generalizing s with
  | nil => rfl
  | cons e es ih =>
    rw [run_cons, queueNotes_append, ih]
    cases e with
    | tick =>
      rw [step_tick, queueOps]
      rcases hv : Consumer.vacatedAt (s.consumer.index + 1) with _ | h <;>
        simp [Consumer.queue_vacated, RefillQueue.replay]
    | serve =>
      rcases ht : s.pipeline.queue.tryNext with ⟨_ | h, r⟩ <;>
        simp [step, queueOps, RefillQueue.replay, ht]

end StreamSession

section Received

variable {κ ε δ : Type} [SampleSink κ ε] [BlockDevice δ]

/-- What the refill task receives, from a consumer at play index zero and an empty queue, over
every interleaving of ticks and services: the `k`-th half received is the half of parity
`k + r`, where `r` posts were refused before that message was posted. So the received halves
alternate lower, upper, lower, … exactly when each received message was posted after an even
number of refused posts. -/
theorem received_halves_follow_refusals (c : Consumer κ) (pr : Producer) (dev : δ)
    (p : Pipeline) (es : List StreamEvent) :
    let s : StreamSession κ δ := ⟨{ c with index := 0 }, pr, dev, { p with queue := {} }⟩
    let ns := queueNotes (s.run es).1
    receivedHalves ns <+:
        ((refusalsBefore 0 ns).zipIdx).map (fun q => Half.ofParity (q.2 + q.1)) ∧
      (receivedHalves ns = (List.range (receivedHalves ns).length).map Half.ofParity ↔
        ∀ r ∈ (refusalsBefore 0 ns).take (receivedHalves ns).length, r % 2 = 0) := by
  intro s ns
  have hposts := (StreamSession.run_posts es s (a := 0)
    (show 0 < Board.ringCapacity by decide) (show Half.containing 0 = Half.ofParity 0 by decide)).1
  have haccepted : acceptedHalves ns =
      ((refusalsBefore 0 ns).zipIdx).map (fun q => Half.ofParity (q.2 + q.1)) :=
    acceptedHalves_eq_parity ns 0 0 hposts
  have hfifo : receivedHalves ns ++ (s.run es).2.pipeline.queue.queued = acceptedHalves ns := by
    simpa [s] using (StreamSession.run_trace es s).conservation.symm
  have hprefix : receivedHalves ns <+: acceptedHalves ns := ⟨_, hfifo⟩
  refine ⟨haccepted ▸ hprefix, ?_⟩
  have hlen : (receivedHalves ns).length ≤ (refusalsBefore 0 ns).length := by
    rw [length_refusalsBefore]
    exact hprefix.length_le
  have htake := List.prefix_iff_eq_take.1 (haccepted ▸ hprefix)
  have hpredicted : (((refusalsBefore 0 ns).zipIdx).map fun q => Half.ofParity (q.2 + q.1)).take
      (receivedHalves ns).length =
      (((refusalsBefore 0 ns).take (receivedHalves ns).length).zipIdx).map
        fun q => Half.ofParity (q.2 + q.1) := by
    rw [← List.map_take, take_zipIdx]
  have key := zipIdx_parity_eq_iff ((refusalsBefore 0 ns).take (receivedHalves ns).length) 0
  rw [List.length_take_of_le hlen, ← List.range_eq_range', ← hpredicted, ← htake] at key
  exact key

theorem late_producer_receives_upper_twice (c : Consumer κ) (pr : Producer) (dev : δ)
    (p : Pipeline) :
    let s : StreamSession κ δ := ⟨{ c with index := 0 }, pr, dev, { p with queue := {} }⟩
    receivedHalves (queueNotes (s.run (List.replicate 600 .tick ++ [.serve, .serve] ++
      List.replicate 200 .tick ++ [.serve])).1) = [.lower, .upper, .upper] := by
  intro s
  rw [StreamSession.queueNotes_run]
  change receivedHalves (RefillQueue.replay (queueOps 0 _) {}).1 = _
  decide +kernel

end Received

end PinballAudio
