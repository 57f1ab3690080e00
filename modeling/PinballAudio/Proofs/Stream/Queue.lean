import Mathlib
import PinballAudio.Stream.RefillQueue

/-!
# The refill queue keeps one message per half

The queue holds the vacated halves in a list and keeps a pending flag per half. The two are one
set written twice: `RefillQueue.Consistent` says the list has no repeated half and each flag is
set exactly while its half is in the list. Every operation keeps it, so a queue of depth two
never fills, the rollback branch of `post` is dead, and a post is accepted exactly when its half
is not pending.

A run of operations is recorded as a list of `QueueNote`s. `RefillQueue.Trace` relates a queue,
the notes of a run and the queue it ends in; along a trace the queued halves, the accepted posts
and the received halves obey the conservation law of a first-in first-out queue.
-/

namespace PinballAudio

namespace RefillQueue

def enqueue (q : RefillQueue) (h : Half) : RefillQueue :=
  { (q.setPending h true) with queued := q.queued ++ [h] }

@[simp] theorem isPending_setPending (q : RefillQueue) (h : Half) (v : Bool) :
    (q.setPending h v).isPending h = v := by
  cases h <;> rfl

@[simp] theorem isPending_setPending_other (q : RefillQueue) (h : Half) (v : Bool) :
    (q.setPending h v).isPending h.other = q.isPending h.other := by
  cases h <;> rfl

@[simp] theorem isPending_withQueued (q : RefillQueue) (l : List Half) (h : Half) :
    ({ q with queued := l } : RefillQueue).isPending h = q.isPending h := by
  cases h <;> rfl

@[simp] theorem queued_enqueue (q : RefillQueue) (h : Half) :
    (q.enqueue h).queued = q.queued ++ [h] := rfl

@[simp] theorem isPending_enqueue (q : RefillQueue) (h : Half) :
    (q.enqueue h).isPending h = true := by
  cases h <;> rfl

@[simp] theorem isPending_enqueue_other (q : RefillQueue) (h : Half) :
    (q.enqueue h).isPending h.other = q.isPending h.other := by
  cases h <;> rfl

theorem eq_or_eq_other (h h' : Half) : h' = h ∨ h' = h.other := by
  cases h <;> cases h' <;> simp [Half.other]

theorem length_lt_of_nodup_of_not_mem {l : List Half} {h : Half} (hl : l.Nodup) (hh : h ∉ l) :
    l.length < 2 := by
  rcases l with _ | ⟨a, _ | ⟨b, rest⟩⟩
  · simp
  · simp
  · have hab : a ≠ b := fun e => (List.nodup_cons.1 hl).1 (by simp [e])
    have ha : a ≠ h := fun e => hh (by simp [e])
    have hb : b ≠ h := fun e => hh (by simp [e])
    cases a <;> cases b <;> cases h <;> simp_all

/-- The list and the flags describe the same set of halves, each queued once. -/
structure Consistent (q : RefillQueue) : Prop where
  nodup : q.queued.Nodup
  isPending_iff : ∀ h, q.isPending h = true ↔ h ∈ q.queued

theorem consistent_empty : Consistent {} :=
  ⟨List.nodup_nil, fun h => by cases h <;> simp [isPending]⟩

theorem length_le_two_of_nodup {l : List Half} (hl : l.Nodup) : l.length ≤ 2 := by
  cases l with
  | nil => simp
  | cons a t =>
    have ht := length_lt_of_nodup_of_not_mem (List.nodup_cons.1 hl).2 (List.nodup_cons.1 hl).1
    simp only [List.length_cons]
    omega

theorem Consistent.len_le_two {q : RefillQueue} (hq : q.Consistent) : q.len ≤ 2 :=
  length_le_two_of_nodup hq.nodup

theorem Consistent.length_lt_depth {q : RefillQueue} (hq : q.Consistent) {h : Half}
    (hh : q.isPending h = false) : q.queued.length < Board.refillQueueDepth := by
  have hmem : h ∉ q.queued := fun hm => by simp [(hq.isPending_iff h).2 hm] at hh
  exact length_lt_of_nodup_of_not_mem hq.nodup hmem

theorem post_cases (q : RefillQueue) (h : Half) :
    q.post h = (false, q) ∨ q.post h = (true, q.enqueue h) := by
  unfold post
  split
  · exact .inl rfl
  · split
    · exact .inr rfl
    · exact .inl rfl

/-- On a consistent queue a post is refused exactly when its half is pending, and then nothing
changes; otherwise the half goes to the tail. -/
theorem Consistent.post_eq {q : RefillQueue} (hq : q.Consistent) (h : Half) :
    q.post h = if q.isPending h then (false, q) else (true, q.enqueue h) := by
  cases hp : q.isPending h
  · simp [post, hp, hq.length_lt_depth hp, enqueue]
  · simp [post, hp]

theorem Consistent.enqueue {q : RefillQueue} (hq : q.Consistent) {h : Half}
    (hh : q.isPending h = false) : (q.enqueue h).Consistent := by
  have hmem : h ∉ q.queued := fun hm => by simp [(hq.isPending_iff h).2 hm] at hh
  have hdisj : ∀ a ∈ q.queued, ∀ b ∈ [h], a ≠ b := by
    rintro a ha b hb rfl
    exact hmem (List.mem_singleton.1 hb ▸ ha)
  refine ⟨List.nodup_append.2 ⟨hq.nodup, by simp, hdisj⟩, ?_⟩
  intro h'
  rcases eq_or_eq_other h h' with rfl | rfl
  · simp
  · have hne : h.other ≠ h := Half.other_ne h
    simp [hq.isPending_iff, hne]

theorem Consistent.post {q : RefillQueue} (hq : q.Consistent) (h : Half) :
    (q.post h).2.Consistent := by
  rw [hq.post_eq h]
  cases hp : q.isPending h
  · simpa using hq.enqueue hp
  · simpa using hq

theorem Consistent.tryNext_some {q r : RefillQueue} (hq : q.Consistent) {h : Half}
    (ht : q.tryNext = (some h, r)) :
    q.queued = h :: r.queued ∧ r.isPending h = false ∧ r.isPending h.other = q.isPending h.other ∧
      r.Consistent := by
  unfold tryNext at ht
  split at ht
  · simp at ht
  · rename_i h₀ rest hcons
    obtain ⟨rfl, rfl⟩ := Prod.mk.inj ht |>.imp Option.some.inj id
    have hnd := hcons ▸ hq.nodup
    refine ⟨by simp [hcons], by simp, by simp, ?_⟩
    refine ⟨by simpa using (List.nodup_cons.1 hnd).2, ?_⟩
    intro h'
    rcases eq_or_eq_other h₀ h' with rfl | rfl
    · simpa using (List.nodup_cons.1 hnd).1
    · have hne : h₀.other ≠ h₀ := Half.other_ne h₀
      simp [hq.isPending_iff, hcons, hne]

theorem tryNext_none {q r : RefillQueue} (ht : q.tryNext = (none, r)) : r = q ∧ q.queued = [] := by
  unfold tryNext at ht
  split at ht
  · rename_i hnil
    exact ⟨(Prod.mk.inj ht).2.symm, hnil⟩
  · simp at ht

end RefillQueue

/-- What an operation on the queue shows: a post of a half with its outcome, or a half taken
off the queue. -/
inductive QueueNote where
  | posted (h : Half) (accepted : Bool)
  | received (h : Half)
  deriving DecidableEq, Repr

namespace QueueNote

def acceptedHalf? : QueueNote → Option Half
  | posted h true => some h
  | posted _ false => none
  | received _ => none

def receivedHalf? : QueueNote → Option Half
  | posted _ _ => none
  | received h => some h

def isRefused : QueueNote → Bool
  | posted _ accepted => !accepted
  | received _ => false

end QueueNote

def acceptedHalves (ns : List QueueNote) : List Half := ns.filterMap QueueNote.acceptedHalf?

def receivedHalves (ns : List QueueNote) : List Half := ns.filterMap QueueNote.receivedHalf?

def refusedPosts (ns : List QueueNote) : Nat := ns.countP QueueNote.isRefused

@[simp] theorem acceptedHalves_nil : acceptedHalves [] = [] := rfl

@[simp] theorem acceptedHalves_cons (n : QueueNote) (ns : List QueueNote) :
    acceptedHalves (n :: ns) = n.acceptedHalf?.toList ++ acceptedHalves ns := by
  cases h : n.acceptedHalf? <;> simp [acceptedHalves, h]

@[simp] theorem acceptedHalves_append (ns ms : List QueueNote) :
    acceptedHalves (ns ++ ms) = acceptedHalves ns ++ acceptedHalves ms :=
  List.filterMap_append

@[simp] theorem receivedHalves_nil : receivedHalves [] = [] := rfl

@[simp] theorem receivedHalves_cons (n : QueueNote) (ns : List QueueNote) :
    receivedHalves (n :: ns) = n.receivedHalf?.toList ++ receivedHalves ns := by
  cases h : n.receivedHalf? <;> simp [receivedHalves, h]

@[simp] theorem receivedHalves_append (ns ms : List QueueNote) :
    receivedHalves (ns ++ ms) = receivedHalves ns ++ receivedHalves ms :=
  List.filterMap_append

@[simp] theorem refusedPosts_nil : refusedPosts [] = 0 := rfl

@[simp] theorem refusedPosts_cons (n : QueueNote) (ns : List QueueNote) :
    refusedPosts (n :: ns) = refusedPosts ns + if n.isRefused then 1 else 0 := by
  cases h : n.isRefused <;> simp [refusedPosts, h]

@[simp] theorem refusedPosts_append (ns ms : List QueueNote) :
    refusedPosts (ns ++ ms) = refusedPosts ns + refusedPosts ms :=
  List.countP_append

/-- An operation on the queue: a post by the sample interrupt, or a reception by the refill
task (`try_next`). -/
inductive QueueOp where
  | post (h : Half)
  | receive
  deriving DecidableEq, Repr

namespace RefillQueue

/-- `Trace q ns q'`: operations starting at `q` show the notes `ns` and leave `q'`. A reception
from an empty queue changes nothing and shows nothing, so it needs no rule. -/
inductive Trace : RefillQueue → List QueueNote → RefillQueue → Prop
  | nil (q : RefillQueue) : Trace q [] q
  | post {q q' : RefillQueue} {ns : List QueueNote} (h : Half) :
      Trace (q.post h).2 ns q' → Trace q (.posted h (q.post h).1 :: ns) q'
  | receive {q r q' : RefillQueue} {ns : List QueueNote} {h : Half} :
      q.tryNext = (some h, r) → Trace r ns q' → Trace q (.received h :: ns) q'

theorem Trace.append {q q' q'' : RefillQueue} {ns ms : List QueueNote} (h₁ : Trace q ns q')
    (h₂ : Trace q' ms q'') : Trace q (ns ++ ms) q'' := by
  induction h₁ with
  | nil => exact h₂
  | post h _ ih => exact .post h (ih h₂)
  | receive ht _ ih => exact .receive ht (ih h₂)

theorem Trace.consistent {q q' : RefillQueue} {ns : List QueueNote} (ht : Trace q ns q')
    (hq : q.Consistent) : q'.Consistent := by
  induction ht with
  | nil => exact hq
  | post h _ ih => exact ih (hq.post h)
  | receive hn _ ih => exact ih (hq.tryNext_some hn).2.2.2

/-- First in, first out: what was queued at the start followed by what was accepted is what was
received followed by what is queued at the end. -/
theorem Trace.conservation {q q' : RefillQueue} {ns : List QueueNote} (ht : Trace q ns q') :
    q.queued ++ acceptedHalves ns = receivedHalves ns ++ q'.queued := by
  induction ht with
  | nil => simp
  | @post q q' ns h _ ih =>
    rcases post_cases q h with hp | hp <;> rw [hp] at ih ⊢ <;>
      simpa [QueueNote.acceptedHalf?, QueueNote.receivedHalf?] using ih
  | @receive q r q' ns h hn _ ih =>
    unfold tryNext at hn
    split at hn
    · simp at hn
    · rename_i h₀ rest hcons
      obtain ⟨rfl, rfl⟩ := Prod.mk.inj hn |>.imp Option.some.inj id
      simp [QueueNote.acceptedHalf?, QueueNote.receivedHalf?, hcons, ← ih]

/-- Run operations from `q`, collecting what each shows. -/
def replay : List QueueOp → RefillQueue → List QueueNote × RefillQueue
  | [], q => ([], q)
  | .post h :: ops, q =>
    let (ns, q') := replay ops (q.post h).2
    (.posted h (q.post h).1 :: ns, q')
  | .receive :: ops, q =>
    match q.tryNext with
    | (some h, r) => let (ns, q') := replay ops r; (.received h :: ns, q')
    | (none, r) => replay ops r

theorem replay_trace (ops : List QueueOp) (q : RefillQueue) :
    Trace q (replay ops q).1 (replay ops q).2 := by
  induction ops generalizing q with
  | nil => exact .nil q
  | cons op ops ih =>
    cases op with
    | post h => exact .post h (ih _)
    | receive =>
      rcases ht : q.tryNext with ⟨_ | h, r⟩
      · obtain ⟨rfl, -⟩ := tryNext_none ht
        simpa [replay, ht] using ih _
      · simpa [replay, ht] using Trace.receive ht (ih r)

end RefillQueue

end PinballAudio
