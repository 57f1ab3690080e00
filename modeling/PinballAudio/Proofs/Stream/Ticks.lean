import PinballAudio.Proofs.Stream.Punctual

/-!
# Runs of the sample interrupt

`n` ticks of the consumer in a row, with no refill in between. The play index walks the ring and
wraps, so from play index `i` tick `j` plays slot `(i + j) % 400`. A tick leaves the lower half
when it moves the index to 200 and the upper half when it wraps it to 0, so the halves it leaves
alternate. A tick that starts at the first slot of a half takes that half's ready flag: the first
such tick of a run finds the flag as the run found it, every later one finds it taken. A refused
sample counts a stall and nothing else.
-/

namespace PinballAudio

namespace SampleSink

variable {κ ε : Type} [SampleSink κ ε]

def writeAll : List UInt8 → κ → List (Except ε Unit) × κ
  | [], k => ([], k)
  | v :: vs, k =>
    let (w, k') := writeSample v k
    let (ws, k'') := writeAll vs k'
    (w :: ws, k'')

def refusals (ws : List (Except ε Unit)) : Nat := ws.countP fun w => !w.toBool

theorem writeAll_concat (vs : List UInt8) (v : UInt8) (k : κ) :
    writeAll (vs ++ [v]) k =
      ((writeAll vs k).1 ++ [(writeSample v (writeAll vs k).2).1],
        (writeSample v (writeAll vs k).2).2) := by
  induction vs generalizing k with
  | nil => rfl
  | cons w vs ih => simp only [List.cons_append, writeAll, ih]

theorem refusals_concat (ws : List (Except ε Unit)) (w : Except ε Unit) :
    refusals (ws ++ [w]) = refusals ws + if w.toBool then 0 else 1 := by
  cases w <;> simp [refusals, Except.toBool]

end SampleSink

namespace Consumer

variable {κ ε : Type} [SampleSink κ ε]

def enteredAt (i : Nat) : Option Half :=
  if i = 0 then some .lower else if i = Board.halfCapacity then some .upper else none

def leftAt (i : Nat) : Option Half :=
  if i = Board.halfCapacity then some .lower else if i = 0 then some .upper else none

/-- `n` ticks in a row: the half each tick left, in order, and the consumer and pipeline after
them. -/
def ticks (c : Consumer κ) (p : Pipeline) : Nat → List (Option Half) × Consumer κ × Pipeline
  | 0 => ([], c, p)
  | n + 1 =>
    let (vs, c', p') := ticks c p n
    let (v, c'', p'') := c'.tick p'
    (vs ++ [v], c'', p'')

def played (r : AudioRing) (i n : Nat) : List UInt8 :=
  (List.range n).map fun j => r.sample ((i + j) % Board.ringCapacity)

def entriesFrom (i n : Nat) (h : Half) : Nat :=
  (List.range n).countP fun j => enteredAt ((i + j) % Board.ringCapacity) == some h

/-- How many of `n` ticks from play index `i` find the flag of the half they enter clear: clear
in the ring `r` the run started from, or taken by an earlier tick of the run. -/
def staleEntries (r : AudioRing) (i n : Nat) : Nat :=
  (List.range n).countP fun j =>
    (enteredAt ((i + j) % Board.ringCapacity)).any fun h =>
      !r.isReady h || decide (0 < entriesFrom i j h)

example : enteredAt 200 = some .upper ∧ leftAt 200 = some .lower ∧ leftAt 0 = some .upper := by
  decide

@[simp] theorem ticks_zero (c : Consumer κ) (p : Pipeline) : c.ticks p 0 = ([], c, p) := rfl

theorem ticks_succ (c : Consumer κ) (p : Pipeline) (n : Nat) :
    c.ticks p (n + 1) =
      ((c.ticks p n).1 ++ [((c.ticks p n).2.1.tick (c.ticks p n).2.2).1],
        ((c.ticks p n).2.1.tick (c.ticks p n).2.2).2) := rfl

theorem played_succ (r : AudioRing) (i n : Nat) :
    played r i (n + 1) = played r i n ++ [r.sample ((i + n) % Board.ringCapacity)] := by
  simp [played, List.range_succ]

theorem entriesFrom_succ (i n : Nat) (h : Half) :
    entriesFrom i (n + 1) h =
      entriesFrom i n h + if enteredAt ((i + n) % Board.ringCapacity) = some h then 1 else 0 := by
  simp [entriesFrom, List.range_succ, List.countP_append]

theorem staleEntries_succ (r : AudioRing) (i n : Nat) :
    staleEntries r i (n + 1) =
      staleEntries r i n +
        if (enteredAt ((i + n) % Board.ringCapacity)).any fun h =>
          !r.isReady h || decide (0 < entriesFrom i n h) then 1 else 0 := by
  simp only [staleEntries, List.range_succ, List.countP_append, List.countP_singleton]

theorem enteredAt_eq (i : Nat) :
    enteredAt i =
      if i = 0 ∨ i = Board.halfCapacity then some (Half.containing i) else none := by
  have hh : Board.halfCapacity = 200 := rfl
  by_cases h₀ : i = 0
  · simp [enteredAt, Half.containing, h₀, hh]
  · by_cases h₁ : i = 200 <;> simp [enteredAt, Half.containing, h₀, h₁, hh]

theorem vacatedAt_eq_leftAt {i : Nat} (hi : i < Board.ringCapacity) :
    vacatedAt (i + 1) = leftAt ((i + 1) % Board.ringCapacity) := by
  have hh : Board.halfCapacity = 200 := rfl
  have hr : Board.ringCapacity = 400 := rfl
  rw [hr] at hi ⊢
  by_cases h₁ : i + 1 = 400
  · simp [vacatedAt, leftAt, hh, hr, h₁]
  · rw [Nat.mod_eq_of_lt (by omega)]
    simp [vacatedAt, leftAt, hh, hr, show ¬ 400 ≤ i + 1 by omega]

@[simp] theorem ring_vacated (v : Option Half) (p : Pipeline) : (vacated v p).ring = p.ring := by
  cases v with
  | none => rfl
  | some h => by_cases hp : (p.queue.post h).1 <;> simp [vacated, hp, StreamStats.recordUnderrun]

@[simp] theorem staleHalves_vacated (v : Option Half) (p : Pipeline) :
    (vacated v p).stats.staleHalves = p.stats.staleHalves := by
  cases v with
  | none => rfl
  | some h => by_cases hp : (p.queue.post h).1 <;> simp [vacated, hp, StreamStats.recordUnderrun]

@[simp] theorem dacStalls_vacated (v : Option Half) (p : Pipeline) :
    (vacated v p).stats.dacStalls = p.stats.dacStalls := by
  cases v with
  | none => rfl
  | some h => by_cases hp : (p.queue.post h).1 <;> simp [vacated, hp, StreamStats.recordUnderrun]

@[simp] theorem ring_emitted (w : Except ε Unit) (p : Pipeline) : (emitted w p).ring = p.ring := by
  cases w <;> rfl

@[simp] theorem staleHalves_emitted (w : Except ε Unit) (p : Pipeline) :
    (emitted w p).stats.staleHalves = p.stats.staleHalves := by
  cases w <;> rfl

theorem dacStalls_emitted (w : Except ε Unit) (p : Pipeline) :
    (emitted w p).stats.dacStalls = p.stats.dacStalls + if w.toBool then 0 else 1 := by
  cases w <;> simp [emitted, StreamStats.recordDacStall, Except.toBool]

@[simp] theorem samples_entered (i : Nat) (p : Pipeline) :
    (entered i p).ring.samples = p.ring.samples := by
  unfold entered; split <;> simp

@[simp] theorem dacStalls_entered (i : Nat) (p : Pipeline) :
    (entered i p).stats.dacStalls = p.stats.dacStalls := by
  unfold entered; split
  · split <;> rfl
  · rfl

theorem isReady_entered (i : Nat) (p : Pipeline) (h : Half) :
    (entered i p).ring.isReady h = (p.ring.isReady h && !(enteredAt i == some h)) := by
  rw [entered, enteredAt_eq]
  split
  · rcases RefillQueue.eq_or_eq_other (Half.containing i) h with rfl | rfl
    · simp [AudioRing.isReady_setReady]
    · simp [AudioRing.isReady_setReady_other, Ne.symm (Half.other_ne _)]
  · simp

theorem staleHalves_entered (i : Nat) (p : Pipeline) :
    (entered i p).stats.staleHalves =
      p.stats.staleHalves + if (enteredAt i).any fun h => !p.ring.isReady h then 1 else 0 := by
  rw [entered, enteredAt_eq]
  split
  · cases hr : p.ring.isReady (Half.containing i) <;> simp [hr, StreamStats.recordStaleHalf]
  · simp

theorem leftAt_succ_mod (k : Nat) :
    leftAt ((k + 1) % Board.ringCapacity) =
      if (k + 1) % Board.halfCapacity = 0 then some (Half.ofParity (k / Board.halfCapacity))
      else none := by
  rw [← vacatedAt_mod k, vacatedAt_eq_leftAt (Nat.mod_lt k (by decide)), Nat.mod_add_mod]

theorem reduceOption_left (i n : Nat) :
    ((List.range n).map fun j => leftAt ((i + j + 1) % Board.ringCapacity)).reduceOption =
      (List.range' (i / Board.halfCapacity)
        ((i + n) / Board.halfCapacity - i / Board.halfCapacity)).map Half.ofParity := by
  have hh : Board.halfCapacity = 200 := rfl
  induction n with
  | zero => simp [List.reduceOption]
  | succ n ih =>
    simp only [List.reduceOption] at ih ⊢
    rw [List.range_succ, List.map_append, List.filterMap_append, ih, List.map_singleton,
      leftAt_succ_mod, Nat.add_assoc i n 1]
    by_cases hv : (i + n + 1) % Board.halfCapacity = 0
    · rw [if_pos (by rw [← Nat.add_assoc]; exact hv), hh] at *
      have hlen : (i + (n + 1)) / 200 - i / 200 = (i + n) / 200 - i / 200 + 1 := by omega
      rw [hlen, List.range'_concat, List.map_append]
      simp only [List.filterMap_cons, id, List.filterMap_nil, List.map_cons, List.map_nil]
      congr 3
      omega
    · rw [if_neg (by rw [← Nat.add_assoc]; exact hv), hh] at *
      have hlen : (i + (n + 1)) / 200 = (i + n) / 200 := by omega
      simp [hlen]

section Run

/-- What `n` ticks from consumer `c` and pipeline `p` leave in `r`: the halves left and the
index, the samples handed to the sink, the ring's slots untouched, its flags taken by the ticks
that entered their halves, and the stale halves and stalls counted. -/
structure Ticked (c : Consumer κ) (p : Pipeline) (n : Nat)
    (r : List (Option Half) × Consumer κ × Pipeline) : Prop where
  left : r.1 = (List.range n).map fun j => leftAt ((c.index + j + 1) % Board.ringCapacity)
  index : r.2.1.index = (c.index + n) % Board.ringCapacity
  sink : r.2.1.sink = (SampleSink.writeAll (played p.ring c.index n) c.sink).2
  samples : r.2.2.ring.samples = p.ring.samples
  ready : ∀ h, r.2.2.ring.isReady h = (p.ring.isReady h && entriesFrom c.index n h == 0)
  staleHalves : r.2.2.stats.staleHalves =
    p.stats.staleHalves + UInt32.ofNat (staleEntries p.ring c.index n)
  dacStalls : r.2.2.stats.dacStalls =
    p.stats.dacStalls +
      UInt32.ofNat (SampleSink.refusals (SampleSink.writeAll (played p.ring c.index n) c.sink).1)

theorem sample_eq_of_samples {r r' : AudioRing} (h : r'.samples = r.samples) (i : Nat) :
    r'.sample i = r.sample i := by
  simp only [AudioRing.sample, h]

variable {c : Consumer κ} {p : Pipeline}

theorem ticked_zero (hc : c.index < Board.ringCapacity) (p : Pipeline) :
    Ticked c p 0 (c.ticks p 0) where
  left := rfl
  index := (Nat.mod_eq_of_lt hc).symm
  sink := rfl
  samples := rfl
  ready h := by simp [entriesFrom]
  staleHalves := by simp [staleEntries]
  dacStalls := by simp [played, SampleSink.writeAll, SampleSink.refusals]

/-- One more tick plays the next slot, leaves a half when it reaches the end of one, and takes
the flag of the half it enters. -/
theorem Ticked.tick {n : Nat} {r : List (Option Half) × Consumer κ × Pipeline}
    (ht : Ticked c p n r) :
    Ticked c p (n + 1) (r.1 ++ [(r.2.1.tick r.2.2).1], (r.2.1.tick r.2.2).2) := by
  have hm : r.2.1.index < Board.ringCapacity := by rw [ht.index]; exact Nat.mod_lt _ (by decide)
  have hsample : r.2.2.ring.sample r.2.1.index =
      p.ring.sample ((c.index + n) % Board.ringCapacity) := by
    rw [sample_eq_of_samples ht.samples, ht.index]
  have hnext : (r.2.1.index + 1) % Board.ringCapacity =
      (c.index + n + 1) % Board.ringCapacity := by
    rw [ht.index, Nat.add_mod, Nat.mod_mod, ← Nat.add_mod]
  rw [tick_eq]
  constructor
  · simp only [ht.left, vacatedAt_eq_leftAt hm, hnext, List.range_succ, List.map_append,
      List.map_singleton, Nat.add_assoc]
  · simp only [ht.index, nextIndex_mod, Nat.add_assoc]
  · simp only [ht.sink, hsample, played_succ, SampleSink.writeAll_concat]
  · simp only [ring_vacated, ring_emitted, samples_entered, ht.samples]
  · intro h
    simp only [ring_vacated, ring_emitted, isReady_entered, ht.ready, ht.index,
      entriesFrom_succ]
    by_cases he : enteredAt ((c.index + n) % Board.ringCapacity) = some h <;> simp [he]
  · simp only [staleHalves_vacated, staleHalves_emitted, staleHalves_entered, ht.staleHalves,
      ht.index, staleEntries_succ, ht.ready, UInt32.ofNat_add, UInt32.add_assoc]
    congr 3
    cases enteredAt ((c.index + n) % Board.ringCapacity) with
    | none => rfl
    | some h => simp only [Option.any_some, Nat.pos_iff_ne_zero]; split <;> simp_all
  · simp only [dacStalls_vacated, dacStalls_emitted, dacStalls_entered, ht.dacStalls, hsample,
      ht.sink, played_succ, SampleSink.writeAll_concat, SampleSink.refusals_concat, UInt32.ofNat_add,
      UInt32.add_assoc]
    congr 2
    split <;> rfl

/-- The run lemma: every number of ticks from a play index inside the ring is described by
`Ticked`. -/
theorem ticked_ticks (hc : c.index < Board.ringCapacity) (p : Pipeline) (n : Nat) :
    Ticked c p n (c.ticks p n) := by
  induction n with
  | zero => exact ticked_zero hc p
  | succ n ih => rw [ticks_succ]; exact ih.tick

end Run

end Consumer

section Law

variable {κ ε : Type} [SampleSink κ ε]

open Consumer

/-- `n` ticks in a row from a play index inside the ring, whatever the ring holds and whatever
the sink answers. The index ends at `(i + n) % 400`; tick `j` hands slot `(i + j) % 400` to the
sink and leaves the lower half when it moves the index to 200, the upper half when it wraps it
to 0, so the halves left alternate and there are `(i + n) / 200 - i / 200` of them. The ring's
slots stay; a tick that starts at slot 0 or 200 takes the flag of the half starting there, so a
flag survives the run only if no tick entered its half, and each entry that finds its flag
clear counts a stale half. Each refused sample counts a stall and nothing stops the index. -/
theorem consumer_ticks_walk_ring (c : Consumer κ) (hc : c.index < Board.ringCapacity)
    (p : Pipeline) (n : Nat) :
    let r := c.ticks p n
    let written := SampleSink.writeAll (played p.ring c.index n) c.sink
    r.2.1.index = (c.index + n) % Board.ringCapacity ∧
    r.2.1.sink = written.2 ∧
    r.1 = (List.range n).map (fun j => leftAt ((c.index + j + 1) % Board.ringCapacity)) ∧
    r.1.reduceOption = (List.range' (c.index / Board.halfCapacity)
      ((c.index + n) / Board.halfCapacity - c.index / Board.halfCapacity)).map Half.ofParity ∧
    r.2.2.ring.samples = p.ring.samples ∧
    (∀ h, r.2.2.ring.isReady h = (p.ring.isReady h && entriesFrom c.index n h == 0)) ∧
    r.2.2.stats.staleHalves = p.stats.staleHalves + UInt32.ofNat (staleEntries p.ring c.index n) ∧
    r.2.2.stats.dacStalls = p.stats.dacStalls + UInt32.ofNat (SampleSink.refusals written.1) := by
  intro r written
  have ht := ticked_ticks hc p n
  exact ⟨ht.index, ht.sink, ht.left, ht.left ▸ reduceOption_left c.index n, ht.samples, ht.ready,
    ht.staleHalves, ht.dacStalls⟩

example : (({ index := 399, sink := {} } : Consumer RecordingSink).ticks {} 2).1 =
    [some .upper, none] := by
  decide

theorem consumer_ticks_walk_ring_across_wrap :
    let c : Consumer RecordingSink := { index := 399, sink := {} }
    let p : Pipeline := {}
    let r := c.ticks p 2
    let written := SampleSink.writeAll (played p.ring c.index 2) c.sink
    c.index < Board.ringCapacity ∧
    (r.2.1.index = (c.index + 2) % Board.ringCapacity ∧
    r.2.1.sink = written.2 ∧
    r.1 = (List.range 2).map (fun j => leftAt ((c.index + j + 1) % Board.ringCapacity)) ∧
    r.1.reduceOption = (List.range' (c.index / Board.halfCapacity)
      ((c.index + 2) / Board.halfCapacity - c.index / Board.halfCapacity)).map Half.ofParity ∧
    r.2.2.ring.samples = p.ring.samples ∧
    (∀ h, r.2.2.ring.isReady h = (p.ring.isReady h && entriesFrom c.index 2 h == 0)) ∧
    r.2.2.stats.staleHalves = p.stats.staleHalves + UInt32.ofNat (staleEntries p.ring c.index 2) ∧
    r.2.2.stats.dacStalls = p.stats.dacStalls + UInt32.ofNat (SampleSink.refusals written.1)) :=
  ⟨by decide, consumer_ticks_walk_ring _ (by decide) _ 2⟩

end Law

end PinballAudio
