import PinballAudio.Proofs.Stream.Alternation
import PinballAudio.Proofs.Stream.Refill

/-!
# Playback that keeps its deadlines

The sample interrupt leaves a half every 200 ticks and posts it for refill, and enters it again
200 ticks later. A run is punctual when the refill task has served every posted half before the
tick that enters it again. From a preload of a device that serves the asset, a punctual run plays
the asset in order, one block of the loop per pass over the ring, and nothing goes wrong on the
way: no post is refused, no half is entered stale, no read fails, and the refill task receives
the halves in alternation.

The proof is an invariant of the session after `j` ticks and `m` refills past the preload,
`OnSchedule j m`. The ticks post the halves in alternation, so the posts from `m` up to `j / 200`
are queued; each half holds the pass its last refill read; the cursor is at the pass the next
refill reads. A tick keeps it when the half it enters is not pending, a service keeps it with
one refill more.
-/

namespace PinballAudio

namespace Half

/-- The pass over the ring that half `h` holds after `m` refills past the preload: the preload
fills both halves with pass 0, and refill `k` fills half `ofParity k` with pass `k / 2 + 1`. -/
def passAfter (m : Nat) : Half → Nat
  | lower => (m + 1) / 2
  | upper => m / 2

/-- How often the first `j` ticks entered half `h`: the lower half at ticks 0, 400, … and the
upper half at ticks 200, 600, …. -/
def entries (j : Nat) : Half → Nat
  | lower => (j + 399) / 400
  | upper => (j + 199) / 400

section Schedule

variable {j m : Nat}

theorem containing_mod (j : Nat) :
    containing (j % Board.ringCapacity) = ofParity (j / Board.halfCapacity) := by
  have hr : Board.ringCapacity = 400 := rfl
  have hh : Board.halfCapacity = 200 := rfl
  unfold containing ofParity
  rw [hr, hh]
  by_cases hj : j % 400 < 200
  · rw [if_pos hj, if_pos (by omega)]
  · rw [if_neg hj, if_neg (by omega)]

theorem containing_eq_iff {i : Nat} (hi : i < Board.ringCapacity) (h : Half) :
    containing i = h ↔ h.offset ≤ i ∧ i < h.stop := by
  have hr : Board.ringCapacity = 400 := rfl
  have hh : Board.halfCapacity = 200 := rfl
  rw [hr] at hi
  cases h <;> by_cases hl : i < 200 <;> simp [containing, offset, stop, hh, hl]
  omega

theorem ofParity_eq_upper_iff (m : Nat) : ofParity m = upper ↔ m % 2 = 1 := by
  unfold ofParity
  split <;> simp <;> omega

theorem passAfter_succ (m : Nat) (h : Half) :
    passAfter (m + 1) h = if h = ofParity m then (m + 2) / 2 else passAfter m h := by
  unfold ofParity
  by_cases hm : m % 2 = 0 <;> cases h <;> simp [passAfter, hm] <;> omega

theorem passAfter_containing (hlo : m ≤ j / Board.halfCapacity)
    (hhi : j / Board.halfCapacity ≤ m + 1) :
    passAfter m (containing (j % Board.ringCapacity)) = j / Board.ringCapacity := by
  have hr : Board.ringCapacity = 400 := rfl
  have hh : Board.halfCapacity = 200 := rfl
  rw [containing_mod, hr]
  rw [hh] at hlo hhi ⊢
  unfold ofParity
  split <;> simp only [passAfter] <;> omega

theorem entries_le_succ (j : Nat) (h : Half) : entries j h ≤ entries (j + 1) h := by
  cases h <;> simp only [entries] <;> omega

theorem entries_le_passAfter (hj : j % Board.halfCapacity = 0)
    (hhi : j / Board.halfCapacity ≤ m + 1) :
    entries j (ofParity (j / Board.halfCapacity)) ≤
      passAfter m (ofParity (j / Board.halfCapacity)) := by
  have hh : Board.halfCapacity = 200 := rfl
  rw [hh] at hj hhi ⊢
  unfold ofParity
  split <;> simp only [entries, passAfter] <;> omega

theorem passAfter_lt_entries (hj : j % Board.halfCapacity = 0)
    (hlo : m ≤ j / Board.halfCapacity) :
    passAfter m (ofParity (j / Board.halfCapacity)) <
      entries (j + 1) (ofParity (j / Board.halfCapacity)) := by
  have hh : Board.halfCapacity = 200 := rfl
  rw [hh] at hj hlo ⊢
  unfold ofParity
  split <;> simp only [entries, passAfter] <;> omega

end Schedule

end Half

namespace Consumer

theorem vacatedAt_mod (j : Nat) :
    vacatedAt (j % Board.ringCapacity + 1) =
      if (j + 1) % Board.halfCapacity = 0 then some (Half.ofParity (j / Board.halfCapacity))
      else none := by
  have hr : Board.ringCapacity = 400 := rfl
  have hh : Board.halfCapacity = 200 := rfl
  rw [vacatedAt_succ (Nat.mod_lt j (by decide)), Half.containing_mod]
  by_cases hv : (j + 1) % Board.halfCapacity = 0
  · rw [if_pos (by rw [hr, hh] at *; omega), if_pos hv]
  · rw [if_neg (by rw [hr, hh] at *; omega), if_neg hv]

theorem nextIndex_mod (j : Nat) :
    nextIndex (j % Board.ringCapacity) = (j + 1) % Board.ringCapacity := by
  have hr : Board.ringCapacity = 400 := rfl
  unfold nextIndex
  rw [hr]
  split <;> omega

end Consumer

namespace AssetLayout

/-- The sample that tick `j` plays when the asset streams in order: slot `j % 400` of the block
of pass `j / 400`. -/
def scheduled (l : AssetLayout) (content : UInt32 → Nat → UInt8) (j : Nat) : UInt8 :=
  content (l.blockOfPass (j / Board.ringCapacity)) (j % Board.ringCapacity)

end AssetLayout

def StreamEvent.servedEachTick (n : Nat) : List StreamEvent :=
  (List.replicate n [StreamEvent.tick, .serve]).flatten

namespace StreamSession

variable {κ ε δ : Type} [SampleSink κ ε] [BlockDevice δ]

/-- A run keeps the refill deadlines when every tick that enters a half finds no refill of that
half still waiting: each half the consumer posted was refilled before it is played again. -/
def Punctual : List StreamEvent → StreamSession κ δ → Prop
  | [], _ => True
  | .tick :: es, s =>
    (s.consumer.index = 0 ∨ s.consumer.index = Board.halfCapacity →
        s.pipeline.queue.isPending (Half.containing s.consumer.index) = false) ∧
      Punctual es (step .tick s).2
  | .serve :: es, s => Punctual es (step .serve s).2

/-- The session at the start of playback: a consumer at play index 0 with its sink, and the
producer, device and pipeline as the preload of `l` into a new pipeline leaves them. -/
def preloaded (l : AssetLayout) (sink : κ) (dev : δ) : StreamSession κ δ :=
  let (_, pr, dev, p) := (Producer.new l).preload dev {}
  ⟨{ sink }, pr, dev, p⟩

/-- The session after `j` ticks and `m` refills past the preload of a punctual playback of `l`
from a device that serves `content` from its states in `good`. The posts made so far, `j / 200`
of them, were all accepted and the oldest `m` were served; at most two wait, and at most one
inside a half. Each half holds the pass `passAfter m` and is ready while the consumer has not
entered that pass. The cursor is at the pass of the next refill. -/
structure OnSchedule (content : UInt32 → Nat → UInt8) (good : δ → Prop) (l : AssetLayout)
    (j m : Nat) (s : StreamSession κ δ) : Prop where
  index : s.consumer.index = j % Board.ringCapacity
  served_le : m ≤ j / Board.halfCapacity
  posted_le : j / Board.halfCapacity ≤ m + 2
  inside : j % Board.halfCapacity = 0 ∨ j / Board.halfCapacity ≤ m + 1
  queued : s.pipeline.queue.queued =
    (List.range' m (j / Board.halfCapacity - m)).map Half.ofParity
  consistent : s.pipeline.queue.Consistent
  size : s.pipeline.ring.samples.size = Board.ringCapacity
  sample : ∀ i < Board.ringCapacity,
    s.pipeline.ring.sample i = content (l.blockOfPass (Half.passAfter m (Half.containing i))) i
  ready : ∀ h, Half.entries j h ≤ Half.passAfter m h → s.pipeline.ring.isReady h = true
  underruns : s.pipeline.stats.underruns = 0
  staleHalves : s.pipeline.stats.staleHalves = 0
  readErrors : s.pipeline.stats.readErrors = 0
  refills : s.pipeline.stats.refills = UInt32.ofNat (m + 2)
  layout : s.producer.layout = l
  total : s.producer.cursor.total.toNat = l.loopLength
  position : s.producer.cursor.position.toNat = (m + 2) / 2 % l.loopLength
  staging : s.producer.staging.size = Board.ringCapacity
  device : good s.device

section Invariant

variable {content : UInt32 → Nat → UInt8} {good : δ → Prop} {l : AssetLayout}
  {j m : Nat} {s : StreamSession κ δ}

theorem onSchedule_preloaded (hserve : ServesContent content good) {d : δ} (hd : good d)
    (hfit : l.startBlock.toNat + l.loopLength ≤ 2 ^ 32) (sink : κ) :
    ((Producer.new l).preload d {}).1 = .ok () ∧
      OnSchedule content good l 0 0 (preloaded l sink d) := by
  have hT := l.loopLength_pos
  have hempty : ({} : Pipeline).ring.samples.size = Board.ringCapacity := Array.size_replicate
  have hstage : (Producer.new l).staging.size = Board.ringCapacity := Array.size_replicate
  have htotal : (Producer.new l).cursor.total.toNat = l.loopLength := BlockCursor.total_new _
  have hcur : (Producer.new l).currentBlock = .ok (l.blockOfPass 0) :=
    Producer.currentBlock_eq_blockOfPass rfl hfit (by simp [Producer.new, BlockCursor.new])
  obtain ⟨st₁, d₁, r₁, h₁, hg₁, hs₁, hf₁⟩ :=
    Producer.refill_ok hserve .lower ({} : Pipeline) hcur hd (Nat.le_of_eq hstage.symm)
  -- the lower refill leaves the cursor where it was, so the upper refill reads the same block
  rw [if_neg (by decide)] at h₁
  obtain ⟨st₂, d₂, r₂, h₂, hg₂, hs₂, hf₂⟩ :=
    Producer.refill_ok hserve .upper { ({} : Pipeline) with ring := r₁, stats := StreamStats.recordRefill {} }
      (show ({ Producer.new l with staging := st₁ } : Producer).currentBlock = _ from hcur) hg₁
      (Nat.le_of_eq (hs₁.trans hstage).symm)
  rw [if_pos rfl] at h₂
  have hpre : (Producer.new l).preload d {} =
      (.ok (), { Producer.new l with staging := st₂, cursor := (Producer.new l).cursor.advance }, d₂,
        { ({} : Pipeline) with ring := r₂, stats := (StreamStats.recordRefill {}).recordRefill }) := by
    unfold Producer.preload
    rw [h₁]
    exact h₂
  refine ⟨by rw [hpre], ?_⟩
  unfold preloaded
  rw [hpre]
  refine
    { index := rfl
      served_le := Nat.zero_le _
      posted_le := by decide
      inside := .inl rfl
      queued := rfl
      consistent := RefillQueue.consistent_empty
      size := hf₂.size.trans (hf₁.size.trans hempty)
      sample := ?_
      ready := ?_
      underruns := rfl
      staleHalves := rfl
      readErrors := rfl
      refills := rfl
      layout := rfl
      total := htotal
      position := ?_
      staging := hs₂.trans (hs₁.trans hstage)
      device := hg₂ }
  · intro i hi
    have hsize₀ : i < ({} : Pipeline).ring.samples.size := by rw [hempty]; exact hi
    have hsize₁ : i < r₁.samples.size := by rw [hf₁.size]; exact hsize₀
    rw [hf₂.sample i hsize₁, hf₁.sample i hsize₀]
    have hr : Board.ringCapacity = 400 := rfl
    have hh : Board.halfCapacity = 200 := rfl
    rw [hr] at hi
    by_cases hl : i < 200
    · simp [Half.offset, Half.stop, Half.containing, Half.passAfter, hh, hl]
    · simp [Half.offset, Half.stop, Half.containing, Half.passAfter, hh, hl, show i < 400 from hi]
  · intro h _
    cases h with
    | lower => exact (hf₂.ready_other).trans hf₁.ready
    | upper => exact hf₂.ready
  · rw [BlockCursor.position_advance _ (by rw [htotal]; simpa [Producer.new, BlockCursor.new]),
      htotal]
    rfl

omit [BlockDevice δ] in
theorem OnSchedule.trailing (hs : OnSchedule content good l j m s)
    (hp : s.consumer.index = 0 ∨ s.consumer.index = Board.halfCapacity →
      s.pipeline.queue.isPending (Half.containing s.consumer.index) = false) :
    j / Board.halfCapacity ≤ m + 1 := by
  have hh : Board.halfCapacity = 200 := rfl
  have hr : Board.ringCapacity = 400 := rfl
  rcases hs.inside with hj | hle
  · refine Nat.le_of_not_lt fun hgt => ?_
    have hP : j / Board.halfCapacity = m + 2 := by have := hs.posted_le; omega
    have hent : s.consumer.index = 0 ∨ s.consumer.index = Board.halfCapacity := by
      rw [hs.index, hr, hh]
      rw [hh] at hj
      omega
    have hmem : Half.containing s.consumer.index ∈ s.pipeline.queue.queued := by
      rw [hs.index, Half.containing_mod, hs.queued, hP, Nat.add_sub_cancel_left]
      simp [List.range', (Half.ofParity_add_eq_iff m 2).2 rfl]
    have hpend := (hs.consistent.isPending_iff _).2 hmem
    rw [hp hent] at hpend
    exact Bool.false_ne_true hpend
  · exact hle

omit [BlockDevice δ] in
theorem OnSchedule.not_pending (hs : OnSchedule content good l j m s)
    (hle : j / Board.halfCapacity ≤ m + 1) :
    s.pipeline.queue.isPending (Half.ofParity (j / Board.halfCapacity)) = false := by
  have hnot : Half.ofParity (j / Board.halfCapacity) ∉ s.pipeline.queue.queued := by
    rw [hs.queued]
    rcases Nat.eq_or_lt_of_le hs.served_le with heq | hlt
    · rw [← heq, Nat.sub_self]
      simp
    · have hP : j / Board.halfCapacity = m + 1 := by omega
      rw [hP, Nat.add_sub_cancel_left]
      simp [List.range', Half.ofParity_succ, Half.other_ne]
  exact Bool.eq_false_iff.2 fun h => hnot ((hs.consistent.isPending_iff _).1 h)

/-- A tick that finds the half it enters not pending keeps the schedule: it plays the scheduled
sample, and the post of the half it leaves, if any, is accepted. -/
theorem OnSchedule.tick (hs : OnSchedule content good l j m s)
    (hp : s.consumer.index = 0 ∨ s.consumer.index = Board.halfCapacity →
      s.pipeline.queue.isPending (Half.containing s.consumer.index) = false) :
    OnSchedule content good l (j + 1) m (step .tick s).2 ∧
      (step .tick s).1 = .played (l.scheduled content j) ::
        if (j + 1) % Board.halfCapacity = 0 then
          [.queue (.posted (Half.ofParity (j / Board.halfCapacity)) true)]
        else [] := by
  have hh : Board.halfCapacity = 200 := rfl
  have hr : Board.ringCapacity = 400 := rfl
  have htrail := hs.trailing hp
  have hcont : Half.containing s.consumer.index = Half.ofParity (j / Board.halfCapacity) := by
    rw [hs.index, Half.containing_mod]
  have hent : s.consumer.index = 0 ∨ s.consumer.index = Board.halfCapacity ↔
      j % Board.halfCapacity = 0 := by
    rw [hs.index, hr, hh]
    omega
  have hvac : Consumer.vacatedAt (s.consumer.index + 1) =
      if (j + 1) % Board.halfCapacity = 0 then some (Half.ofParity (j / Board.halfCapacity))
      else none := by
    rw [hs.index, Consumer.vacatedAt_mod]
  have hready : s.consumer.index = 0 ∨ s.consumer.index = Board.halfCapacity →
      s.pipeline.ring.isReady (Half.containing s.consumer.index) = true := fun he => by
    rw [hcont]
    exact hs.ready _ (Half.entries_le_passAfter (hent.1 he) htrail)
  have hpost : s.pipeline.queue.post (Half.ofParity (j / Board.halfCapacity)) =
      (true, s.pipeline.queue.enqueue (Half.ofParity (j / Board.halfCapacity))) := by
    rw [hs.consistent.post_eq, hs.not_pending htrail]
    rfl
  have hacc : ∀ h, Consumer.vacatedAt (s.consumer.index + 1) = some h →
      (s.pipeline.queue.post h).1 = true := by
    intro h hv
    rw [hvac] at hv
    split at hv
    · cases hv
      rw [hpost]
    · cases hv
  obtain ⟨stalls, hemit⟩ := Consumer.emitted_eq
    (SampleSink.writeSample (s.pipeline.ring.sample s.consumer.index) s.consumer.sink).1
    (Consumer.entered s.consumer.index s.pipeline)
  rw [step_tick, Consumer.vacated_of_accepted (by simpa using hacc), hemit,
    Consumer.entered_of_ready hready]
  simp only [hent, hcont]
  refine ⟨⟨?index, ?served, ?posted, ?inside, ?queued, ?consistent, ?size, ?sample, ?ready,
    hs.underruns, hs.staleHalves, hs.readErrors, hs.refills, hs.layout, hs.total, hs.position,
    hs.staging, hs.device⟩, ?notes⟩
  case index => rw [hs.index, Consumer.nextIndex_mod]
  case served => have := hs.served_le; rw [hh] at *; omega
  case posted => rw [hh] at *; omega
  case inside =>
    by_cases hv : (j + 1) % Board.halfCapacity = 0
    · exact .inl hv
    · right; rw [hh] at *; omega
  case queued =>
    rw [hvac]
    by_cases hv : (j + 1) % Board.halfCapacity = 0
    · have hP : (j + 1) / Board.halfCapacity - m = j / Board.halfCapacity - m + 1 := by
        have := hs.served_le; rw [hh] at *; omega
      simp only [hv, ↓reduceIte, Option.elim, hpost, RefillQueue.queued_enqueue, hs.queued, hP,
        List.range'_concat, List.map_append, List.map_cons, List.map_nil, Nat.one_mul]
      rw [Nat.add_sub_cancel' hs.served_le]
    · have hP : (j + 1) / Board.halfCapacity = j / Board.halfCapacity := by
        rw [hh] at *; omega
      simp only [hv, ↓reduceIte, Option.elim, hs.queued, hP]
  case consistent =>
    rw [hvac]
    by_cases hv : (j + 1) % Board.halfCapacity = 0
    · simpa [hv] using hs.consistent.post (Half.ofParity (j / Board.halfCapacity))
    · simpa [hv] using hs.consistent
  case size => split <;> simp [hs.size]
  case sample =>
    intro i hi
    split <;> simp [hs.sample i hi]
  case ready =>
    intro h hle
    have hle' := Nat.le_trans (Half.entries_le_succ j h) hle
    split
    · rename_i hj
      rcases RefillQueue.eq_or_eq_other (Half.ofParity (j / Board.halfCapacity)) h with rfl | rfl
      · exact absurd hle (Nat.not_le.2 (Half.passAfter_lt_entries hj hs.served_le))
      · rw [AudioRing.isReady_setReady_other]
        exact hs.ready _ hle'
    · exact hs.ready h hle'
  case notes =>
    rw [hs.index, hs.sample _ (Nat.mod_lt _ (by decide)),
      Half.passAfter_containing hs.served_le htrail, ← hs.index, hvac]
    by_cases hv : (j + 1) % Board.halfCapacity = 0
    · simp [hv, hpost, AssetLayout.scheduled, hs.index]
    · simp [hv, AssetLayout.scheduled, hs.index]

/-- A service keeps the schedule: with nothing queued every post was served and nothing changes;
otherwise it receives the oldest post, of half `ofParity m`, and refills it from the pass under
the cursor. -/
theorem OnSchedule.serve (hserve : ServesContent content good)
    (hfit : l.startBlock.toNat + l.loopLength ≤ 2 ^ 32) (hs : OnSchedule content good l j m s) :
    (j / Board.halfCapacity = m ∧ step .serve s = ([], s)) ∨
      ((step .serve s).1 = [.queue (.received (Half.ofParity m))] ∧
        OnSchedule content good l j (m + 1) (step .serve s).2) := by
  rcases ht : s.pipeline.queue.tryNext with ⟨_ | h, r⟩
  · obtain ⟨rfl, hnil⟩ := RefillQueue.tryNext_none ht
    left
    refine ⟨?_, by simp [step, Producer.refillNext, ht]⟩
    have := hs.served_le
    rw [hs.queued] at hnil
    simp at hnil
    omega
  · right
    obtain ⟨hcons, -, -, hrc⟩ := hs.consistent.tryNext_some ht
    -- the queue held the posts from `m` on, so it hands out post `m`
    have hlt : m < j / Board.halfCapacity := by
      refine Nat.lt_of_not_le fun hle => ?_
      rw [hs.queued, Nat.sub_eq_zero_of_le hle] at hcons
      simp at hcons
    rw [hs.queued, show j / Board.halfCapacity - m = j / Board.halfCapacity - (m + 1) + 1 by omega,
      List.range'_succ, List.map_cons] at hcons
    obtain ⟨rfl, hrq⟩ := List.cons.inj hcons
    have hblock := Producer.currentBlock_eq_blockOfPass hs.layout hfit hs.position
    obtain ⟨staging, dev', ring, hrefill, hgood, hsize, hfill⟩ :=
      Producer.refill_ok hserve (Half.ofParity m) { s.pipeline with queue := r } hblock hs.device
        (Nat.le_of_eq hs.staging.symm)
    have hstep : step .serve s =
        ([.queue (.received (Half.ofParity m))],
          { s with
            producer := { s.producer with
              staging := staging
              cursor := if Half.ofParity m = .upper then s.producer.cursor.advance
                else s.producer.cursor }
            device := dev'
            pipeline := { s.pipeline with
              queue := r
              ring := ring
              stats := s.pipeline.stats.recordRefill } }) := by
      simp only [step, Producer.refillNext, ht, hrefill]
      rfl
    rw [hstep]
    refine ⟨rfl, ⟨hs.index, hlt, by have := hs.posted_le; omega, ?inside, hrq.symm, hrc,
      hfill.size.trans hs.size, ?sample, ?ready, hs.underruns, hs.staleHalves, hs.readErrors,
      ?refills, hs.layout, ?total, ?position, hsize.trans hs.staging, hgood⟩⟩
    case inside =>
      rcases hs.inside with hj | hle
      · exact .inl hj
      · exact .inr (by omega)
    case sample =>
      intro i hi
      rw [hfill.sample i (by rw [hs.size]; exact hi), Half.passAfter_succ]
      by_cases hc : Half.containing i = Half.ofParity m
      · rw [if_pos hc, if_pos ((Half.containing_eq_iff hi _).1 hc)]
      · rw [if_neg hc, if_neg fun hw => hc ((Half.containing_eq_iff hi _).2 hw)]
        exact hs.sample i hi
    case ready =>
      intro h hle
      rcases RefillQueue.eq_or_eq_other (Half.ofParity m) h with rfl | rfl
      · exact hfill.ready
      · rw [hfill.ready_other]
        rw [Half.passAfter_succ, if_neg (Half.other_ne _)] at hle
        exact hs.ready _ hle
    case refills =>
      show s.pipeline.stats.refills + 1 = UInt32.ofNat (m + 1 + 2)
      rw [hs.refills, show m + 1 + 2 = m + 2 + 1 by omega]
      exact (UInt32.ofNat_add (m + 2) 1).symm
    case total =>
      show (if Half.ofParity m = .upper then s.producer.cursor.advance
        else s.producer.cursor).total.toNat = l.loopLength
      split <;> exact hs.total
    case position =>
      show (if Half.ofParity m = .upper then s.producer.cursor.advance
        else s.producer.cursor).position.toNat = (m + 1 + 2) / 2 % l.loopLength
      have hT := l.loopLength_pos
      split
      · rename_i hup
        have hodd := (Half.ofParity_eq_upper_iff m).1 hup
        rw [BlockCursor.position_advance _
            (by rw [hs.position, hs.total]; exact Nat.mod_lt _ hT),
          hs.position, hs.total, Nat.mod_add_mod]
        congr 1
        omega
      · rename_i hlow
        have heven : m % 2 = 0 := by
          have := mt (Half.ofParity_eq_upper_iff m).2 hlow
          omega
        rw [hs.position]
        congr 1
        omega

/-- A punctual run keeps the schedule: its ticks play the scheduled samples in order, the refill
task receives the halves in alternation, and every post is accepted. -/
theorem OnSchedule.run (hserve : ServesContent content good)
    (hfit : l.startBlock.toNat + l.loopLength ≤ 2 ^ 32) (es : List StreamEvent)
    (hs : OnSchedule content good l j m s) (hp : Punctual es s) :
    OnSchedule content good l (j + es.count .tick)
        (m + (receivedHalves (queueNotes (run es s).1)).length) (run es s).2 ∧
      samplesPlayed (run es s).1 = (List.range' j (es.count .tick)).map (l.scheduled content) ∧
      receivedHalves (queueNotes (run es s).1) =
        (List.range' m (receivedHalves (queueNotes (run es s).1)).length).map Half.ofParity ∧
      refusedPosts (queueNotes (run es s).1) = 0 := by
  induction es generalizing j m s with
  | nil => simpa using hs
  | cons e es ih =>
    cases e with
    | tick =>
      obtain ⟨hnow, hrest⟩ := hp
      obtain ⟨hs', hnotes⟩ := hs.tick hnow
      obtain ⟨hend, hplayed, hrecv, hrefused⟩ := ih hs' hrest
      have hposts : samplesPlayed (step .tick s).1 = [l.scheduled content j] ∧
          receivedHalves (queueNotes (step .tick s).1) = [] ∧
          refusedPosts (queueNotes (step .tick s).1) = 0 := by
        rw [hnotes]
        split <;> simp [QueueNote.receivedHalf?, QueueNote.isRefused]
      rw [run_cons, samplesPlayed_append, queueNotes_append, receivedHalves_append,
        refusedPosts_append, hposts.1, hposts.2.1, hposts.2.2, List.nil_append, Nat.zero_add,
        List.count_cons_self, List.range'_succ, List.map_cons, List.singleton_append, hplayed]
      refine ⟨?_, rfl, hrecv, hrefused⟩
      rwa [Nat.add_comm (List.count _ _) 1, ← Nat.add_assoc]
    | serve =>
      rcases hs.serve hserve hfit with ⟨-, hstep⟩ | ⟨hnotes, hs'⟩
      · have hrest : Punctual es s := by simpa [Punctual, hstep] using hp
        rw [run_cons, hstep]
        simpa using ih hs hrest
      · obtain ⟨hend, hplayed, hrecv, hrefused⟩ := ih hs' hp
        rw [run_cons, hnotes]
        simp only [samplesPlayed_append, samplesPlayed_queue, samplesPlayed_nil, List.nil_append,
          queueNotes_append, queueNotes_queue, queueNotes_nil, receivedHalves_append,
          refusedPosts_append, receivedHalves_cons, refusedPosts_cons, QueueNote.receivedHalf?,
          QueueNote.isRefused, List.count_cons]
        refine ⟨?_, by simpa using hplayed, ?_, by simpa using hrefused⟩
        · simpa [Nat.add_assoc, Nat.add_comm 1] using hend
        · simp only [Option.toList_some, List.singleton_append]
          exact congrArg _ hrecv

theorem OnSchedule.punctual_servedEachTick (hserve : ServesContent content good)
    (hfit : l.startBlock.toNat + l.loopLength ≤ 2 ^ 32) (n : Nat)
    (hs : OnSchedule content good l j (j / Board.halfCapacity) s) :
    Punctual (StreamEvent.servedEachTick n) s := by
  induction n generalizing j s with
  | zero => trivial
  | succ n ih =>
    have hempty : s.pipeline.queue.queued = [] := by simpa using hs.queued
    have hnow : ∀ h, s.pipeline.queue.isPending h = false := fun h =>
      Bool.eq_false_iff.2 fun hp => by simpa [hempty] using (hs.consistent.isPending_iff h).1 hp
    obtain ⟨hs₁, -⟩ := hs.tick fun _ => hnow _
    refine ⟨fun _ => hnow _, ?_⟩
    show Punctual (.serve :: StreamEvent.servedEachTick n) (step .tick s).2
    rcases hs₁.serve hserve hfit with ⟨hP, hstep⟩ | ⟨-, hs₂⟩
    · show Punctual _ (step .serve (step .tick s).2).2
      rw [hstep]
      exact ih (hP ▸ hs₁)
    · have hP : (j + 1) / Board.halfCapacity = j / Board.halfCapacity + 1 := by
        have h₁ := hs₂.served_le
        have h₂ : Board.halfCapacity = 200 := rfl
        rw [h₂] at h₁ ⊢
        omega
      exact ih (hP ▸ hs₂)

end Invariant

end StreamSession

section Playback

variable {κ ε δ : Type} [SampleSink κ ε] [BlockDevice δ]

/-- Real-time playback from a device that serves the asset, with the whole loop of the asset
addressable. The preload succeeds, and every punctual interleaving of ticks and services from
there plays the asset in order: tick `j` plays byte `j % 400` of the block of pass `j / 400`,
one block of the loop per pass. No post is refused, and the refill task receives the halves in
alternation; no underrun, stale half or read error is counted; each half received was refilled,
so the refill counter is two more than the halves received, and the cursor moved once for every
two of them. -/
theorem punctual_playback_streams_asset_in_order {content : UInt32 → Nat → UInt8}
    {good : δ → Prop} (hserve : ServesContent content good) {d : δ} (hd : good d)
    {l : AssetLayout} (hfit : l.startBlock.toNat + l.loopLength ≤ 2 ^ 32) (sink : κ) :
    ((Producer.new l).preload d {}).1 = .ok () ∧
      ∀ es : List StreamEvent, (StreamSession.preloaded l sink d).Punctual es →
        let r := (StreamSession.preloaded l sink d).run es
        let served := (receivedHalves (queueNotes r.1)).length
        samplesPlayed r.1 = (List.range (es.count .tick)).map (fun j =>
            content (l.blockOfPass (j / Board.ringCapacity)) (j % Board.ringCapacity)) ∧
          refusedPosts (queueNotes r.1) = 0 ∧
          receivedHalves (queueNotes r.1) = (List.range served).map Half.ofParity ∧
          r.2.pipeline.stats.underruns = 0 ∧ r.2.pipeline.stats.staleHalves = 0 ∧
          r.2.pipeline.stats.readErrors = 0 ∧
          r.2.pipeline.stats.refills = UInt32.ofNat (served + 2) ∧
          r.2.producer.cursor.position.toNat = (served + 2) / 2 % l.loopLength := by
  obtain ⟨hok, hstart⟩ := StreamSession.onSchedule_preloaded hserve hd hfit sink
  refine ⟨hok, fun es hp => ?_⟩
  obtain ⟨hend, hplayed, hrecv, hrefused⟩ := hstart.run hserve hfit es hp
  rw [Nat.zero_add, Nat.zero_add] at hend
  rw [← List.range_eq_range'] at hplayed hrecv
  exact ⟨hplayed, hrefused, hrecv, hend.underruns, hend.staleHalves, hend.readErrors,
    hend.refills, hend.position⟩

theorem bench_playback_streams_asset_in_order :
    ServesContent Bench.ContentRule.pattern.byte
        (fun m : Bench.MemoryCard => m.content = .pattern ∧ m.failure = none) ∧
      (({} : Bench.MemoryCard).content = .pattern ∧ ({} : Bench.MemoryCard).failure = none) ∧
      AssetLayout.music.startBlock.toNat + AssetLayout.music.loopLength ≤ 2 ^ 32 ∧
      ((Producer.new AssetLayout.music).preload ({} : Bench.MemoryCard) {}).1 = .ok () ∧
      (StreamSession.preloaded AssetLayout.music ({} : RecordingSink)
        ({} : Bench.MemoryCard)).Punctual (StreamEvent.servedEachTick 800) ∧
      let r := (StreamSession.preloaded AssetLayout.music ({} : RecordingSink)
        ({} : Bench.MemoryCard)).run (StreamEvent.servedEachTick 800)
      let served := (receivedHalves (queueNotes r.1)).length
      samplesPlayed r.1 = (List.range ((StreamEvent.servedEachTick 800).count .tick)).map
          (fun j => Bench.ContentRule.pattern.byte
            (AssetLayout.music.blockOfPass (j / Board.ringCapacity)) (j % Board.ringCapacity)) ∧
        refusedPosts (queueNotes r.1) = 0 ∧
        receivedHalves (queueNotes r.1) = (List.range served).map Half.ofParity ∧
        r.2.pipeline.stats.underruns = 0 ∧ r.2.pipeline.stats.staleHalves = 0 ∧
        r.2.pipeline.stats.readErrors = 0 ∧
        r.2.pipeline.stats.refills = UInt32.ofNat (served + 2) ∧
        r.2.producer.cursor.position.toNat = (served + 2) / 2 % AssetLayout.music.loopLength := by
  have hserve := Bench.MemoryCard.servesContent .pattern
  have hd : ({} : Bench.MemoryCard).content = .pattern ∧ ({} : Bench.MemoryCard).failure = none :=
    ⟨rfl, rfl⟩
  have hfit : AssetLayout.music.startBlock.toNat + AssetLayout.music.loopLength ≤ 2 ^ 32 := by
    decide
  obtain ⟨hok, hrun⟩ :=
    punctual_playback_streams_asset_in_order hserve hd hfit ({} : RecordingSink)
  have hp := (StreamSession.onSchedule_preloaded hserve hd hfit ({} : RecordingSink)).2
    |>.punctual_servedEachTick hserve hfit 800
  exact ⟨hserve, hd, hfit, hok, hp, hrun _ hp⟩

end Playback

end PinballAudio
