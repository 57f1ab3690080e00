import Mathlib
import PinballAudio.Boot
import PinballAudio.Bench.RecordingDac
import PinballAudio.Bench.RecordingDelay
import PinballAudio.Card.Simulated
import PinballAudio.Proofs.Stream.Refill

/-!
# The boot sequence

Bringing the board up has three error policies. A failed card bring-up is fatal: the boot
returns it at once, and the DAC, the delay line, the producer and the pipeline are as they were,
the card as its own bring-up left it. A DAC failure is only reported. A failed preload read is
reported, the first one: the lower half is read first and the upper half only after the lower
succeeded. In between the board asks for the settle wait, in pieces of at most one 32-bit word of
nanoseconds that add up to exactly the wait.

From a ring whose halves are both empty and a cursor inside its loop, the preload reports no
error exactly when it leaves both halves ready and the cursor one block on, modulo the loop.
-/

namespace PinballAudio

/-! ### Waiting in pieces -/

namespace Delay

theorem msPieces_sum_fits (ms : Nat) :
    (msPieces ms).sum = ms * 1000000 ∧ ∀ ns ∈ msPieces ms, ns < 2 ^ 32 := by
  have hmax : maxMillis = 4294 := rfl
  -- the full pieces cover at most `ms - 1` milliseconds, the last piece the rest
  have hfull : (ms - 1) / maxMillis * maxMillis ≤ ms :=
    (Nat.div_mul_le_self _ _).trans (Nat.sub_le ms 1)
  have hrest : ms - (ms - 1) / maxMillis * maxMillis ≤ maxMillis := by
    have := @Nat.lt_div_mul_add (ms - 1) maxMillis (by rw [hmax]; decide)
    omega
  constructor
  · simp only [msPieces, List.sum_append, List.sum_replicate, List.sum_cons, List.sum_nil,
      smul_eq_mul, Nat.add_zero]
    rw [← Nat.mul_assoc, ← Nat.add_mul, Nat.add_sub_cancel' hfull]
  · intro ns hns
    simp only [msPieces, List.mem_append, List.mem_replicate, List.mem_singleton] at hns
    rcases hns with ⟨-, rfl⟩ | rfl
    · rw [hmax]; norm_num
    · calc (ms - (ms - 1) / maxMillis * maxMillis) * 1000000 ≤ maxMillis * 1000000 :=
            Nat.mul_le_mul_right _ hrest
        _ < 2 ^ 32 := by rw [hmax]; norm_num

example : msPieces 5000 = [4294000000, 706000000] := by decide

theorem waitInPieces_eq {τ : Type} (delayNs : UInt32 → τ → τ) (ms : Nat) (d : τ) :
    ∃ pieces : List Nat, pieces.sum = ms * 1000000 ∧ (∀ ns ∈ pieces, ns < 2 ^ 32) ∧
      waitInPieces delayNs ms d = pieces.foldl (fun d ns => delayNs ns.toUInt32 d) d :=
  ⟨msPieces ms, (msPieces_sum_fits ms).1, (msPieces_sum_fits ms).2, rfl⟩

end Delay

/-! ### Preloading the ring -/

namespace Producer

variable {δ : Type} [BlockDevice δ] {pr : Producer} {dev : δ} {p : Pipeline}

theorem refill_cases (h : Half) (pr : Producer) (dev : δ) (p : Pipeline) :
    ((pr.refill h dev p).1 = .ok () ∧
      (∃ data, (pr.refill h dev p).2.2.2.ring = p.ring.fillHalf h data) ∧
      (pr.refill h dev p).2.1.cursor = if h = .upper then pr.cursor.advance else pr.cursor) ∨
    (∃ e, (pr.refill h dev p).1 = .error e ∧ (pr.refill h dev p).2.2.2.ring = p.ring ∧
      (pr.refill h dev p).2.1.cursor = pr.cursor) := by
  unfold refill
  split
  · rename_i read stg dev' hread
    cases read with
    | error e => exact .inr ⟨e, rfl, rfl, rfl⟩
    | ok u => exact .inl ⟨rfl, ⟨_, rfl⟩, by cases h <;> rfl⟩

theorem preload_of_lower_error {e : IoError} (h : (pr.refill .lower dev p).1 = .error e) :
    pr.preload dev p = pr.refill .lower dev p := by
  unfold preload
  rcases hl : pr.refill .lower dev p with ⟨_ | _, pr', dev', p'⟩
  · rfl
  · rw [hl] at h
    cases h

theorem preload_of_lower_ok (h : (pr.refill .lower dev p).1 = .ok ()) :
    pr.preload dev p =
      (pr.refill .lower dev p).2.1.refill .upper (pr.refill .lower dev p).2.2.1
        (pr.refill .lower dev p).2.2.2 := by
  unfold preload
  rcases hl : pr.refill .lower dev p with ⟨_ | _, pr', dev', p'⟩
  · rw [hl] at h
    cases h
  · rfl

/-- From empty halves and a cursor inside its loop, the preload succeeds exactly when it leaves
both halves ready and the cursor one block on. -/
theorem preload_ok_iff (hcursor : pr.cursor.position.toNat < pr.cursor.total.toNat)
    (hfresh : p.ring.isReady .lower = false ∧ p.ring.isReady .upper = false) :
    (pr.preload dev p).1 = .ok () ↔
      (pr.preload dev p).2.2.2.ring.isReady .lower = true ∧
        (pr.preload dev p).2.2.2.ring.isReady .upper = true ∧
        (pr.preload dev p).2.1.cursor.position.toNat =
          (pr.cursor.position.toNat + 1) % pr.cursor.total.toNat := by
  rcases refill_cases .lower pr dev p with
    ⟨hlok, ⟨dlow, hlring⟩, hlcur⟩ | ⟨e, hlerr, hlring, -⟩
  · rw [preload_of_lower_ok hlok]
    have hlready : (pr.refill .lower dev p).2.2.2.ring.isReady .lower = true := by
      rw [hlring, AudioRing.isReady_fillHalf]
    have hlcur' : (pr.refill .lower dev p).2.1.cursor = pr.cursor := by simpa using hlcur
    rcases refill_cases .upper (pr.refill .lower dev p).2.1 (pr.refill .lower dev p).2.2.1
        (pr.refill .lower dev p).2.2.2 with
      ⟨huok, ⟨dup, huring⟩, hucur⟩ | ⟨e, huerr, huring, -⟩
    · have hlower :
          ((pr.refill .lower dev p).2.2.2.ring.fillHalf .upper dup).isReady .lower = true :=
        (AudioRing.isReady_fillHalf_other .upper dup _).trans hlready
      rw [huring, hucur, if_pos rfl, hlcur', BlockCursor.position_advance _ hcursor]
      exact ⟨fun _ => ⟨hlower, AudioRing.isReady_fillHalf _ _ _, rfl⟩, fun _ => huok⟩
    · have hupper : (p.ring.fillHalf .lower dlow).isReady .upper = false :=
        (AudioRing.isReady_fillHalf_other .lower dlow p.ring).trans hfresh.2
      rw [huerr, huring, hlring, hupper]
      simp
  · rw [preload_of_lower_error hlerr]
    simp only [hlerr, hlring, hfresh.1, reduceCtorEq, false_iff, not_and]
    intro h
    cases h

end Producer

/-! ### Bringing the board up -/

namespace BootRig

variable {σ δ ε τ : Type} [SpiLink σ] [Dac.Driver δ ε] [Delay τ] {r : BootRig σ δ τ}

theorem bringUp_of_storage_error {e : InitError} {card : SdCard σ}
    (h : r.card.bringUp = (.error e, card)) :
    r.bringUp = (.error (.storage e), { r with card := card }) := by
  simp only [bringUp, h]

/-- Once the card is up, the DAC is parked, the settle wait requested and the ring preloaded from
the card; the report carries the card, whether the DAC took its write, and the preload's error. -/
theorem bringUp_of_storage_ok {info : CardInfo} {card : SdCard σ}
    (h : r.card.bringUp = (.ok info, card)) :
    ∃ report : BootReport,
      r.bringUp = (.ok report,
        ⟨(r.producer.preload card r.pipeline).2.2.1, (Dac.Driver.init r.dac).2,
          (r.producer.preload card r.pipeline).2.1, (r.producer.preload card r.pipeline).2.2.2,
          Delay.delayMs Board.startupSettleMs.toNat r.delay⟩) ∧
      report.card = info ∧
      (report.dacReady = true ↔ (Dac.Driver.init r.dac).1 = .ok ()) ∧
      (∀ e, report.preloadError = some e ↔ (r.producer.preload card r.pipeline).1 = .error e) ∧
      (report.preloadError = none ↔ (r.producer.preload card r.pipeline).1 = .ok ()) := by
  rcases hdac : Dac.Driver.init r.dac with ⟨_ | _, dac'⟩ <;>
    rcases hpre : r.producer.preload card r.pipeline with ⟨_ | _, pr', card', p'⟩ <;>
    simp [bringUp, h, hdac, hpre]

/-- What a boot reported and left once the card was up with `info`. The DAC is parked once and
the boot goes on whether that worked; the settle wait is one request of 5000 ms, which a delay
line waiting in nanosecond pieces serves as 32-bit pieces; a failed lower half ends the preload
with its error, and after a good one the error is the upper half's, if any. -/
structure BootedWith (r : BootRig σ δ τ) (info : CardInfo) (report : BootReport) : Prop where
  card : report.card = info
  dac_ready : report.dacReady = true ↔ (Dac.Driver.init r.dac).1 = .ok ()
  dac : r.bringUp.2.dac = (Dac.Driver.init r.dac).2
  settle : r.bringUp.2.delay = Delay.delayMs 5000 r.delay ∧
    ((∀ ms (d : τ), Delay.delayMs ms d = Delay.waitInPieces Delay.delayNs ms d) →
      ∃ pieces : List Nat, pieces.sum = 5000 * 1000000 ∧ (∀ ns ∈ pieces, ns < 2 ^ 32) ∧
        r.bringUp.2.delay = pieces.foldl (fun d ns => Delay.delayNs ns.toUInt32 d) r.delay)
  preloaded : (r.bringUp.2.producer, r.bringUp.2.card, r.bringUp.2.pipeline) =
    (r.producer.preload r.card.bringUp.2 r.pipeline).2
  lower_error : ∀ e, (r.producer.refill .lower r.card.bringUp.2 r.pipeline).1 = .error e →
    report.preloadError = some e ∧
      r.producer.preload r.card.bringUp.2 r.pipeline =
        r.producer.refill .lower r.card.bringUp.2 r.pipeline
  upper_error : (r.producer.refill .lower r.card.bringUp.2 r.pipeline).1 = .ok () →
    ∀ e, report.preloadError = some e ↔
      ((r.producer.refill .lower r.card.bringUp.2 r.pipeline).2.1.refill .upper
        (r.producer.refill .lower r.card.bringUp.2 r.pipeline).2.2.1
        (r.producer.refill .lower r.card.bringUp.2 r.pipeline).2.2.2).1 = .error e
  no_error_iff : report.preloadError = none ↔
    r.bringUp.2.pipeline.ring.isReady .lower = true ∧
      r.bringUp.2.pipeline.ring.isReady .upper = true ∧
      r.bringUp.2.producer.cursor.position.toNat =
        (r.producer.cursor.position.toNat + 1) % r.producer.cursor.total.toNat

/-- The boot's three error policies: a card failure is fatal and touches nothing else; once the
card is up the boot succeeds, as `BootedWith` says. -/
structure BootsInOrder (r : BootRig σ δ τ) : Prop where
  fails_iff : ∀ e, r.bringUp.1 = .error (.storage e) ↔ r.card.bringUp.1 = .error e
  untouched : ∀ e, r.card.bringUp.1 = .error e →
    r.bringUp.2 = { r with card := r.card.bringUp.2 }
  booted : ∀ info, r.card.bringUp.1 = .ok info →
    ∃ report, r.bringUp.1 = .ok report ∧ BootedWith r info report

end BootRig

/-- Bringing the board up, from empty ring halves and a cursor inside its loop: it fails exactly
when the card fails to come up, and then touches nothing else; otherwise it parks the DAC once,
asks for the settle wait and preloads the ring from the card, reporting the first failed read,
and no error is reported exactly when both halves end ready and the cursor one block on. -/
theorem boot_fails_only_on_storage {σ δ ε τ : Type} [SpiLink σ] [Dac.Driver δ ε] [Delay τ]
    (r : BootRig σ δ τ)
    (hcursor : r.producer.cursor.position.toNat < r.producer.cursor.total.toNat)
    (hfresh : r.pipeline.ring.isReady .lower = false ∧ r.pipeline.ring.isReady .upper = false) :
    r.BootsInOrder := by
  rcases hcard : r.card.bringUp with ⟨e | info, card⟩
  · have hboot := BootRig.bringUp_of_storage_error hcard
    constructor
    · intro e'
      rw [hboot, hcard]
      simp
    · intro _ _
      rw [hboot, hcard]
    · intro info h
      rw [hcard] at h
      cases h
  · obtain ⟨report, hboot, hcardinfo, hdac, herr, hnone⟩ := BootRig.bringUp_of_storage_ok hcard
    have hcard₂ : r.card.bringUp.2 = card := by rw [hcard]
    constructor
    · intro e
      rw [hboot, hcard]
      simp
    · intro e h
      rw [hcard] at h
      cases h
    · intro info' hinfo
      rw [hcard, Except.ok.injEq] at hinfo
      subst hinfo
      refine ⟨report, by rw [hboot], ?_⟩
      constructor
      case card => exact hcardinfo
      case dac_ready => exact hdac
      case dac => rw [hboot]
      case settle =>
        refine ⟨by rw [hboot]; rfl, fun hpieces => ?_⟩
        obtain ⟨pieces, hsum, hfit, hwait⟩ := Delay.waitInPieces_eq Delay.delayNs 5000 r.delay
        exact ⟨pieces, hsum, hfit, by rw [hboot, ← hwait, ← hpieces]; rfl⟩
      case preloaded => rw [hboot, hcard₂]
      case lower_error =>
        intro e hlower
        rw [hcard₂] at hlower ⊢
        exact ⟨(herr e).2 (by rw [Producer.preload_of_lower_error hlower, hlower]),
          Producer.preload_of_lower_error hlower⟩
      case upper_error =>
        intro hlower e
        rw [hcard₂] at hlower ⊢
        rw [herr e, Producer.preload_of_lower_ok hlower]
      case no_error_iff => rw [hnone, Producer.preload_ok_iff hcursor hfresh, hboot]

/-- The bench rig: the default simulated card, the recording DAC and delay line, the producer at
the start of the board's asset and a fresh pipeline. -/
def benchBootRig : BootRig Card.SimulatedCard Bench.RecordingDac Bench.RecordingDelay :=
  ⟨⟨Card.SimulatedCard.make {}, .uninitialized⟩, {}, Producer.new AssetLayout.music, {}, {}⟩

theorem bench_boot_fails_only_on_storage :
    benchBootRig.producer.cursor.position.toNat < benchBootRig.producer.cursor.total.toNat ∧
      (benchBootRig.pipeline.ring.isReady .lower = false ∧
        benchBootRig.pipeline.ring.isReady .upper = false) ∧
      benchBootRig.BootsInOrder :=
  have hcursor : benchBootRig.producer.cursor.position.toNat <
      benchBootRig.producer.cursor.total.toNat := by decide
  have hfresh : benchBootRig.pipeline.ring.isReady .lower = false ∧
      benchBootRig.pipeline.ring.isReady .upper = false := ⟨rfl, rfl⟩
  ⟨hcursor, hfresh, boot_fails_only_on_storage benchBootRig hcursor hfresh⟩

end PinballAudio
