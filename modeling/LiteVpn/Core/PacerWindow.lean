import LiteVpn.Core.Pacer
import Mathlib.Tactic.Linarith

/-!
# What the static pacer promises about a window

A static pacer holds the total since its construction below the burst and the
rate times the elapsed time. Whatever of that allowance an idle time leaves
unspent stays available, so a later window can carry it on top of its own. A
window is bounded exactly where it starts with nothing unspent.
-/

namespace LiteVpn.Core

open LiteVpn.Semantics

namespace EgressPacer

/-- The bytes that the calls record. -/
def recorded (calls : List Call) : Nat := (calls.map Call.packetBytes).sum

/-- The pacer never adjusts its rate. -/
structure Static (pacer : EgressPacer) (rate : ℚ) : Prop where
  fixed : pacer.adaptive = false
  current : pacer.currentBytesPerSec = some rate
  positive : 0 < rate

theorem static_new {targetMbps : Nat} (positive : 1 ≤ targetMbps) (packetBytes : Nat) (now : ℚ) :
    (new targetMbps packetBytes false now).Static (targetMbps * 1000000 / 8) := by
  have nonzero : targetMbps ≠ 0 := by omega
  refine ⟨rfl, by simp [new, targetBytesPerSec, nonzero], ?_⟩
  have cast : (1 : ℚ) ≤ targetMbps := by exact_mod_cast positive
  linarith

variable {pacer : EgressPacer} {rate now : ℚ} {call : Call}

theorem Static.record (static : pacer.Static rate) (packetBytes : Nat) :
    (pacer.record packetBytes).Static rate :=
  ⟨static.fixed, static.current, static.positive⟩

/-- A static pacer only counts the bytes. -/
theorem Static.recordAndWait_fst (static : pacer.Static rate) :
    (pacer.recordAndWait now call).1 = pacer.record call.packetBytes := by
  simp [recordAndWait, static.fixed, EgressPacer.record]

theorem Static.recordAndWait_snd (static : pacer.Static rate) :
    (pacer.recordAndWait now call).2 =
      (pacer.record call.packetBytes).wait (now + call.idle) call + call.returning := by
  simp [recordAndWait, static.fixed, EgressPacer.record]

/-- From the target time on, the whole epoch is inside its allowance. -/
theorem within_allowance (positive : 0 < rate) {returned : ℚ}
    (large : pacer.burstBytes ≤ pacer.epochBytes)
    (late : pacer.epochStarted + ((pacer.epochBytes - pacer.burstBytes : Nat) : ℚ) / rate ≤
      returned) :
    (pacer.epochBytes : ℚ) ≤ pacer.burstBytes + rate * (returned - pacer.epochStarted) := by
  have elapsed : ((pacer.epochBytes - pacer.burstBytes : Nat) : ℚ) ≤
      (returned - pacer.epochStarted) * rate := by
    rw [← div_le_iff₀ positive]
    linarith
  rw [Nat.cast_sub large] at elapsed
  linarith

/-- `wait` returns no earlier than it is entered, and with the whole epoch inside
its allowance. -/
theorem wait_spec (current : pacer.currentBytesPerSec = some rate) (positive : 0 < rate)
    (started : pacer.epochStarted ≤ now) (call : Call) :
    now ≤ pacer.wait now call ∧
      (pacer.epochBytes : ℚ) ≤
        pacer.burstBytes + rate * (pacer.wait now call - pacer.epochStarted) := by
  have measuring := NNRat.coe_nonneg call.measuring
  have comparing := NNRat.coe_nonneg call.comparing
  have oversleeping := NNRat.coe_nonneg call.oversleeping
  simp only [wait, current]
  split_ifs with small allowed early
  · have cast : (pacer.epochBytes : ℚ) ≤ pacer.burstBytes := by exact_mod_cast small
    have elapsed : 0 ≤ rate * (now - pacer.epochStarted) :=
      mul_nonneg positive.le (by linarith)
    exact ⟨le_refl _, by linarith⟩
  · exact ⟨by linarith, by linarith⟩
  · exact ⟨by linarith, within_allowance positive (by omega) (by linarith)⟩
  · exact ⟨by linarith, within_allowance positive (by omega) (by linarith)⟩

/-- Without any delay of its own, `wait` returns at once or at the target time. -/
theorem Static.wait_prompt (static : pacer.Static rate) (packetBytes : Nat) :
    pacer.wait now { packetBytes := packetBytes } = now ∨
      pacer.burstBytes ≤ pacer.epochBytes ∧
        pacer.wait now { packetBytes := packetBytes } =
          pacer.epochStarted + ((pacer.epochBytes - pacer.burstBytes : Nat) : ℚ) / rate := by
  simp only [wait, static.current, NNRat.cast_zero, add_zero]
  split_ifs with small
  · exact .inl rfl
  · exact .inl rfl
  · exact .inr ⟨by omega, rfl⟩
  · exact .inl rfl

/-- A static pacer at rest at `now`: the epoch lies behind, its counter fits, and
its bytes are inside the allowance. -/
structure Paced (pacer : EgressPacer) (rate now : ℚ) : Prop extends Static pacer rate where
  started : pacer.epochStarted ≤ now
  counted : pacer.epochBytes ≤ maxU64
  within : (pacer.epochBytes : ℚ) ≤ pacer.burstBytes + rate * (now - pacer.epochStarted)

theorem paced_new {targetMbps : Nat} (positive : 1 ≤ targetMbps) (packetBytes : Nat) (now : ℚ) :
    (new targetMbps packetBytes false now).Paced (targetMbps * 1000000 / 8) now := by
  refine ⟨static_new positive packetBytes now, le_refl _, Nat.zero_le _, ?_⟩
  simp [new]

/-- One call leaves the pacer at rest again, no earlier than before. -/
theorem Paced.recordAndWait (paced : pacer.Paced rate now) (call : Call) :
    (pacer.recordAndWait now call).1.Paced rate (pacer.recordAndWait now call).2 ∧
      now ≤ (pacer.recordAndWait now call).2 := by
  have static := paced.toStatic.record call.packetBytes
  have idle := NNRat.coe_nonneg call.idle
  have returning := NNRat.coe_nonneg call.returning
  have started : (pacer.record call.packetBytes).epochStarted ≤ now + call.idle := by
    have := paced.started
    simp only [EgressPacer.record]
    linarith
  obtain ⟨later, within⟩ := wait_spec static.current static.positive started call
  rw [paced.recordAndWait_fst, paced.recordAndWait_snd]
  refine ⟨⟨static, by linarith, saturatingAdd_le_max _ _, ?_⟩, by linarith⟩
  have extra := mul_nonneg paced.positive.le returning
  linarith

/-- Any number of calls leaves the pacer at rest again, no earlier than before. -/
theorem Paced.runCalls (paced : pacer.Paced rate now) (calls : List Call) :
    (pacer.runCalls now calls).1.Paced rate (pacer.runCalls now calls).2 ∧
      now ≤ (pacer.runCalls now calls).2 := by
  induction calls generalizing pacer now with
  | nil => exact ⟨paced, le_refl _⟩
  | cons call rest inductionHypothesis =>
      obtain ⟨next, later⟩ := paced.recordAndWait call
      obtain ⟨last, latest⟩ := inductionHypothesis next
      exact ⟨last, later.trans latest⟩

/-- All that the calls change in the pacer is the counter. -/
theorem Paced.runCalls_fst (paced : pacer.Paced rate now) (calls : List Call) :
    (pacer.runCalls now calls).1 =
      { pacer with epochBytes := min (pacer.epochBytes + recorded calls) maxU64 } := by
  induction calls generalizing pacer now with
  | nil => simp [EgressPacer.runCalls, recorded, Nat.min_eq_left paced.counted]
  | cons call rest inductionHypothesis =>
      have next := (paced.recordAndWait call).1
      simp only [EgressPacer.runCalls]
      rw [inductionHypothesis next, paced.recordAndWait_fst]
      simp only [EgressPacer.record, saturatingAdd, recorded, List.map_cons, List.sum_cons]
      congr 1
      omega

/-- What the calls of a window record is at most the burst and the rate times the
time they take. -/
def WindowBounded (pacer : EgressPacer) (rate now : ℚ) (calls : List Call) : Prop :=
  (recorded calls : ℚ) ≤ pacer.burstBytes + rate * ((pacer.runCalls now calls).2 - now)

/-- The epoch's counter can still count the whole window. -/
def Countable (pacer : EgressPacer) (calls : List Call) : Prop :=
  pacer.epochBytes + recorded calls ≤ maxU64

/-- Nothing of the epoch's allowance is left over. -/
def NothingUnspent (pacer : EgressPacer) (rate now : ℚ) : Prop :=
  rate * (now - pacer.epochStarted) ≤ pacer.epochBytes

/-- A window that starts with nothing unspent lives on the time it takes. -/
theorem Paced.windowBounded (paced : pacer.Paced rate now)
    (spent : pacer.NothingUnspent rate now) {calls : List Call} (fits : pacer.Countable calls) :
    pacer.WindowBounded rate now calls := by
  have within := (paced.runCalls calls).1.within
  rw [paced.runCalls_fst, Nat.min_eq_left fits] at within
  push_cast at within
  unfold NothingUnspent at spent
  unfold WindowBounded
  linarith

/-- With less than a burst left in the counter no window can exceed the burst. -/
theorem Paced.windowBounded_of_full (paced : pacer.Paced rate now)
    (full : maxU64 ≤ pacer.epochBytes + pacer.burstBytes) {calls : List Call}
    (fits : pacer.Countable calls) : pacer.WindowBounded rate now calls := by
  unfold Countable at fits
  unfold WindowBounded
  have small : (recorded calls : ℚ) ≤ pacer.burstBytes := by
    exact_mod_cast (by omega : recorded calls ≤ pacer.burstBytes)
  have elapsed : 0 ≤ rate * ((pacer.runCalls now calls).2 - now) :=
    mul_nonneg paced.positive.le (sub_nonneg.mpr (paced.runCalls calls).2)
  linarith

/-- One byte more than the burst, sent at once, uses up what is unspent. -/
theorem Paced.nothingUnspent (paced : pacer.Paced rate now)
    (room : pacer.epochBytes + pacer.burstBytes < maxU64)
    (bounded : ∀ calls, pacer.Countable calls → pacer.WindowBounded rate now calls) :
    pacer.NothingUnspent rate now := by
  have static := paced.toStatic.record (pacer.burstBytes + 1)
  have counter : (pacer.record (pacer.burstBytes + 1)).epochBytes =
      pacer.epochBytes + (pacer.burstBytes + 1) :=
    saturatingAdd_of_le (by omega)
  have window := bounded [{ packetBytes := pacer.burstBytes + 1 }]
    (by simp only [Countable, recorded, List.map_cons, List.map_nil, List.sum_cons, List.sum_nil]
        omega)
  simp only [WindowBounded, recorded, List.map_cons, List.map_nil, List.sum_cons,
    List.sum_nil, add_zero, EgressPacer.runCalls, paced.recordAndWait_snd,
    NNRat.cast_zero] at window
  push_cast at window
  rcases static.wait_prompt (pacer.burstBytes + 1) with atOnce | ⟨_, atTarget⟩
  · rw [atOnce] at window
    linarith
  · -- The call returns when the rate has covered the epoch and this one byte.
    have overshoot : (pacer.record (pacer.burstBytes + 1)).epochBytes -
        (pacer.record (pacer.burstBytes + 1)).burstBytes = pacer.epochBytes + 1 := by
      rw [counter]
      simp only [EgressPacer.record]
      omega
    have covered : rate * (((pacer.epochBytes + 1 : Nat) : ℚ) / rate) = pacer.epochBytes + 1 := by
      rw [mul_div_cancel₀ _ paced.positive.ne']
      push_cast
      rfl
    rw [atTarget, overshoot] at window
    simp only [EgressPacer.record] at window
    unfold NothingUnspent
    linarith

/-- For a static pacer, after any calls at any times: every window that starts
there and that the counter can count is bounded exactly when nothing of the
allowance is unspent, or when the counter has no room left for a longer window
than the burst. -/
theorem windowsBounded_iff {targetMbps packetBytes : Nat} {started now : ℚ}
    {before : List Call} {pacer : EgressPacer} (positive : 1 ≤ targetMbps)
    (reached : (new targetMbps packetBytes false started).runCalls started before =
      (pacer, now)) :
    (∀ calls, pacer.Countable calls →
        pacer.WindowBounded (targetMbps * 1000000 / 8) now calls) ↔
      pacer.NothingUnspent (targetMbps * 1000000 / 8) now ∨
        maxU64 ≤ pacer.epochBytes + pacer.burstBytes := by
  have paced := ((paced_new positive packetBytes started).runCalls before).1
  rw [reached] at paced
  constructor
  · intro bounded
    by_cases full : maxU64 ≤ pacer.epochBytes + pacer.burstBytes
    · exact .inr full
    · exact .inl (paced.nothingUnspent (Nat.not_le.mp full) bounded)
  · rintro (spent | full) calls fits
    · exact paced.windowBounded spent fits
    · exact paced.windowBounded_of_full full fits

/-- A pacer of 8 Mbit/s that has sent more than its burst from the start. -/
def busyStart : EgressPacer × ℚ :=
  (new 8 1300 false 0).runCalls 0 [{ packetBytes := 4000 }, { packetBytes := 2000 }]

/-- A pacer of 8 Mbit/s whose first call comes after a second of silence. -/
def idleStart : EgressPacer × ℚ :=
  (new 8 1300 false 0).runCalls 0 [{ packetBytes := 1300, idle := 1 }]

/-- A busy start leaves nothing unspent, and every window after it is bounded. -/
theorem windowsBounded_busyStart :
    busyStart.1.NothingUnspent ((8 : Nat) * 1000000 / 8) busyStart.2 ∧
      ∀ calls, busyStart.1.Countable calls →
        busyStart.1.WindowBounded ((8 : Nat) * 1000000 / 8) busyStart.2 calls := by
  have spent : busyStart.1.NothingUnspent ((8 : Nat) * 1000000 / 8) busyStart.2 := by
    unfold NothingUnspent
    decide +kernel
  exact ⟨spent, (windowsBounded_iff (by decide) rfl).mpr (.inl spent)⟩

/-- Eight full packets at once. -/
def eightPackets : List Call := List.replicate 8 { packetBytes := 1300 }

/-- After an idle second eight full packets pass at once, although the burst is
5000 bytes. -/
theorem idleStart_unbounded :
    idleStart.1.burstBytes = 5000 ∧ idleStart.1.Countable eightPackets ∧
      ¬ idleStart.1.WindowBounded ((8 : Nat) * 1000000 / 8) idleStart.2 eightPackets := by
  unfold WindowBounded Countable
  decide +kernel

end EgressPacer

end LiteVpn.Core
