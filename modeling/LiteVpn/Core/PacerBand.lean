import LiteVpn.Core.PacerLongRun

/-!
# The band of the adaptive rate, and the arithmetic of `wait`

The rate moves down by 15 % and up by 2 %, each clamped on one side only. Over a
whole run it stays between the configured rate and half of it, whatever the
counters do. That keeps the divisor in `wait` away from zero, and with it every
operation there defined: `checkedWait` is `wait` with the operations that can
panic made explicit.
-/

namespace LiteVpn.Core

open LiteVpn.Semantics

/-- What can panic in `wait`. -/
inductive WaitFault where
  | underflow
  | duration
deriving DecidableEq, Repr

/-- Subtraction of `u64` values. -/
def checkedSub (left right : Nat) : Except WaitFault Nat :=
  if right ≤ left then .ok (left - right) else .error .underflow

/-- `Duration::from_secs_f64` of a quotient: it refuses what is not finite, is
negative, or has more seconds than a `u64` holds. -/
def fromSecsF64 (dividend divisor : ℚ) : Except WaitFault ℚ :=
  if divisor ≠ 0 ∧ 0 ≤ dividend / divisor ∧ dividend / divisor < 2 ^ 64 then
    .ok (dividend / divisor)
  else .error .duration

namespace EgressPacer

/-- `wait`, or the fault that it meets. -/
def checkedWait (pacer : EgressPacer) (now : ℚ) (call : Call) : Except WaitFault ℚ :=
  match pacer.currentBytesPerSec with
  | none => .ok now
  | some bytesPerSec =>
      if pacer.epochBytes ≤ pacer.burstBytes then .ok now
      else
        let measured := now + call.measuring
        if pacer.epochBytes ≤ (measured - pacer.epochStarted) * bytesPerSec + pacer.burstBytes then
          .ok measured
        else do
          let excess ← checkedSub pacer.epochBytes pacer.burstBytes
          let targetElapsed ← fromSecsF64 excess bytesPerSec
          let targetTime := pacer.epochStarted + targetElapsed
          let compared := measured + call.comparing
          return if targetTime > compared then targetTime + call.oversleeping else compared

/-- The call takes a sample that it can compare with an earlier one: it adapts, is
on a connection, comes 250 ms after the last sample, and that one was not the
first. -/
structure Processes (pacer : EgressPacer) (now : ℚ) (call : Call) (stats : PathStats)
    (lostPackets congestionEvents : Nat) : Prop where
  adaptive : pacer.adaptive = true
  connection : call.connection = some stats
  spaced : 1 / 4 ≤ now + call.idle + call.adjusting - pacer.lastAdjust
  lost : pacer.lastLostPackets = some lostPackets
  congestion : pacer.lastCongestionEvents = some congestionEvents

/-- How the rate follows the samples from a state on: a sample with a grown
counter never raises it, one without never lowers it, and without a sample to
process it stays. -/
structure FollowsSamples (pacer : EgressPacer) (rate : ℚ) : Prop where
  falls : ∀ now call stats lost congestion next, pacer.Processes now call stats lost congestion →
    lost < stats.lostPackets ∨ congestion < stats.congestionEvents →
      (pacer.recordAndWait now call).1.currentBytesPerSec = some next → next ≤ rate
  rises : ∀ now call stats lost congestion next, pacer.Processes now call stats lost congestion →
    ¬ (lost < stats.lostPackets ∨ congestion < stats.congestionEvents) →
      (pacer.recordAndWait now call).1.currentBytesPerSec = some next → rate ≤ next
  stays : ∀ now call, (¬ ∃ stats lost congestion, pacer.Processes now call stats lost congestion) →
    (pacer.recordAndWait now call).1.currentBytesPerSec = some rate

/-- The arithmetic of `wait` is defined in a state: the divisor is not small, the
delay is not long, and no operation faults at any time. -/
structure WaitDefined (pacer : EgressPacer) (rate : ℚ) : Prop where
  divisor : 62500 ≤ rate
  delay : ((pacer.epochBytes - pacer.burstBytes : Nat) : ℚ) / rate < 2 ^ 64 / 62500
  defined : ∀ now call, pacer.checkedWait now call = .ok (pacer.wait now call)

/-- What every reachable pacer keeps. -/
structure Steady (pacer : EgressPacer) (max rate : ℚ) : Prop extends Banded pacer max rate where
  counted : pacer.epochBytes ≤ maxU64
  paired : pacer.lastCongestionEvents.isSome = pacer.lastLostPackets.isSome

theorem steady_new {targetMbps : Nat} (positive : 1 ≤ targetMbps) (packetBytes : Nat)
    (adaptive : Bool) (now : ℚ) :
    (new targetMbps packetBytes adaptive now).Steady (targetMbps * 1000000 / 8)
      (targetMbps * 1000000 / 8) :=
  ⟨banded_new positive packetBytes adaptive now, Nat.zero_le _, rfl⟩

variable {pacer : EgressPacer} {max rate now : ℚ} {call : Call}

/-- One call keeps it, at some rate. -/
theorem Steady.recordAndWait (steady : pacer.Steady max rate) (now : ℚ) (call : Call) :
    ∃ next, (pacer.recordAndWait now call).1.Steady max next := by
  obtain ⟨next, entered, turn, same⟩ := recordAndWait_entered steady.current now call
  have counted : saturatingAdd pacer.epochBytes call.packetBytes ≤ maxU64 :=
    saturatingAdd_le_max _ _
  rw [same]
  cases turn with
  | kept later unchanged =>
      exact ⟨rate, ⟨steady.positive, steady.maximum, steady.minimum, steady.current, steady.lower,
        steady.upper⟩, counted, steady.paired⟩
  | sampled later spaced unchanged =>
      exact ⟨rate, ⟨steady.positive, steady.maximum, steady.minimum, steady.current, steady.lower,
        steady.upper⟩, counted, rfl⟩
  | @reset stats previousLostPackets stamped entered later latest spaced anew =>
      have band := steady.nextRate_mem (pacer.grown previousLostPackets stats)
      exact ⟨_, ⟨steady.positive, steady.maximum, steady.minimum, rfl, band.1, band.2⟩,
        Nat.zero_le _, rfl⟩

/-- Any number of calls keeps it. -/
theorem Steady.runCalls (steady : pacer.Steady max rate) (now : ℚ) (calls : List Call) :
    ∃ next, (pacer.runCalls now calls).1.Steady max next := by
  induction calls generalizing pacer rate now with
  | nil => exact ⟨rate, steady⟩
  | cons call rest inductionHypothesis =>
      obtain ⟨next, kept⟩ := steady.recordAndWait now call
      exact inductionHypothesis kept _

/-- The rate behind a processed sample: a move that is only rounding is not made. -/
def settled (rate next : ℚ) : ℚ := if |next - rate| > epsilon then next else rate

theorem settled_le {next : ℚ} (down : next ≤ rate) : settled rate next ≤ rate := by
  unfold settled
  split_ifs
  · exact down
  · exact le_refl _

theorem le_settled {next : ℚ} (up : rate ≤ next) : rate ≤ settled rate next := by
  unfold settled
  split_ifs
  · exact up
  · exact le_refl _

variable {stats : PathStats} {lost congestion : Nat}

/-- What a processed sample makes of the rate. -/
theorem recordAndWait_processed (current : pacer.currentBytesPerSec = some rate)
    (processes : pacer.Processes now call stats lost congestion) :
    (pacer.recordAndWait now call).1.currentBytesPerSec =
      some (settled rate (pacer.nextRate rate (pacer.grown lost stats))) := by
  have recorded : (pacer.record call.packetBytes).currentBytesPerSec = some rate := current
  have known : (pacer.record call.packetBytes).lastLostPackets = some lost := processes.lost
  have late : ¬ now + call.idle + call.adjusting -
      (pacer.record call.packetBytes).lastAdjust < 1 / 4 := not_lt.mpr processes.spaced
  cases adjusted : (pacer.record call.packetBytes).adjust stats (now + call.idle) call with
  | mk next entered =>
      rw [recordAndWait_adaptive processes.adaptive processes.connection adjusted]
      simp only [adjust, recorded, if_neg late, known] at adjusted
      unfold settled
      split_ifs at adjusted with moved
      · cases adjusted
        exact congrArg some (if_pos moved).symm
      · cases adjusted
        exact current.trans (congrArg some (if_neg moved).symm)

/-- With both counters known, grown means that one of them has grown. -/
theorem grown_iff (known : pacer.lastCongestionEvents = some congestion) :
    pacer.grown lost stats = true ↔
      lost < stats.lostPackets ∨ congestion < stats.congestionEvents := by
  simp [grown, known]

/-- A rate in its band is not raised by growth and not lowered without. -/
theorem Banded.nextRate_le (banded : pacer.Banded max rate) : pacer.nextRate rate true ≤ rate := by
  have positive := banded.rate_pos
  simp only [nextRate, if_true, banded.minimum, Option.getD_some]
  exact max_le (by linarith) banded.lower

theorem Banded.le_nextRate (banded : pacer.Banded max rate) : rate ≤ pacer.nextRate rate false := by
  have positive := banded.rate_pos
  simp only [nextRate, Bool.false_eq_true, if_false, banded.maximum, Option.getD_some]
  exact le_min (by linarith) banded.upper

/-- A new epoch comes of a processed sample only. -/
theorem Steady.processes_of_resetsEpoch (steady : pacer.Steady max rate)
    (anew : pacer.resetsEpoch now call = true) :
    ∃ stats lost congestion, pacer.Processes now call stats lost congestion := by
  unfold resetsEpoch at anew
  split at anew
  · rename_i stats current lost adaptive connection _ known
    have paired := steady.paired
    rw [known] at paired
    obtain ⟨congestion, counted⟩ := Option.isSome_iff_exists.mp paired
    rw [Bool.and_eq_true, decide_eq_true_eq, not_lt] at anew
    exact ⟨stats, lost, congestion, adaptive, connection, anew.1, known, counted⟩
  · cases anew

theorem Steady.followsSamples (steady : pacer.Steady max rate) : pacer.FollowsSamples rate where
  falls := by
    intro now call stats lost congestion next processes grew same
    have processed := recordAndWait_processed steady.current processes
    rw [same, (grown_iff processes.congestion).mpr grew] at processed
    cases processed
    exact settled_le steady.nextRate_le
  rises := by
    intro now call stats lost congestion next processes steadied same
    have processed := recordAndWait_processed steady.current processes
    rw [← grown_iff processes.congestion, Bool.not_eq_true] at steadied
    rw [same, steadied] at processed
    cases processed
    exact le_settled steady.le_nextRate
  stays := by
    intro now call unsampled
    obtain ⟨next, entered, turn, same⟩ := recordAndWait_entered steady.current now call
    rw [same]
    cases turn with
    | kept => exact steady.current
    | sampled => exact steady.current
    | reset later latest spaced anew => exact absurd (steady.processes_of_resetsEpoch anew) unsampled

/-- No excess of an epoch takes long at a rate that is not small. -/
theorem excess_div_lt (fast : 62500 ≤ rate) {excess : Nat} (fits : excess ≤ maxU64) :
    (excess : ℚ) / rate < 2 ^ 64 / 62500 := by
  have positive : 0 < rate := by linarith
  have below : (excess : ℚ) < 2 ^ 64 := by
    have strict : excess < 2 ^ 64 := by
      rw [maxU64] at fits
      omega
    exact_mod_cast strict
  calc (excess : ℚ) / rate ≤ excess / 62500 :=
        div_le_div_of_nonneg_left (Nat.cast_nonneg excess) (by norm_num) fast
    _ < 2 ^ 64 / 62500 := div_lt_div_of_pos_right below (by norm_num)

/-- The quotient of an excess and a rate that is not small is a `Duration`. -/
theorem fromSecsF64_ok (fast : 62500 ≤ rate) {excess : Nat} (fits : excess ≤ maxU64) :
    fromSecsF64 excess rate = .ok (excess / rate) := by
  have positive : 0 < rate := by linarith
  have short := excess_div_lt fast fits
  have bound : (2 : ℚ) ^ 64 / 62500 < 2 ^ 64 := by norm_num
  rw [fromSecsF64, if_pos]
  exact ⟨positive.ne', div_nonneg (Nat.cast_nonneg excess) positive.le, short.trans bound⟩

/-- With a rate that is not small and a counter that fits, `wait` never faults. -/
theorem checkedWait_ok (current : pacer.currentBytesPerSec = some rate) (fast : 62500 ≤ rate)
    (counted : pacer.epochBytes ≤ maxU64) (now : ℚ) (call : Call) :
    pacer.checkedWait now call = .ok (pacer.wait now call) := by
  have fits : pacer.epochBytes - pacer.burstBytes ≤ maxU64 := (Nat.sub_le _ _).trans counted
  simp only [checkedWait, wait, current]
  by_cases small : pacer.epochBytes ≤ pacer.burstBytes
  · simp only [if_pos small]
  · have enough : pacer.burstBytes ≤ pacer.epochBytes := by omega
    simp only [if_neg small, checkedSub, if_pos enough, bind, Except.bind,
      fromSecsF64_ok fast fits]
    split <;> rfl

theorem Steady.waitDefined (steady : pacer.Steady max rate) (fast : 125000 ≤ max) :
    pacer.WaitDefined rate := by
  have divisor : 62500 ≤ rate := by
    have lower := steady.lower
    linarith
  have fits : pacer.epochBytes - pacer.burstBytes ≤ maxU64 :=
    (Nat.sub_le _ _).trans steady.counted
  exact ⟨divisor, excess_div_lt divisor fits,
    checkedWait_ok steady.current divisor steady.counted⟩

/-- For every target of at least one megabit, every run of calls leaves the rate
between the target and half of it; from there on the rate follows the samples,
and the arithmetic of `wait` is defined. -/
theorem rate_banded_and_wait_defined (targetMbps packetBytes : Nat) (adaptive : Bool)
    (started : ℚ) (calls : List Call) (positive : 1 ≤ targetMbps) :
    ∃ rate,
      ((new targetMbps packetBytes adaptive started).runCalls started calls).1.currentBytesPerSec =
          some rate ∧
        (targetMbps * 1000000 / 8 : ℚ) / 2 ≤ rate ∧ rate ≤ targetMbps * 1000000 / 8 ∧
        ((new targetMbps packetBytes adaptive started).runCalls started calls).1.FollowsSamples
          rate ∧
        ((new targetMbps packetBytes adaptive started).runCalls started calls).1.WaitDefined
          rate := by
  have cast : (1 : ℚ) ≤ targetMbps := by exact_mod_cast positive
  obtain ⟨rate, steady⟩ :=
    (steady_new positive packetBytes adaptive started).runCalls started calls
  have lower := steady.lower
  exact ⟨rate, steady.current, by linarith, steady.upper, steady.followsSamples,
    steady.waitDefined (by linarith)⟩

/-- Two samples with a packet lost between them bring a pacer of one megabit down
by 15 %, inside its band. -/
theorem rate_banded_lossyCalls :
    ((new 1 1300 true 0).runCalls 0 lossyCalls).1.currentBytesPerSec = some 106250 ∧
      ((new 1 1300 true 0).runCalls 0 lossyCalls).1.FollowsSamples 106250 ∧
      ((new 1 1300 true 0).runCalls 0 lossyCalls).1.WaitDefined 106250 := by
  have down : ((new 1 1300 true 0).runCalls 0 lossyCalls).1.currentBytesPerSec =
      some 106250 := by decide +kernel
  obtain ⟨rate, current, _, _, follows, defined⟩ :=
    rate_banded_and_wait_defined 1 1300 true 0 lossyCalls (by decide)
  rw [down] at current
  cases current
  exact ⟨down, follows, defined⟩

end EgressPacer

end LiteVpn.Core
