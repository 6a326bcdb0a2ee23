import LiteVpn.Core.PacerLongRun

/-!
# What the pacer costs its caller

The other side of the bounds on the rate. A call that finds the pacer at rest is
held back for no longer than its own packet takes at the rate in force while it
waits; an idle time before it only helps. So a caller that always has a packet
ready is never slowed down below the rates in force, and these are at least half
of the configured one for an adaptive pacer and the configured one for a static
pacer.
-/

namespace LiteVpn.Core

open LiteVpn.Semantics

/-- The time of a call that is not spent pacing: what its caller lets pass before
it, what its readings of the clock take, and what it oversleeps. -/
def Call.ownTime (call : Call) : ℚ :=
  call.idle + call.adjusting + call.stamping + call.resetting + call.measuring + call.comparing +
    call.oversleeping + call.returning

namespace EgressPacer

/-- The time of all the calls that is not spent pacing. -/
def ownTime (calls : List Call) : ℚ := (calls.map Call.ownTime).sum

/-- The time of a packet at a rate; without a rate nothing is paced. -/
def timeAt (packetBytes : Nat) (bytesPerSec : Option ℚ) : ℚ :=
  (bytesPerSec.map fun rate => (packetBytes : ℚ) / rate).getD 0

/-- The time of the packets of all the calls, each at the rate in force when its
call waits. -/
def packetTime (pacer : EgressPacer) (now : ℚ) : List Call → ℚ
  | [] => 0
  | call :: rest =>
      let (next, returned) := pacer.recordAndWait now call
      timeAt call.packetBytes next.currentBytesPerSec + next.packetTime returned rest

/-- The slowest rate that a pacer may come to. -/
def slowest (adaptive : Bool) (max : ℚ) : ℚ := if adaptive then max * (1 / 2) else max

/-- A pacer at rest at `now`: its rate is in its band, and is the configured one if
it never adjusts; its epoch lies behind and is inside its allowance. -/
structure Rested (pacer : EgressPacer) (adaptive : Bool) (max rate now : ℚ) : Prop
    extends Banded pacer max rate where
  mode : pacer.adaptive = adaptive
  fixed : adaptive = false → rate = max
  started : pacer.epochStarted ≤ now
  within : (pacer.epochBytes : ℚ) ≤ pacer.burstBytes + rate * (now - pacer.epochStarted)

theorem rested_new {targetMbps : Nat} (positive : 1 ≤ targetMbps) (packetBytes : Nat)
    (adaptive : Bool) (now : ℚ) :
    (new targetMbps packetBytes adaptive now).Rested adaptive (targetMbps * 1000000 / 8)
      (targetMbps * 1000000 / 8) now := by
  refine ⟨banded_new positive packetBytes adaptive now, rfl, fun _ => rfl, le_refl _, ?_⟩
  simp [new]

variable {pacer : EgressPacer} {adaptive : Bool} {max rate now : ℚ} {call : Call}

theorem slowest_pos (positive : 0 < max) : 0 < slowest adaptive max := by
  unfold slowest
  split
  · linarith
  · exact positive

theorem Rested.slowest_le (rested : pacer.Rested adaptive max rate now) :
    slowest adaptive max ≤ rate := by
  unfold slowest
  split
  · exact rested.lower
  · rename_i static
    exact (rested.fixed (Bool.not_eq_true _ ▸ static)).ge

/-- `wait` returns at once, or as soon as the epoch is inside its allowance. -/
theorem wait_le (current : pacer.currentBytesPerSec = some rate) (positive : 0 < rate) {limit : ℚ}
    (covered : (pacer.epochBytes : ℚ) ≤
      pacer.burstBytes + rate * (limit - pacer.epochStarted)) (call : Call) :
    pacer.wait now call ≤
      Max.max now limit + call.measuring + call.comparing + call.oversleeping := by
  have measuring := NNRat.coe_nonneg call.measuring
  have comparing := NNRat.coe_nonneg call.comparing
  have oversleeping := NNRat.coe_nonneg call.oversleeping
  have entered := le_max_left now limit
  have bounded := le_max_right now limit
  simp only [wait, current]
  split_ifs with small allowed early
  · linarith
  · linarith
  · have target : ((pacer.epochBytes - pacer.burstBytes : Nat) : ℚ) / rate ≤
        limit - pacer.epochStarted := by
      rw [div_le_iff₀ positive, Nat.cast_sub (by omega)]
      linarith
    linarith
  · linarith

/-- How late a call begins to wait. -/
theorem adjust_snd_le (stats : PathStats) (call : Call) :
    (pacer.adjust stats now call).2 ≤ now + call.adjusting + call.stamping + call.resetting := by
  have adjusting := NNRat.coe_nonneg call.adjusting
  have stamping := NNRat.coe_nonneg call.stamping
  have resetting := NNRat.coe_nonneg call.resetting
  unfold adjust
  split
  · linarith
  · simp only
    split_ifs with early
    · linarith
    · split
      · linarith
      · split_ifs
        · linarith
        · linarith

/-- The latest that a call may begin to wait. -/
def latestEntry (now : ℚ) (call : Call) : ℚ :=
  now + call.idle + call.adjusting + call.stamping + call.resetting

/-- A call records, perhaps adjusts, and begins to wait in time. -/
theorem recordAndWait_entered_le (current : pacer.currentBytesPerSec = some rate) (now : ℚ)
    (call : Call) :
    ∃ next entered, Entered pacer rate now call next entered ∧ entered ≤ latestEntry now call ∧
      pacer.recordAndWait now call = (next, next.wait entered call + call.returning) := by
  have idle := NNRat.coe_nonneg call.idle
  have adjusting := NNRat.coe_nonneg call.adjusting
  have stamping := NNRat.coe_nonneg call.stamping
  have resetting := NNRat.coe_nonneg call.resetting
  unfold latestEntry
  by_cases plain : pacer.adaptive = false ∨ call.connection = none
  · refine ⟨_, _, .kept (by linarith) ?_, by linarith, recordAndWait_plain plain⟩
    rcases plain with fixed | alone
    · simp [resetsEpoch, fixed]
    · simp [resetsEpoch, alone]
  · simp only [not_or, Bool.not_eq_false] at plain
    obtain ⟨adaptive, connected⟩ := plain
    obtain ⟨stats, connection⟩ := Option.ne_none_iff_exists'.mp connected
    obtain ⟨next, entered, turn, adjusted⟩ := adjust_entered now current adaptive connection
    have bounded := @adjust_snd_le (pacer.record call.packetBytes) (now + call.idle) stats call
    rw [adjusted] at bounded
    exact ⟨next, entered, turn, bounded, recordAndWait_adaptive adaptive connection adjusted⟩

/-- Recording adds no more than the packet. -/
theorem record_epochBytes_le (packetBytes : Nat) :
    ((pacer.record packetBytes).epochBytes : ℚ) ≤ pacer.epochBytes + packetBytes := by
  exact_mod_cast Nat.min_le_left _ _

/-- The packet of a call is covered one packet time behind the rest before it. -/
theorem Rested.covered (rested : pacer.Rested adaptive max rate now) (packetBytes : Nat) :
    ((pacer.record packetBytes).epochBytes : ℚ) ≤
      pacer.burstBytes + rate * (now + packetBytes / rate - pacer.epochStarted) := by
  have recorded := @record_epochBytes_le pacer packetBytes
  have within := rested.within
  have whole : rate * (packetBytes / rate) = packetBytes :=
    mul_div_cancel₀ _ rested.rate_pos.ne'
  have expanded : rate * (now + packetBytes / rate - pacer.epochStarted) =
      rate * (now - pacer.epochStarted) + rate * (packetBytes / rate) := by
    ring
  linarith

/-- Whatever is paced at a rate from the band is paced at the slowest rate or
faster. -/
theorem Rested.div_rate_le (rested : pacer.Rested adaptive max rate now) (packetBytes : Nat) :
    (packetBytes : ℚ) / rate ≤ packetBytes / slowest adaptive max :=
  div_le_div_of_nonneg_left (Nat.cast_nonneg packetBytes) (slowest_pos rested.positive)
    rested.slowest_le

/-- A call that starts no new epoch is held back for at most its packet's time. -/
theorem Rested.kept (rested : pacer.Rested adaptive max rate now) (next : EgressPacer)
    {entered : ℚ} (later : now ≤ entered) (timely : entered ≤ latestEntry now call)
    (rates : next.maxBytesPerSec = pacer.maxBytesPerSec ∧
      next.minBytesPerSec = pacer.minBytesPerSec ∧
      next.currentBytesPerSec = pacer.currentBytesPerSec)
    (same : next.adaptive = pacer.adaptive ∧ next.burstBytes = pacer.burstBytes ∧
      next.epochStarted = pacer.epochStarted)
    (bytes : next.epochBytes = (pacer.record call.packetBytes).epochBytes) :
    next.Rested adaptive max rate (next.wait entered call + call.returning) ∧
      next.wait entered call + call.returning ≤
        now + call.ownTime + call.packetBytes / rate := by
  obtain ⟨sameMode, sameBurst, sameStart⟩ := same
  have inBand : next.Banded max rate := by
    refine ⟨rested.positive, ?_, ?_, ?_, rested.lower, rested.upper⟩
    · rw [rates.1, rested.maximum]
    · rw [rates.2.1, rested.minimum]
    · rw [rates.2.2, rested.current]
  have began : next.epochStarted ≤ entered := by
    rw [sameStart]
    exact rested.started.trans later
  have covered : (next.epochBytes : ℚ) ≤
      next.burstBytes + rate * (now + call.packetBytes / rate - next.epochStarted) := by
    rw [bytes, sameBurst, sameStart]
    exact rested.covered call.packetBytes
  have returning := NNRat.coe_nonneg call.returning
  have lasting : (0 : ℚ) ≤ call.packetBytes / rate :=
    div_nonneg (Nat.cast_nonneg _) inBand.rate_pos.le
  obtain ⟨waited, within⟩ := wait_spec inBand.current inBand.rate_pos began call
  constructor
  · have extra := mul_nonneg inBand.rate_pos.le returning
    exact ⟨inBand, sameMode.trans rested.mode, rested.fixed, by linarith, by linarith⟩
  · have bounded := @wait_le next rate entered inBand.current inBand.rate_pos _ covered call
    have entry : Max.max entered (now + call.packetBytes / rate) ≤
        latestEntry now call + call.packetBytes / rate :=
      max_le (by linarith) (by linarith)
    simp only [latestEntry] at entry
    simp only [Call.ownTime]
    linarith

/-- A call that starts a new epoch is not held back at all. -/
theorem Rested.reset (rested : pacer.Rested adaptive max rate now) {stats : PathStats}
    {stamped entered rate' : ℚ} (timely : entered ≤ latestEntry now call)
    (adapts : pacer.adaptive = true) (band : max * (1 / 2) ≤ rate' ∧ rate' ≤ max)
    {next : EgressPacer}
    (result : next = { (pacer.record call.packetBytes).sampled stats stamped with
      currentBytesPerSec := some rate' }.resetEpoch entered) :
    next.Rested adaptive max rate' (next.wait entered call + call.returning) ∧
      next.wait entered call + call.returning ≤ now + call.ownTime := by
  have inBand : next.Banded max rate' := by
    rw [result]
    exact ⟨rested.positive, rested.maximum, rested.minimum, rfl, band.1, band.2⟩
  have epochStarted : next.epochStarted = entered := by rw [result]; rfl
  have epochBytes : next.epochBytes = 0 := by rw [result]; rfl
  have atOnce : next.wait entered call = entered := by
    simp [wait, inBand.current, epochBytes]
  have returning := NNRat.coe_nonneg call.returning
  rw [atOnce]
  constructor
  · refine ⟨inBand, ?_, ?_, ?_, ?_⟩
    · rw [result]
      exact rested.mode
    · intro static
      rw [← rested.mode, adapts] at static
      cases static
    · rw [epochStarted]
      linarith
    · have extra := mul_nonneg inBand.rate_pos.le returning
      have granted : (0 : ℚ) ≤ next.burstBytes := Nat.cast_nonneg _
      rw [epochBytes, epochStarted, Nat.cast_zero]
      linarith
  · have measuring := NNRat.coe_nonneg call.measuring
    have comparing := NNRat.coe_nonneg call.comparing
    have oversleeping := NNRat.coe_nonneg call.oversleeping
    simp only [latestEntry] at timely
    simp only [Call.ownTime]
    linarith

theorem adaptive_of_resetsEpoch (anew : pacer.resetsEpoch now call = true) :
    pacer.adaptive = true := by
  unfold resetsEpoch at anew
  split at anew
  · assumption
  · cases anew

/-- One call leaves the pacer at rest again, and is held back for at most its
packet's time at the rate that it leaves behind. -/
theorem Rested.recordAndWait (rested : pacer.Rested adaptive max rate now) (call : Call) :
    ∃ rate', (pacer.recordAndWait now call).1.Rested adaptive max rate'
        (pacer.recordAndWait now call).2 ∧
      (pacer.recordAndWait now call).2 ≤ now + call.ownTime + call.packetBytes / rate' := by
  obtain ⟨next, entered, turn, timely, same⟩ := recordAndWait_entered_le rested.current now call
  rw [same]
  cases turn with
  | kept later unchanged =>
      obtain ⟨rests, bounded⟩ := rested.kept (pacer.record call.packetBytes) later timely
        ⟨rfl, rfl, rfl⟩ ⟨rfl, rfl, rfl⟩ rfl
      exact ⟨rate, rests, bounded⟩
  | @sampled stats _ later spaced unchanged =>
      obtain ⟨rests, bounded⟩ :=
        rested.kept ((pacer.record call.packetBytes).sampled stats entered) later timely
          ⟨rfl, rfl, rfl⟩ ⟨rfl, rfl, rfl⟩ rfl
      exact ⟨rate, rests, bounded⟩
  | reset later latest spaced anew =>
      obtain ⟨rests, bounded⟩ :=
        rested.reset timely (adaptive_of_resetsEpoch anew) (rested.nextRate_mem _) rfl
      have lasting := div_nonneg (Nat.cast_nonneg call.packetBytes) rests.rate_pos.le
      exact ⟨_, rests, by linarith⟩

/-- Any number of calls leaves the pacer at rest again, held back for at most the
time of all the packets, which is no more than their time at the slowest rate. -/
theorem Rested.runCalls (rested : pacer.Rested adaptive max rate now) (calls : List Call) :
    (∃ rate', (pacer.runCalls now calls).1.Rested adaptive max rate'
        (pacer.runCalls now calls).2) ∧
      (pacer.runCalls now calls).2 ≤ now + ownTime calls + pacer.packetTime now calls ∧
      pacer.packetTime now calls ≤ recorded calls / slowest adaptive max := by
  induction calls generalizing pacer rate now with
  | nil =>
      refine ⟨⟨rate, rested⟩, ?_, ?_⟩
      · simp [EgressPacer.runCalls, ownTime, packetTime]
      · simp [packetTime, recorded]
  | cons call rest inductionHypothesis =>
      obtain ⟨rate', next, first⟩ := rested.recordAndWait call
      obtain ⟨last, later, slower⟩ := inductionHypothesis next
      have one : timeAt call.packetBytes (pacer.recordAndWait now call).1.currentBytesPerSec =
          call.packetBytes / rate' := by
        simp [timeAt, next.current]
      have slow := next.div_rate_le call.packetBytes
      refine ⟨last, ?_, ?_⟩
      · simp only [ownTime, packetTime, List.map_cons, List.sum_cons, one] at later ⊢
        exact later.trans (by linarith)
      · simp only [packetTime, recorded, List.map_cons, List.sum_cons, Nat.cast_add, add_div,
          one] at slower ⊢
        linarith

/-- Waiting never ends before it begins. -/
theorem le_wait (call : Call) : now ≤ pacer.wait now call := by
  have measuring := NNRat.coe_nonneg call.measuring
  have comparing := NNRat.coe_nonneg call.comparing
  have oversleeping := NNRat.coe_nonneg call.oversleeping
  unfold wait
  split
  · exact le_refl _
  · simp only
    split_ifs <;> linarith

theorem le_adjust_snd (stats : PathStats) (call : Call) :
    now ≤ (pacer.adjust stats now call).2 := by
  have adjusting := NNRat.coe_nonneg call.adjusting
  have stamping := NNRat.coe_nonneg call.stamping
  have resetting := NNRat.coe_nonneg call.resetting
  unfold adjust
  split
  · exact le_refl _
  · simp only
    split_ifs
    · linarith
    · split
      · linarith
      · split_ifs <;> linarith

theorem le_recordAndWait (pacer : EgressPacer) (now : ℚ) (call : Call) :
    now ≤ (pacer.recordAndWait now call).2 := by
  have idle := NNRat.coe_nonneg call.idle
  have returning := NNRat.coe_nonneg call.returning
  by_cases plain : pacer.adaptive = false ∨ call.connection = none
  · rw [recordAndWait_plain plain]
    have waited := @le_wait (pacer.record call.packetBytes) (now + call.idle) call
    simp only
    linarith
  · simp only [not_or, Bool.not_eq_false] at plain
    obtain ⟨stats, connection⟩ := Option.ne_none_iff_exists'.mp plain.2
    have late := @le_adjust_snd (pacer.record call.packetBytes) (now + call.idle) stats call
    cases adjusted : (pacer.record call.packetBytes).adjust stats (now + call.idle) call with
    | mk next entered =>
        rw [recordAndWait_adaptive plain.1 connection adjusted]
        rw [adjusted] at late
        have waited := @le_wait next entered call
        simp only at late ⊢
        linarith

/-- A call changes neither the mode nor, but for the packet, the counter upwards. -/
theorem recordAndWait_keeps {rate : ℚ} (current : pacer.currentBytesPerSec = some rate)
    (call : Call) :
    (pacer.recordAndWait now call).1.adaptive = pacer.adaptive ∧
      (pacer.recordAndWait now call).1.epochBytes ≤ pacer.epochBytes + call.packetBytes := by
  obtain ⟨next, entered, turn, same⟩ := recordAndWait_entered current now call
  rw [same]
  cases turn with
  | kept => exact ⟨rfl, Nat.min_le_left _ _⟩
  | sampled => exact ⟨rfl, Nat.min_le_left _ _⟩
  | reset => exact ⟨rfl, Nat.zero_le _⟩

/-- For every target of at least one megabit and every run of calls: each call
returns within its own time and the time that its packet takes at the rate in
force while it waits, a rate between the slowest one and the target; the whole
run takes no longer than the calls' own time and the time of all the packets at
the rates in force, and that is at most their time at the slowest rate. -/
theorem delay_bounded (targetMbps packetBytes : Nat) (adaptive : Bool) (started : ℚ)
    (calls : List Call) (positive : 1 ≤ targetMbps) :
    let pacer := new targetMbps packetBytes adaptive started
    let target : ℚ := targetMbps * 1000000 / 8
    let (reached, now) := pacer.runCalls started calls
    (∀ call, ∃ rate, (reached.recordAndWait now call).1.currentBytesPerSec = some rate ∧
        slowest adaptive target ≤ rate ∧ rate ≤ target ∧
        (reached.recordAndWait now call).2 ≤ now + call.ownTime + call.packetBytes / rate) ∧
      now - started ≤ ownTime calls + pacer.packetTime started calls ∧
      pacer.packetTime started calls ≤ recorded calls / slowest adaptive target := by
  intro pacer target
  obtain ⟨⟨rate, rests⟩, bounded, slower⟩ :=
    (rested_new positive packetBytes adaptive started).runCalls calls
  refine ⟨fun call => ?_, by linarith, slower⟩
  obtain ⟨current, next, timely⟩ := rests.recordAndWait call
  exact ⟨current, next.current, next.slowest_le, next.upper, timely⟩

/-- A second of silence and 2600 bytes take no longer than a second and the time of
the two packets, the first at a megabit and the second at 15 % less. -/
theorem delay_bounded_lossyCalls :
    ownTime lossyCalls = 1 ∧ recorded lossyCalls = 2600 ∧
      (new 1 1300 true 0).packetTime 0 lossyCalls = 1300 / 125000 + 1300 / 106250 ∧
      ((new 1 1300 true 0).runCalls 0 lossyCalls).2 - 0 ≤
        ownTime lossyCalls + (new 1 1300 true 0).packetTime 0 lossyCalls :=
  ⟨by decide +kernel, by decide +kernel, by decide +kernel,
    (delay_bounded 1 1300 true 0 lossyCalls (by decide)).2.1⟩

end EgressPacer

end LiteVpn.Core
