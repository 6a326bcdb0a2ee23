import LiteVpn.Core.PacerWindow

/-!
# What the adaptive pacer promises over a long run

Every change of the rate starts a new epoch: the bytes of the old one are
forgotten, the packet just recorded among them, and a fresh burst is granted.
Changes are at least 250 ms apart and the rate never exceeds the configured
one, so what is forgotten stays proportional to the time.
-/

namespace LiteVpn.Core

open LiteVpn.Semantics

namespace EgressPacer

/-- The rate lies between the configured one and half of it. -/
structure Banded (pacer : EgressPacer) (max rate : ℚ) : Prop where
  positive : 0 < max
  maximum : pacer.maxBytesPerSec = some max
  minimum : pacer.minBytesPerSec = some (max * (1 / 2))
  current : pacer.currentBytesPerSec = some rate
  lower : max * (1 / 2) ≤ rate
  upper : rate ≤ max

theorem banded_new {targetMbps : Nat} (positive : 1 ≤ targetMbps) (packetBytes : Nat)
    (adaptive : Bool) (now : ℚ) :
    (new targetMbps packetBytes adaptive now).Banded (targetMbps * 1000000 / 8)
      (targetMbps * 1000000 / 8) := by
  have nonzero : targetMbps ≠ 0 := by omega
  have cast : (1 : ℚ) ≤ targetMbps := by exact_mod_cast positive
  have target : targetBytesPerSec targetMbps = some (targetMbps * 1000000 / 8 : ℚ) := by
    simp [targetBytesPerSec, nonzero]
  refine ⟨by linarith, target, ?_, target, by linarith, le_refl _⟩
  simp [new, target]

variable {pacer : EgressPacer} {max rate now : ℚ} {call : Call}

theorem Banded.rate_pos (banded : pacer.Banded max rate) : 0 < rate := by
  have positive := banded.positive
  have lower := banded.lower
  linarith

/-- The next rate stays in the band. -/
theorem Banded.nextRate_mem (banded : pacer.Banded max rate) (grown : Bool) :
    max * (1 / 2) ≤ pacer.nextRate rate grown ∧ pacer.nextRate rate grown ≤ max := by
  have positive := banded.positive
  have lower := banded.lower
  have upper := banded.upper
  cases grown with
  | true =>
      simp only [nextRate, banded.minimum, if_true, Option.getD_some]
      exact ⟨le_max_right _ _, max_le (by linarith) (by linarith)⟩
  | false =>
      simp only [nextRate, banded.maximum, Bool.false_eq_true, if_false, Option.getD_some]
      exact ⟨le_min (by linarith) (by linarith), min_le_right _ _⟩

/-- Whether a call starts a new epoch: it samples the counters for the second
time or later, and the rate moves by more than rounding. -/
def resetsEpoch (pacer : EgressPacer) (now : ℚ) (call : Call) : Bool :=
  match pacer.adaptive, call.connection, pacer.currentBytesPerSec, pacer.lastLostPackets with
  | true, some stats, some current, some previousLostPackets =>
      decide (¬ now + call.idle + call.adjusting - pacer.lastAdjust < 1 / 4) &&
        decide (|pacer.nextRate current (pacer.grown previousLostPackets stats) - current| >
          epsilon)
  | _, _, _, _ => false

/-- The epochs that a run of calls starts anew. -/
def resets (pacer : EgressPacer) (now : ℚ) : List Call → Nat
  | [] => 0
  | call :: rest =>
      (pacer.resetsEpoch now call).toNat +
        (pacer.recordAndWait now call).1.resets (pacer.recordAndWait now call).2 rest

/-- The epoch's counter never saturates during the calls. -/
def Counted (pacer : EgressPacer) (now : ℚ) : List Call → Prop
  | [] => True
  | call :: rest =>
      pacer.epochBytes + call.packetBytes ≤ maxU64 ∧
        (pacer.recordAndWait now call).1.Counted (pacer.recordAndWait now call).2 rest

/-- What a call has done to the pacer when it begins to wait, and when that is:
nothing but recording, a sample of the counters that leaves the rate alone, or
a sample that changes the rate and starts a new epoch. -/
inductive Entered (pacer : EgressPacer) (rate now : ℚ) (call : Call) : EgressPacer → ℚ → Prop where
  | kept {entered : ℚ} (later : now ≤ entered) (same : pacer.resetsEpoch now call = false) :
      Entered pacer rate now call (pacer.record call.packetBytes) entered
  | sampled {stats : PathStats} {entered : ℚ} (later : now ≤ entered)
      (spaced : pacer.lastAdjust + 1 / 4 ≤ entered) (same : pacer.resetsEpoch now call = false) :
      Entered pacer rate now call ((pacer.record call.packetBytes).sampled stats entered) entered
  | reset {stats : PathStats} {previousLostPackets : Nat} {stamped entered : ℚ}
      (later : now ≤ stamped) (latest : stamped ≤ entered)
      (spaced : pacer.lastAdjust + 1 / 4 ≤ stamped) (anew : pacer.resetsEpoch now call = true) :
      Entered pacer rate now call
        ({ (pacer.record call.packetBytes).sampled stats stamped with
            currentBytesPerSec :=
              some (pacer.nextRate rate (pacer.grown previousLostPackets stats)) }.resetEpoch
          entered) entered

/-- A call that finds nothing to adjust records and waits. -/
theorem recordAndWait_plain (plain : pacer.adaptive = false ∨ call.connection = none) :
    pacer.recordAndWait now call =
      (pacer.record call.packetBytes,
        (pacer.record call.packetBytes).wait (now + call.idle) call + call.returning) := by
  rcases plain with fixed | alone
  · simp [recordAndWait, record, fixed]
  · cases adaptive : pacer.adaptive <;> simp [recordAndWait, record, adaptive, alone]

/-- A call on a connection adjusts in between. -/
theorem recordAndWait_adaptive {stats : PathStats} {next : EgressPacer} {entered : ℚ}
    (adaptive : pacer.adaptive = true) (connection : call.connection = some stats)
    (adjusted : (pacer.record call.packetBytes).adjust stats (now + call.idle) call =
      (next, entered)) :
    pacer.recordAndWait now call = (next, next.wait entered call + call.returning) := by
  have recorded : (pacer.record call.packetBytes).adaptive = true := adaptive
  simp only [recordAndWait, recorded, if_true, connection, adjusted]

/-- What an adjustment comes to: it is too early, it is the first sample, the
rate stays, or the rate moves. -/
theorem adjust_entered (now : ℚ) (current : pacer.currentBytesPerSec = some rate)
    (adaptive : pacer.adaptive = true) {stats : PathStats}
    (connection : call.connection = some stats) :
    ∃ next entered, Entered pacer rate now call next entered ∧
      (pacer.record call.packetBytes).adjust stats (now + call.idle) call = (next, entered) := by
  have idle := NNRat.coe_nonneg call.idle
  have adjusting := NNRat.coe_nonneg call.adjusting
  have stamping := NNRat.coe_nonneg call.stamping
  have resetting := NNRat.coe_nonneg call.resetting
  have recorded : (pacer.record call.packetBytes).currentBytesPerSec = some rate := current
  simp only [adjust, recorded]
  split_ifs with early
  · refine ⟨_, _, .kept (by linarith) ?_, rfl⟩
    have early : now + call.idle + call.adjusting - pacer.lastAdjust < 1 / 4 := early
    unfold resetsEpoch
    split
    · rw [decide_eq_false (not_not.mpr early), Bool.false_and]
    · rfl
  · have spaced : ¬ now + call.idle + call.adjusting - pacer.lastAdjust < 1 / 4 := early
    cases previous : pacer.lastLostPackets with
    | none =>
        have first : (pacer.record call.packetBytes).lastLostPackets = none := previous
        simp only [first]
        exact ⟨_, _, .sampled (by linarith) (by linarith) (by simp [resetsEpoch, previous]), rfl⟩
    | some previousLostPackets =>
        have again : (pacer.record call.packetBytes).lastLostPackets =
          some previousLostPackets := previous
        have decision : pacer.resetsEpoch now call =
            decide (|pacer.nextRate rate (pacer.grown previousLostPackets stats) - rate| >
              epsilon) := by
          simp only [resetsEpoch, adaptive, connection, current, previous, spaced]
          simp
        simp only [again]
        split_ifs with moved
        · exact ⟨_, _, .reset (by linarith) (by linarith) (by linarith)
            (by rw [decision]; exact decide_eq_true moved), rfl⟩
        · exact ⟨_, _, .sampled (by linarith) (by linarith)
            (by rw [decision]; exact decide_eq_false moved), rfl⟩

/-- A call records, perhaps adjusts, and waits. -/
theorem recordAndWait_entered (current : pacer.currentBytesPerSec = some rate) (now : ℚ)
    (call : Call) :
    ∃ next entered, Entered pacer rate now call next entered ∧
      pacer.recordAndWait now call = (next, next.wait entered call + call.returning) := by
  have idle := NNRat.coe_nonneg call.idle
  by_cases plain : pacer.adaptive = false ∨ call.connection = none
  · refine ⟨_, _, .kept (by linarith) ?_, recordAndWait_plain plain⟩
    rcases plain with fixed | alone
    · simp [resetsEpoch, fixed]
    · simp [resetsEpoch, alone]
  · simp only [not_or, Bool.not_eq_false] at plain
    obtain ⟨adaptive, connected⟩ := plain
    obtain ⟨stats, connection⟩ := Option.ne_none_iff_exists'.mp connected
    obtain ⟨next, entered, turn, adjusted⟩ := adjust_entered now current adaptive connection
    exact ⟨next, entered, turn, recordAndWait_adaptive adaptive connection adjusted⟩

/-- The account of a run since `started`, at rest at `now`: the rate is in its
band, the epoch is inside its allowance, resets are spaced, and the total is
what the epoch shows, what the maximal rate carried before it, and a burst and
a packet for every reset. -/
structure Ledger (pacer : EgressPacer) (max started now : ℚ) (burst packet total resets : Nat) :
    Prop where
  banded : ∃ rate, pacer.Banded max rate ∧
    (pacer.epochBytes : ℚ) ≤ burst + rate * (now - pacer.epochStarted)
  burstBytes : pacer.burstBytes = burst
  begun : started ≤ pacer.epochStarted
  epochStarted : pacer.epochStarted ≤ now
  lastAdjust : pacer.lastAdjust ≤ now
  spaced : (resets : ℚ) ≤ 4 * (pacer.lastAdjust - started)
  total : (total : ℚ) ≤
    pacer.epochBytes + max * (pacer.epochStarted - started) + resets * (burst + packet)

theorem ledger_new {targetMbps : Nat} (positive : 1 ≤ targetMbps) (packetBytes : Nat)
    (adaptive : Bool) (started : ℚ) (packet : Nat) :
    (new targetMbps packetBytes adaptive started).Ledger (targetMbps * 1000000 / 8) started started
      (new targetMbps packetBytes adaptive started).burstBytes packet 0 0 := by
  refine ⟨⟨_, banded_new positive packetBytes adaptive started, ?_⟩, rfl, le_refl _, le_refl _,
    le_refl _, ?_, ?_⟩
  all_goals simp [new]

variable {started : ℚ} {burst packet total resets : Nat}

/-- The account at any moment gives the bound. -/
theorem Ledger.bound (ledger : pacer.Ledger max started now burst packet total resets) :
    (total : ℚ) ≤ max * (now - started) + (resets + 1) * burst + resets * packet ∧
      (resets : ℚ) ≤ 4 * (now - started) := by
  obtain ⟨rate, banded, within⟩ := ledger.banded
  have spaced := ledger.spaced
  have lastAdjust := ledger.lastAdjust
  have account := ledger.total
  have elapsed : 0 ≤ now - pacer.epochStarted := sub_nonneg.mpr ledger.epochStarted
  have capped : rate * (now - pacer.epochStarted) ≤ max * (now - pacer.epochStarted) :=
    mul_le_mul_of_nonneg_right banded.upper elapsed
  exact ⟨by linarith, by linarith⟩

/-- A call that starts no new epoch adds its packet to the epoch. -/
theorem Ledger.kept (ledger : pacer.Ledger max started now burst packet total resets)
    {next : EgressPacer} {entered : ℚ} (later : now ≤ entered)
    (counted : pacer.epochBytes + call.packetBytes ≤ maxU64)
    (rates : next.maxBytesPerSec = pacer.maxBytesPerSec ∧
      next.minBytesPerSec = pacer.minBytesPerSec ∧
      next.currentBytesPerSec = pacer.currentBytesPerSec)
    (bursts : next.burstBytes = pacer.burstBytes)
    (epoch : next.epochStarted = pacer.epochStarted)
    (bytes : next.epochBytes = saturatingAdd pacer.epochBytes call.packetBytes)
    (adjusted : pacer.lastAdjust ≤ next.lastAdjust ∧ next.lastAdjust ≤ entered) :
    next.Ledger max started (next.wait entered call + call.returning) burst packet
      (total + call.packetBytes) resets := by
  obtain ⟨rate, banded, _⟩ := ledger.banded
  have inBand : next.Banded max rate := by
    refine ⟨banded.positive, ?_, ?_, ?_, banded.lower, banded.upper⟩
    · rw [rates.1, banded.maximum]
    · rw [rates.2.1, banded.minimum]
    · rw [rates.2.2, banded.current]
  have began : next.epochStarted ≤ entered := by
    rw [epoch]
    exact ledger.epochStarted.trans later
  have returning := NNRat.coe_nonneg call.returning
  obtain ⟨waited, within⟩ := wait_spec inBand.current inBand.rate_pos began call
  have extra := mul_nonneg inBand.rate_pos.le returning
  refine ⟨⟨rate, inBand, ?_⟩, ?_, ?_, ?_, ?_, ?_, ?_⟩
  · rw [bursts, ledger.burstBytes] at within
    linarith
  · rw [bursts, ledger.burstBytes]
  · rw [epoch]
    exact ledger.begun
  · linarith
  · linarith [adjusted.2]
  · linarith [ledger.spaced, adjusted.1]
  · have account := ledger.total
    rw [bytes, saturatingAdd_of_le counted, epoch]
    push_cast
    linarith

/-- A call that starts a new epoch settles the old one, its own packet included. -/
theorem Ledger.reset (ledger : pacer.Ledger max started now burst packet total resets)
    (small : call.packetBytes ≤ packet) {stats : PathStats} {stamped entered next : ℚ}
    (later : now ≤ stamped) (latest : stamped ≤ entered)
    (spaced : pacer.lastAdjust + 1 / 4 ≤ stamped)
    (band : max * (1 / 2) ≤ next ∧ next ≤ max) {after : EgressPacer}
    (result : after = { (pacer.record call.packetBytes).sampled stats stamped with
      currentBytesPerSec := some next }.resetEpoch entered) :
    after.Ledger max started (after.wait entered call + call.returning) burst packet
      (total + call.packetBytes) (resets + 1) := by
  obtain ⟨rate, banded, within⟩ := ledger.banded
  have inBand : after.Banded max next := by
    rw [result]
    exact ⟨banded.positive, banded.maximum, banded.minimum, rfl, band.1, band.2⟩
  have epochStarted : after.epochStarted = entered := by rw [result]; rfl
  have epochBytes : after.epochBytes = 0 := by rw [result]; rfl
  have lastAdjust : after.lastAdjust = stamped := by rw [result]; rfl
  have bursts : after.burstBytes = burst := by
    rw [← ledger.burstBytes, result]
    rfl
  have returning := NNRat.coe_nonneg call.returning
  obtain ⟨waited, _⟩ := wait_spec inBand.current inBand.rate_pos epochStarted.le call
  have elapsed : 0 ≤ now - pacer.epochStarted := sub_nonneg.mpr ledger.epochStarted
  have began := ledger.begun
  have began' := ledger.epochStarted
  refine ⟨⟨next, inBand, ?_⟩, bursts, ?_, ?_, ?_, ?_, ?_⟩
  · have room : 0 ≤ next * (after.wait entered call + call.returning - entered) :=
      mul_nonneg inBand.rate_pos.le (by linarith)
    have granted : (0 : ℚ) ≤ burst := Nat.cast_nonneg burst
    rw [epochBytes, epochStarted, Nat.cast_zero]
    linarith
  · linarith
  · linarith
  · linarith
  · have before := ledger.spaced
    rw [lastAdjust]
    push_cast
    linarith
  · -- The old epoch was inside its allowance before this packet came.
    have account := ledger.total
    have capped : rate * (now - pacer.epochStarted) ≤ max * (now - pacer.epochStarted) :=
      mul_le_mul_of_nonneg_right banded.upper elapsed
    have idle : 0 ≤ max * (entered - now) := mul_nonneg banded.positive.le (by linarith)
    have size : (call.packetBytes : ℚ) ≤ packet := by exact_mod_cast small
    rw [epochBytes, epochStarted]
    push_cast
    linarith

/-- One call keeps the account. -/
theorem Ledger.recordAndWait (ledger : pacer.Ledger max started now burst packet total resets)
    (small : call.packetBytes ≤ packet)
    (counted : pacer.epochBytes + call.packetBytes ≤ maxU64) :
    (pacer.recordAndWait now call).1.Ledger max started (pacer.recordAndWait now call).2 burst
      packet (total + call.packetBytes) (resets + (pacer.resetsEpoch now call).toNat) := by
  obtain ⟨rate, banded, _⟩ := ledger.banded
  have lastAdjust := ledger.lastAdjust
  obtain ⟨next, entered, turn, same⟩ := recordAndWait_entered banded.current now call
  rw [same]
  cases turn with
  | kept later unchanged =>
      rw [unchanged]
      exact ledger.kept later counted ⟨rfl, rfl, rfl⟩ rfl rfl rfl
        ⟨le_refl _, lastAdjust.trans later⟩
  | sampled later spaced unchanged =>
      rw [unchanged]
      exact ledger.kept later counted ⟨rfl, rfl, rfl⟩ rfl rfl rfl
        ⟨by simp only [EgressPacer.sampled]; linarith, le_refl _⟩
  | reset later latest spaced anew =>
      rw [anew]
      exact ledger.reset small later latest spaced (banded.nextRate_mem _) rfl

/-- Any number of calls keeps the account. -/
theorem Ledger.runCalls {calls : List Call} (small : ∀ call ∈ calls, call.packetBytes ≤ packet)
    (counted : pacer.Counted now calls)
    (ledger : pacer.Ledger max started now burst packet total resets) :
    (pacer.runCalls now calls).1.Ledger max started (pacer.runCalls now calls).2 burst packet
      (total + recorded calls) (resets + pacer.resets now calls) := by
  induction calls generalizing pacer now total resets with
  | nil => exact ledger
  | cons call rest inductionHypothesis =>
      rw [List.forall_mem_cons] at small
      have next := ledger.recordAndWait small.1 counted.1
      have last := inductionHypothesis small.2 counted.2 next
      simp only [EgressPacer.runCalls, EgressPacer.resets, recorded, List.map_cons,
        List.sum_cons]
      simpa only [recorded, Nat.add_assoc] using last

/-- Over any run of an adaptive or static pacer, the bytes recorded when a call
returns are at most the maximal rate times the time since construction, a burst
for every epoch and a packet for every reset; and there are at most four resets
a second. -/
theorem longRun_bound (targetMbps packetBytes packet : Nat) (adaptive : Bool) (started : ℚ)
    (calls : List Call) (positive : 1 ≤ targetMbps)
    (small : ∀ call ∈ calls, call.packetBytes ≤ packet)
    (counted : (new targetMbps packetBytes adaptive started).Counted started calls) :
    (recorded calls : ℚ) ≤
        (targetMbps * 1000000 / 8 : ℚ) *
            (((new targetMbps packetBytes adaptive started).runCalls started calls).2 - started) +
          ((new targetMbps packetBytes adaptive started).resets started calls + 1) *
            (new targetMbps packetBytes adaptive started).burstBytes +
          (new targetMbps packetBytes adaptive started).resets started calls * packet ∧
      ((new targetMbps packetBytes adaptive started).resets started calls : ℚ) ≤
        4 * (((new targetMbps packetBytes adaptive started).runCalls started calls).2 -
          started) := by
  have ledger := (ledger_new positive packetBytes adaptive started packet).runCalls small counted
  have bound := ledger.bound
  simpa only [Nat.zero_add] using bound

/-- Two samples of the counters, a packet lost between them. -/
def lossyCalls : List Call :=
  [{ packetBytes := 1300, connection := some ⟨0, 0⟩, idle := 1 / 2 },
    { packetBytes := 1300, connection := some ⟨1, 0⟩, idle := 1 / 2 }]

/-- The long-run bound for a run with one reset. -/
theorem longRun_bound_lossyCalls :
    (new 8 1300 true 0).resets 0 lossyCalls = 1 ∧
      (recorded lossyCalls : ℚ) ≤
        ((8 : Nat) * 1000000 / 8 : ℚ) * (((new 8 1300 true 0).runCalls 0 lossyCalls).2 - 0) +
          ((new 8 1300 true 0).resets 0 lossyCalls + 1) * (new 8 1300 true 0).burstBytes +
          (new 8 1300 true 0).resets 0 lossyCalls * (1300 : Nat) := by
  have counted : (new 8 1300 true 0).Counted 0 lossyCalls :=
    ⟨by decide +kernel, by decide +kernel, trivial⟩
  exact ⟨by decide +kernel,
    (longRun_bound 8 1300 1300 true 0 lossyCalls (by decide) (by decide) counted).1⟩

end EgressPacer

end LiteVpn.Core
