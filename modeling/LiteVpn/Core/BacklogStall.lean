import LiteVpn.Core.BacklogSender
import LiteVpn.Core.Config

/-!
# Discarded datagrams and the backlog wait

The estimate is the difference of two lifetime counters. A datagram that QUIC
discards has been counted as queued and is never counted as transmitted, so it
stays in the estimate for ever. Once more datagrams than the limit are gone in
this way, the sender waits although QUIC's queue is empty, and a sender without
a deadline never leaves that wait while its connection lives.
-/

namespace LiteVpn.Core.BacklogSender

open LiteVpn.Semantics

/-- The next check on fresh statistics lets the sender go, at whatever time. -/
def NextCheckPasses (state : State) (deadline : Option Nat) : Prop :=
  ∀ now, (state.backlog.loopCheck state.frameTxDatagram deadline now).2 = some true

theorem Phase.Waits.ne_handed {phase : Phase} {deadline : Option Nat}
    (waits : phase.Waits deadline) : phase ≠ .handed := by
  rintro rfl
  exact waits

/-- The fresh estimate of a waiting sender: everything counted and not
transmitted. -/
theorem Accounted.fresh_estimate {maxBacklogPackets : Nat} {state : State}
    (accounted : Accounted maxBacklogPackets state) (elsewhere : state.phase ≠ .handed) :
    (state.backlog.refresh state.frameTxDatagram).estimatedBacklog =
      min state.handed maxU64 - state.transmitted := by
  have queued := accounted.queued
  rw [State.called, if_neg elsewhere] at queued
  simp only [DatagramBacklog.estimatedBacklog, DatagramBacklog.refresh, queued,
    accounted.statistics, Nat.add_sub_cancel_left]

theorem Accounted.nextCheckPasses {maxBacklogPackets : Nat} {state : State}
    {deadline : Option Nat} (accounted : Accounted maxBacklogPackets state)
    (elsewhere : state.phase ≠ .handed) :
    NextCheckPasses state deadline ↔
      min state.handed maxU64 - state.transmitted ≤ maxBacklogPackets := by
  simp only [NextCheckPasses, DatagramBacklog.loopCheck_passes,
    accounted.fresh_estimate elsewhere, accounted.limit, forall_const]

/-- In every reachable state in which QUIC's queue is empty, the next check of a
waiting sender lets it go exactly when no more datagrams than the limit have been
discarded so far (and those that a saturated counter has missed). -/
theorem nextCheckPasses_iff {maxBacklogPackets : Nat} {state : State} {deadline : Option Nat}
    (reachable : (sender maxBacklogPackets).Reachable state) (empty : state.pending = 0)
    (waits : state.phase.Waits deadline) :
    NextCheckPasses state deadline ↔
      state.discarded ≤ maxBacklogPackets + (state.handed - maxU64) := by
  have accounted := accounted_of_reachable reachable
  have conserved := accounted.conserved
  rw [accounted.nextCheckPasses waits.ne_handed]
  omega

/-- A run in which QUIC transmits everything before the second call. -/
def transmittedRun : List Action :=
  [.handOver, .call none, .entryCheck, .handOver, .transmit, .transmit, .call none, .entryCheck]

theorem nextCheckPasses_transmittedRun :
    ∃ state, (sender 1).Reachable state ∧ state.pending = 0 ∧ state.phase = .looping none ∧
      NextCheckPasses state none := by
  obtain ⟨state, executed, empty, looping, discarded⟩ : ∃ state,
      (sender 1).run (start 0 1) transmittedRun = some state ∧ state.pending = 0 ∧
        state.phase = .looping none ∧ state.discarded = 0 :=
    ⟨_, rfl, rfl, rfl, rfl⟩
  have reachable : (sender 1).Reachable state :=
    Machine.reachable_of_run ⟨0, Nat.zero_le _, rfl⟩ executed
  refine ⟨state, reachable, empty, looping, ?_⟩
  refine (nextCheckPasses_iff reachable empty (by rw [looping]; rfl)).mpr ?_
  rw [discarded]
  exact Nat.zero_le _

/-- QUIC discards every datagram right after it is handed over. -/
def discardedRun (count : Nat) : List Action :=
  (List.replicate count [.handOver, .discard, .call none, .entryCheck]).flatten

/-- With the default limit the sender hangs after 65 discarded datagrams. -/
theorem discardedRun_blocks :
    ∃ state, (sender defaultDatagramBacklogPackets).Reachable state ∧ state.pending = 0 ∧
      state.phase = .looping none ∧ state.discarded = 65 ∧ ¬ NextCheckPasses state none := by
  have executed : ((sender defaultDatagramBacklogPackets).run
      (start 0 defaultDatagramBacklogPackets) (discardedRun 65)).map
        (fun state => (state.pending, state.phase, state.discarded,
          (state.backlog.loopCheck state.frameTxDatagram none 0).2)) =
      some (0, .looping none, 65, none) := by
    decide +kernel
  obtain ⟨state, run, observed⟩ := Option.map_eq_some_iff.mp executed
  simp only [Prod.mk.injEq] at observed
  obtain ⟨empty, looping, discarded, blocked⟩ := observed
  refine ⟨state, Machine.reachable_of_run ⟨0, Nat.zero_le _, rfl⟩ run, empty, looping, discarded, ?_⟩
  intro passes
  have passed := passes 0
  rw [blocked] at passed
  cases passed

/-- QUIC's queue is empty, and the sender waits without a deadline for datagrams
that no longer exist. -/
structure Stalled (maxBacklogPackets : Nat) (state : State) : Prop where
  accounted : Accounted maxBacklogPackets state
  empty : state.pending = 0
  waits : state.phase.Waits none
  beyond : maxBacklogPackets < min state.handed maxU64 - state.transmitted

/-- A reachable sender that an empty queue does not let go is stalled. -/
theorem stalled_of_reachable {maxBacklogPackets : Nat} {state : State}
    (reachable : (sender maxBacklogPackets).Reachable state) (empty : state.pending = 0)
    (waits : state.phase.Waits none) (blocked : ¬ NextCheckPasses state none) :
    Stalled maxBacklogPackets state := by
  have accounted := accounted_of_reachable reachable
  rw [accounted.nextCheckPasses waits.ne_handed] at blocked
  exact ⟨accounted, empty, waits, Nat.not_le.mp blocked⟩

/-- A stalled sender stays stalled, unless its connection is closed. -/
theorem stalled_step {maxBacklogPackets : Nat} {state next : State} {action : Action}
    (limited : 0 < maxBacklogPackets) (stalled : Stalled maxBacklogPackets state)
    (taken : step state action = some next) :
    Stalled maxBacklogPackets next ∨ next.phase = .failed ∧ next.pending = 0 := by
  have accounted := accounted_step stalled.accounted taken
  obtain ⟨before, empty, waits, beyond⟩ := stalled
  have elsewhere := waits.ne_handed
  cases transition_of_step taken with
  | handOver idle =>
      cases phase : state.phase <;> simp_all [Phase.Waits, Phase.idle]
  | call stands => exact absurd stands elsewhere
  | entryCheck stands =>
      rw [stands] at waits
      have refused : state.backlog.entryCheck = none := by
        have queued := before.queued
        have cached := before.cached
        rw [State.called, if_neg elsewhere] at queued
        rw [DatagramBacklog.entryCheck_of_limited (before.limit ▸ limited), if_neg]
        rw [DatagramBacklog.estimatedBacklog, queued, before.limit]
        omega
      exact .inl ⟨accounted, empty, by rw [refused]; exact waits, beyond⟩
  | @loopCheck deadline now stands =>
      rw [stands] at waits
      cases waits
      have refused : (state.backlog.loopCheck state.frameTxDatagram none now).2 = none := by
        have estimate := before.fresh_estimate elsewhere
        have limit : (state.backlog.refresh state.frameTxDatagram).maxBacklogPackets =
          maxBacklogPackets := before.limit
        simp only [DatagramBacklog.loopCheck, estimate, limit]
        rw [if_neg (Nat.not_le.mpr beyond)]
        simp
      exact .inl ⟨accounted, empty, by rw [refused]; rfl, beyond⟩
  | wake stands =>
      rw [stands] at waits
      exact .inl ⟨accounted, empty, waits, beyond⟩
  | deadlineFires stands =>
      rw [stands] at waits
      cases waits
  | connectionClosed _ => exact .inr ⟨rfl, empty⟩
  | transmit waiting | discard waiting =>
      rw [empty] at waiting
      cases waiting

/-- A sender that has failed takes no further step, and QUIC has nothing to do. -/
theorem failed_step {state : State} (failed : state.phase = .failed) (empty : state.pending = 0)
    (action : Action) : step state action = none := by
  cases action <;> simp [step, failed, empty, Phase.idle]

theorem stalled_run {maxBacklogPackets : Nat} {state finish : State} {trace : List Action}
    (limited : 0 < maxBacklogPackets) (stalled : Stalled maxBacklogPackets state)
    (runs : (sender maxBacklogPackets).Runs Machine.Unrestricted state trace finish) :
    Stalled maxBacklogPackets finish ∨ finish.phase = .failed ∧ finish.pending = 0 := by
  induction runs with
  | refl => exact .inl stalled
  | step _ _ taken inductionHypothesis =>
      rcases inductionHypothesis with before | ⟨failed, empty⟩
      · exact stalled_step limited before taken
      · exact absurd ((failed_step failed empty _).symm.trans taken) (by simp)

/-- A sender without a deadline that an empty queue does not let go stays in its
wait on every continuation of the run, unless its connection is closed. -/
theorem wait_never_returns {maxBacklogPackets : Nat} {state finish : State}
    {trace : List Action} (limited : 0 < maxBacklogPackets)
    (reachable : (sender maxBacklogPackets).Reachable state) (empty : state.pending = 0)
    (waits : state.phase.Waits none) (blocked : ¬ NextCheckPasses state none)
    (runs : (sender maxBacklogPackets).Runs Machine.Unrestricted state trace finish) :
    finish.phase.Waits none ∨ finish.phase = .failed := by
  have stalled := stalled_of_reachable reachable empty waits blocked
  exact (stalled_run limited stalled runs).imp Stalled.waits And.left

end LiteVpn.Core.BacklogSender
