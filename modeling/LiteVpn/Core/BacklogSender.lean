import LiteVpn.Core.Datagram
import LiteVpn.Semantics.Machine

/-!
# A sender under a datagram backlog limit

The sender hands one datagram over to QUIC, calls `queued` or `queued_until`
once, and goes on only if that call lets it. QUIC works at its own pace: between
any two steps of the sender it may transmit a queued datagram, which its
statistics count, or discard one, which they do not. `Accounted` relates the
backlog's lifetime counters to what has really happened.
-/

namespace LiteVpn.Core.BacklogSender

open LiteVpn.Semantics

/-- Where the sender stands. Inside `wait_until` it carries its deadline, which
only `queued_until` has. -/
inductive Phase where
  | ready
  | handed
  | entering (deadline : Option Nat)
  | looping (deadline : Option Nat)
  | sleeping (deadline : Option Nat)
  | returned (passed : Bool)
  | failed
deriving DecidableEq, Repr

/-- The sender is inside `wait_until`. -/
def Phase.Waits (deadline : Option Nat) : Phase → Prop
  | .entering found | .looping found | .sleeping found => found = deadline
  | _ => False

/-- The sender may hand over its next datagram. -/
def Phase.idle : Phase → Bool
  | .ready | .returned true => true
  | _ => false

structure State where
  backlog : DatagramBacklog
  /-- The connection's `frame_tx.datagram`. -/
  frameTxDatagram : Nat
  /-- Datagrams in QUIC's outgoing queue. -/
  pending : Nat
  handed : Nat
  transmitted : Nat
  discarded : Nat
  phase : Phase
deriving DecidableEq, Repr

inductive Action where
  | handOver
  /-- `queued`, or `queued_until` with a deadline. -/
  | call (deadline : Option Nat)
  | entryCheck
  | loopCheck (now : Nat)
  | wake
  | deadlineFires
  | connectionClosed
  | transmit
  | discard
deriving DecidableEq, Repr

/-- The result of a check, or the next phase without one. -/
def resume (result : Option Bool) (otherwise : Phase) : Phase :=
  match result with
  | some passed => .returned passed
  | none => otherwise

def step (state : State) : Action → Option State
  | .handOver =>
      if state.phase.idle then
        some { state with
          pending := state.pending + 1, handed := state.handed + 1, phase := .handed }
      else none
  | .call deadline =>
      match state.phase with
      | .handed =>
          some { state with backlog := state.backlog.countQueued, phase := .entering deadline }
      | _ => none
  | .entryCheck =>
      match state.phase with
      | .entering deadline =>
          some { state with phase := resume state.backlog.entryCheck (.looping deadline) }
      | _ => none
  | .loopCheck now =>
      match state.phase with
      | .looping deadline =>
          let checked := state.backlog.loopCheck state.frameTxDatagram deadline now
          some { state with
            backlog := checked.1, phase := resume checked.2 (.sleeping deadline) }
      | _ => none
  | .wake =>
      match state.phase with
      | .sleeping deadline => some { state with phase := .looping deadline }
      | _ => none
  | .deadlineFires =>
      match state.phase with
      | .sleeping (some _) => some { state with phase := .returned false }
      | _ => none
  | .connectionClosed =>
      match state.phase with
      | .sleeping _ => some { state with phase := .failed }
      | _ => none
  | .transmit =>
      -- The statistics never run backwards, so the counter does not wrap.
      if 0 < state.pending ∧ state.frameTxDatagram < maxU64 then
        some { state with
          pending := state.pending - 1
          frameTxDatagram := state.frameTxDatagram + 1
          transmitted := state.transmitted + 1 }
      else none
  | .discard =>
      if 0 < state.pending then
        some { state with pending := state.pending - 1, discarded := state.discarded + 1 }
      else none

/-- A new backlog on a connection with no datagram pending. -/
def start (frameTxDatagram maxBacklogPackets : Nat) : State where
  backlog := .new frameTxDatagram maxBacklogPackets
  frameTxDatagram := frameTxDatagram
  pending := 0
  handed := 0
  transmitted := 0
  discarded := 0
  phase := .ready

/-- The sender and QUIC, from any value of the connection's statistics on. -/
def sender (maxBacklogPackets : Nat) : Machine State Action where
  Initial state := ∃ frameTxDatagram ≤ maxU64, state = start frameTxDatagram maxBacklogPackets
  step := step

/-- Everything a step can do. -/
inductive Transition (state : State) : Action → State → Prop where
  | handOver (idle : state.phase.idle = true) :
      Transition state .handOver
        { state with pending := state.pending + 1, handed := state.handed + 1, phase := .handed }
  | call {deadline} (stands : state.phase = .handed) :
      Transition state (.call deadline)
        { state with backlog := state.backlog.countQueued, phase := .entering deadline }
  | entryCheck {deadline} (stands : state.phase = .entering deadline) :
      Transition state .entryCheck
        { state with phase := resume state.backlog.entryCheck (.looping deadline) }
  | loopCheck {deadline now} (stands : state.phase = .looping deadline) :
      Transition state (.loopCheck now)
        { state with
          backlog := state.backlog.refresh state.frameTxDatagram
          phase := resume (state.backlog.loopCheck state.frameTxDatagram deadline now).2
            (.sleeping deadline) }
  | wake {deadline} (stands : state.phase = .sleeping deadline) :
      Transition state .wake { state with phase := .looping deadline }
  | deadlineFires {deadline} (stands : state.phase = .sleeping (some deadline)) :
      Transition state .deadlineFires { state with phase := .returned false }
  | connectionClosed {deadline} (stands : state.phase = .sleeping deadline) :
      Transition state .connectionClosed { state with phase := .failed }
  | transmit (waiting : 0 < state.pending) :
      Transition state .transmit
        { state with
          pending := state.pending - 1
          frameTxDatagram := state.frameTxDatagram + 1
          transmitted := state.transmitted + 1 }
  | discard (waiting : 0 < state.pending) :
      Transition state .discard
        { state with pending := state.pending - 1, discarded := state.discarded + 1 }

theorem transition_of_step {state next : State} {action : Action}
    (taken : step state action = some next) : Transition state action next := by
  cases action with
  | handOver =>
      simp only [step, Option.ite_none_right_eq_some, Option.some.injEq] at taken
      obtain ⟨idle, rfl⟩ := taken
      exact .handOver idle
  | call deadline =>
      simp only [step] at taken
      split at taken <;> cases taken
      exact .call ‹_›
  | entryCheck =>
      simp only [step] at taken
      split at taken <;> cases taken
      exact .entryCheck ‹_›
  | loopCheck now =>
      simp only [step, DatagramBacklog.loopCheck_fst] at taken
      split at taken <;> cases taken
      exact .loopCheck ‹_›
  | wake =>
      simp only [step] at taken
      split at taken <;> cases taken
      exact .wake ‹_›
  | deadlineFires =>
      simp only [step] at taken
      split at taken <;> cases taken
      exact .deadlineFires ‹_›
  | connectionClosed =>
      simp only [step] at taken
      split at taken <;> cases taken
      exact .connectionClosed ‹_›
  | transmit =>
      simp only [step, Option.ite_none_right_eq_some, Option.some.injEq] at taken
      obtain ⟨⟨waiting, _⟩, rfl⟩ := taken
      exact .transmit waiting
  | discard =>
      simp only [step, Option.ite_none_right_eq_some, Option.some.injEq] at taken
      obtain ⟨waiting, rfl⟩ := taken
      exact .discard waiting

/-- The datagrams that `queued` or `queued_until` has been called for. -/
def State.called (state : State) : Nat :=
  if state.phase = .handed then state.handed - 1 else state.handed

/-- How the counters of the backlog relate to what has happened. -/
structure Accounted (maxBacklogPackets : Nat) (state : State) : Prop where
  limit : state.backlog.maxBacklogPackets = maxBacklogPackets
  statistics : state.frameTxDatagram = state.backlog.baselineTxDatagrams + state.transmitted
  conserved : state.handed = state.transmitted + state.discarded + state.pending
  cached : state.backlog.transmittedDatagrams ≤ state.transmitted
  queued : state.backlog.queuedDatagrams = min state.called maxU64
  handing : state.phase = .handed → 0 < state.handed

theorem resume_ne_handed {result : Option Bool} {otherwise : Phase}
    (other : otherwise ≠ .handed) : resume result otherwise ≠ .handed := by
  cases result <;> simp [resume, other]

/-- A step of the sender inside `wait_until` moves no datagram. -/
theorem Accounted.inside {maxBacklogPackets : Nat} {state : State} {phase : Phase}
    (accounted : Accounted maxBacklogPackets state) (before : state.phase ≠ .handed)
    (after : phase ≠ .handed) : Accounted maxBacklogPackets { state with phase := phase } := by
  refine ⟨accounted.limit, accounted.statistics, accounted.conserved, accounted.cached, ?_,
    fun standing => absurd standing after⟩
  have queued := accounted.queued
  simpa [State.called, before, after] using queued

theorem accounted_start (frameTxDatagram maxBacklogPackets : Nat) :
    Accounted maxBacklogPackets (start frameTxDatagram maxBacklogPackets) := by
  refine ⟨rfl, rfl, rfl, Nat.le_refl _, ?_, by simp [start]⟩
  simp [start, State.called, DatagramBacklog.new]

theorem accounted_step {maxBacklogPackets : Nat} {state next : State} {action : Action}
    (accounted : Accounted maxBacklogPackets state) (taken : step state action = some next) :
    Accounted maxBacklogPackets next := by
  obtain ⟨limit, statistics, conserved, cached, queued, handing⟩ := id accounted
  cases transition_of_step taken with
  | handOver idle =>
      have elsewhere : state.phase ≠ .handed := by
        intro stands
        simp [stands, Phase.idle] at idle
      refine ⟨limit, statistics, by simp only; omega, cached, ?_, by simp⟩
      simpa [State.called, elsewhere] using queued
  | call stands =>
      have positive := handing stands
      refine ⟨limit, statistics, conserved, cached, ?_, by simp⟩
      simp only [DatagramBacklog.countQueued, queued, State.called, stands, if_true,
        saturatingAdd_min, reduceCtorEq, if_false, Nat.sub_add_cancel positive]
  | entryCheck stands =>
      exact accounted.inside (by simp [stands]) (resume_ne_handed (by simp))
  | loopCheck stands =>
      have refreshed : Accounted maxBacklogPackets
          { state with backlog := state.backlog.refresh state.frameTxDatagram } := by
        refine ⟨limit, statistics, conserved, ?_, queued, handing⟩
        simp only [DatagramBacklog.refresh]
        omega
      exact refreshed.inside (by simp [stands]) (resume_ne_handed (by simp))
  | wake stands | deadlineFires stands | connectionClosed stands =>
      exact accounted.inside (by simp [stands]) (by simp)
  | transmit waiting =>
      exact ⟨limit, by simp only; omega, by simp only; omega, by simp only; omega, queued, handing⟩
  | discard waiting =>
      exact ⟨limit, statistics, by simp only; omega, cached, queued, handing⟩

theorem accounted_of_reachable {maxBacklogPackets : Nat} {state : State}
    (reachable : (sender maxBacklogPackets).Reachable state) :
    Accounted maxBacklogPackets state := by
  refine reachable.induct ?_ fun holds taken => accounted_step holds taken
  rintro _ ⟨frameTxDatagram, _, rfl⟩
  exact accounted_start frameTxDatagram maxBacklogPackets

end LiteVpn.Core.BacklogSender
