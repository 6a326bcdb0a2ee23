import LiteVpn.Core.BacklogSender

/-!
# The backlog limit bounds the backlog

The estimate that lets a sender go on is built from a cached count, which only
lags behind: it never claims more transmissions than there were. So a sender
that is let go has at most the limit outstanding, and one more while it waits.
The argument needs the counter of queued datagrams to be exact; once that
saturates, the estimate falls behind the truth.
-/

namespace LiteVpn.Core.BacklogSender

open LiteVpn.Semantics

/-- What is outstanding: at most the limit when the sender may go on, and one
more at any time. -/
def Bounded (maxBacklogPackets : Nat) (state : State) : Prop :=
  (state.phase.idle = true → state.handed ≤ state.transmitted + maxBacklogPackets) ∧
    state.handed ≤ state.transmitted + maxBacklogPackets + 1

/-- Only a check that passes makes the sender idle. -/
theorem idle_resume {result : Option Bool} {otherwise : Phase} (busy : otherwise.idle = false)
    (idle : (resume result otherwise).idle = true) : result = some true := by
  cases result with
  | none => simp [resume, busy] at idle
  | some passed => cases passed <;> simp_all [resume, Phase.idle]

/-- Before the counter saturates, a passed estimate is an upper bound. -/
theorem Accounted.outstanding {maxBacklogPackets : Nat} {state : State}
    (accounted : Accounted maxBacklogPackets state) (elsewhere : state.phase ≠ .handed)
    (few : state.handed ≤ maxU64)
    (within : state.backlog.estimatedBacklog ≤ state.backlog.maxBacklogPackets) :
    state.handed ≤ state.transmitted + maxBacklogPackets := by
  have queued := accounted.queued
  have cached := accounted.cached
  rw [State.called, if_neg elsewhere, Nat.min_eq_left few] at queued
  rw [DatagramBacklog.estimatedBacklog, queued, accounted.limit] at within
  omega

theorem bounded_step {maxBacklogPackets : Nat} {state next : State} {action : Action}
    (limited : 0 < maxBacklogPackets) (accounted : Accounted maxBacklogPackets state)
    (bounded : state.handed ≤ maxU64 → Bounded maxBacklogPackets state)
    (taken : step state action = some next) (few : next.handed ≤ maxU64) :
    Bounded maxBacklogPackets next := by
  have after := accounted_step accounted taken
  cases transition_of_step taken with
  | handOver idle =>
      have before := (bounded (Nat.le_of_succ_le few)).1 idle
      exact ⟨by simp [Phase.idle], by simp only; omega⟩
  | entryCheck stands =>
      refine ⟨fun idle => ?_, (bounded few).2⟩
      have passed := idle_resume rfl idle
      rw [DatagramBacklog.entryCheck_of_limited (accounted.limit ▸ limited)] at passed
      split at passed
      · exact accounted.outstanding (by simp [stands]) few ‹_›
      · cases passed
  | loopCheck stands =>
      refine ⟨fun idle => ?_, (bounded few).2⟩
      have passed := DatagramBacklog.loopCheck_passes.mp (idle_resume rfl idle)
      exact after.outstanding (resume_ne_handed (by simp)) few passed
  | call _ | wake _ | deadlineFires _ | connectionClosed _ =>
      exact ⟨by simp [Phase.idle], (bounded few).2⟩
  | transmit _ =>
      obtain ⟨whenIdle, always⟩ := bounded few
      refine ⟨fun idle => ?_, by simp only; omega⟩
      have before := whenIdle idle
      simp only
      omega
  | discard _ => exact bounded few

theorem bounded_of_reachable {maxBacklogPackets : Nat} {state : State}
    (limited : 0 < maxBacklogPackets) (reachable : (sender maxBacklogPackets).Reachable state) :
    state.handed ≤ maxU64 → Bounded maxBacklogPackets state := by
  have both : Accounted maxBacklogPackets state ∧
      (state.handed ≤ maxU64 → Bounded maxBacklogPackets state) := by
    refine reachable.induct ?_ ?_
    · rintro _ ⟨frameTxDatagram, _, rfl⟩
      exact ⟨accounted_start _ _, fun _ => ⟨fun _ => Nat.zero_le _, Nat.zero_le _⟩⟩
    · rintro before action after ⟨accounted, bounded⟩ taken
      exact ⟨accounted_step accounted taken, bounded_step limited accounted bounded taken⟩
  exact both.2

/-- On every run and every interleaving with QUIC, as long as the counter of
queued datagrams has not saturated: a call that lets the sender go leaves at
most the limit outstanding, and never is more than one datagram beyond it. -/
theorem backlog_bounded {maxBacklogPackets : Nat} {state : State}
    (limited : 0 < maxBacklogPackets) (reachable : (sender maxBacklogPackets).Reachable state)
    (few : state.handed ≤ 2 ^ 64 - 1) :
    (state.phase = .returned true → state.handed - state.transmitted ≤ maxBacklogPackets) ∧
      state.handed - state.transmitted ≤ maxBacklogPackets + 1 := by
  obtain ⟨whenIdle, always⟩ := bounded_of_reachable limited reachable few
  refine ⟨fun returned => ?_, by omega⟩
  have before := whenIdle (by simp [returned, Phase.idle])
  omega

/-- Two datagrams under a limit of one: the second call waits until the first
datagram is transmitted. -/
def twoDatagrams : List Action :=
  [.handOver, .call none, .entryCheck, .handOver, .call none, .entryCheck, .loopCheck 0,
    .transmit, .wake, .loopCheck 0]

theorem backlog_bounded_twoDatagrams :
    ∃ state, (sender 1).Reachable state ∧ state.phase = .returned true ∧ state.handed = 2 ∧
      state.handed - state.transmitted ≤ 1 := by
  obtain ⟨state, executed, returned, handed⟩ : ∃ state,
      (sender 1).run (start 0 1) twoDatagrams = some state ∧ state.phase = .returned true ∧
        state.handed = 2 :=
    ⟨_, rfl, rfl, rfl⟩
  have reachable : (sender 1).Reachable state :=
    Machine.reachable_of_run ⟨0, Nat.zero_le _, rfl⟩ executed
  exact ⟨state, reachable, returned, handed,
    (backlog_bounded (by decide) reachable (by rw [handed]; decide)).1 returned⟩

/-- A sender with a limit of one can come to stand in `phase`, after it has sent
`sent` datagrams of which `gone` are transmitted, with this count of queued ones. -/
def Stage (phase : Phase) (queued sent gone : Nat) : Prop :=
  ∃ cached, (sender 1).Reachable ⟨⟨0, queued, cached, 1⟩, gone, sent - gone, sent, gone, 0, phase⟩

theorem Stage.handOver {phase : Phase} {queued sent gone : Nat}
    (stage : Stage phase queued sent gone) (idle : phase.idle = true) (less : gone ≤ sent) :
    Stage .handed queued (sent + 1) gone := by
  obtain ⟨cached, reachable⟩ := stage
  refine ⟨cached, reachable.step .handOver ?_⟩
  simp only [sender, step, idle, if_true, Nat.sub_add_comm less]

theorem Stage.transmit {phase : Phase} {queued sent gone : Nat}
    (stage : Stage phase queued sent gone) (waiting : gone < sent) (room : gone < maxU64) :
    Stage phase queued sent (gone + 1) := by
  obtain ⟨cached, reachable⟩ := stage
  refine ⟨cached, reachable.step .transmit ?_⟩
  simp only [sender, step, Nat.sub_pos_of_lt waiting, room, and_self, if_true, Nat.sub_sub]

/-- A call that a fresh estimate would let go does return. -/
theorem Stage.call {queued sent gone : Nat} (stage : Stage .handed queued sent gone)
    (fresh : saturatingAdd queued 1 - gone ≤ 1) :
    Stage (.returned true) (saturatingAdd queued 1) sent gone := by
  obtain ⟨cached, reachable⟩ := stage
  have called : (sender 1).Reachable ⟨⟨0, saturatingAdd queued 1, cached, 1⟩, gone, sent - gone,
      sent, gone, 0, .entering none⟩ := reachable.step (.call none) rfl
  by_cases within : saturatingAdd queued 1 - cached ≤ 1
  · refine ⟨cached, called.step .entryCheck ?_⟩
    simp [sender, step, DatagramBacklog.entryCheck, DatagramBacklog.estimatedBacklog, within,
      resume]
  · have looping : (sender 1).Reachable ⟨⟨0, saturatingAdd queued 1, cached, 1⟩, gone,
        sent - gone, sent, gone, 0, .looping none⟩ := by
      refine called.step .entryCheck ?_
      simp [sender, step, DatagramBacklog.entryCheck, DatagramBacklog.estimatedBacklog, within,
        resume]
    refine ⟨gone, looping.step (.loopCheck 0) ?_⟩
    simp [sender, step, DatagramBacklog.loopCheck, DatagramBacklog.refresh,
      DatagramBacklog.estimatedBacklog, fresh, resume]

/-- One datagram after the other, each transmitted before its call. -/
theorem stage_steady (count : Nat) (few : count < maxU64) :
    ∃ phase, phase.idle = true ∧ Stage phase count count count := by
  induction count with
  | zero => exact ⟨.ready, rfl, 0, [], _, ⟨0, Nat.zero_le _, rfl⟩, .refl⟩
  | succ count inductionHypothesis =>
      have room := Nat.lt_of_succ_lt few
      obtain ⟨phase, idle, stage⟩ := inductionHypothesis room
      have counted : saturatingAdd count 1 = count + 1 := saturatingAdd_of_le (Nat.le_of_lt few)
      have transmitted := (stage.handOver idle (Nat.le_refl _)).transmit (Nat.lt_succ_self _) room
      have returned := transmitted.call (by rw [counted, Nat.sub_self]; exact Nat.zero_le 1)
      rw [counted] at returned
      exact ⟨.returned true, rfl, returned⟩

/-- Once the counter of queued datagrams has saturated, a sender is let go with
two datagrams outstanding under a limit of one. -/
theorem saturated_backlog_unbounded :
    ∃ state, (sender 1).Reachable state ∧ state.phase = .returned true ∧
      state.handed = 2 ^ 64 ∧ state.transmitted = 2 ^ 64 - 2 ∧
        ¬ state.handed - state.transmitted ≤ 1 := by
  obtain ⟨phase, idle, stage⟩ := stage_steady (2 ^ 64 - 2) (by decide)
  have counted : saturatingAdd (2 ^ 64 - 2) 1 = 2 ^ 64 - 1 := by decide
  have saturated : saturatingAdd (2 ^ 64 - 1) 1 = 2 ^ 64 - 1 := by decide
  have once := (stage.handOver idle (Nat.le_refl _)).call (by rw [counted]; decide)
  rw [counted] at once
  have twice := (once.handOver rfl (Nat.le_succ _)).call (by rw [saturated]; decide)
  obtain ⟨cached, reachable⟩ := twice
  exact ⟨_, reachable, rfl, rfl, rfl, by simp only; decide⟩

end LiteVpn.Core.BacklogSender
