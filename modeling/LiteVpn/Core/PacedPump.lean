import LiteVpn.Core.DatagramPump
import LiteVpn.Core.PacerDelay

/-!
# The datagram pump and its pacer

`pump_tun_to_quic` hands a datagram to QUIC first and lets the pacer hold it back
afterwards, before the next read of the device. Here the pump runs with its clock
and its pacer. Every datagram carries the time at which it was handed over, and
the log also shows when the pacer began a new epoch.
-/

namespace LiteVpn.Core

open LiteVpn.Semantics

/-- One turn of the pump with its clock: what it meets, how long it takes until the
datagram is handed over, and the pacer's call with the path counters it reads. -/
structure PacedTurn where
  turn : PumpTurn
  waiting : NNRat
  stats : PathStats
  call : Call

structure PacedState where
  backlog : DatagramBacklog
  pacer : EgressPacer
  now : ℚ

/-- What the pump and its pacer do, and when: a packet is disposed of, or the pacer
begins a new epoch. -/
inductive PacedEntry where
  | disposed (disposition : Disposition) (time : ℚ)
  | epoch (time : ℚ)
deriving DecidableEq, Repr

namespace PacedEntry

/-- The entry of the pump alone. -/
def disposition? : PacedEntry → Option Disposition
  | .disposed disposition _ => some disposition
  | .epoch _ => none

def time : PacedEntry → ℚ
  | .disposed _ time | .epoch time => time

/-- The bytes of an entry that were handed to QUIC. -/
def bytes : PacedEntry → Nat
  | .disposed (.handed packet) _ => packet.length
  | .disposed (.dropped _ _) _ | .epoch _ => 0

def isEpoch : PacedEntry → Bool
  | .disposed _ _ => false
  | .epoch _ => true

end PacedEntry

/-- The pacer's call of a turn that has handed over a packet. -/
def PacedTurn.pacing (turn : PacedTurn) (packet : Packet) : Call :=
  { turn.call with packetBytes := packet.length, connection := some turn.stats }

/-- The epoch that a call of the pacer begins, if it begins one. -/
def newEpoch (pacer : EgressPacer) (now : ℚ) (call : Call) : List PacedEntry :=
  if pacer.resetsEpoch now call then [.epoch (pacer.recordAndWait now call).1.epochStarted] else []

/-- One turn of the loop of `pump_tun_to_quic`, the pacer included. -/
def pacedTurn (mtu : Nat) (state : PacedState) (turn : PacedTurn) :
    List PacedEntry × TurnEnd PacedState PumpEnd :=
  let taken := pumpTurn mtu state.backlog turn.turn
  let time := state.now + turn.waiting
  let log := taken.1.map fun disposition => .disposed disposition time
  match taken.2 with
  | .exit reason => (log, .exit reason)
  | .next backlog =>
      match handedPackets taken.1 with
      | [] => (log, .next { state with backlog := backlog, now := time })
      | packet :: _ =>
          let paced := state.pacer.recordAndWait time (turn.pacing packet)
          (log ++ newEpoch state.pacer time (turn.pacing packet),
            .next ⟨backlog, paced.1, paced.2⟩)

/-- `pump_tun_to_quic` from `started` on. -/
def pacedPump (mtu frameTxDatagram datagramBacklogPackets egressTargetMbps : Nat) (adaptive : Bool)
    (started : ℚ) (turns : List PacedTurn) : List PacedEntry × TurnEnd PacedState PumpEnd :=
  runLoop (pacedTurn mtu)
    ⟨.new frameTxDatagram datagramBacklogPackets, .new egressTargetMbps mtu adaptive started,
      started⟩ turns

/-- The bytes handed to QUIC. -/
def handedBytes (log : List PacedEntry) : Nat := (log.map PacedEntry.bytes).sum

/-- The epochs that were begun anew. -/
def epochsBegun (log : List PacedEntry) : Nat := log.countP PacedEntry.isEpoch

/-- The log up to some time. -/
def upTo (log : List PacedEntry) (time : ℚ) : List PacedEntry :=
  log.filter fun entry => entry.time ≤ time

/-- What may have been handed over by some time: the rate times the time, and a
burst and a packet for every epoch until then, the first one included. Only an
adaptive pacer begins more than one, at most four a second. -/
structure Allowed (adaptive : Bool) (rate started : ℚ) (burst packet : Nat)
    (log : List PacedEntry) (time : ℚ) : Prop where
  bytes : (handedBytes (upTo log time) : ℚ) ≤
    rate * (time - started) + (epochsBegun (upTo log time) + 1) * (burst + packet)
  epochs : (epochsBegun (upTo log time) : ℚ) ≤ if adaptive then 4 * (time - started) else 0

/-- What one turn can come to. A packet that is handed over came from the buffer. -/
inductive PacedTurned (mtu : Nat) (state : PacedState) (turn : PacedTurn) :
    List PacedEntry × TurnEnd PacedState PumpEnd → Prop where
  | ended {reason : PumpEnd} : PacedTurned mtu state turn ([], .exit reason)
  | skipped {log : List PacedEntry} {backlog : DatagramBacklog} (nothing : handedBytes log = 0)
      (unchanged : epochsBegun log = 0) :
      PacedTurned mtu state turn
        (log, .next { state with backlog := backlog, now := state.now + turn.waiting })
  | left {packet : Packet} {reason : PumpEnd} (small : packet.length ≤ mtu + 64) :
      PacedTurned mtu state turn
        ([.disposed (.handed packet) (state.now + turn.waiting)], .exit reason)
  | paced {packet : Packet} {backlog : DatagramBacklog} (small : packet.length ≤ mtu + 64) :
      PacedTurned mtu state turn
        ([.disposed (.handed packet) (state.now + turn.waiting)] ++
            newEpoch state.pacer (state.now + turn.waiting) (turn.pacing packet),
          .next ⟨backlog,
            (state.pacer.recordAndWait (state.now + turn.waiting) (turn.pacing packet)).1,
            (state.pacer.recordAndWait (state.now + turn.waiting) (turn.pacing packet)).2⟩)

theorem length_packet_le {mtu : Nat} {turn : PumpTurn} {packet : Packet}
    (read : turn.packet mtu = some packet) : packet.length ≤ mtu + 64 := by
  cases turn with
  | receiveFailed => cases read
  | connectionClosed reason => cases read
  | received raw maxDatagramSize send reading waits =>
      cases read
      exact List.length_take_le _ _

theorem pacedTurned_pacedTurn (mtu : Nat) (state : PacedState) (turn : PacedTurn) :
    PacedTurned mtu state turn (pacedTurn mtu state turn) := by
  have turned := turned_pumpTurn mtu state.backlog turn.turn
  cases taken : pumpTurn mtu state.backlog turn.turn with
  | mk log ending =>
      rw [taken] at turned
      simp only [pacedTurn, taken]
      cases turned with
      | unread none expected keeps => exact .ended
      | stuck read nonempty expected unsent keeps => exact .ended
      | refused read nonempty shrunk => exact .ended
      | empty read keeps => exact .skipped rfl rfl
      | dropped read nonempty oversized keeps => exact .skipped rfl rfl
      | left read nonempty expected keeps => exact .left (length_packet_le read)
      | handed read nonempty keeps => exact .paced (length_packet_le read)

/-- The pump's own entries of a turn. -/
theorem filterMap_disposed (log : List Disposition) (time : ℚ) :
    (log.map fun disposition => PacedEntry.disposed disposition time).filterMap
      PacedEntry.disposition? = log := by
  rw [List.filterMap_map]
  exact List.filterMap_some

/-- A new epoch is no entry of the pump's own. -/
theorem filterMap_newEpoch (pacer : EgressPacer) (now : ℚ) (call : Call) :
    (newEpoch pacer now call).filterMap PacedEntry.disposition? = [] := by
  unfold newEpoch
  split <;> rfl

/-- Without its clock and its pacer the pump is `pump_tun_to_quic` as it is. -/
theorem pacedPump_project (mtu frameTxDatagram datagramBacklogPackets egressTargetMbps : Nat)
    (adaptive : Bool) (started : ℚ) (turns : List PacedTurn) :
    let run := pacedPump mtu frameTxDatagram datagramBacklogPackets egressTargetMbps adaptive
      started turns
    (run.1.filterMap PacedEntry.disposition?, run.2.project PacedState.backlog) =
      pumpTunToQuic mtu frameTxDatagram datagramBacklogPackets (turns.map PacedTurn.turn) := by
  refine runLoop_project PacedState.backlog PacedTurn.turn PacedEntry.disposition? ?_ turns
  intro state turn
  simp only [pacedTurn]
  cases ending : (pumpTurn mtu state.backlog turn.turn).2 with
  | exit reason =>
      simp only [filterMap_disposed, TurnEnd.project, ← ending]
  | next backlog =>
      simp only
      split
      · simp only [filterMap_disposed, TurnEnd.project, ← ending]
      · simp only [List.filterMap_append, filterMap_disposed, filterMap_newEpoch,
          List.append_nil, TurnEnd.project, ← ending]

namespace EgressPacer

variable {pacer : EgressPacer} {max started now : ℚ} {burst packet total resets : Nat}

/-- An account stays good while nothing happens. -/
theorem Ledger.later (ledger : pacer.Ledger max started now burst packet total resets) {time : ℚ}
    (later : now ≤ time) : pacer.Ledger max started time burst packet total resets := by
  obtain ⟨rate, banded, within⟩ := ledger.banded
  refine ⟨⟨rate, banded, ?_⟩, ledger.burstBytes, ledger.begun, ledger.epochStarted.trans later,
    ledger.lastAdjust.trans later, ledger.spaced, ledger.total⟩
  have more : rate * (now - pacer.epochStarted) ≤ rate * (time - pacer.epochStarted) :=
    mul_le_mul_of_nonneg_left (by linarith) banded.rate_pos.le
  linarith

/-- An account leaves room for one more packet, from now on. -/
theorem Ledger.allows (ledger : pacer.Ledger max started now burst packet total resets)
    {bytes : Nat} (small : bytes ≤ packet) {time : ℚ} (later : now ≤ time) :
    ((total + bytes : Nat) : ℚ) ≤ max * (time - started) + (resets + 1) * (burst + packet) := by
  obtain ⟨bound, _⟩ := (ledger.later later).bound
  have size : (bytes : ℚ) ≤ packet := by exact_mod_cast small
  push_cast
  linarith

/-- A new epoch begins behind the sample that called for it. -/
theorem lastAdjust_le_epochStarted {rate : ℚ} (current : pacer.currentBytesPerSec = some rate)
    {call : Call} (anew : pacer.resetsEpoch now call = true) :
    (pacer.recordAndWait now call).1.lastAdjust ≤
      (pacer.recordAndWait now call).1.epochStarted := by
  obtain ⟨next, entered, turn, same⟩ := recordAndWait_entered current now call
  rw [same]
  cases turn with
  | kept later unchanged =>
      rw [unchanged] at anew
      cases anew
  | sampled later spaced unchanged =>
      rw [unchanged] at anew
      cases anew
  | reset later latest spaced anew => exact latest

end EgressPacer

section Logs

variable {adaptive : Bool} {rate started time : ℚ} {burst packet : Nat} {log more : List PacedEntry}

theorem handedBytes_append (first second : List PacedEntry) :
    handedBytes (first ++ second) = handedBytes first + handedBytes second := by
  simp [handedBytes]

theorem epochsBegun_append (first second : List PacedEntry) :
    epochsBegun (first ++ second) = epochsBegun first + epochsBegun second :=
  List.countP_append

theorem upTo_append (first second : List PacedEntry) (time : ℚ) :
    upTo (first ++ second) time = upTo first time ++ upTo second time :=
  List.filter_append _ _

/-- What was handed over by some time is no more than all that was handed over. -/
theorem handedBytes_upTo_le (log : List PacedEntry) (time : ℚ) :
    handedBytes (upTo log time) ≤ handedBytes log := by
  induction log with
  | nil => exact le_refl _
  | cons entry rest inductionHypothesis =>
      rw [← List.singleton_append, upTo_append, handedBytes_append, handedBytes_append]
      refine Nat.add_le_add ?_ inductionHypothesis
      by_cases early : entry.time ≤ time
      · simp [upTo, early]
      · simp [upTo, early, handedBytes]

theorem epochsBegun_upTo_le (log : List PacedEntry) (time : ℚ) :
    epochsBegun (upTo log time) ≤ epochsBegun log :=
  List.filter_sublist.countP_le

/-- Once every epoch lies behind, all of them count. -/
theorem epochsBegun_upTo (past : ∀ began, .epoch began ∈ log → began ≤ time) :
    epochsBegun (upTo log time) = epochsBegun log := by
  unfold epochsBegun upTo
  rw [List.countP_filter]
  refine List.countP_congr fun entry member => ?_
  cases entry with
  | disposed disposition moment => simp [PacedEntry.isEpoch]
  | epoch began => simp [PacedEntry.isEpoch, PacedEntry.time, past began member]

theorem epochsBegun_newEpoch (pacer : EgressPacer) (now : ℚ) (call : Call) :
    epochsBegun (newEpoch pacer now call) = (pacer.resetsEpoch now call).toNat := by
  unfold newEpoch
  cases pacer.resetsEpoch now call <;> rfl

theorem mem_newEpoch {pacer : EgressPacer} {now began : ℚ} {call : Call}
    (member : .epoch began ∈ newEpoch pacer now call) :
    began = (pacer.recordAndWait now call).1.epochStarted := by
  unfold newEpoch at member
  split at member
  · cases List.mem_singleton.mp member
    rfl
  · cases member

theorem handedBytes_newEpoch (pacer : EgressPacer) (now : ℚ) (call : Call) :
    handedBytes (newEpoch pacer now call) = 0 := by
  unfold newEpoch
  cases pacer.resetsEpoch now call <;> rfl

/-- A turn that hands a datagram over adds its bytes and the epoch that its call may
begin. -/
theorem handedBytes_paced (log : List PacedEntry) (sent : Packet) (moment : ℚ)
    (pacer : EgressPacer) (call : Call) :
    handedBytes (log ++ ([.disposed (.handed sent) moment] ++ newEpoch pacer moment call)) =
      handedBytes log + sent.length := by
  rw [handedBytes_append, handedBytes_append, handedBytes_newEpoch]
  rfl

theorem epochsBegun_paced (log : List PacedEntry) (sent : Packet) (moment : ℚ)
    (pacer : EgressPacer) (call : Call) :
    epochsBegun (log ++ ([.disposed (.handed sent) moment] ++ newEpoch pacer moment call)) =
      epochsBegun log + (pacer.resetsEpoch moment call).toNat := by
  rw [epochsBegun_append, epochsBegun_append, epochsBegun_newEpoch]
  exact congrArg _ (Nat.zero_add _)

/-- Entries that hand nothing over and begin no epoch change nothing. -/
theorem Allowed.quiet (allowed : Allowed adaptive rate started burst packet log time)
    (nothing : handedBytes more = 0) (unchanged : epochsBegun more = 0) :
    Allowed adaptive rate started burst packet (log ++ more) time := by
  have none : handedBytes (upTo more time) = 0 :=
    Nat.le_zero.mp (nothing ▸ handedBytes_upTo_le more time)
  have same : epochsBegun (upTo more time) = 0 :=
    Nat.le_zero.mp (unchanged ▸ epochsBegun_upTo_le more time)
  constructor
  · rw [upTo_append, handedBytes_append, epochsBegun_append, none, same]
    exact allowed.bytes
  · rw [upTo_append, epochsBegun_append, same]
    exact allowed.epochs

/-- An entry that is still to come changes nothing. -/
theorem Allowed.late (allowed : Allowed adaptive rate started burst packet log time)
    {entry : PacedEntry} (late : ¬ entry.time ≤ time) :
    Allowed adaptive rate started burst packet (log ++ [entry]) time := by
  have same : upTo (log ++ [entry]) time = upTo log time := by
    rw [upTo_append]
    simp [upTo, late]
  exact ⟨by rw [same]; exact allowed.bytes, by rw [same]; exact allowed.epochs⟩

/-- A new epoch of an adaptive pacer brings its own burst and packet. -/
theorem Allowed.epoch (allowed : Allowed true rate started burst packet log time) {began : ℚ}
    (spaced : ((epochsBegun log + 1 : Nat) : ℚ) ≤ 4 * (began - started)) :
    Allowed true rate started burst packet (log ++ [.epoch began]) time := by
  by_cases early : began ≤ time
  · have here : upTo (log ++ [.epoch began]) time = upTo log time ++ [.epoch began] := by
      rw [upTo_append]
      simp [upTo, PacedEntry.time, early]
    have bytes : handedBytes (upTo log time ++ [.epoch began]) = handedBytes (upTo log time) := by
      simp [handedBytes, PacedEntry.bytes]
    have epochs : epochsBegun (upTo log time ++ [.epoch began]) =
        epochsBegun (upTo log time) + 1 :=
      epochsBegun_append _ _
    constructor
    · have grant : (0 : ℚ) ≤ burst + packet := by positivity
      have before := allowed.bytes
      rw [here, bytes, epochs]
      push_cast
      linarith
    · have counted : ((epochsBegun (upTo log time) + 1 : Nat) : ℚ) ≤
          ((epochsBegun log + 1 : Nat) : ℚ) := by
        exact_mod_cast Nat.add_le_add_right (epochsBegun_upTo_le log time) 1
      rw [here, epochs, if_pos rfl]
      linarith
  · exact allowed.late early

end Logs

/-- The pump at the head of its loop, as long as its counter fits: the pacer's
account covers all that was handed over, with the epochs in the log, and at no
time was it more than allowed. -/
structure Egress (adaptive : Bool) (max started : ℚ) (burst packet : Nat) (log : List PacedEntry)
    (state : PacedState) : Prop where
  begun : started ≤ state.now
  mode : state.pacer.adaptive = adaptive
  counter : state.pacer.epochBytes ≤ handedBytes log
  ledger : state.pacer.Ledger max started state.now burst packet (handedBytes log)
    (epochsBegun log)
  past : ∀ began, .epoch began ∈ log → began ≤ state.now
  allowed : ∀ time, started ≤ time → Allowed adaptive max started burst packet log time

section Egress

variable {adaptive : Bool} {max started : ℚ} {burst packet mtu : Nat} {log : List PacedEntry}
  {state : PacedState}

/-- One more datagram, handed over at or after the rest before it. -/
theorem Egress.handed (egress : Egress adaptive max started burst packet log state) {sent : Packet}
    (small : sent.length ≤ packet) {moment : ℚ} (later : state.now ≤ moment) (time : ℚ)
    (since : started ≤ time) :
    Allowed adaptive max started burst packet (log ++ [.disposed (.handed sent) moment]) time := by
  have allowed := egress.allowed time since
  by_cases early : moment ≤ time
  · have here : upTo (log ++ [.disposed (.handed sent) moment]) time =
        upTo log time ++ [.disposed (.handed sent) moment] := by
      rw [upTo_append]
      simp [upTo, PacedEntry.time, early]
    have epochs : epochsBegun (upTo log time ++ [.disposed (.handed sent) moment]) =
        epochsBegun (upTo log time) :=
      epochsBegun_append _ _
    constructor
    · -- Every epoch so far lies behind, so the account's room is the room at `time`.
      have counted : epochsBegun (upTo log time) = epochsBegun log :=
        epochsBegun_upTo fun began member => (egress.past began member).trans (later.trans early)
      have all : handedBytes (upTo log time ++ [.disposed (.handed sent) moment]) ≤
          handedBytes log + sent.length := by
        rw [handedBytes_append]
        exact Nat.add_le_add (handedBytes_upTo_le log time) (le_refl _)
      have room := egress.ledger.allows small (later.trans early)
      rw [here, epochs, counted]
      exact (Nat.cast_le.mpr all).trans room
    · rw [here, epochs]
      exact allowed.epochs
  · exact allowed.late early

theorem egress_start {egressTargetMbps : Nat} (positive : 1 ≤ egressTargetMbps) (mtu : Nat)
    (adaptive : Bool) (started : ℚ) (packet : Nat) (backlog : DatagramBacklog) :
    Egress adaptive (egressTargetMbps * 1000000 / 8) started
      (EgressPacer.new egressTargetMbps mtu adaptive started).burstBytes packet []
      ⟨backlog, .new egressTargetMbps mtu adaptive started, started⟩ := by
  have ledger := EgressPacer.ledger_new positive mtu adaptive started packet
  refine ⟨le_refl _, rfl, le_refl _, ledger, nofun, ?_⟩
  intro time since
  have room := ledger.allows (Nat.zero_le _) since
  refine ⟨by simpa [handedBytes, upTo, epochsBegun] using room, ?_⟩
  have elapsed := sub_nonneg.mpr since
  simp only [upTo, epochsBegun, List.filter_nil, List.countP_nil, Nat.cast_zero]
  split <;> linarith

/-- A turn that hands nothing over lets time pass. -/
theorem Egress.skipped (egress : Egress adaptive max started burst packet log state)
    {more : List PacedEntry} (nothing : handedBytes more = 0) (unchanged : epochsBegun more = 0)
    (backlog : DatagramBacklog) (waiting : NNRat) :
    Egress adaptive max started burst packet (log ++ more)
      { state with backlog := backlog, now := state.now + waiting } := by
  have bytes : handedBytes (log ++ more) = handedBytes log := by
    rw [handedBytes_append, nothing, Nat.add_zero]
  have epochs : epochsBegun (log ++ more) = epochsBegun log := by
    rw [epochsBegun_append, unchanged, Nat.add_zero]
  have waited : state.now ≤ state.now + waiting := by
    simp
  refine ⟨egress.begun.trans waited, egress.mode, ?_, ?_, ?_, ?_⟩
  · rw [bytes]
    exact egress.counter
  · rw [bytes, epochs]
    exact egress.ledger.later waited
  · intro began member
    rcases List.mem_append.mp member with old | new
    · exact (egress.past began old).trans waited
    · exact absurd rfl (List.countP_eq_zero.mp unchanged _ new)
  · exact fun time since => (egress.allowed time since).quiet nothing unchanged

/-- A turn that hands a datagram over and has it paced. -/
theorem Egress.paced (egress : Egress adaptive max started burst packet log state) {sent : Packet}
    (small : sent.length ≤ packet) (turn : PacedTurn)
    (counted : handedBytes log + sent.length ≤ maxU64) (backlog : DatagramBacklog) :
    Egress adaptive max started burst packet
      (log ++ ([.disposed (.handed sent) (state.now + turn.waiting)] ++
        newEpoch state.pacer (state.now + turn.waiting) (turn.pacing sent)))
      ⟨backlog, (state.pacer.recordAndWait (state.now + turn.waiting) (turn.pacing sent)).1,
        (state.pacer.recordAndWait (state.now + turn.waiting) (turn.pacing sent)).2⟩ := by
  have waited : state.now ≤ state.now + turn.waiting := by
    simp
  have counter := egress.counter
  obtain ⟨rate, banded, _⟩ := egress.ledger.banded
  have next := (egress.ledger.later waited).recordAndWait
    (show (turn.pacing sent).packetBytes ≤ packet from small)
    (by simp only [PacedTurn.pacing]; omega)
  obtain ⟨sameMode, grown⟩ :=
    @EgressPacer.recordAndWait_keeps state.pacer (state.now + turn.waiting) rate banded.current
      (turn.pacing sent)
  have returned := waited.trans
    (EgressPacer.le_recordAndWait state.pacer (state.now + turn.waiting) (turn.pacing sent))
  refine ⟨egress.begun.trans returned, sameMode.trans egress.mode, ?_, ?_, ?_, ?_⟩
  · rw [handedBytes_paced]
    exact grown.trans (Nat.add_le_add_right counter _)
  · rw [handedBytes_paced, epochsBegun_paced]
    exact next
  · intro began member
    simp only [List.mem_append, List.mem_singleton, reduceCtorEq, false_or] at member
    rcases member with old | new
    · exact (egress.past began old).trans returned
    · rw [mem_newEpoch new]
      exact next.epochStarted
  · intro time since
    have handed := egress.handed small waited time since
    cases anew : state.pacer.resetsEpoch (state.now + turn.waiting) (turn.pacing sent) with
    | false =>
        rw [newEpoch, anew]
        exact handed
    | true =>
        obtain rfl : adaptive = true :=
          egress.mode.symm.trans (EgressPacer.adaptive_of_resetsEpoch anew)
        have spaced := next.spaced
        have behind := EgressPacer.lastAdjust_le_epochStarted banded.current anew
        rw [anew, Bool.toNat_true] at spaced
        rw [newEpoch, anew, if_pos rfl, ← List.append_assoc]
        refine handed.epoch ?_
        rw [epochsBegun_append]
        exact spaced.trans (by linarith)

/-- At the head of the loop the account is good; outside of it, what was handed
over is still allowed. Both as long as the counter fits. -/
theorem loopInvariant_pacedTurn (adaptive : Bool) (max started : ℚ) (burst mtu : Nat) :
    LoopInvariant (pacedTurn mtu)
      (fun _ log state => handedBytes log ≤ maxU64 →
        Egress adaptive max started burst (mtu + 64) log state)
      (fun _ log _ => handedBytes log ≤ maxU64 → ∀ time, started ≤ time →
        Allowed adaptive max started burst (mtu + 64) log time) := by
  apply LoopInvariant.of_turns
  intro before log state turn holds
  have turned := pacedTurned_pacedTurn mtu state turn
  unfold AfterTurn
  cases taken : pacedTurn mtu state turn with
  | mk more ending =>
      rw [taken] at turned
      cases turned with
      | ended =>
          intro rest fits
          rw [List.append_nil] at fits ⊢
          exact (holds fits).allowed
      | skipped nothing unchanged =>
          intro fits
          rw [handedBytes_append, nothing] at fits
          exact (holds fits).skipped nothing unchanged _ _
      | left small =>
          intro rest fits
          rw [handedBytes_append] at fits
          exact (holds (by omega)).handed small (by simp)
      | paced small =>
          intro fits
          rw [handedBytes_paced] at fits
          exact (holds (by omega)).paced small turn fits _

end Egress

/-- For every run of the pump with a target, wherever it stands: without its pacer
it is the run of `pump_tun_to_quic`, its backlog included; and as long as fewer
than 2^64 bytes were handed to QUIC, at no time were there more than the target's
rate allows, with a burst and a packet for every epoch that the pacer had begun. -/
theorem pump_egress_bounded (mtu frameTxDatagram datagramBacklogPackets egressTargetMbps : Nat)
    (adaptive : Bool) (started : ℚ) (turns : List PacedTurn) (positive : 1 ≤ egressTargetMbps) :
    let run := pacedPump mtu frameTxDatagram datagramBacklogPackets egressTargetMbps adaptive
      started turns
    (run.1.filterMap PacedEntry.disposition?, run.2.project PacedState.backlog) =
        pumpTunToQuic mtu frameTxDatagram datagramBacklogPackets (turns.map PacedTurn.turn) ∧
      (handedBytes run.1 ≤ maxU64 → ∀ time, started ≤ time →
        Allowed adaptive (egressTargetMbps * 1000000 / 8) started
          (EgressPacer.new egressTargetMbps mtu adaptive started).burstBytes (mtu + 64) run.1
          time) := by
  refine ⟨pacedPump_project .., ?_⟩
  intro fits
  have stands := (loopInvariant_pacedTurn adaptive (egressTargetMbps * 1000000 / 8) started
    (EgressPacer.new egressTargetMbps mtu adaptive started).burstBytes mtu).stands
    ⟨.new frameTxDatagram datagramBacklogPackets, .new egressTargetMbps mtu adaptive started,
      started⟩ (fun _ => egress_start positive mtu adaptive started (mtu + 64) _) turns
  unfold Stands at stands
  unfold pacedPump at fits ⊢
  split at stands
  · exact (stands fits).allowed
  · exact stands fits

/-- A full packet each second, a packet lost in between. -/
def lossyTurns : List PacedTurn :=
  [⟨0, 0⟩, ⟨1, 0⟩].map fun stats =>
    { turn := .received (List.replicate 1300 0) (some 1350) (.enqueue 1350) ⟨0, 0⟩ []
      waiting := 1
      stats := stats
      call := { packetBytes := 0 } }

/-- By the end of the second one a new epoch has begun, and both packets are within
what two epochs and the time allow. -/
theorem pump_egress_bounded_lossyTurns :
    handedBytes (upTo (pacedPump 1300 0 64 1 true 0 lossyTurns).1 2) = 2600 ∧
      epochsBegun (upTo (pacedPump 1300 0 64 1 true 0 lossyTurns).1 2) = 1 ∧
      Allowed true ((1 : Nat) * 1000000 / 8) 0 (EgressPacer.new 1 1300 true 0).burstBytes
        (1300 + 64) (pacedPump 1300 0 64 1 true 0 lossyTurns).1 2 := by
  have fits : handedBytes (pacedPump 1300 0 64 1 true 0 lossyTurns).1 ≤ maxU64 := by
    decide +kernel
  exact ⟨by decide +kernel, by decide +kernel,
    (pump_egress_bounded 1300 0 64 1 true 0 lossyTurns (by decide)).2 fits 2 zero_le_two⟩

end LiteVpn.Core
