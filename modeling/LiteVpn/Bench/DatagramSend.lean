import LiteVpn.Core.BacklogWait
import LiteVpn.Core.Stream
import LiteVpn.Semantics.Loop
import Mathlib.Data.List.Perm.Subperm
import Mathlib.Algebra.GroupWithZero.Nat

/-!
# The datagram bench

The send loops of the client's `run_upload_bench` and of the server's
`run_download_bench`, and what either peer counts. Both loops hand a datagram to
QUIC, wait for the backlog, and count the datagram only if that wait lets them
go on. A deadline that ends the wait leaves the last datagram out of the count,
although QUIC has it. Counters wrap as the release build's do; the pacer delays
the loop and changes nothing in it.
-/

namespace LiteVpn.Bench

open LiteVpn.Strings
open LiteVpn.Semantics
open LiteVpn.Core

/-- The two counters of a bench loop. -/
structure BenchCounters where
  packets : UInt64
  bytes : UInt64
deriving DecidableEq, Repr

/-- Count one packet of the given size. -/
def BenchCounters.add (counters : BenchCounters) (size : UInt64) : BenchCounters :=
  ⟨counters.packets + 1, counters.bytes + size⟩

/-- The counters after the given totals. -/
def BenchCounters.ofTotals (packets bytes : Nat) : BenchCounters :=
  ⟨UInt64.ofNat packets, UInt64.ofNat bytes⟩

@[simp] theorem BenchCounters.add_ofTotals (packets bytes : Nat) (size : UInt64) :
    (ofTotals packets bytes).add size = ofTotals (packets + 1) (bytes + size.toNat) := by
  simp [ofTotals, add, UInt64.ofNat_add]

/-- What the sender meets in one turn of its loop: its timer, the end of the
connection, a failed send, or a datagram that QUIC accepts and the backlog wait
behind it. -/
inductive SendTurn where
  | deadline
  | closed (reason : String)
  | sendFailed (reason : String)
  | accepted (reading : Reading) (waits : List Wait)
deriving DecidableEq, Repr

/-- Why a send loop is not at its head. -/
inductive SendEnd where
  | deadline
  | turnedAway
  | connectionClosed (reason : String)
  | queueing
  | closedDuringUpload (reason : String)
  | closedWaitingForBacklog (reason : String)
  | sendFailed (reason : String)
deriving DecidableEq, Repr

/-- The text of each error that the program itself words. -/
def SendEnd.message : SendEnd → Option String
  | .closedDuringUpload reason => s!"connection closed during upload bench: {reason}"
  | .closedWaitingForBacklog reason => backlogClosedMessage reason
  | _ => none

/-- The loop was left by a `break`. -/
def SendEnd.clean : SendEnd → Bool
  | .deadline | .turnedAway | .connectionClosed _ => true
  | _ => false

structure Sender where
  counters : BenchCounters
  backlog : DatagramBacklog
deriving DecidableEq, Repr

/-- Every datagram of a bench is the same run of zeros. -/
def datagram (payloadBytes : UInt64) : Packet := List.replicate payloadBytes.toNat 0

/-- One turn of a send loop. The log holds the datagrams that QUIC accepted.
`closed` says what the loop makes of the end of the connection. -/
def sendTurn (closed : String → SendEnd) (payloadBytes : UInt64) (deadline : Nat)
    (sender : Sender) : SendTurn → List Packet × TurnEnd Sender (BenchCounters × SendEnd)
  | .deadline => ([], .exit (sender.counters, .deadline))
  | .closed reason => ([], .exit (sender.counters, closed reason))
  | .sendFailed reason => ([], .exit (sender.counters, .sendFailed reason))
  | .accepted reading waits =>
      let payload := datagram payloadBytes
      let counted := sender.backlog.queuedUntil deadline reading waits
      match counted.2.ending with
      | .closed reason => ([payload], .exit (sender.counters, .closedWaitingForBacklog reason))
      | .waiting => ([payload], .exit (sender.counters, .queueing))
      | .returned false => ([payload], .exit (sender.counters, .turnedAway))
      | .returned true => ([payload], .next ⟨sender.counters.add payloadBytes, counted.1⟩)

def sendLoop (closed : String → SendEnd) (payloadBytes : UInt64)
    (frameTxDatagram datagramBacklogPackets deadline : Nat) (turns : List SendTurn) :
    List Packet × TurnEnd Sender (BenchCounters × SendEnd) :=
  runLoop (sendTurn closed payloadBytes deadline)
    ⟨.ofTotals 0 0, .new frameTxDatagram datagramBacklogPackets⟩ turns

/-- The client's `run_upload_bench`: the end of the connection is an error. -/
def runUploadBench (payloadBytes : UInt64)
    (frameTxDatagram datagramBacklogPackets deadline : Nat) (turns : List SendTurn) :
    List Packet × TurnEnd Sender (BenchCounters × SendEnd) :=
  sendLoop .closedDuringUpload payloadBytes frameTxDatagram datagramBacklogPackets deadline turns

/-- The payload the server sends: no larger than the connection's datagrams. -/
def cappedPayload (maxDatagramSize : Option UInt64) (payloadBytes : UInt64) : UInt64 :=
  min (maxDatagramSize.getD payloadBytes) payloadBytes

/-- The server's `run_download_bench`: the end of the connection ends the loop. -/
def runDownloadBench (maxDatagramSize : Option UInt64) (payloadBytes : UInt64)
    (frameTxDatagram datagramBacklogPackets deadline : Nat) (turns : List SendTurn) :
    List Packet × TurnEnd Sender (BenchCounters × SendEnd) :=
  sendLoop .connectionClosed (cappedPayload maxDatagramSize payloadBytes) frameTxDatagram
    datagramBacklogPackets deadline turns

/-- Count a datagram as it was read. -/
def BenchCounters.count (counters : BenchCounters) (datagram : Packet) : BenchCounters :=
  counters.add (UInt64.ofNat datagram.length)

/-- What the peer counts of the datagrams it reads: the loops of the server's
`run_upload_bench` and of the client's `run_download_bench`. -/
def countDatagrams (datagrams : List Packet) : BenchCounters :=
  datagrams.foldl BenchCounters.count (.ofTotals 0 0)

/-- The account is exact: the packets are those QUIC accepted, the bytes are their
payload, and a peer that is delivered each of them at most once counts no more. -/
structure Exact (payloadBytes : UInt64) (accepted : List Packet) (counters : BenchCounters) :
    Prop where
  packets : counters.packets.toNat = accepted.length
  bytes : counters.bytes.toNat = counters.packets.toNat * payloadBytes.toNat
  peer : ∀ delivered : List Packet, delivered.Subperm accepted →
    (countDatagrams delivered).packets.toNat ≤ counters.packets.toNat ∧
      (countDatagrams delivered).bytes.toNat ≤ counters.bytes.toNat

/-- The deadline ends the backlog wait behind an accepted datagram. -/
def TurnsAway (deadline : Nat) (sender : Sender) (turn : SendTurn) : Prop :=
  ∃ reading waits, turn = .accepted reading waits ∧
    (sender.backlog.queuedUntil deadline reading waits).2.ending = .returned false

/-- No turn that a run enters at the head of its loop has its backlog wait ended
by the deadline. -/
def NeverTurnedAway (run : List SendTurn → List Packet × TurnEnd Sender (BenchCounters × SendEnd))
    (deadline : Nat) (turns : List SendTurn) : Prop :=
  ∀ before turn after sender, turns = before ++ turn :: after → (run before).2 = .next sender →
    ¬ TurnsAway deadline sender turn

/-- Neither counter has wrapped. -/
def Fits (payloadBytes : UInt64) (accepted : List Packet) : Prop :=
  accepted.length < 2 ^ 64 ∧ accepted.length * payloadBytes.toNat < 2 ^ 64

@[simp] theorem BenchCounters.count_ofTotals (packets bytes : Nat) (datagram : Packet) :
    (ofTotals packets bytes).count datagram =
      ofTotals (packets + 1) (bytes + datagram.length) := by
  simp [ofTotals, count, add, UInt64.ofNat_add]

theorem foldl_count_eq (datagrams : List Packet) (packets bytes : Nat) :
    datagrams.foldl BenchCounters.count (.ofTotals packets bytes) =
      .ofTotals (packets + datagrams.length) (bytes + (datagrams.map List.length).sum) := by
  induction datagrams generalizing packets bytes with
  | nil => rfl
  | cons datagram rest inductionHypothesis =>
      rw [List.foldl_cons, BenchCounters.count_ofTotals, inductionHypothesis]
      simp only [List.length_cons, List.map_cons, List.sum_cons]
      congr 1 <;> omega

/-- The peer counts the number of datagrams and their lengths, modulo the width
of its counters. -/
theorem countDatagrams_eq (datagrams : List Packet) :
    countDatagrams datagrams =
      .ofTotals datagrams.length (datagrams.map List.length).sum := by
  rw [countDatagrams, foldl_count_eq, Nat.zero_add, Nat.zero_add]

theorem toNat_ofNat_le (value : Nat) : (UInt64.ofNat value).toNat ≤ value := by
  rw [UInt64.toNat_ofNat']
  exact Nat.mod_le _ _

/-- A count of all accepted datagrams is exact exactly when nothing wrapped. -/
theorem exact_ofTotals_iff {payloadBytes : UInt64} {accepted : List Packet}
    (same : ∀ packet ∈ accepted, packet = datagram payloadBytes) :
    Exact payloadBytes accepted
        (.ofTotals accepted.length (accepted.length * payloadBytes.toNat)) ↔
      Fits payloadBytes accepted := by
  constructor
  · intro exact
    have packets : accepted.length < 2 ^ 64 := by
      rw [← exact.packets]
      exact UInt64.toNat_lt _
    refine ⟨packets, ?_⟩
    have bytes := exact.bytes
    rw [exact.packets] at bytes
    rw [← bytes]
    exact UInt64.toNat_lt _
  · rintro ⟨packets, bytes⟩
    have counted : (UInt64.ofNat accepted.length).toNat = accepted.length :=
      UInt64.toNat_ofNat_of_lt' packets
    have measured : (UInt64.ofNat (accepted.length * payloadBytes.toNat)).toNat =
        accepted.length * payloadBytes.toNat := UInt64.toNat_ofNat_of_lt' bytes
    refine ⟨counted, ?_, fun delivered atMostOnce => ?_⟩
    · simp only [BenchCounters.ofTotals, counted, measured]
    · have fewer := atMostOnce.length_le
      have sizes : (delivered.map List.length).sum = delivered.length * payloadBytes.toNat := by
        have sizeOf : ∀ packet ∈ delivered, packet.length = payloadBytes.toNat := by
          intro packet member
          rw [same packet (atMostOnce.subset member), datagram, List.length_replicate]
        rw [List.map_congr_left sizeOf, List.map_const', List.sum_replicate_nat]
      rw [countDatagrams_eq, sizes]
      simp only [BenchCounters.ofTotals, counted, measured]
      exact ⟨(toNat_ofNat_le _).trans fewer,
        (toNat_ofNat_le _).trans (Nat.mul_le_mul_right _ fewer)⟩

/-- A count that leaves one datagram out is not exact. -/
theorem not_exact_ofTotals {payloadBytes : UInt64} {accepted : List Packet} {count bytes : Nat}
    (longer : accepted.length = count + 1) :
    ¬ Exact payloadBytes accepted (.ofTotals count bytes) := by
  intro exact
  have packets := exact.packets
  have bound := toNat_ofNat_le count
  simp only [BenchCounters.ofTotals] at packets
  omega

/-- At the head of the loop everything accepted is counted. -/
structure Counted (payloadBytes : UInt64) (accepted : List Packet) (counters : BenchCounters) :
    Prop where
  same : ∀ packet ∈ accepted, packet = datagram payloadBytes
  counters : counters = .ofTotals accepted.length (accepted.length * payloadBytes.toNat)

/-- Outside of the loop everything accepted is counted, unless the backlog wait
turned the sender away: then the last datagram is not. -/
structure Settled (payloadBytes : UInt64) (accepted : List Packet) (counters : BenchCounters)
    (reason : SendEnd) : Prop where
  same : ∀ packet ∈ accepted, packet = datagram payloadBytes
  away : reason = .turnedAway → ∃ count, accepted.length = count + 1 ∧
    counters = .ofTotals count (count * payloadBytes.toNat)
  counted : reason.clean = true → reason ≠ .turnedAway →
    counters = .ofTotals accepted.length (accepted.length * payloadBytes.toNat)

section Loop

variable {closed : String → SendEnd} {payloadBytes : UInt64} {deadline : Nat}

theorem Counted.accept {accepted : List Packet} {counters : BenchCounters}
    (counted : Counted payloadBytes accepted counters) :
    Counted payloadBytes (accepted ++ [datagram payloadBytes]) (counters.add payloadBytes) := by
  constructor
  · intro packet member
    rcases List.mem_append.mp member with old | new
    · exact counted.same packet old
    · exact List.mem_singleton.mp new
  · rw [counted.counters, BenchCounters.add_ofTotals, List.length_append, List.length_singleton,
      Nat.succ_mul]

/-- A loop left without a datagram on the way has counted everything. -/
theorem Counted.settled {accepted : List Packet} {counters : BenchCounters}
    (counted : Counted payloadBytes accepted counters) {reason : SendEnd}
    (stayed : reason ≠ .turnedAway) : Settled payloadBytes accepted counters reason :=
  ⟨counted.same, fun away => absurd away stayed, fun _ _ => counted.counters⟩

/-- A loop left with a datagram on the way has counted the ones before it. -/
theorem Counted.settled_behind {accepted : List Packet} {counters : BenchCounters}
    (counted : Counted payloadBytes accepted counters) {reason : SendEnd}
    (broke : reason.clean = true → reason = .turnedAway) :
    Settled payloadBytes (accepted ++ [datagram payloadBytes]) counters reason := by
  refine ⟨counted.accept.same, fun _ => ⟨accepted.length, by simp, counted.counters⟩, ?_⟩
  intro clean stayed
  exact absurd (broke clean) stayed

theorem loopInvariant_sendTurn (otherwise : ∀ reason, closed reason ≠ .turnedAway) :
    LoopInvariant (sendTurn closed payloadBytes deadline)
      (fun _ accepted sender => Counted payloadBytes accepted sender.counters)
      (fun _ accepted left => Settled payloadBytes accepted left.1 left.2) := by
  apply LoopInvariant.of_turns
  intro before log sender turn counted
  cases turn with
  | deadline =>
      simp only [AfterTurn, sendTurn, List.append_nil]
      exact fun _ => counted.settled (by simp)
  | closed reason =>
      simp only [AfterTurn, sendTurn, List.append_nil]
      exact fun _ => counted.settled (otherwise reason)
  | sendFailed reason =>
      simp only [AfterTurn, sendTurn, List.append_nil]
      exact fun _ => counted.settled (by simp)
  | accepted reading waits =>
      simp only [sendTurn]
      split
      · exact fun _ => counted.settled_behind (by simp [SendEnd.clean])
      · exact fun _ => counted.settled_behind (by simp [SendEnd.clean])
      · exact fun _ => counted.settled_behind (by simp)
      · exact counted.accept

/-- A turn turns the sender away exactly when the deadline ends its backlog wait. -/
theorem sendTurn_turnedAway_iff (otherwise : ∀ reason, closed reason ≠ .turnedAway) {sender : Sender}
    {turn : SendTurn} :
    (∃ counters, (sendTurn closed payloadBytes deadline sender turn).2 =
        .exit (counters, .turnedAway)) ↔ TurnsAway deadline sender turn := by
  cases turn with
  | deadline => simp [sendTurn, TurnsAway]
  | closed reason => simp [sendTurn, TurnsAway, otherwise reason]
  | sendFailed reason => simp [sendTurn, TurnsAway]
  | accepted reading waits =>
      cases ending : (sender.backlog.queuedUntil deadline reading waits).2.ending with
      | closed reason => simp [sendTurn, TurnsAway, ending]
      | waiting => simp [sendTurn, TurnsAway, ending]
      | returned passed => cases passed <;> simp [sendTurn, TurnsAway, ending]

/-- A run is turned away exactly when one of its turns is. -/
theorem sendLoop_turnedAway_iff (otherwise : ∀ reason, closed reason ≠ .turnedAway)
    {frameTxDatagram datagramBacklogPackets : Nat} {turns : List SendTurn} :
    (∃ counters, (sendLoop closed payloadBytes frameTxDatagram datagramBacklogPackets deadline
        turns).2 = .exit (counters, .turnedAway)) ↔
      ¬ NeverTurnedAway (sendLoop closed payloadBytes frameTxDatagram datagramBacklogPackets
        deadline) deadline turns := by
  simp only [NeverTurnedAway, not_forall, not_not]
  constructor
  · rintro ⟨counters, left⟩
    obtain ⟨before, turn, after, sender, split, reached, left⟩ := runLoop_exit_iff.mp left
    exact ⟨before, turn, after, sender, split, reached,
      (sendTurn_turnedAway_iff otherwise).mp ⟨counters, left⟩⟩
  · rintro ⟨before, turn, after, sender, split, reached, away⟩
    obtain ⟨counters, left⟩ := (sendTurn_turnedAway_iff otherwise).mpr away
    exact ⟨counters, runLoop_exit_iff.mpr ⟨before, turn, after, sender, split, reached, left⟩⟩

/-- A send loop that ends without an error has an exact account exactly when its
backlog waits never ended at the deadline and its counters have not wrapped. -/
theorem sendLoop_exact_iff (otherwise : ∀ reason, closed reason ≠ .turnedAway)
    {frameTxDatagram datagramBacklogPackets : Nat} {turns : List SendTurn}
    {counters : BenchCounters} {reason : SendEnd}
    (ended : (sendLoop closed payloadBytes frameTxDatagram datagramBacklogPackets deadline
      turns).2 = .exit (counters, reason)) (clean : reason.clean = true) :
    Exact payloadBytes
        (sendLoop closed payloadBytes frameTxDatagram datagramBacklogPackets deadline turns).1
        counters ↔
      NeverTurnedAway (sendLoop closed payloadBytes frameTxDatagram datagramBacklogPackets
          deadline) deadline turns ∧
        Fits payloadBytes (sendLoop closed payloadBytes frameTxDatagram datagramBacklogPackets
          deadline turns).1 := by
  have settled : Settled payloadBytes (sendLoop closed payloadBytes frameTxDatagram
      datagramBacklogPackets deadline turns).1 counters reason :=
    (loopInvariant_sendTurn otherwise).left ⟨by simp, by simp⟩ ended
  by_cases away : reason = .turnedAway
  · subst away
    obtain ⟨count, longer, counted⟩ := settled.away rfl
    refine iff_of_false ?_ fun kept => ?_
    · rw [counted]
      exact not_exact_ofTotals longer
    · exact (sendLoop_turnedAway_iff otherwise).mp ⟨counters, ended⟩ kept.1
  · have never : NeverTurnedAway (sendLoop closed payloadBytes frameTxDatagram
        datagramBacklogPackets deadline) deadline turns := by
      by_contra turned
      obtain ⟨counters', left⟩ := (sendLoop_turnedAway_iff otherwise).mpr turned
      rw [ended] at left
      cases left
      exact away rfl
    rw [settled.counted clean away, and_iff_right never]
    exact exact_ofTotals_iff settled.same

end Loop

/-- The client's upload and the server's download account exactly for their
datagrams, whenever they end without an error, if and only if no backlog wait
behind an accepted datagram was ended by the deadline and no counter wrapped. -/
theorem datagramBench_exact_iff (payloadBytes : UInt64)
    (frameTxDatagram datagramBacklogPackets deadline : Nat) (turns : List SendTurn)
    (counters : BenchCounters) (reason : SendEnd) (clean : reason.clean = true) :
    ((runUploadBench payloadBytes frameTxDatagram datagramBacklogPackets deadline turns).2 =
        .exit (counters, reason) →
      (Exact payloadBytes
          (runUploadBench payloadBytes frameTxDatagram datagramBacklogPackets deadline turns).1
          counters ↔
        NeverTurnedAway (runUploadBench payloadBytes frameTxDatagram datagramBacklogPackets
            deadline) deadline turns ∧
          Fits payloadBytes (runUploadBench payloadBytes frameTxDatagram datagramBacklogPackets
            deadline turns).1)) ∧
    ∀ maxDatagramSize,
      (runDownloadBench maxDatagramSize payloadBytes frameTxDatagram datagramBacklogPackets
        deadline turns).2 = .exit (counters, reason) →
      (Exact (cappedPayload maxDatagramSize payloadBytes)
          (runDownloadBench maxDatagramSize payloadBytes frameTxDatagram datagramBacklogPackets
            deadline turns).1 counters ↔
        NeverTurnedAway (runDownloadBench maxDatagramSize payloadBytes frameTxDatagram
            datagramBacklogPackets deadline) deadline turns ∧
          Fits (cappedPayload maxDatagramSize payloadBytes)
            (runDownloadBench maxDatagramSize payloadBytes frameTxDatagram datagramBacklogPackets
              deadline turns).1) := by
  have uploadOpen : ∀ reason, SendEnd.closedDuringUpload reason ≠ .turnedAway := by simp
  have downloadOpen : ∀ reason, SendEnd.connectionClosed reason ≠ .turnedAway := by simp
  exact ⟨fun ended => sendLoop_exact_iff uploadOpen ended clean,
    fun _ ended => sendLoop_exact_iff downloadOpen ended clean⟩

/-- Two datagrams pass and the timer fires. -/
def twoAndTimer : List SendTurn :=
  [.accepted ⟨0, 0⟩ [], .accepted ⟨1, 1⟩ [], .deadline]

/-- Under a limit of one datagram, the deadline comes while the second one waits. -/
def lateSecond : List SendTurn :=
  [.accepted ⟨0, 0⟩ [], .accepted ⟨0, 1⟩ [.slept ⟨0, 3⟩, .deadline]]

/-- The account of two datagrams that pass is exact. -/
theorem datagramBench_exact_twoAndTimer :
    Exact 64 (runUploadBench 64 0 0 9 twoAndTimer).1 (.ofTotals 2 128) := by
  have ended : (runUploadBench 64 0 0 9 twoAndTimer).2 = .exit (.ofTotals 2 128, .deadline) := by
    decide +kernel
  have never : NeverTurnedAway (runUploadBench 64 0 0 9) 9 twoAndTimer := by
    by_contra turned
    obtain ⟨counters, left⟩ := (sendLoop_turnedAway_iff (by simp)).mpr turned
    rw [show (sendLoop _ _ _ _ _ twoAndTimer).2 = _ from ended] at left
    cases left
  exact ((datagramBench_exact_iff 64 0 0 9 twoAndTimer _ .deadline rfl).1 ended).mpr
    ⟨never, by decide +kernel, by decide +kernel⟩

/-- QUIC accepts two datagrams, the loop ends without an error and reports one. -/
theorem lateSecond_not_exact :
    (runUploadBench 64 0 1 9 lateSecond).1.length = 2 ∧
      (runUploadBench 64 0 1 9 lateSecond).2 = .exit (.ofTotals 1 64, .turnedAway) ∧
      SendEnd.turnedAway.clean = true ∧
      ¬ Exact 64 (runUploadBench 64 0 1 9 lateSecond).1 (.ofTotals 1 64) := by
  have accepted : (runUploadBench 64 0 1 9 lateSecond).1.length = 2 := by decide +kernel
  exact ⟨accepted, by decide +kernel, rfl, not_exact_ofTotals accepted⟩

end LiteVpn.Bench
