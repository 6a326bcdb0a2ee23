import LiteVpn.Bench.DatagramExchange

/-!
# What the two ends of a datagram bench agree on

The client's measurement holds its own count and the one the server reported. Both
are exact counts of one and the same exchange, taken on its two ends: what was
accepted for sending, up to one datagram that the deadline left uncounted, and
what the other end had read when its loop was left.
-/

namespace LiteVpn.Bench.DatagramExchange

open LiteVpn.Strings
open LiteVpn.Semantics
open LiteVpn.Core

/-- The counters a counting loop has, wherever it stands. -/
def receiverCounters : TurnEnd BenchCounters (BenchCounters × ReceiveEnd) → BenchCounters
  | .next counters => counters
  | .exit (counters, _) => counters

/-- The datagram that a turn reads. -/
def ReceiveTurn.packets : ReceiveTurn → List Packet
  | .datagram packet => [packet]
  | .readFailed _ | .deadline | .summary => []

theorem receiveTurn_fst (counters : BenchCounters) (turn : ReceiveTurn) :
    (receiveTurn counters turn).1 = turn.packets := by
  cases turn <;> rfl

/-- A turn counts what it reads. -/
theorem receiveTurn_counts (received : List Packet) (turn : ReceiveTurn) :
    receiverCounters (receiveTurn (countDatagrams received) turn).2 =
      countDatagrams (received ++ turn.packets) := by
  cases turn with
  | datagram packet => simp [receiveTurn, receiverCounters, ReceiveTurn.packets, countDatagrams]
  | readFailed reason => simp [receiveTurn, receiverCounters, ReceiveTurn.packets]
  | deadline => simp [receiveTurn, receiverCounters, ReceiveTurn.packets]
  | summary => simp [receiveTurn, receiverCounters, ReceiveTurn.packets]

namespace Setting

/-- The counters the client measures with, once its loop is left for the summary. -/
def clientCounters (setting : Setting) (exchange : Exchange) : Option BenchCounters :=
  match setting.flow with
  | .upload =>
      match exchange.sender with
      | .exit (counters, reason) => if reason.clean then some counters else none
      | .next _ => none
  | .download =>
      match exchange.receiver with
      | .exit (counters, .summary) => some counters
      | _ => none

variable {setting : Setting} {exchange next : Exchange}

/-- The send loop has counted what was accepted, as far as it has. -/
def SenderCounts (payload : UInt64) (accepted : List Packet)
    (sender : TurnEnd Sender (BenchCounters × SendEnd)) : Prop :=
  match sender with
  | .next sender => Counted payload accepted sender.counters
  | .exit (counters, reason) => Settled payload accepted counters reason

/-- The summary holds the counters of the server's loop. -/
def Reported (setting : Setting) (exchange : Exchange) (summary : Bytes) : Prop :=
  ∃ counters elapsed measuredElapsed stats, setting.serverCounters exchange = some counters ∧
    summary = benchSummary (setting.report counters elapsed measuredElapsed) stats

/-- The measurement holds the counters of the client's loop and what the server's
summary says. -/
def Measured (setting : Setting) (exchange : Exchange) (measurement : BenchMeasurement) : Prop :=
  ∃ counters elapsed summary line, setting.clientCounters exchange = some counters ∧
    exchange.server = .written summary ∧ readBenchSummaryStream summary = .ok line ∧
    measurement = benchMeasurement elapsed counters.bytes counters.packets
      (parseServerBenchMeasurement line)

/-- An exchange in order. -/
structure Sound (setting : Setting) (exchange : Exchange) : Prop where
  sender : SenderCounts setting.payload exchange.accepted exchange.sender
  receiver : receiverCounters exchange.receiver = countDatagrams exchange.received
  conserved : exchange.accepted.Perm (exchange.received ++ exchange.inFlight ++ exchange.lost)
  reported : ∀ summary, exchange.server = .written summary → setting.Reported exchange summary
  measured : ∀ measurement printed, exchange.client = .measured measurement printed →
    setting.Measured exchange measurement

/-- Everything a step can do. -/
inductive Changed (setting : Setting) (exchange : Exchange) : Exchange → Prop where
  | sent {sender turn} (stands : exchange.sender = .next sender) :
      Changed setting exchange { exchange with
        accepted := exchange.accepted ++
          (sendTurn setting.closed setting.payload setting.deadline sender turn).1
        sender := (sendTurn setting.closed setting.payload setting.deadline sender turn).2
        inFlight := exchange.inFlight ++
          (sendTurn setting.closed setting.payload setting.deadline sender turn).1
        client := setting.afterSend exchange.client
          (sendTurn setting.closed setting.payload setting.deadline sender turn).2 }
  | received {counters turn inFlight} (stands : exchange.receiver = .next counters)
      (moved : exchange.inFlight.Perm (turn.packets ++ inFlight)) :
      Changed setting exchange { exchange with
        received := exchange.received ++ turn.packets
        receiver := (receiveTurn counters turn).2
        inFlight := inFlight
        client := setting.afterReceive exchange.client (receiveTurn counters turn).2 }
  | lost {index packet} (found : exchange.inFlight[index]? = some packet) :
      Changed setting exchange { exchange with
        inFlight := exchange.inFlight.eraseIdx index
        lost := exchange.lost ++ [packet] }
  | reported {counters elapsed measuredElapsed stats}
      (pending : exchange.server = .pending)
      (counted : setting.serverCounters exchange = some counters) :
      Changed setting exchange { exchange with
        server := .written
          (benchSummary (setting.report counters elapsed measuredElapsed) stats) }
  | unreported {error} (pending : exchange.server = .pending) :
      Changed setting exchange { exchange with server := .failed error }
  | measured {summary counters left printedElapsed elapsed stats}
      (written : exchange.server = .written summary)
      (awaits : setting.awaitsSummary exchange = some (counters, left)) :
      Changed setting exchange { left with
        client := setting.measure counters printedElapsed elapsed stats summary }
  | unmeasured {counters left error}
      (awaits : setting.awaitsSummary exchange = some (counters, left)) :
      Changed setting exchange { left with client := .failed error }

theorem changed_of_receive {turn : ReceiveTurn} {inFlight : List Packet}
    (moved : exchange.inFlight.Perm (turn.packets ++ inFlight))
    (taken : setting.receive exchange turn inFlight = some next) :
    Changed setting exchange next := by
  unfold receive at taken
  split at taken
  · cases taken
  · rename_i counters stands
    cases taken
    rw [receiveTurn_fst]
    exact .received stands moved

theorem changed_of_step {action : Action} (taken : setting.step exchange action = some next) :
    Changed setting exchange next := by
  cases action with
  | send turn =>
      simp only [step] at taken
      split at taken
      · cases taken
      · rename_i sender stands
        cases taken
        exact .sent stands
  | deliver index =>
      simp only [step] at taken
      split at taken
      · cases taken
      · rename_i packet found
        exact changed_of_receive (perm_of_getElem? found) taken
  | lose index =>
      simp only [step] at taken
      split at taken
      · cases taken
      · rename_i packet found
        cases taken
        exact .lost found
  | readFails reason => exact changed_of_receive (.refl _) taken
  | timer => exact changed_of_receive (.refl _) taken
  | report elapsed measuredElapsed stats error =>
      simp only [step] at taken
      split at taken
      · rename_i counters pending counted
        cases error with
        | some error =>
            cases taken
            exact .unreported pending
        | none =>
            cases taken
            exact .reported pending counted
      · cases taken
  | readSummary printedElapsed elapsed stats =>
      simp only [step] at taken
      split at taken
      · rename_i summary counters left written awaits
        cases taken
        exact .measured written awaits
      · cases taken
  | summaryFails =>
      simp only [step, Option.map_eq_some_iff] at taken
      obtain ⟨⟨counters, left⟩, awaits, rfl⟩ := taken
      exact .unmeasured awaits
  | summaryTimer =>
      simp only [step] at taken
      split at taken
      · rename_i counters left upload awaits
        cases taken
        exact .unmeasured awaits
      · cases taken

/-- A client that awaits the summary has left its loop, or leaves it now. -/
theorem awaitsSummary_eq_some {counters : BenchCounters} {left : Exchange}
    (awaits : setting.awaitsSummary exchange = some (counters, left)) :
    setting.clientCounters left = some counters ∧ ∃ receiver,
      left = { exchange with receiver := receiver } ∧
        receiverCounters receiver = receiverCounters exchange.receiver ∧
          ∀ ended, exchange.receiver = .exit ended → receiver = .exit ended := by
  unfold awaitsSummary at awaits
  unfold clientCounters
  split at awaits
  · cases flow : setting.flow with
    | upload =>
        simp only [flow] at awaits ⊢
        split at awaits
        · rename_i found reason stands
          split at awaits
          · rename_i clean
            cases awaits
            refine ⟨?_, exchange.receiver, rfl, rfl, fun _ => id⟩
            simp only [stands, clean, if_true]
          · cases awaits
        · cases awaits
    | download =>
        simp only [flow] at awaits ⊢
        split at awaits
        · rename_i found stands
          cases awaits
          refine ⟨rfl, _, rfl, ?_, ?_⟩
          · rw [stands]
            rfl
          · rw [stands]
            intro ended same
            cases same
        · cases awaits
  · cases awaits

/-- A loop that was left stays left, and a summary stays written. -/
structure Persists (before after : Exchange) : Prop where
  sender : ∀ ended, before.sender = .exit ended → after.sender = .exit ended
  receiver : ∀ ended, before.receiver = .exit ended → after.receiver = .exit ended
  server : ∀ summary, before.server = .written summary → after.server = .written summary

theorem Changed.persists (changed : Changed setting exchange next) : Persists exchange next := by
  cases changed with
  | sent stands =>
      refine ⟨?_, fun _ => id, fun _ => id⟩
      rw [stands]
      intro ended same
      cases same
  | received stands moved =>
      refine ⟨fun _ => id, ?_, fun _ => id⟩
      rw [stands]
      intro ended same
      cases same
  | lost found => exact ⟨fun _ => id, fun _ => id, fun _ => id⟩
  | reported pending counted =>
      refine ⟨fun _ => id, fun _ => id, ?_⟩
      rw [pending]
      intro summary same
      cases same
  | unreported pending =>
      refine ⟨fun _ => id, fun _ => id, ?_⟩
      rw [pending]
      intro summary same
      cases same
  | measured written awaits =>
      obtain ⟨-, receiver, rfl, -, kept⟩ := awaitsSummary_eq_some awaits
      exact ⟨fun _ => id, kept, fun _ => id⟩
  | unmeasured awaits =>
      obtain ⟨-, receiver, rfl, -, kept⟩ := awaitsSummary_eq_some awaits
      exact ⟨fun _ => id, kept, fun _ => id⟩

theorem Persists.serverCounters (persists : Persists exchange next) {counters : BenchCounters}
    (counted : setting.serverCounters exchange = some counters) :
    setting.serverCounters next = some counters := by
  unfold Setting.serverCounters at counted ⊢
  cases flow : setting.flow with
  | upload =>
      simp only [flow] at counted ⊢
      split at counted
      · rename_i found stands
        rw [persists.receiver _ stands]
        exact counted
      · cases counted
  | download =>
      simp only [flow] at counted ⊢
      split at counted
      · rename_i found reason stands
        rw [persists.sender _ stands]
        exact counted
      · cases counted

theorem Persists.clientCounters (persists : Persists exchange next) {counters : BenchCounters}
    (counted : setting.clientCounters exchange = some counters) :
    setting.clientCounters next = some counters := by
  unfold Setting.clientCounters at counted ⊢
  cases flow : setting.flow with
  | upload =>
      simp only [flow] at counted ⊢
      split at counted
      · rename_i found reason stands
        rw [persists.sender _ stands]
        exact counted
      · cases counted
  | download =>
      simp only [flow] at counted ⊢
      split at counted
      · rename_i found stands
        rw [persists.receiver _ stands]
        exact counted
      · cases counted

theorem Persists.reported (persists : Persists exchange next) {summary : Bytes}
    (reported : setting.Reported exchange summary) : setting.Reported next summary := by
  obtain ⟨counters, elapsed, measuredElapsed, stats, counted, same⟩ := reported
  exact ⟨counters, elapsed, measuredElapsed, stats, persists.serverCounters counted, same⟩

theorem Persists.measured (persists : Persists exchange next) {measurement : BenchMeasurement}
    (measured : setting.Measured exchange measurement) : setting.Measured next measurement := by
  obtain ⟨counters, elapsed, summary, line, counted, written, read, same⟩ := measured
  exact ⟨counters, elapsed, summary, line, persists.clientCounters counted,
    persists.server _ written, read, same⟩

/-- A turn of the send loop keeps its account. -/
theorem senderCounts_sendTurn {accepted : List Packet} {sender : Sender} {turn : SendTurn}
    (counted : Counted setting.payload accepted sender.counters) :
    SenderCounts setting.payload
      (accepted ++ (sendTurn setting.closed setting.payload setting.deadline sender turn).1)
      (sendTurn setting.closed setting.payload setting.deadline sender turn).2 := by
  have otherwise : ∀ reason, setting.closed reason ≠ .turnedAway := by
    intro reason
    unfold closed
    cases setting.flow <;> simp
  have invariant :=
    @loopInvariant_sendTurn setting.closed setting.payload setting.deadline otherwise
  cases taken : sendTurn setting.closed setting.payload setting.deadline sender turn with
  | mk log ended =>
      cases ended with
      | next after =>
          exact @LoopInvariant.stays _ _ _ _ _ _ _ invariant [] _ _ _ _ _ counted taken
      | exit left =>
          exact @LoopInvariant.leaves _ _ _ _ _ _ _ invariant [] _ _ _ _ _ counted taken []

/-- Neither loop gives the client a measurement. -/
theorem afterSend_measured {client : ClientEnd} {sender : TurnEnd Sender (BenchCounters × SendEnd)}
    {measurement : BenchMeasurement} {printed : List Text}
    (same : setting.afterSend client sender = .measured measurement printed) :
    client = .measured measurement printed := by
  unfold afterSend at same
  split at same
  · split at same
    · cases same
    · exact same
  · exact same

theorem afterReceive_measured {client : ClientEnd}
    {receiver : TurnEnd BenchCounters (BenchCounters × ReceiveEnd)}
    {measurement : BenchMeasurement} {printed : List Text}
    (same : setting.afterReceive client receiver = .measured measurement printed) :
    client = .measured measurement printed := by
  unfold afterReceive at same
  split at same
  · split at same
    · cases same
    · exact same
  · split at same
    · cases same
    · exact same
  · exact same
  · exact same

theorem sound_start : setting.Sound setting.start where
  sender := ⟨by simp [start], by simp [start]⟩
  receiver := rfl
  conserved := .refl _
  reported := by simp [start]
  measured := by simp [start]

/-- A step after which nothing is reported or measured that was not before. -/
theorem Sound.keep (sound : setting.Sound exchange) (persists : Persists exchange next)
    (sender : SenderCounts setting.payload next.accepted next.sender)
    (receiver : receiverCounters next.receiver = countDatagrams next.received)
    (conserved : next.accepted.Perm (next.received ++ next.inFlight ++ next.lost))
    (server : ∀ summary, next.server = .written summary → exchange.server = .written summary)
    (client : ∀ measurement printed, next.client = .measured measurement printed →
      exchange.client = .measured measurement printed) : setting.Sound next where
  sender := sender
  receiver := receiver
  conserved := conserved
  reported := fun summary written =>
    persists.reported (sound.reported summary (server summary written))
  measured := fun measurement printed done =>
    persists.measured (sound.measured measurement printed (client measurement printed done))

/-- One step keeps an exchange in order. -/
theorem Sound.changed (sound : setting.Sound exchange) (changed : Changed setting exchange next) :
    setting.Sound next := by
  have persists := changed.persists
  cases changed with
  | sent stands =>
      have counted := sound.sender
      rw [stands] at counted
      exact sound.keep persists (senderCounts_sendTurn counted) sound.receiver
        (conserved_handed sound.conserved _) (fun _ => id) fun _ _ => afterSend_measured
  | @received counters turn inFlight stands moved =>
      have counted := sound.receiver
      rw [stands] at counted
      have counts : receiverCounters (receiveTurn counters turn).2 =
          countDatagrams (exchange.received ++ turn.packets) := by
        rw [← receiveTurn_counts, ← counted]
        rfl
      exact sound.keep persists sound.sender counts (conserved_received sound.conserved moved)
        (fun _ => id) fun _ _ => afterReceive_measured
  | lost found =>
      exact sound.keep persists sound.sender sound.receiver
        (conserved_lost sound.conserved found) (fun _ => id) fun _ _ => id
  | reported pending counted =>
      refine ⟨sound.sender, sound.receiver, sound.conserved, ?_, ?_⟩
      · rintro summary ⟨⟩
        exact ⟨_, _, _, _, persists.serverCounters counted, rfl⟩
      · intro measurement printed done
        exact persists.measured (sound.measured measurement printed done)
  | unreported pending =>
      refine sound.keep persists sound.sender sound.receiver sound.conserved ?_ fun _ _ => id
      rintro summary ⟨⟩
  | @measured summary counters left printedElapsed elapsed stats written awaits =>
      obtain ⟨counted, receiver, rfl, same, -⟩ := awaitsSummary_eq_some awaits
      refine ⟨sound.sender, same.trans sound.receiver, sound.conserved, ?_, ?_⟩
      · intro summary written
        exact persists.reported (sound.reported summary written)
      · intro measurement printed result
        simp only [measure] at result
        split at result
        · cases result
        · rename_i line read
          cases result
          exact ⟨counters, elapsed, summary, line, counted, written, read, rfl⟩
  | unmeasured awaits =>
      obtain ⟨-, receiver, rfl, same, -⟩ := awaitsSummary_eq_some awaits
      refine sound.keep persists sound.sender (same.trans sound.receiver) sound.conserved
        (fun _ => id) ?_
      rintro measurement printed ⟨⟩

theorem sound_of_reachable (reachable : setting.machine.Reachable exchange) :
    setting.Sound exchange := by
  refine reachable.induct ?_ ?_
  · rintro _ rfl
    exact sound_start
  · intro before action after sound taken
    exact sound.changed (changed_of_step taken)

/-- What a count of datagrams of one size looks like. -/
def tally (setting : Setting) (count : Nat) : BenchCounters :=
  .ofTotals count (count * setting.payload.toNat)

/-- The two numbers of a measurement, and those the server reported. -/
def ownCount (measurement : BenchMeasurement) : BenchCounters :=
  ⟨measurement.packets, measurement.bytes⟩

def serverCount (measurement : BenchMeasurement) : Option BenchCounters :=
  measurement.server.map fun server => ⟨server.packets, server.bytes⟩

/-- The sender counts what QUIC accepted; only a deadline that comes while the last
datagram waits for the backlog leaves that one out. -/
theorem SenderCounts.sent {accepted : List Packet} {counters : BenchCounters} {reason : SendEnd}
    (counts : SenderCounts setting.payload accepted (.exit (counters, reason)))
    (clean : reason.clean = true) :
    (∀ packet ∈ accepted, packet = datagram setting.payload) ∧
      ∃ sent, sent + (if reason = .turnedAway then 1 else 0) = accepted.length ∧
        counters = setting.tally sent := by
  have settled : Settled setting.payload accepted counters reason := counts
  refine ⟨settled.same, ?_⟩
  by_cases away : reason = .turnedAway
  · obtain ⟨count, longer, same⟩ := settled.away away
    exact ⟨count, by rw [if_pos away, longer], same⟩
  · exact ⟨accepted.length, by rw [if_neg away, Nat.add_zero], settled.counted clean away⟩

/-- The receiver counts what it reads, which is of the sender's size. -/
theorem countDatagrams_received {accepted received : List Packet}
    (same : ∀ packet ∈ accepted, packet = datagram setting.payload)
    (within : received.Subperm accepted) :
    countDatagrams received = setting.tally received.length := by
  have size : ∀ packet ∈ received, packet.length = setting.payload.toNat := by
    intro packet member
    rw [same packet (within.subset member), datagram, List.length_replicate]
  rw [countDatagrams_eq, List.map_congr_left size, List.map_const', List.sum_replicate_nat]
  rfl

/-- The counters that the client reads in a summary are those that were written. -/
theorem counters_summaryLine (report : BenchReport) (stats : ConnectionStats) :
    (parseServerBenchMeasurement (summaryLine report stats)).map
        (fun server => (⟨server.packets, server.bytes⟩ : BenchCounters)) =
      (reportedMillis report).map fun _ => ⟨report.packets, report.bytes⟩ := by
  unfold parseServerBenchMeasurement
  rw [parseSummaryU64_counter report stats (by decide) rfl,
    parseSummaryU64_counter report stats (by decide) rfl, millis_summaryLine]
  cases reportedMillis report <;> rfl

/-- When both programs have their counters, both loops have been left. -/
theorem loops_left {own other : BenchCounters}
    (client : setting.clientCounters exchange = some own)
    (server : setting.serverCounters exchange = some other) :
    ∃ counted reason seen ended, exchange.sender = .exit (counted, reason) ∧
      reason.clean = true ∧ exchange.receiver = .exit (seen, ended) ∧
        (own, other) = match setting.flow with
          | .upload => (counted, seen)
          | .download => (seen, counted) := by
  unfold clientCounters at client
  unfold serverCounters at server
  cases flow : setting.flow with
  | upload =>
      simp only [flow] at client server ⊢
      split at client
      · rename_i counted reason left
        split at client
        · rename_i clean
          split at server
          · rename_i seen stopped
            cases client
            cases server
            exact ⟨_, reason, _, _, left, clean, stopped, rfl⟩
          · cases server
        · cases client
      · cases client
  | download =>
      simp only [flow] at client server ⊢
      split at server
      · rename_i counted reason left
        split at server
        · rename_i clean
          split at client
          · rename_i seen stopped
            cases client
            cases server
            exact ⟨_, reason, _, _, left, clean, stopped, rfl⟩
          · cases client
        · cases server
      · cases server

/-- What a measurement says about the exchange it was taken from. -/
structure Agreement (setting : Setting) (exchange : Exchange) (measurement : BenchMeasurement) :
    Prop where
  /-- The network carries the bench's own datagrams, each at most once. -/
  genuine : ∀ packet ∈ exchange.accepted, packet = datagram setting.payload
  received : exchange.received.Subperm exchange.accepted
  /-- The sending end's numbers are those of all datagrams that QUIC accepted, or of all
  but one if its deadline came while that one waited for the backlog; the other end's
  are those of the datagrams it has read. -/
  counts : ∃ counted reason sent, exchange.sender = .exit (counted, reason) ∧
    sent + (if reason = .turnedAway then 1 else 0) = exchange.accepted.length ∧
    match setting.flow with
    | .upload => ownCount measurement = setting.tally sent ∧
        ∀ counters ∈ serverCount measurement, counters = setting.tally exchange.received.length
    | .download => ownCount measurement = setting.tally exchange.received.length ∧
        ∀ counters ∈ serverCount measurement, counters = setting.tally sent
  /-- The server's numbers are there, unless its time does not fit in 64 bits. -/
  answered : ∃ report stats, exchange.server = .written (benchSummary report stats) ∧
    (report.elapsed.asMillis < 2 ^ 64 → serverCount measurement ≠ none)

/-- In every interleaving of the two programs of a datagram bench with a network that
loses and reorders, a client that has measured has counted its own end of the
exchange and read the count of the other end. The receiving end never counts more
than the sending one, except for the one datagram that a deadline leaves out. -/
theorem bench_agrees (reachable : setting.machine.Reachable exchange)
    {measurement : BenchMeasurement} {printed : List Text}
    (done : exchange.client = .measured measurement printed) :
    setting.Agreement exchange measurement := by
  have sound := sound_of_reachable reachable
  obtain ⟨own, elapsed, summary, line, counted, written, read, rfl⟩ := sound.measured _ _ done
  obtain ⟨other, serverElapsed, measuredElapsed, stats, reported, rfl⟩ :=
    sound.reported _ written
  -- The line the client reads is the one the server wrote.
  rw [readBenchSummaryStream_benchSummary] at read
  cases read
  obtain ⟨sentCounters, reason, seen, ended, left, clean, stopped, same⟩ :=
    loops_left counted reported
  have sender := sound.sender
  rw [left] at sender
  obtain ⟨genuine, sent, fits, rfl⟩ := sender.sent clean
  have within := received_subperm sound.conserved
  have receiver := sound.receiver
  rw [stopped, countDatagrams_received genuine within] at receiver
  have seenSame : seen = setting.tally exchange.received.length := receiver
  have server := counters_summaryLine
    (setting.report other serverElapsed measuredElapsed) stats
  exact {
    genuine := genuine
    received := within
    counts := by
      refine ⟨_, reason, sent, left, fits, ?_⟩
      have reads : ∀ counters ∈ serverCount (benchMeasurement elapsed own.bytes own.packets
          (parseServerBenchMeasurement (summaryLine
            (setting.report other serverElapsed measuredElapsed) stats))), counters = other := by
        intro counters member
        rw [Option.mem_def, serverCount, benchMeasurement, server,
          Option.map_eq_some_iff] at member
        obtain ⟨_, _, rfl⟩ := member
        rfl
      cases flow : setting.flow with
      | upload =>
          simp only [flow] at same ⊢
          cases same
          exact ⟨rfl, fun counters member => (reads counters member).trans seenSame⟩
      | download =>
          simp only [flow] at same ⊢
          cases same
          exact ⟨seenSame, reads⟩
    answered := by
      refine ⟨_, stats, written, ?_⟩
      intro short missing
      rw [serverCount, benchMeasurement, server, Option.map_eq_none_iff] at missing
      unfold reportedMillis at missing
      split at missing
      · exact absurd missing (Option.some_ne_none _)
      · exact absurd missing (by simp) }

end Setting

/-- An upload of one second. -/
def shortUpload : Setting where
  flow := .upload
  durationSecs := 1
  payloadBytes := 64
  targetMbps := none
  maxDatagramSize := some 1350
  frameTxDatagram := 0
  datagramBacklogPackets := 64
  deadline := 9

/-- Of two datagrams the first one is lost; both loops end at their deadlines. -/
def lossyUpload : List Action :=
  [.send (.accepted ⟨0, 0⟩ []), .send (.accepted ⟨1, 1⟩ []), .lose 0, .deliver 0, .send .deadline,
    .timer]

def oneSecond : Duration := .fromSecs 1

def idleStats : ConnectionStats :=
  ⟨0, 0, 0, 0, 0, 0, 0, 0, .fromSecs 0, 1400, 0, 0⟩

/-- The exchange behind it. -/
def uploaded : Exchange where
  accepted := [datagram 64, datagram 64]
  sender := .exit (.ofTotals 2 128, .deadline)
  inFlight := []
  lost := [datagram 64]
  received := [datagram 64]
  receiver := .exit (.ofTotals 1 64, .deadline)
  server := .pending
  client := .running

def uploadReport : BenchReport := shortUpload.report (.ofTotals 1 64) oneSecond oneSecond

/-- The client has sent two datagrams and reads that the server has got one. -/
theorem bench_agrees_lossyUpload :
    ∃ exchange measurement, shortUpload.machine.Reachable exchange ∧
      shortUpload.Agreement exchange measurement ∧ exchange.accepted.length = 2 ∧
        exchange.received.length = 1 := by
  have looped : shortUpload.machine.run shortUpload.start lossyUpload = some uploaded := by
    decide +kernel
  have reported : shortUpload.machine.Reachable
      { uploaded with server := .written (benchSummary uploadReport idleStats) } :=
    (Machine.reachable_of_run rfl looped).step (.report oneSecond oneSecond idleStats none) rfl
  have read : shortUpload.machine.Reachable
      { uploaded with
        server := .written (benchSummary uploadReport idleStats)
        client := shortUpload.measure (.ofTotals 2 128) oneSecond oneSecond idleStats
          (benchSummary uploadReport idleStats) } :=
    reported.step (.readSummary oneSecond oneSecond idleStats) rfl
  have measured : ∃ measurement printed, shortUpload.measure (.ofTotals 2 128) oneSecond oneSecond
      idleStats (benchSummary uploadReport idleStats) = .measured measurement printed := by
    rw [Setting.measure, readBenchSummaryStream_benchSummary]
    exact ⟨_, _, rfl⟩
  obtain ⟨measurement, printed, done⟩ := measured
  rw [done] at read
  exact ⟨_, measurement, read, Setting.bench_agrees read rfl, rfl, rfl⟩

end LiteVpn.Bench.DatagramExchange
