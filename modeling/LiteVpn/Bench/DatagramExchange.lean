import LiteVpn.Bench.Aggregate
import LiteVpn.Bench.DatagramSend
import LiteVpn.Bench.SummaryRoundTrip
import LiteVpn.Semantics.Lossy
import LiteVpn.Semantics.Machine

/-!
# A datagram bench between two programs

In an upload the client runs the send loop and the server counts what it reads; in
a download it is the other way round. At its end the server writes a summary on a
stream of its own, which the client reads while, in a download, it still counts.
The two loops, the summary and a network that loses and reorders datagrams take
their steps in every order; when a timer fires is not fixed.
-/

namespace LiteVpn.Bench.DatagramExchange

open LiteVpn.Strings
open LiteVpn.Semantics
open LiteVpn.Core

/-- Which program sends the datagrams. -/
inductive Flow where
  | upload
  | download
deriving DecidableEq, Repr

/-- What a counting loop meets in one turn: the server's `run_upload_bench` meets a
datagram, a failed read or its deadline, the client's `run_download_bench` also the
end of its summary task. -/
inductive ReceiveTurn where
  | datagram (packet : Packet)
  | readFailed (reason : String)
  | deadline
  | summary
deriving DecidableEq, Repr

/-- Why a counting loop has been left. -/
inductive ReceiveEnd where
  | readFailed (reason : String)
  | deadline
  | summary
deriving DecidableEq, Repr

/-- One turn of a counting loop, with what it reads. -/
def receiveTurn (counters : BenchCounters) :
    ReceiveTurn → List Packet × TurnEnd BenchCounters (BenchCounters × ReceiveEnd)
  | .datagram packet => ([packet], .next (counters.count packet))
  | .readFailed reason => ([], .exit (counters, .readFailed reason))
  | .deadline => ([], .exit (counters, .deadline))
  | .summary => ([], .exit (counters, .summary))

/-- The reasons for which the server's summary is not sent. -/
inductive SendSummaryError where
  | opening
  | writing
  | finishing
deriving DecidableEq, Repr

def SendSummaryError.message : SendSummaryError → String
  | .opening => "failed to open bench summary stream"
  | .writing => "failed to write bench summary"
  | .finishing => "failed to finish bench summary"

/-- How far the server is with its summary. -/
inductive ServerReport where
  | pending
  | written (summary : Bytes)
  | failed (error : SendSummaryError)
deriving DecidableEq, Repr

/-- The reasons for which the client has no measurement. -/
inductive ClientError where
  | sending (reason : SendEnd)
  | readFailed (reason : String)
  | summaryNotAccepted
  | summary (error : SummaryError)
  | summaryTimeout
  | downloadTimeout
deriving DecidableEq, Repr

/-- The text of each error that the program itself words. -/
def ClientError.message : ClientError → Option String
  | .sending reason => reason.message
  | .readFailed _ => none
  | .summaryNotAccepted => "failed to accept bench summary stream"
  | .summary error => error.message
  | .summaryTimeout => "timed out waiting for bench summary"
  | .downloadTimeout => "timed out waiting for download bench summary"

/-- What came of the client, with the lines it has printed. -/
inductive ClientEnd where
  | running
  | measured (measurement : BenchMeasurement) (printed : List Text)
  | failed (error : ClientError)
deriving DecidableEq

/-- What a bench is asked for, and what the sending program is configured with. The
server also looks at the size of its datagrams. -/
structure Setting where
  flow : Flow
  durationSecs : UInt64
  payloadBytes : UInt64
  targetMbps : Option UInt64
  maxDatagramSize : Option UInt64
  frameTxDatagram : Nat
  datagramBacklogPackets : Nat
  deadline : Nat
deriving DecidableEq, Repr

structure Exchange where
  accepted : List Packet
  sender : TurnEnd Sender (BenchCounters × SendEnd)
  inFlight : List Packet
  lost : List Packet
  received : List Packet
  receiver : TurnEnd BenchCounters (BenchCounters × ReceiveEnd)
  server : ServerReport
  client : ClientEnd
deriving DecidableEq

inductive Action where
  /-- A turn of the send loop. -/
  | send (turn : SendTurn)
  /-- The counting loop reads one of the datagrams in flight. -/
  | deliver (index : Nat)
  /-- The network loses a datagram. -/
  | lose (index : Nat)
  /-- `read_datagram` fails. -/
  | readFails (reason : String)
  /-- The timer of the counting loop. -/
  | timer
  /-- `send_bench_summary`, at the two times that it is given. -/
  | report (elapsed measuredElapsed : Duration) (stats : ConnectionStats)
      (error : Option SendSummaryError)
  /-- The client gets the summary. A download reads the clock once for the line that
  it prints and once for the measurement. -/
  | readSummary (printedElapsed elapsed : Duration) (stats : ConnectionStats)
  /-- The summary stream is not accepted. -/
  | summaryFails
  /-- The five seconds of an upload that has sent everything. -/
  | summaryTimer
deriving DecidableEq, Repr

namespace Setting

variable (setting : Setting)

/-- The payload of each datagram. -/
def payload : UInt64 :=
  match setting.flow with
  | .upload => setting.payloadBytes
  | .download => cappedPayload setting.maxDatagramSize setting.payloadBytes

/-- What the end of the connection is for the send loop. -/
def closed : String → SendEnd :=
  match setting.flow with
  | .upload => .closedDuringUpload
  | .download => .connectionClosed

/-- Both loops at their heads. -/
def start : Exchange where
  accepted := []
  sender := .next ⟨.ofTotals 0 0, .new setting.frameTxDatagram setting.datagramBacklogPackets⟩
  inFlight := []
  lost := []
  received := []
  receiver := .next (.ofTotals 0 0)
  server := .pending
  client := .running

/-- The client after a turn of the send loop: in an upload, it fails with the loop. A
wait for the backlog is not its end. -/
def afterSend (client : ClientEnd) : TurnEnd Sender (BenchCounters × SendEnd) → ClientEnd
  | .exit (_, reason) =>
      if setting.flow = .upload ∧ reason.clean = false ∧ reason ≠ .queueing then
        .failed (.sending reason)
      else client
  | .next _ => client

/-- The client after a turn of the counting loop that was not about the summary: in
a download, it fails with the loop. -/
def afterReceive (client : ClientEnd) :
    TurnEnd BenchCounters (BenchCounters × ReceiveEnd) → ClientEnd
  | .exit (_, .readFailed reason) =>
      if setting.flow = .download then .failed (.readFailed reason) else client
  | .exit (_, .deadline) => if setting.flow = .download then .failed .downloadTimeout else client
  | .exit (_, .summary) | .next _ => client

/-- A turn of the counting loop, with the datagrams that stay in flight. -/
def receive (exchange : Exchange) (turn : ReceiveTurn) (inFlight : List Packet) : Option Exchange :=
  match exchange.receiver with
  | .exit _ => none
  | .next counters =>
      let taken := receiveTurn counters turn
      some { exchange with
        received := exchange.received ++ taken.1
        receiver := taken.2
        inFlight := inFlight
        client := setting.afterReceive exchange.client taken.2 }

/-- The counters of a loop that was left for its summary: the server's when it comes
to write it. -/
def serverCounters (exchange : Exchange) : Option BenchCounters :=
  match setting.flow with
  | .upload =>
      match exchange.receiver with
      | .exit (counters, .deadline) => some counters
      | _ => none
  | .download =>
      match exchange.sender with
      | .exit (counters, reason) => if reason.clean then some counters else none
      | .next _ => none

/-- What the server reports. The upload's measured time is the one asked for. -/
def report (counters : BenchCounters) (elapsed measuredElapsed : Duration) : BenchReport where
  direction :=
    match setting.flow with
    | .upload => .upload
    | .download => .download
  bytes := counters.bytes
  packets := counters.packets
  payloadBytes := setting.payload
  targetMbps := setting.targetMbps
  elapsed := elapsed
  measuredElapsed :=
    match setting.flow with
    | .upload => .fromSecs setting.durationSecs
    | .download => measuredElapsed

/-- The client with a summary: it prints its own numbers, its statistics and the
summary, and measures. -/
def measure (counters : BenchCounters) (printedElapsed elapsed : Duration)
    (stats : ConnectionStats) (summary : Bytes) : ClientEnd :=
  match readBenchSummaryStream summary with
  | .error error => .failed (.summary error)
  | .ok line =>
      let (label, shown) :=
        match setting.flow with
        | .upload => ("upload sent".toList, elapsed)
        | .download => ("download received".toList, printedElapsed)
      .measured
        (benchMeasurement elapsed counters.bytes counters.packets
          (parseServerBenchMeasurement line))
        [printLocalBench label shown counters.bytes counters.packets setting.payloadBytes
            setting.targetMbps,
          "client stats: ".toList ++ connectionStatsSummary stats, "server ".toList ++ line]

/-- The client as it waits for the summary: the counters it will measure with, and
the exchange behind its loop. -/
def awaitsSummary (exchange : Exchange) : Option (BenchCounters × Exchange) :=
  match exchange.client with
  | .running =>
      match setting.flow with
      | .upload =>
          match exchange.sender with
          | .exit (counters, reason) => if reason.clean then some (counters, exchange) else none
          | .next _ => none
      | .download =>
          match exchange.receiver with
          | .next counters =>
              some (counters, { exchange with receiver := (receiveTurn counters .summary).2 })
          | .exit _ => none
  | _ => none

def step (exchange : Exchange) : Action → Option Exchange
  | .send turn =>
      match exchange.sender with
      | .exit _ => none
      | .next sender =>
          let taken := sendTurn setting.closed setting.payload setting.deadline sender turn
          some { exchange with
            accepted := exchange.accepted ++ taken.1
            sender := taken.2
            inFlight := exchange.inFlight ++ taken.1
            client := setting.afterSend exchange.client taken.2 }
  | .deliver index =>
      match exchange.inFlight[index]? with
      | none => none
      | some packet =>
          setting.receive exchange (.datagram packet) (exchange.inFlight.eraseIdx index)
  | .lose index =>
      match exchange.inFlight[index]? with
      | none => none
      | some packet =>
          some { exchange with
            inFlight := exchange.inFlight.eraseIdx index
            lost := exchange.lost ++ [packet] }
  | .readFails reason => setting.receive exchange (.readFailed reason) exchange.inFlight
  | .timer => setting.receive exchange .deadline exchange.inFlight
  | .report elapsed measuredElapsed stats error =>
      match exchange.server, setting.serverCounters exchange with
      | .pending, some counters =>
          let summary := benchSummary (setting.report counters elapsed measuredElapsed) stats
          some { exchange with
            server :=
              match error with
              | some error => .failed error
              | none => .written summary }
      | _, _ => none
  | .readSummary printedElapsed elapsed stats =>
      match exchange.server, setting.awaitsSummary exchange with
      | .written summary, some (counters, left) =>
          some { left with
            client := setting.measure counters printedElapsed elapsed stats summary }
      | _, _ => none
  | .summaryFails =>
      (setting.awaitsSummary exchange).map fun (_, left) =>
        { left with client := .failed .summaryNotAccepted }
  | .summaryTimer =>
      match setting.flow, setting.awaitsSummary exchange with
      | .upload, some (_, left) => some { left with client := .failed .summaryTimeout }
      | _, _ => none

def machine : Machine Exchange Action where
  Initial exchange := exchange = setting.start
  step := setting.step

end Setting

end LiteVpn.Bench.DatagramExchange
