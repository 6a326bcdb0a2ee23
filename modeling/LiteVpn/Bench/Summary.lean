import LiteVpn.Core.Auth
import LiteVpn.Strings.KeyValue
import Mathlib.Data.Rat.Floor
import Mathlib.Algebra.Order.Field.Basic

/-!
# The bench summary

The server reports a bench in one line of `key=value` fields, the second half
of which is `connection_stats_summary`. The client reads at most 1024 bytes of
it, strips the magic, and looks the numbers up by their keys. Milliseconds are
printed from 128 bits and read back into 64; rates are exact rationals.
-/

namespace LiteVpn.Bench

open LiteVpn.Strings
open LiteVpn.Core

/-- `std::time::Duration`. -/
structure Duration where
  secs : UInt64
  nanos : Nat
  subsecond : nanos < 1000000000
deriving DecidableEq, Repr

def Duration.asMillis (duration : Duration) : Nat :=
  duration.secs.toNat * 1000 + duration.nanos / 1000000

def Duration.fromSecs (secs : UInt64) : Duration where
  secs := secs
  nanos := 0
  subsecond := by decide

/-- The statistics of a connection that the summary prints. -/
structure ConnectionStats where
  udpTxDatagrams : UInt64
  udpTxBytes : UInt64
  udpRxDatagrams : UInt64
  udpRxBytes : UInt64
  lostPackets : UInt64
  lostBytes : UInt64
  congestionEvents : UInt64
  cwnd : UInt64
  rtt : Duration
  currentMtu : UInt16
  frameTxDatagram : UInt64
  frameRxDatagram : UInt64
deriving DecidableEq, Repr

/-- What a bench reports besides the statistics. -/
structure BenchReport where
  direction : BenchDirection
  bytes : UInt64
  packets : UInt64
  payloadBytes : UInt64
  targetMbps : Option UInt64
  elapsed : Duration
  measuredElapsed : Duration
deriving DecidableEq, Repr

/-- The fields of `connection_stats_summary`, in its order. -/
def statsFields (stats : ConnectionStats) : List (Text × Text) :=
  [("udp_tx_datagrams".toList, displayU64 stats.udpTxDatagrams),
    ("udp_tx_bytes".toList, displayU64 stats.udpTxBytes),
    ("udp_rx_datagrams".toList, displayU64 stats.udpRxDatagrams),
    ("udp_rx_bytes".toList, displayU64 stats.udpRxBytes),
    ("lost_packets".toList, displayU64 stats.lostPackets),
    ("lost_bytes".toList, displayU64 stats.lostBytes),
    ("congestion_events".toList, displayU64 stats.congestionEvents),
    ("cwnd".toList, displayU64 stats.cwnd),
    ("rtt_ms".toList, Nat.toDigits 10 stats.rtt.asMillis),
    ("current_mtu".toList, Nat.toDigits 10 stats.currentMtu.toNat),
    ("frame_tx_datagram".toList, displayU64 stats.frameTxDatagram),
    ("frame_rx_datagram".toList, displayU64 stats.frameRxDatagram)]

def connectionStatsSummary (stats : ConnectionStats) : Text :=
  joinSpaces ((statsFields stats).map field)

/-- A missing target is printed as a word. -/
def displayTarget : Option UInt64 → Text
  | some value => displayU64 value
  | none => "unlimited".toList

/-- The fields that `send_bench_summary` prints in front of the statistics. -/
def reportFields (report : BenchReport) : List (Text × Text) :=
  [("direction".toList, report.direction.asStr),
    ("bytes".toList, displayU64 report.bytes),
    ("packets".toList, displayU64 report.packets),
    ("payload_bytes".toList, displayU64 report.payloadBytes),
    ("target_mbps".toList, displayTarget report.targetMbps),
    ("elapsed_ms".toList, Nat.toDigits 10 report.elapsed.asMillis),
    ("measured_elapsed_ms".toList, Nat.toDigits 10 report.measuredElapsed.asMillis)]

def benchSummaryMagic : Bytes := encode "LVPNBENCH ".toList

/-- What `send_bench_summary` writes on its stream. -/
def benchSummary (report : BenchReport) (stats : ConnectionStats) : Bytes :=
  benchSummaryMagic ++
    encode (joinSpaces ((reportFields report).map field) ++ ' ' :: connectionStatsSummary stats ++
      ['\n'])

/-- The reasons for which the client gets no summary. -/
inductive SummaryError where
  | unread
  | notUtf8
  | invalid
deriving DecidableEq, Repr

/-- The text of each failure. -/
def SummaryError.message : SummaryError → String
  | .unread => "failed to read bench summary"
  | .notUtf8 => "bench summary is not utf-8"
  | .invalid => "invalid bench summary stream"

/-- `parse_bench_summary`: nothing without the magic. -/
def parseBenchSummary (packet : Bytes) : Except SummaryError (Option Text) :=
  match packet.dropPrefix? benchSummaryMagic with
  | none => .ok none
  | some rest =>
      match fromUtf8 rest with
      | none => .error .notUtf8
      | some summary => .ok (some (trim summary))

/-- `read_bench_summary_stream` on a stream that carries the given bytes. -/
def readBenchSummaryStream (packet : Bytes) : Except SummaryError Text :=
  if packet.length > 1024 then .error .unread
  else
    match parseBenchSummary packet with
    | .error error => .error error
    | .ok none => .error .invalid
    | .ok (some summary) => .ok summary

def parseSummaryU64 (summary key : Text) : Option UInt64 :=
  (lookupField summary key).bind parseU64

structure ServerBenchMeasurement where
  mbps : ℚ
  bytes : UInt64
  packets : UInt64
  lostPackets : UInt64
  congestionEvents : UInt64
  elapsedMs : UInt64
deriving DecidableEq

def parseServerBenchMeasurement (summary : Text) : Option ServerBenchMeasurement := do
  let bytes ← parseSummaryU64 summary "bytes".toList
  let packets ← parseSummaryU64 summary "packets".toList
  let elapsedMs ← (parseSummaryU64 summary "measured_elapsed_ms".toList).or
    (parseSummaryU64 summary "elapsed_ms".toList)
  let lostPackets := (parseSummaryU64 summary "lost_packets".toList).getD 0
  let congestionEvents := (parseSummaryU64 summary "congestion_events".toList).getD 0
  let seconds : ℚ := max (elapsedMs.toNat / 1000) (1 / 1000)
  return {
    mbps := bytes.toNat * 8 / seconds / 1000000
    bytes := bytes
    packets := packets
    lostPackets := lostPackets
    congestionEvents := congestionEvents
    elapsedMs := elapsedMs }

end LiteVpn.Bench
