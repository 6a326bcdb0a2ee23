import LiteVpn.Bench.Summary
import Mathlib.Data.UInt

/-!
# What the client prints about its benches

After each bench the client prints its own numbers; after several, also the
totals of all of them and, if every server summary could be read, the totals of
the servers. Rates are exact rationals, printed with two digits. The release
build wraps where a sum of 64-bit counters overflows.
-/

namespace LiteVpn.Bench

open LiteVpn.Strings
open LiteVpn.Core

def Duration.asSecs (duration : Duration) : ℚ :=
  duration.secs.toNat + duration.nanos / 1000000000

structure BenchMeasurement where
  mbps : ℚ
  bytes : UInt64
  packets : UInt64
  elapsed : Duration
  server : Option ServerBenchMeasurement
deriving DecidableEq

/-- The rate that both print functions and the measurement compute. -/
def localMbps (elapsed : Duration) (bytes : UInt64) : ℚ :=
  bytes.toNat * 8 / max elapsed.asSecs (1 / 1000) / 1000000

def benchMeasurement (elapsed : Duration) (bytes packets : UInt64)
    (server : Option ServerBenchMeasurement) : BenchMeasurement where
  mbps := localMbps elapsed bytes
  bytes := bytes
  packets := packets
  elapsed := elapsed
  server := server

/-- The nearest integer; of two equally near ones the even one. -/
def roundHalfEven (value : ℚ) : ℤ :=
  let below := ⌊value⌋
  let rest := value - below
  if rest < 1 / 2 then below
  else if 1 / 2 < rest then below + 1
  else if below % 2 = 0 then below else below + 1

/-- `{:.2}` of a rate, which is never negative. -/
def displayFixed2 (value : ℚ) : Text :=
  let hundredths := (roundHalfEven (value * 100)).toNat
  Nat.toDigits 10 (hundredths / 100) ++
    '.' :: (Nat.toDigits 10 (hundredths / 10 % 10) ++ Nat.toDigits 10 (hundredths % 10))

/-- Fields in one line, a comma and a space between two of them. -/
def joinCommas : List Text → Text
  | [] => []
  | [last] => last
  | first :: second :: rest => first ++ ',' :: ' ' :: joinCommas (second :: rest)

/-- The line of `print_local_bench`. -/
def printLocalBench (label : Text) (elapsed : Duration) (bytes packets payloadBytes : UInt64)
    (targetMbps : Option UInt64) : Text :=
  label ++ ": ".toList ++ joinCommas
    ((displayFixed2 (localMbps elapsed bytes) ++ " Mbps".toList) ::
      [("target_mbps".toList, displayTarget targetMbps),
        ("bytes".toList, displayU64 bytes),
        ("packets".toList, displayU64 packets),
        ("payload_bytes".toList, displayU64 payloadBytes),
        ("elapsed_ms".toList, Nat.toDigits 10 elapsed.asMillis)].map field)

/-- The extreme rate of a fold that starts at an infinity. -/
def displayExtreme (infinity : String) : Option ℚ → Text
  | none => infinity.toList
  | some rate => displayFixed2 rate

/-- The fields of both aggregate lines that come from the rates. -/
def rateFields (rates : List ℚ) : List (Text × Text) :=
  [("runs".toList, Nat.toDigits 10 rates.length),
    ("avg_mbps".toList, displayFixed2 (rates.sum / rates.length)),
    ("min_mbps".toList, displayExtreme "inf" rates.min?),
    ("max_mbps".toList, displayExtreme "-inf" rates.max?)]

/-- The fields of the local aggregate line. -/
def localAggregate (measurements : List BenchMeasurement) : List (Text × Text) :=
  rateFields (measurements.map (·.mbps)) ++
    [("total_bytes".toList, displayU64 (measurements.map (·.bytes)).sum),
      ("total_packets".toList, displayU64 (measurements.map (·.packets)).sum),
      ("total_elapsed_ms".toList,
        Nat.toDigits 10 (measurements.map (·.elapsed.asMillis)).sum)]

/-- The fields of the aggregate line of the servers. -/
def serverAggregate (measurements : List ServerBenchMeasurement) : List (Text × Text) :=
  rateFields (measurements.map (·.mbps)) ++
    [("total_bytes".toList, displayU64 (measurements.map (·.bytes)).sum),
      ("total_packets".toList, displayU64 (measurements.map (·.packets)).sum),
      ("lost_packets".toList, displayU64 (measurements.map (·.lostPackets)).sum),
      ("congestion_events".toList, displayU64 (measurements.map (·.congestionEvents)).sum),
      ("total_elapsed_ms".toList, displayU64 (measurements.map (·.elapsedMs)).sum)]

/-- The lines of `print_bench_aggregate`. -/
def printBenchAggregate (measurements : List BenchMeasurement) : List Text :=
  if measurements.length ≤ 1 then []
  else
    let servers := measurements.filterMap (·.server)
    ("bench aggregate local: ".toList ++ joinCommas ((localAggregate measurements).map field)) ::
      if servers.length ≠ measurements.length then []
      else ["bench aggregate server: ".toList ++ joinCommas ((serverAggregate servers).map field)]

end LiteVpn.Bench
