import LiteVpn.Bench.Summary

/-!
# The summary is read back as it was written

Every key is distinct and none holds an equals sign, so the lookup finds each
number by its whole key. No value prints longer than 23 characters, which keeps
the line well below the client's limit.
-/

namespace LiteVpn.Bench

open LiteVpn.Strings
open LiteVpn.Core

/-- All fields of the line. -/
def summaryFields (report : BenchReport) (stats : ConnectionStats) : List (Text × Text) :=
  reportFields report ++ statsFields stats

/-- The milliseconds the client takes: those measured if they fit in 64 bits,
else those elapsed if they do. -/
def reportedMillis (report : BenchReport) : Option UInt64 :=
  if report.measuredElapsed.asMillis < 2 ^ 64 then
    some (UInt64.ofNat report.measuredElapsed.asMillis)
  else if report.elapsed.asMillis < 2 ^ 64 then some (UInt64.ofNat report.elapsed.asMillis)
  else none

variable (report : BenchReport) (stats : ConnectionStats)

/-- The keys are the same in every line. -/
def summaryKeys : List Text :=
  ["direction", "bytes", "packets", "payload_bytes", "target_mbps", "elapsed_ms",
    "measured_elapsed_ms", "udp_tx_datagrams", "udp_tx_bytes", "udp_rx_datagrams", "udp_rx_bytes",
    "lost_packets", "lost_bytes", "congestion_events", "cwnd", "rtt_ms", "current_mtu",
    "frame_tx_datagram", "frame_rx_datagram"].map String.toList

theorem map_fst_summaryFields : (summaryFields report stats).map Prod.fst = summaryKeys := rfl

theorem isKey_summaryFields : ∀ pair ∈ summaryFields report stats, IsKey pair.1 := by
  have keys : summaryKeys.all isKey = true := by decide +kernel
  intro pair member
  apply isKey_of_test
  apply List.all_eq_true.mp keys
  rw [← map_fst_summaryFields report stats]
  exact List.mem_map_of_mem member

/-- What every printed value is. -/
structure IsValue (text : Text) : Prop extends Solid text where
  ascii : IsAscii text
  short : text.length ≤ 23

theorem isValue_toDigits {value : Nat} (bound : value < 10 ^ 23) :
    IsValue (Nat.toDigits 10 value) :=
  ⟨solid_toDigits value, isAscii_toDigits value,
    (Nat.length_toDigits_le_iff (by decide) (by decide)).mpr bound⟩

@[simp] theorem isValue_displayU64 (value : UInt64) : IsValue (displayU64 value) :=
  isValue_toDigits (value.toNat_lt.trans (by decide))

@[simp] theorem isValue_millis (duration : Duration) :
    IsValue (Nat.toDigits 10 duration.asMillis) := by
  have secs := duration.secs.toNat_lt
  have nanos := duration.subsecond
  apply isValue_toDigits
  simp only [Duration.asMillis]
  omega

@[simp] theorem isValue_mtu (mtu : UInt16) : IsValue (Nat.toDigits 10 mtu.toNat) :=
  isValue_toDigits (mtu.toNat_lt.trans (by decide))

@[simp] theorem isValue_asStr (direction : BenchDirection) : IsValue direction.asStr := by
  have key : isKey direction.asStr = true := by cases direction <;> decide
  have solid := isKey_of_test key
  exact ⟨solid.toSolid, solid.ascii, by cases direction <;> decide⟩

@[simp] theorem isValue_displayTarget (targetMbps : Option UInt64) :
    IsValue (displayTarget targetMbps) := by
  cases targetMbps with
  | some value => exact isValue_displayU64 value
  | none =>
      have word := isKey_of_test (by decide : isKey "unlimited".toList = true)
      exact ⟨word.toSolid, word.ascii, by decide⟩

theorem isValue_summaryFields : ∀ pair ∈ summaryFields report stats, IsValue pair.2 := by
  simp [summaryFields, reportFields, statsFields]

/-- The line without the magic and without its line feed. -/
def summaryLine : Text := joinSpaces ((summaryFields report stats).map field)

theorem benchSummary_eq :
    benchSummary report stats =
      benchSummaryMagic ++ encode (summaryLine report stats ++ ['\n']) := by
  rw [benchSummary, connectionStatsSummary, summaryLine, summaryFields, List.map_append,
    joinSpaces_append (by simp [reportFields]) (by simp [statsFields])]

/-- The line fits in the client's read. -/
theorem length_benchSummary : (benchSummary report stats).length ≤ 1024 := by
  have ascii : IsAscii (summaryLine report stats ++ ['\n']) := by
    rw [isAscii_append]
    refine ⟨isAscii_joinSpaces fun part member => ?_, by simp⟩
    obtain ⟨pair, known, rfl⟩ := List.mem_map.mp member
    exact isAscii_field (isKey_summaryFields report stats pair known).ascii
      (isValue_summaryFields report stats pair known).ascii
  have short := length_joinSpaces_le fun pair known =>
    (isValue_summaryFields report stats pair known).short
  have keys : ((summaryFields report stats).map fun pair => pair.1.length).sum = 224 := by
    have lengths : (summaryFields report stats).map (fun pair => pair.1.length) =
        summaryKeys.map List.length := by
      rw [← map_fst_summaryFields report stats, List.map_map]
      rfl
    rw [lengths]
    decide +kernel
  have count : (summaryFields report stats).length = 19 := rfl
  have magic : benchSummaryMagic.length = 10 := by decide
  rw [keys, count] at short
  rw [benchSummary_eq, List.length_append, magic, length_encode ascii, List.length_append,
    summaryLine, List.length_singleton]
  omega

/-- The client's parser strips the magic and the line feed. -/
theorem parseBenchSummary_benchSummary :
    parseBenchSummary (benchSummary report stats) = .ok (some (summaryLine report stats)) := by
  have solid : ∀ part ∈ (summaryFields report stats).map field, Solid part := by
    intro part member
    obtain ⟨pair, known, rfl⟩ := List.mem_map.mp member
    exact solid_field (isKey_summaryFields report stats pair known).toSolid
      (isValue_summaryFields report stats pair known).toSolid
  have trimmed : trim (summaryLine report stats) = summaryLine report stats :=
    trim_joinSpaces solid
  have nonempty : trim (summaryLine report stats) ≠ [] := by
    rw [trimmed]
    simp [summaryLine, summaryFields, reportFields, joinSpaces, field]
  have stripped : (benchSummary report stats).dropPrefix? benchSummaryMagic =
      some (encode (summaryLine report stats ++ ['\n'])) := by
    rw [dropPrefix?_eq_some, benchSummary_eq]
  rw [parseBenchSummary, stripped]
  simp only [fromUtf8_encode, trim_append_space nonempty (by decide : isWhitespace '\n' = true),
    trimmed]

theorem readBenchSummaryStream_benchSummary :
    readBenchSummaryStream (benchSummary report stats) = .ok (summaryLine report stats) := by
  have short := length_benchSummary report stats
  rw [readBenchSummaryStream, if_neg (by omega), parseBenchSummary_benchSummary]

/-- A number is looked up by its whole key. -/
theorem parseSummaryU64_summaryLine {key : Text} (free : '=' ∉ key) :
    parseSummaryU64 (summaryLine report stats) key =
      ((summaryFields report stats).lookup key).bind parseU64 := by
  rw [parseSummaryU64, summaryLine,
    lookupField_joinSpaces free (isKey_summaryFields report stats) fun pair known =>
      (isValue_summaryFields report stats pair known).toSolid]

/-- A counter of the line is read back as it was written. -/
theorem parseSummaryU64_counter {key : Text} {value : UInt64} (free : '=' ∉ key)
    (found : (summaryFields report stats).lookup key = some (displayU64 value)) :
    parseSummaryU64 (summaryLine report stats) key = some value := by
  rw [parseSummaryU64_summaryLine report stats free, found, Option.bind_some,
    parseU64_displayU64]

/-- A duration of the line is read back if its milliseconds fit. -/
theorem parseSummaryU64_millis {key : Text} {duration : Duration} (free : '=' ∉ key)
    (found : (summaryFields report stats).lookup key =
      some (Nat.toDigits 10 duration.asMillis)) :
    parseSummaryU64 (summaryLine report stats) key =
      if duration.asMillis < 2 ^ 64 then some (UInt64.ofNat duration.asMillis) else none := by
  rw [parseSummaryU64_summaryLine report stats free, found, Option.bind_some, parseU64_toDigits]

/-- The measured time is preferred to the elapsed one. -/
theorem millis_summaryLine :
    (parseSummaryU64 (summaryLine report stats) "measured_elapsed_ms".toList).or
        (parseSummaryU64 (summaryLine report stats) "elapsed_ms".toList) =
      reportedMillis report := by
  rw [parseSummaryU64_millis report stats (by decide) rfl,
    parseSummaryU64_millis report stats (by decide) rfl, reportedMillis]
  split <;> rfl

/-- The line of every report and all statistics is short enough to be read, is
accepted, and gives back the numbers that were written, with the first of the
two times that fits in 64 bits. -/
theorem benchSummary_roundTrip :
    (benchSummary report stats).length ≤ 1024 ∧
      ∃ summary, parseBenchSummary (benchSummary report stats) = .ok (some summary) ∧
        readBenchSummaryStream (benchSummary report stats) = .ok summary ∧
          parseServerBenchMeasurement summary = (reportedMillis report).map fun elapsedMs =>
            { mbps := report.bytes.toNat * 8 / max ((elapsedMs.toNat : ℚ) / 1000) (1 / 1000) /
                1000000
              bytes := report.bytes
              packets := report.packets
              lostPackets := stats.lostPackets
              congestionEvents := stats.congestionEvents
              elapsedMs := elapsedMs } := by
  refine ⟨length_benchSummary report stats, summaryLine report stats,
    parseBenchSummary_benchSummary report stats, readBenchSummaryStream_benchSummary report stats,
    ?_⟩
  unfold parseServerBenchMeasurement
  rw [parseSummaryU64_counter report stats (by decide) rfl,
    parseSummaryU64_counter report stats (by decide) rfl, millis_summaryLine,
    parseSummaryU64_counter report stats (by decide) rfl,
    parseSummaryU64_counter report stats (by decide) rfl]
  cases reportedMillis report <;> rfl

end LiteVpn.Bench
