import LiteVpn.Semantics.Counter
import Mathlib.Data.NNRat.Defs
import Mathlib.Data.Rat.Floor
import Mathlib.Algebra.Order.Field.Basic

/-!
# The egress pacer

`EgressPacer` keeps one cumulative epoch: the bytes recorded since the epoch
began, against the rate times the time since then. Floating-point numbers are
read as exact rationals, instants as seconds on a monotone clock. A call says
how long the clock runs before each of its readings; none of these delays is
negative, which is all that is known of the clock and of `sleep_until`.
-/

namespace LiteVpn.Core

open LiteVpn.Semantics

/-- `PACER_BURST_WINDOW_SECS`. -/
def pacerBurstWindowSecs : ℚ := 5 / 1000

/-- `f64::EPSILON`. -/
def epsilon : ℚ := 1 / 2 ^ 52

def targetBytesPerSec (targetMbps : Nat) : Option ℚ :=
  if targetMbps = 0 then none else some (targetMbps * 1000000 / 8)

/-- Rounded up, and cast to `u64` with saturation. -/
def targetBurstBytes (targetBytesPerSec : Option ℚ) (mtu : Nat) : Nat :=
  (targetBytesPerSec.map fun bytesPerSec =>
    min ⌈max (bytesPerSec * pacerBurstWindowSecs) mtu⌉₊ maxU64).getD 0

/-- The path counters that the pacer reads from a connection. -/
structure PathStats where
  lostPackets : Nat
  congestionEvents : Nat
deriving DecidableEq, Repr

structure EgressPacer where
  maxBytesPerSec : Option ℚ
  currentBytesPerSec : Option ℚ
  minBytesPerSec : Option ℚ
  burstBytes : Nat
  epochStarted : ℚ
  epochBytes : Nat
  adaptive : Bool
  lastAdjust : ℚ
  lastLostPackets : Option Nat
  lastCongestionEvents : Option Nat
deriving DecidableEq, Repr

/-- One call of `record_and_wait`: its arguments, and the time that passes
before the call and before each reading of the clock in it. -/
structure Call where
  packetBytes : Nat
  connection : Option PathStats := none
  idle : NNRat := 0
  adjusting : NNRat := 0
  stamping : NNRat := 0
  resetting : NNRat := 0
  measuring : NNRat := 0
  comparing : NNRat := 0
  oversleeping : NNRat := 0
  returning : NNRat := 0

namespace EgressPacer

def new (targetMbps packetBytes : Nat) (adaptive : Bool) (now : ℚ) : EgressPacer where
  maxBytesPerSec := targetBytesPerSec targetMbps
  currentBytesPerSec := targetBytesPerSec targetMbps
  minBytesPerSec := (targetBytesPerSec targetMbps).map fun value => value * (1 / 2)
  burstBytes := targetBurstBytes (targetBytesPerSec targetMbps) packetBytes
  epochStarted := now
  epochBytes := 0
  adaptive := adaptive
  lastAdjust := now
  lastLostPackets := none
  lastCongestionEvents := none

def resetEpoch (pacer : EgressPacer) (now : ℚ) : EgressPacer :=
  { pacer with epochStarted := now, epochBytes := 0 }

/-- The rate after a sample: down when a counter has grown, up otherwise. -/
def nextRate (pacer : EgressPacer) (current : ℚ) (grown : Bool) : ℚ :=
  if grown then max (current * (85 / 100)) (pacer.minBytesPerSec.getD current)
  else min (current * (102 / 100)) (pacer.maxBytesPerSec.getD current)

/-- A sample of the counters, taken at `now`. -/
def sampled (pacer : EgressPacer) (stats : PathStats) (now : ℚ) : EgressPacer :=
  { pacer with
    lastLostPackets := some stats.lostPackets
    lastCongestionEvents := some stats.congestionEvents
    lastAdjust := now }

/-- Whether a counter has grown since the last sample. -/
def grown (pacer : EgressPacer) (previousLostPackets : Nat) (stats : PathStats) : Bool :=
  stats.lostPackets > previousLostPackets ||
    stats.congestionEvents > pacer.lastCongestionEvents.getD stats.congestionEvents

/-- Adjust the rate at most every 250 ms. The pacer and the last clock reading. -/
def adjust (pacer : EgressPacer) (stats : PathStats) (now : ℚ) (call : Call) :
    EgressPacer × ℚ :=
  match pacer.currentBytesPerSec with
  | none => (pacer, now)
  | some current =>
      let looked := now + call.adjusting
      if looked - pacer.lastAdjust < 1 / 4 then (pacer, looked)
      else
        let stamped := looked + call.stamping
        match pacer.lastLostPackets with
        | none => (pacer.sampled stats stamped, stamped)
        | some previousLostPackets =>
            let next := pacer.nextRate current (pacer.grown previousLostPackets stats)
            if |next - current| > epsilon then
              let reset := stamped + call.resetting
              ({ pacer.sampled stats stamped with currentBytesPerSec := some next }.resetEpoch
                reset, reset)
            else (pacer.sampled stats stamped, stamped)

/-- When `wait` returns, if it is entered at `now`. -/
def wait (pacer : EgressPacer) (now : ℚ) (call : Call) : ℚ :=
  match pacer.currentBytesPerSec with
  | none => now
  | some bytesPerSec =>
      if pacer.epochBytes ≤ pacer.burstBytes then now
      else
        let measured := now + call.measuring
        if pacer.epochBytes ≤ (measured - pacer.epochStarted) * bytesPerSec + pacer.burstBytes then
          measured
        else
          let targetTime := pacer.epochStarted +
            ((pacer.epochBytes - pacer.burstBytes : Nat) : ℚ) / bytesPerSec
          let compared := measured + call.comparing
          if targetTime > compared then targetTime + call.oversleeping else compared

/-- The first statement of `record_and_wait`. -/
def record (pacer : EgressPacer) (packetBytes : Nat) : EgressPacer :=
  { pacer with epochBytes := saturatingAdd pacer.epochBytes packetBytes }

/-- A call made after the last one returned at `now`: the pacer after it, and
when it returns. -/
def recordAndWait (pacer : EgressPacer) (now : ℚ) (call : Call) : EgressPacer × ℚ :=
  let recorded := pacer.record call.packetBytes
  let entered := now + call.idle
  let adjusted :=
    if recorded.adaptive then
      match call.connection with
      | none => (recorded, entered)
      | some stats => recorded.adjust stats entered call
    else (recorded, entered)
  (adjusted.1, adjusted.1.wait adjusted.2 call + call.returning)

/-- Call after call. -/
def runCalls (pacer : EgressPacer) (now : ℚ) : List Call → EgressPacer × ℚ
  | [] => (pacer, now)
  | call :: rest =>
      let (next, returned) := pacer.recordAndWait now call
      next.runCalls returned rest

end EgressPacer

end LiteVpn.Core
