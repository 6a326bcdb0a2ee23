import LiteVpn.Client.BenchArgs
import LiteVpn.Client.RouteLifetime
import LiteVpn.Bench.Aggregate
import LiteVpn.Core.Datagram
import LiteVpn.Semantics.Script

/-!
# The client from its options to its exit

The whole of the client's `main`: the checks, the connection with its retries,
the request, and then a series of benches, a probe, or the tunnel. Every effect
is an event of a log, with what came of it; what comes of it is up to the
surroundings, which may answer each event as they like. What a bench, the pumps
and the route commands do inside is modelled elsewhere.
-/

namespace LiteVpn.Client

open LiteVpn.Strings
open LiteVpn.Core
open LiteVpn.Semantics
open LiteVpn.Bench

/-- The options and settings that `main` reads besides those of the checks. -/
structure Options extends Args where
  macos : Bool := true
  cleanupRoutes : Bool := false
  noRoutes : Bool := false
  probe : Bool := false
  probeHoldSecs : UInt64 := 0
  benchRunGapMs : UInt64 := 250
  /-- `route_all` of the configuration. -/
  routeAll : Bool := true

/-- One effect of the client. -/
inductive Event where
  | staleRoutes (outcome : Except Text Unit)
  | attempt (outcome : Except Text Unit)
  | sleep (millis : UInt64)
  | authenticate (mode : AuthMode) (outcome : Except Text Unit)
  | announce (run runs : Nat)
  | bench (mode : AuthMode) (outcome : Except Text BenchMeasurement)
  | aggregate (lines : List Text)
  | probeOk
  | hold (secs : UInt64)
  | device (outcome : Except Text Unit)
  | installRoutes (outcome : Except Text Unit)
  | openUni (outcome : Except Text Unit)
  | acceptUni (outcome : Except Text Unit)
  | tunnel (ended : TunnelEnd)
  | removeRoutes
  | close (reason : String)
  | waitIdle

/-- What comes of the client's requests; the number is that of the event. -/
structure Surroundings where
  serverAddr : Except Text Unit
  token : Except Text Unit
  clientConfig : Except Text Unit
  maxDatagramSize : Nat → Option UInt64
  staleRoutes : Nat → Except Text Unit
  connect : Nat → Except Text Unit
  authenticate : Nat → Except Text Unit
  bench : Nat → Except Text BenchMeasurement
  device : Nat → Except Text Unit
  installRoutes : Nat → Except Text Unit
  openUni : Nat → Except Text Unit
  acceptUni : Nat → Except Text Unit
  tunnel : Nat → TunnelEnd

/-- The reasons for which `main` does not return `Ok`. -/
inductive Failure where
  | check (error : ClientError)
  | cleanupUnsupported
  | noDuration
  | capacity (error : CapacityError)
  | outside (reason : Text)
  /-- The `expect` on `last_error`. -/
  | noLastError
deriving DecidableEq

/-- The text that the client itself puts on a failure. -/
def Failure.message : Failure → Option String
  | .check error => some error.message
  | .cleanupUnsupported => some "--cleanup-routes is currently implemented only on macOS"
  | .noDuration => some "bench duration must be greater than zero"
  | .noLastError => some "connect_retries is validated to be greater than zero"
  | .capacity _ | .outside _ => none

/-- A part of `main`. -/
abbrev Part (Value : Type) := Script (List Event) Failure Value

/-- An outcome that ends `main` if it is an error. -/
def orLeave {Value : Type} (outcome : Except Text Value) : Part Value :=
  Script.ofExcept (outcome.mapError .outside)

def check {Value : Type} (outcome : Except ClientError Value) : Part Value :=
  Script.ofExcept (outcome.mapError .check)

/-- The datagram limit of the connection, as it is right now. -/
def currentLimit (surroundings : Surroundings) : Part (Option UInt64) :=
  modifyGet fun log => (surroundings.maxDatagramSize log.length, log)

/-- Reading the limit changes nothing. -/
theorem currentLimit_keeps {surroundings : Surroundings}
    {Failed : Failure → List Event → Prop} (Before : List Event → Prop) :
    Triple Before (currentLimit surroundings) (fun _ => Before) Failed :=
  fun _ before => before

section Parts

variable (surroundings : Surroundings)

def connectOnce : Part Unit := do
  let outcome ← perform surroundings.connect .attempt
  orLeave outcome

/-- The attempts that are still to come. -/
def connectAttempts (retries : Nat) (delayMs : UInt64) : List Nat → Part Unit
  | [] => throw .noLastError
  | attempt :: rest => do
      match ← (connectOnce surroundings).result with
      | .ok () => return ()
      | .error error =>
          if attempt ≥ retries then throw error
          else do
            onlyIf (delayMs > 0) (emit (.sleep delayMs))
            connectAttempts retries delayMs rest

def connectClient (retries delayMs : UInt64) : Part Unit :=
  connectAttempts surroundings retries.toNat delayMs (List.range' 1 retries.toNat)

def clientAuthenticate (mode : AuthMode) : Part Unit := do
  let outcome ← perform surroundings.authenticate (.authenticate mode)
  orLeave outcome

/-- `run_bench` of the client; which of the six benches runs is part of the mode. -/
def runBench (mode : AuthMode) (durationSecs : UInt64) : Part BenchMeasurement := do
  onlyIf (durationSecs = 0) (throw .noDuration)
  let outcome ← perform surroundings.bench (.bench mode)
  orLeave outcome

/-- A bench on the connection at hand, which is closed behind it. -/
def benchOnce (mode : AuthMode) (durationSecs : UInt64) (run runs : Nat) :
    Part BenchMeasurement := do
  onlyIf (runs > 1) (emit (.announce run runs))
  let result ← (runBench surroundings mode durationSecs).result
  emit (.close "bench complete")
  emit .waitIdle
  Script.ofExcept result

/-- A further connection in the same mode. -/
def reconnect (mode : AuthMode) (retries delayMs : UInt64) : Part Unit := do
  connectClient surroundings retries delayMs
  clientAuthenticate surroundings mode

/-- The runs that are still to come. `connected` says that there is a connection
that no bench has used yet. -/
def benchIterations (mode : AuthMode) (durationSecs : UInt64) (runs : Nat) (gapMs : UInt64)
    (retries delayMs : UInt64) : List Nat → Bool → List BenchMeasurement →
      Part (List BenchMeasurement)
  | [], _, measurements => return measurements
  | run :: rest, connected, measurements => do
      onlyIf (connected = false) (reconnect surroundings mode retries delayMs)
      let measurement ← benchOnce surroundings mode durationSecs run runs
      onlyIf (run < runs ∧ gapMs > 0) (emit (.sleep gapMs))
      benchIterations mode durationSecs runs gapMs retries delayMs rest false
        (measurements ++ [measurement])

def runBenchIterations (mode : AuthMode) (durationSecs runs gapMs retries delayMs : UInt64) :
    Part Unit := do
  let measurements ← benchIterations surroundings mode durationSecs runs.toNat gapMs retries
    delayMs (List.range' 1 runs.toNat) true []
  emit (.aggregate (printBenchAggregate measurements))

/-- The probe; the hold ends with its time or with the connection. -/
def runProbe (holdSecs : UInt64) : Part Unit := do
  emit .probeOk
  onlyIf (holdSecs > 0) (emit (.hold holdSecs))
  emit (.close "probe complete")
  emit .waitIdle

/-- A step of the tunnel's start behind the installation of routes. Where it
fails, the guard is dropped. -/
def orDrop (guard : Bool) (outcome : Except Text Unit) : Part Unit := do
  onlyIf (guard ∧ outcome.isOk = false) (emit .removeRoutes)
  orLeave outcome

def openStreams (guard : Bool) : Part Unit := do
  let opened ← perform surroundings.openUni .openUni
  orDrop guard opened
  let accepted ← perform surroundings.acceptUni .acceptUni
  orDrop guard accepted

/-- The tunnel up to its end. -/
def tunnelUntilEnd (transport : VpnTransportMode) (guard : Bool) : Part (Except Text Unit) := do
  onlyIf (transport = .stream) (openStreams surroundings guard)
  let ended ← perform surroundings.tunnel .tunnel
  return ended.result

def checkCapacity (config : ClientConfig) : Part Unit := do
  let limit ← currentLimit surroundings
  Script.ofExcept
    ((ensureDatagramCapacity (limit.map (·.toNat)) config.mtu "client").mapError .capacity)

def createDevice : Part Unit := do
  let outcome ← perform surroundings.device .device
  orLeave outcome

def installRoutes : Part Unit := do
  let outcome ← perform surroundings.installRoutes .installRoutes
  orLeave outcome

/-- The device, the routes and the tunnel. -/
def runVpn (options : Options) (config : ClientConfig) : Part Unit := do
  onlyIf (config.vpnTransport = .datagram) (checkCapacity surroundings config)
  createDevice surroundings
  let guard := options.macos && options.routeAll && !options.noRoutes
  onlyIf (guard = true) (installRoutes surroundings)
  let result ← tunnelUntilEnd surroundings config.vpnTransport guard
  onlyIf (guard = true) (emit .removeRoutes)
  emit (.close "client shutdown")
  emit .waitIdle
  orLeave result

/-- Routes that an earlier client left. True if there is nothing else to do. -/
def clearStale (options : Options) : Part Bool := do
  if options.macos then
    onlyIf ((options.cleanupRoutes || (options.routeAll && !options.noRoutes)) = true)
      (do
        let outcome ← perform surroundings.staleRoutes .staleRoutes
        orLeave outcome)
    return options.cleanupRoutes
  else
    onlyIf (options.cleanupRoutes = true) (throw .cleanupUnsupported)
    return false

/-- The mode to authenticate with, once the connection tells its limit. -/
def chooseMode (options : Options) (config : ClientConfig) (direction : Option BenchDirection)
    (targetMbps : Option UInt64) : Part AuthMode := do
  match direction with
  | none => return .vpn
  | some direction =>
      let limit ← currentLimit surroundings
      let payloadBytes ← check (benchPayloadBytes direction options.benchPayloadBytes limit
        (UInt64.ofNat config.mtu))
      return .bench direction options.benchDurationSecs payloadBytes targetMbps

/-- What `main` does on an authenticated connection. -/
def useConnection (options : Options) (config : ClientConfig) (mode : AuthMode)
    (runs retries delayMs : UInt64) : Part Unit :=
  match mode with
  | .bench .. => runBenchIterations surroundings mode options.benchDurationSecs runs
      options.benchRunGapMs retries delayMs
  | .vpn => if options.probe then runProbe options.probeHoldSecs
      else runVpn surroundings options config

/-- What `main` reads off its options before it connects. -/
structure Plan where
  direction : Option BenchDirection
  targetMbps : Option UInt64
  retries : UInt64
  delayMs : UInt64
  runs : UInt64

/-- Only benches are counted. -/
def plannedRuns (value : UInt64) : Option BenchDirection → Except ClientError UInt64
  | none => .ok 1
  | some _ => benchRuns value

def plan (options : Options) : Except ClientError Plan := do
  let direction ← benchDirection options.bench
  let targetMbps ← benchTargetMbps options.benchTargetMbps
  let retries ← connectRetries options.connectRetries
  let delayMs ← connectRetryDelayMs options.connectRetryDelayMs
  let runs ← plannedRuns options.benchRuns direction
  return ⟨direction, targetMbps, retries, delayMs, runs⟩

/-- `main` behind the removal of stale routes. -/
def connectAndUse (options : Options) (config : ClientConfig) : Part Unit := do
  orLeave surroundings.token
  let plan ← check (plan options)
  orLeave surroundings.clientConfig
  connectClient surroundings plan.retries plan.delayMs
  let mode ← chooseMode surroundings options config plan.direction plan.targetMbps
  clientAuthenticate surroundings mode
  useConnection surroundings options config mode plan.runs plan.retries plan.delayMs

/-- `main`, with the configuration loaded. -/
def clientMain (options : Options) (config : ClientConfig) : Part Unit := do
  check (config.validate.mapError .config)
  orLeave surroundings.serverAddr
  let finished ← clearStale surroundings options
  if finished then return () else connectAndUse surroundings options config

end Parts

end LiteVpn.Client
