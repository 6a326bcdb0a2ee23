import LiteVpn.Core.Auth

/-!
# The client's own checks

What `main` checks before it authenticates, in its order: the configuration,
the bench direction, the target, the retry settings, the number of runs and,
once the connection tells its datagram limit, the payload size. The duration
is not among them: `run_bench` looks at it only after the request was sent.
-/

namespace LiteVpn.Client

open LiteVpn.Strings
open LiteVpn.Core

/-- The command line options that the checks read. -/
structure Args where
  bench : Option Text := none
  benchDurationSecs : UInt64 := 10
  benchPayloadBytes : UInt64 := 0
  benchTargetMbps : UInt64 := 0
  benchRuns : UInt64 := 1
  connectRetries : UInt64 := 1
  connectRetryDelayMs : UInt64 := 500
deriving DecidableEq, Repr

/-- The reasons for which the client stops before it authenticates. -/
inductive ClientError where
  | config (error : ConfigError)
  | benchDirection
  | datagramLimit (max : UInt64)
  | payloadTooSmall
  | payloadTooLarge (payloadBytes max : UInt64)
  | targetTooLarge
  | noRuns
  | tooManyRuns
  | noRetries
  | tooManyRetries
  | retryDelay
deriving DecidableEq, Repr

/-- The text of each failure. -/
def ClientError.message : ClientError → String
  | .config error => error.message
  | .benchDirection => "bench must be upload, download, stream-upload, stream-download, " ++
      "stream-packet-upload, or stream-packet-download"
  | .datagramLimit max => s!"QUIC datagram payload limit is too small: {max} bytes"
  | .payloadTooSmall => "bench payload must be at least 64 bytes"
  | .payloadTooLarge payloadBytes max =>
      s!"bench payload {payloadBytes} exceeds current QUIC/datagram limit {max}"
  | .targetTooLarge => "bench target Mbps must be <= 10000"
  | .noRuns => "bench runs must be greater than zero"
  | .tooManyRuns => "bench runs must be <= 100"
  | .noRetries => "connect retries must be greater than zero"
  | .tooManyRetries => "connect retries must be <= 100"
  | .retryDelay => "connect retry delay ms must be <= 60000"

def parseBenchDirection (value : Text) : Except ClientError BenchDirection :=
  if value = "upload".toList then .ok .upload
  else if value = "download".toList then .ok .download
  else if value = "stream-upload".toList then .ok .streamUpload
  else if value = "stream-download".toList then .ok .streamDownload
  else if value = "stream-packet-upload".toList then .ok .streamPacketUpload
  else if value = "stream-packet-download".toList then .ok .streamPacketDownload
  else .error .benchDirection

/-- The largest payload the direction can carry. -/
def benchPayloadLimit (direction : BenchDirection) (maxDatagramSize : Option UInt64)
    (configMtu : UInt64) : UInt64 :=
  if direction.usesDatagrams then min (maxDatagramSize.getD configMtu) configMtu else configMtu

def benchPayloadBytes (direction : BenchDirection) (requested : UInt64)
    (maxDatagramSize : Option UInt64) (configMtu : UInt64) : Except ClientError UInt64 := do
  let max := benchPayloadLimit direction maxDatagramSize configMtu
  bailIf (max < 64) (.datagramLimit max)
  let payloadBytes := if requested = 0 then max else requested
  bailIf (payloadBytes < 64) .payloadTooSmall
  bailIf (payloadBytes > max) (.payloadTooLarge payloadBytes max)
  return payloadBytes

/-- Zero asks for no target. -/
def benchTargetMbps (value : UInt64) : Except ClientError (Option UInt64) :=
  if value = 0 then .ok none
  else if value > 10000 then .error .targetTooLarge
  else .ok (some value)

/-- A count between one and a hundred. -/
def checkedCount (zero many : ClientError) (value : UInt64) : Except ClientError UInt64 := do
  bailIf (value = 0) zero
  bailIf (value > 100) many
  return value

def benchRuns (value : UInt64) : Except ClientError UInt64 :=
  checkedCount .noRuns .tooManyRuns value

def connectRetries (value : UInt64) : Except ClientError UInt64 :=
  checkedCount .noRetries .tooManyRetries value

def connectRetryDelayMs (value : UInt64) : Except ClientError UInt64 := do
  bailIf (value > 60000) .retryDelay
  return value

/-- The optional direction; clap leaves it out when there is no bench. -/
def benchDirection : Option Text → Except ClientError (Option BenchDirection)
  | none => .ok none
  | some value => do
      let direction ← parseBenchDirection value
      return some direction

/-- The mode `main` authenticates with, on a connection with the given datagram
limit. -/
def authMode (args : Args) (config : ClientConfig) (maxDatagramSize : Option UInt64) :
    Except ClientError AuthMode := do
  let _ ← config.validate.mapError .config
  let direction ← benchDirection args.bench
  let targetMbps ← benchTargetMbps args.benchTargetMbps
  let _ ← connectRetries args.connectRetries
  let _ ← connectRetryDelayMs args.connectRetryDelayMs
  match direction with
  | none => return .vpn
  | some direction =>
      let _ ← benchRuns args.benchRuns
      let payloadBytes ← benchPayloadBytes direction args.benchPayloadBytes maxDatagramSize
        (UInt64.ofNat config.mtu)
      return .bench direction args.benchDurationSecs payloadBytes targetMbps

/-- What the client has made sure of about a mode it sends. -/
def Checked : AuthMode → Prop
  | .vpn => True
  | .bench _ _ payloadBytes targetMbps =>
      64 ≤ payloadBytes.toNat ∧ payloadBytes.toNat ≤ maxMtu ∧ targetMbps ≠ some 0

instance : DecidablePred Checked
  | .vpn => inferInstanceAs (Decidable True)
  | .bench .. => inferInstanceAs (Decidable (_ ∧ _ ∧ _))

theorem mapError_eq_ok {ε ε' α : Type} {wrap : ε → ε'} {result : Except ε α} {value : α} :
    result.mapError wrap = .ok value ↔ result = .ok value := by
  cases result <;> simp [Except.mapError]

theorem benchPayloadLimit_le (direction : BenchDirection) (maxDatagramSize : Option UInt64)
    (configMtu : UInt64) : benchPayloadLimit direction maxDatagramSize configMtu ≤ configMtu := by
  unfold benchPayloadLimit
  split_ifs
  · exact Std.min_le_right
  · exact UInt64.le_refl _

/-- A payload size that passes lies between 64 and the configured MTU. -/
theorem benchPayloadBytes_bounds {direction : BenchDirection} {requested payloadBytes : UInt64}
    {maxDatagramSize : Option UInt64} {configMtu : UInt64}
    (passed : benchPayloadBytes direction requested maxDatagramSize configMtu = .ok payloadBytes) :
    64 ≤ payloadBytes.toNat ∧ payloadBytes.toNat ≤ configMtu.toNat := by
  simp only [benchPayloadBytes, bind_eq_ok, bailIf_eq_ok, pure, Except.pure, Except.ok.injEq]
    at passed
  obtain ⟨_, _, _, lower, _, upper, rfl⟩ := passed
  have limit := benchPayloadLimit_le direction maxDatagramSize configMtu
  rw [UInt64.lt_iff_toNat_lt] at lower
  rw [gt_iff_lt, UInt64.lt_iff_toNat_lt] at upper
  rw [UInt64.le_iff_toNat_le] at limit
  exact ⟨by simpa using lower, by omega⟩

/-- A target that passes is not a written zero. -/
theorem benchTargetMbps_ne_zero {value : UInt64} {targetMbps : Option UInt64}
    (passed : benchTargetMbps value = .ok targetMbps) : targetMbps ≠ some 0 := by
  unfold benchTargetMbps at passed
  split_ifs at passed with zero
  · cases passed
    simp
  · cases passed
    simpa using zero

/-- A configuration that passes has an MTU the wire format admits. -/
theorem mtu_le_of_validate {config : ClientConfig} (passed : config.validate = .ok ()) :
    config.mtu ≤ maxMtu := by
  simp only [ClientConfig.validate, bind_eq_ok] at passed
  obtain ⟨_, common, _⟩ := passed
  exact (validateCommon_eq_ok.mp common).2.1

/-- Every mode the client sends was checked. -/
theorem checked_of_authMode {args : Args} {config : ClientConfig}
    {maxDatagramSize : Option UInt64} {mode : AuthMode}
    (chosen : authMode args config maxDatagramSize = .ok mode) : Checked mode := by
  simp only [authMode, bind_eq_ok, mapError_eq_ok] at chosen
  obtain ⟨_, valid, direction, _, targetMbps, target, _, _, _, _, rest⟩ := chosen
  cases direction with
  | none =>
      cases rest
      trivial
  | some direction =>
      simp only [bind_eq_ok, pure, Except.pure, Except.ok.injEq] at rest
      obtain ⟨_, _, payloadBytes, payload, rfl⟩ := rest
      obtain ⟨lower, upper⟩ := benchPayloadBytes_bounds payload
      have mtu := mtu_le_of_validate valid
      have fits : (UInt64.ofNat config.mtu).toNat = config.mtu := by
        rw [UInt64.toNat_ofNat']
        rw [maxMtu] at mtu
        omega
      exact ⟨lower, by omega, benchTargetMbps_ne_zero target⟩

end LiteVpn.Client
