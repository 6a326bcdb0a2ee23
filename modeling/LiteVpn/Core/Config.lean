import LiteVpn.Strings.Fields

/-!
# Configuration

The checks of `config.rs` and the token loader. Sizes are natural numbers: no
check depends on the width of the integer type that holds them. A `Token` is
the text `load_token` returns, with the two facts the loader establishes about
it; `loadToken_encode` shows that the loader establishes nothing more.
-/

namespace LiteVpn.Core

open LiteVpn.Strings

def defaultMtu : Nat := 1300
def maxMtu : Nat := 1400
def defaultDatagramBufferBytes : Nat := 4 * 1024 * 1024
def defaultDatagramBacklogPackets : Nat := 64
def defaultUdpSocketBufferBytes : Nat := 0

/-- How packets travel between the two TUN devices. -/
inductive VpnTransportMode where
  | datagram
  | stream
deriving DecidableEq, Repr

/-- The reasons for which a configuration is refused. -/
inductive ConfigError where
  | mtuTooSmall
  | mtuTooLarge
  | prefixTooLong
  | datagramBufferTooSmall
  | udpRecvBuffer
  | udpSendBuffer
  | egressTarget
  | datagramBacklog
  | serverTunName
  | externalInterface
  | server
  | serverName
deriving DecidableEq, Repr

/-- The text of each refusal. -/
def ConfigError.message : ConfigError → String
  | .mtuTooSmall => "mtu must be >= 576"
  | .mtuTooLarge => "mtu must be <= 1400 for QUIC datagram safety"
  | .prefixTooLong => "tun_prefix must be <= 32"
  | .datagramBufferTooSmall => "datagram_buffer_bytes is too small"
  | .udpRecvBuffer => "udp_recv_buffer_bytes must be 0 or >= 65536"
  | .udpSendBuffer => "udp_send_buffer_bytes must be 0 or >= 65536"
  | .egressTarget => "egress_target_mbps must be <= 10000"
  | .datagramBacklog => "datagram_backlog_packets must be <= 100000"
  | .serverTunName => "server tun_name must not be empty"
  | .externalInterface => "external_interface must not be empty"
  | .server => "server must not be empty"
  | .serverName => "server_name must not be empty"

/-- Stop with `error` when the condition holds. -/
def bailIf {ε : Type} (condition : Prop) [Decidable condition] (error : ε) : Except ε Unit :=
  if condition then .error error else .ok ()

@[simp] theorem bailIf_eq_ok {ε : Type} {condition : Prop} [Decidable condition] {error : ε}
    {result : Unit} : bailIf condition error = .ok result ↔ ¬ condition := by
  unfold bailIf
  split <;> simp_all

/-- A sequence of checks passes exactly when the first check and the rest do. -/
@[simp] theorem bind_eq_ok {ε α β : Type} {first : Except ε α} {rest : α → Except ε β}
    {result : β} :
    (first >>= rest) = .ok result ↔ ∃ value, first = .ok value ∧ rest value = .ok result := by
  cases first with
  | error error => simp [bind, Except.bind]
  | ok value => simp [bind, Except.bind]

def validateCommon (mtu tunPrefix datagramBufferBytes : Nat) : Except ConfigError Unit := do
  bailIf (mtu < 576) .mtuTooSmall
  bailIf (mtu > maxMtu) .mtuTooLarge
  bailIf (tunPrefix > 32) .prefixTooLong
  bailIf (datagramBufferBytes < 64 * 1024) .datagramBufferTooSmall

def validateUdpSocketBuffers (recvBufferBytes sendBufferBytes : Nat) :
    Except ConfigError Unit := do
  bailIf (recvBufferBytes ≠ 0 ∧ recvBufferBytes < 64 * 1024) .udpRecvBuffer
  bailIf (sendBufferBytes ≠ 0 ∧ sendBufferBytes < 64 * 1024) .udpSendBuffer

def validateEgressTarget (egressTargetMbps : Nat) : Except ConfigError Unit :=
  bailIf (egressTargetMbps > 10000) .egressTarget

def validateDatagramBacklog (datagramBacklogPackets : Nat) : Except ConfigError Unit :=
  bailIf (datagramBacklogPackets > 100000) .datagramBacklog

/-- The fields of the server's configuration that its logic reads. -/
structure ServerConfig where
  tunName : Text := "tun0".toList
  tunPrefix : Nat := 24
  mtu : Nat := defaultMtu
  externalInterface : Text := "ens3".toList
  datagramBufferBytes : Nat := defaultDatagramBufferBytes
  udpRecvBufferBytes : Nat := defaultUdpSocketBufferBytes
  udpSendBufferBytes : Nat := defaultUdpSocketBufferBytes
  egressTargetMbps : Nat := 36
  datagramBacklogPackets : Nat := defaultDatagramBacklogPackets
  adaptiveEgress : Bool := true
  vpnTransport : VpnTransportMode := .datagram
deriving DecidableEq, Repr

def ServerConfig.validate (config : ServerConfig) : Except ConfigError Unit := do
  validateCommon config.mtu config.tunPrefix config.datagramBufferBytes
  validateUdpSocketBuffers config.udpRecvBufferBytes config.udpSendBufferBytes
  validateEgressTarget config.egressTargetMbps
  validateDatagramBacklog config.datagramBacklogPackets
  bailIf (trim config.tunName = []) .serverTunName
  bailIf (trim config.externalInterface = []) .externalInterface

/-- The fields of the client's configuration that its logic reads. -/
structure ClientConfig where
  server : Text := "127.0.0.1:443".toList
  serverName : Text := "litevpn.local".toList
  tunPrefix : Nat := 24
  mtu : Nat := defaultMtu
  datagramBufferBytes : Nat := defaultDatagramBufferBytes
  udpRecvBufferBytes : Nat := defaultUdpSocketBufferBytes
  udpSendBufferBytes : Nat := defaultUdpSocketBufferBytes
  egressTargetMbps : Nat := 13
  datagramBacklogPackets : Nat := defaultDatagramBacklogPackets
  adaptiveEgress : Bool := false
  vpnTransport : VpnTransportMode := .datagram
deriving DecidableEq, Repr

def ClientConfig.validate (config : ClientConfig) : Except ConfigError Unit := do
  validateCommon config.mtu config.tunPrefix config.datagramBufferBytes
  validateUdpSocketBuffers config.udpRecvBufferBytes config.udpSendBufferBytes
  validateEgressTarget config.egressTargetMbps
  validateDatagramBacklog config.datagramBacklogPackets
  bailIf (trim config.server = []) .server
  bailIf (trim config.serverName = []) .serverName

/-- What the common check admits. -/
theorem validateCommon_eq_ok {mtu tunPrefix datagramBufferBytes : Nat} :
    validateCommon mtu tunPrefix datagramBufferBytes = .ok () ↔
      576 ≤ mtu ∧ mtu ≤ maxMtu ∧ tunPrefix ≤ 32 ∧ 64 * 1024 ≤ datagramBufferBytes := by
  simp [validateCommon]

/-- The default configurations pass their own checks. -/
theorem validate_default :
    ({} : ServerConfig).validate = .ok () ∧ ({} : ClientConfig).validate = .ok () := by
  decide

/-- A shared secret as `load_token` returns it: trimmed, and at least 32 bytes. -/
structure Token where
  text : Text
  trimmed : trim text = text
  long : 32 ≤ (encode text).length
deriving DecidableEq

@[ext] theorem Token.ext {first second : Token} (same : first.text = second.text) :
    first = second := by
  cases first
  cases second
  cases same
  rfl

/-- The reasons for which no token is loaded. -/
inductive TokenError where
  | unreadable
  | tooShort
deriving DecidableEq, Repr

/-- The text of each token error; both name the file. -/
def TokenError.message (path : String) : TokenError → String
  | .unreadable => s!"failed to read token {path}"
  | .tooShort => s!"token in {path} is too short; run litevpn-keygen"

/-- `load_token` on the contents of the file; `none` is a file that cannot be
read. Bytes that are not UTF-8 are unreadable as text too. -/
def loadToken (contents : Option Bytes) : Except TokenError Token :=
  match contents.bind fromUtf8 with
  | none => .error .unreadable
  | some raw =>
      if short : (encode (trim raw)).length < 32 then .error .tooShort
      else .ok ⟨trim raw, trim_trim raw, Nat.le_of_not_lt short⟩

/-- Every token can be loaded, from the file that holds its own bytes. -/
theorem loadToken_encode (token : Token) : loadToken (some (encode token.text)) = .ok token := by
  have long := token.long
  unfold loadToken
  simp only [Option.bind_some, fromUtf8_encode, token.trimmed]
  rw [dif_neg (by omega)]

/-- A token ends in no whitespace. -/
theorem Token.not_suffix (token : Token) {char : Char} (space : isWhitespace char = true) :
    ¬ [char] <:+ token.text :=
  not_suffix_of_trim_eq token.trimmed space

theorem Token.ne_nil (token : Token) : token.text ≠ [] := by
  intro empty
  have long := token.long
  simp [empty] at long

end LiteVpn.Core
