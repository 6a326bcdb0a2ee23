import LiteVpn.Core.Config
import LiteVpn.Strings.Decimal

/-!
# The authentication exchange

The client opens a bidirectional stream, writes one request and finishes it;
the server reads at most `maxAuthBytes` bytes, parses them, answers and goes on
in the mode the request selects. Streams are reduced to the bytes they carry:
the client sees the server as a function from requests to replies, and a reply
of `none` is a stream that could not be read.
-/

namespace LiteVpn.Core

open LiteVpn.Strings

def authMagic : Bytes := encode "LVPN1 ".toList
def authOk : Bytes := encode "OK\n".toList
def authErr : Bytes := encode "ERR\n".toList
def maxAuthBytes : Nat := 1024

inductive BenchDirection where
  | upload
  | download
  | streamUpload
  | streamDownload
  | streamPacketUpload
  | streamPacketDownload
deriving DecidableEq, Repr

def BenchDirection.asStr : BenchDirection → Text
  | .upload => "upload".toList
  | .download => "download".toList
  | .streamUpload => "stream-upload".toList
  | .streamDownload => "stream-download".toList
  | .streamPacketUpload => "stream-packet-upload".toList
  | .streamPacketDownload => "stream-packet-download".toList

def BenchDirection.usesDatagrams : BenchDirection → Bool
  | .upload | .download => true
  | _ => false

/-- What an authenticated connection is for. -/
inductive AuthMode where
  | vpn
  | bench (direction : BenchDirection) (durationSecs payloadBytes : UInt64)
      (targetMbps : Option UInt64)
deriving DecidableEq, Repr

/-- The reasons for which an exchange fails on either side. -/
inductive AuthError where
  | requestUnread
  | invalidMagic
  | notUtf8
  | noFinalNewline
  | missingToken
  | tooManyLines
  | unknownMode
  | direction
  | missingDuration
  | invalidDuration
  | missingPayload
  | invalidPayload
  | invalidTarget
  | tooManyFields
  | zeroDuration
  | payloadRange
  | invalidToken
  | responseUnread
  | rejected
deriving DecidableEq, Repr

/-- The text of each failure. -/
def AuthError.message : AuthError → String
  | .requestUnread => "failed to read auth request"
  | .invalidMagic => "invalid auth magic"
  | .notUtf8 => "auth request is not utf-8"
  | .noFinalNewline => "auth request must end with newline"
  | .missingToken => "missing auth token"
  | .tooManyLines => "too many auth request lines"
  | .unknownMode => "unknown auth mode"
  | .direction => "bench direction must be upload, download, stream-upload, stream-download, " ++
      "stream-packet-upload, or stream-packet-download"
  | .missingDuration => "missing bench duration"
  | .invalidDuration => "invalid bench duration"
  | .missingPayload => "missing bench payload size"
  | .invalidPayload => "invalid bench payload size"
  | .invalidTarget => "invalid bench target Mbps"
  | .tooManyFields => "too many bench mode fields"
  | .zeroDuration => "bench duration must be greater than zero"
  | .payloadRange => "bench payload size must be between 64 and 1452 bytes"
  | .invalidToken => "invalid client token"
  | .responseUnread => "failed to read auth response"
  | .rejected => "server rejected client token"

/-- The mode line of a bench request, with its line feed. -/
def benchLine (direction : BenchDirection) (durationSecs payloadBytes targetMbps : UInt64) :
    Text :=
  ['b', 'e', 'n', 'c', 'h', ' '] ++ direction.asStr ++ ' ' :: displayU64 durationSecs ++
    ' ' :: displayU64 payloadBytes ++ ' ' :: displayU64 targetMbps ++ ['\n']

/-- The request `client_authenticate_with_mode` writes. -/
def clientRequest (token : Text) (mode : AuthMode) : Bytes :=
  authMagic ++ encode token ++ encode ['\n'] ++
    match mode with
    | .vpn => []
    | .bench direction durationSecs payloadBytes targetMbps =>
        encode (benchLine direction durationSecs payloadBytes (targetMbps.getD 0))

/-- The client's half of the exchange, against a peer that answers requests. -/
def clientAuthenticateWithMode (token : Text) (mode : AuthMode)
    (peer : Bytes → Option Bytes) : Except AuthError Unit :=
  match peer (clientRequest token mode) with
  | none => .error .responseUnread
  | some response =>
      if response.length > maxAuthBytes then .error .responseUnread
      else if response ≠ authOk then .error .rejected
      else .ok ()

/-- The direction names are matched one by one. -/
def parseDirection : Option Text → Except AuthError BenchDirection
  | none => .error .direction
  | some name =>
      if name = "upload".toList then .ok .upload
      else if name = "download".toList then .ok .download
      else if name = "stream-upload".toList then .ok .streamUpload
      else if name = "stream-download".toList then .ok .streamDownload
      else if name = "stream-packet-upload".toList then .ok .streamPacketUpload
      else if name = "stream-packet-download".toList then .ok .streamPacketDownload
      else .error .direction

/-- A mandatory number. -/
def parseNumber (missing invalid : AuthError) : Option Text → Except AuthError UInt64
  | none => .error missing
  | some field =>
      match parseU64 field with
      | none => .error invalid
      | some value => .ok value

/-- The optional target; zero means no target. -/
def parseTarget : Option Text → Except AuthError (Option UInt64)
  | none => .ok none
  | some field =>
      match parseU64 field with
      | none => .error .invalidTarget
      | some value => .ok (if value = 0 then none else some value)

/-- `parse_mode`: the calls of the field iterator are the positions it yields. -/
def parseMode (line : Text) : Except AuthError AuthMode := do
  let parts := splitWhitespace line
  bailIf (parts[0]? ≠ some "bench".toList) .unknownMode
  let direction ← parseDirection parts[1]?
  let durationSecs ← parseNumber .missingDuration .invalidDuration parts[2]?
  let payloadBytes ← parseNumber .missingPayload .invalidPayload parts[3]?
  let targetMbps ← parseTarget parts[4]?
  bailIf (parts[5]?.isSome = true) .tooManyFields
  bailIf (durationSecs = 0) .zeroDuration
  bailIf (¬ (64 ≤ payloadBytes ∧ payloadBytes ≤ 1452)) .payloadRange
  return .bench direction durationSecs payloadBytes targetMbps

/-- A value that must be there, or the error that says it is missing. -/
def context {α : Type} (error : AuthError) : Option α → Except AuthError α
  | none => .error error
  | some value => .ok value

/-- The token and the mode on the lines of a request. -/
def parseLines : List Text → Except AuthError (Text × AuthMode)
  | [] => .error .missingToken
  | [token] => .ok (token, .vpn)
  | token :: line :: rest => do
      let mode ← parseMode line
      bailIf (rest ≠ []) .tooManyLines
      return (token, mode)

/-- `parse_request`. -/
def parseRequest (request : Bytes) : Except AuthError (Text × AuthMode) := do
  let payload ← context .invalidMagic (request.dropPrefix? authMagic)
  let payload ← context .notUtf8 (fromUtf8 payload)
  let payload ← context .noFinalNewline (payload.dropSuffix? ['\n'])
  parseLines (lines payload)

/-- What the server writes on the stream and what it goes on with. -/
structure ServerReply where
  response : Option Bytes
  outcome : Except AuthError AuthMode

/-- The server's half of the exchange. A request that does not parse gets no
answer: the error leaves before anything is written. -/
def serverAuthenticate (expectedToken : Text) (request : Bytes) : ServerReply :=
  if request.length > maxAuthBytes then ⟨none, .error .requestUnread⟩
  else
    match parseRequest request with
    | .error error => ⟨none, .error error⟩
    | .ok (token, mode) =>
        if token = expectedToken then ⟨some authOk, .ok mode⟩
        else ⟨some authErr, .error .invalidToken⟩

@[simp] theorem context_eq_ok {α : Type} {error : AuthError} {value : Option α} {result : α} :
    context error value = .ok result ↔ value = some result := by
  cases value <;> simp [context]

/-- The server goes on exactly when the request is short enough, parses, and
carries the expected token. -/
theorem serverAuthenticate_eq_ok {expectedToken : Text} {request : Bytes} {mode : AuthMode} :
    (serverAuthenticate expectedToken request).outcome = .ok mode ↔
      request.length ≤ maxAuthBytes ∧ parseRequest request = .ok (expectedToken, mode) := by
  unfold serverAuthenticate
  by_cases long : request.length > maxAuthBytes
  · simp [long, Nat.not_le.mpr long]
  · cases parsed : parseRequest request with
    | error error => simp [long]
    | ok pair =>
        obtain ⟨token, found⟩ := pair
        by_cases same : token = expectedToken <;> simp [long, same, Nat.not_lt.mp long]

/-- The server writes `OK` exactly when it goes on. -/
theorem serverAuthenticate_response_eq_ok {expectedToken : Text} {request : Bytes} :
    (serverAuthenticate expectedToken request).response = some authOk ↔
      ∃ mode, (serverAuthenticate expectedToken request).outcome = .ok mode := by
  have differ : authErr ≠ authOk := by decide
  unfold serverAuthenticate
  by_cases long : request.length > maxAuthBytes
  · simp [long]
  · cases parsed : parseRequest request with
    | error error => simp [long]
    | ok pair =>
        obtain ⟨token, found⟩ := pair
        by_cases same : token = expectedToken <;> simp [long, same, differ]

/-- The client returns without an error exactly when the server went on. -/
theorem clientAuthenticateWithMode_eq_ok {token expectedToken : Text} {mode : AuthMode} :
    clientAuthenticateWithMode token mode
        (fun request => (serverAuthenticate expectedToken request).response) = .ok () ↔
      ∃ served, (serverAuthenticate expectedToken (clientRequest token mode)).outcome =
        .ok served := by
  rw [← serverAuthenticate_response_eq_ok]
  unfold clientAuthenticateWithMode
  have short : authOk.length ≤ maxAuthBytes := by decide
  cases answer : (serverAuthenticate expectedToken (clientRequest token mode)).response with
  | none => simp [answer]
  | some response =>
      by_cases same : response = authOk
      · simp [answer, same, Nat.not_lt.mpr short]
      · by_cases long : response.length > maxAuthBytes <;> simp [answer, same, long]

end LiteVpn.Core
