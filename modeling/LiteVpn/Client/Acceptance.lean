import LiteVpn.Client.BenchArgs
import LiteVpn.Core.AuthRoundTrip
import LiteVpn.Keygen.Token

/-!
# What the client checks and the server accepts

The ranges of the two sides are written separately. The client's payload and
target checks are the stricter ones, so they never make the server refuse. Two
checks are missing on the client's side: nobody bounds the size of a generated
token by the size of a request, and the duration is looked at only after the
request was sent.
-/

namespace LiteVpn.Client

open LiteVpn.Strings
open LiteVpn.Core
open LiteVpn.Keygen

/-- The request is short enough to be read and the server goes on in exactly the
mode it asks for. -/
def Accepted (token : Token) (mode : AuthMode) : Prop :=
  (clientRequest token.text mode).length ≤ maxAuthBytes ∧
    (serverAuthenticate token.text (clientRequest token.text mode)).outcome = .ok mode

/-- The length of the mode line, its line feed included. -/
def modeLength : AuthMode → Nat
  | .vpn => 0
  | .bench direction durationSecs payloadBytes targetMbps =>
      10 + direction.asStr.length + (displayU64 durationSecs).length +
        (displayU64 payloadBytes).length + (displayU64 (targetMbps.getD 0)).length

/-- A bench lasts at least a second. -/
def Lasts : AuthMode → Prop
  | .vpn => True
  | .bench _ durationSecs _ _ => 1 ≤ durationSecs.toNat

instance : DecidablePred Lasts
  | .vpn => inferInstanceAs (Decidable True)
  | .bench .. => inferInstanceAs (Decidable (_ ≤ _))

theorem isAscii_asStr (direction : BenchDirection) : IsAscii direction.asStr := by
  apply isAscii_of_all
  cases direction <;> decide

/-- The length of a request with an ASCII token. -/
theorem length_clientRequest {token : Text} (ascii : IsAscii token) (mode : AuthMode) :
    (clientRequest token mode).length = 7 + token.length + modeLength mode := by
  have magic : authMagic.length = 6 := by decide
  have feed : (encode ['\n']).length = 1 := by decide
  cases mode with
  | vpn =>
      simp [clientRequest, modeLength, magic, feed, length_encode ascii]
      omega
  | bench direction durationSecs payloadBytes targetMbps =>
      have line : IsAscii (benchLine direction durationSecs payloadBytes (targetMbps.getD 0)) := by
        simp [benchLine, isAscii_asStr, isAscii_displayU64]
      simp only [clientRequest, List.length_append, magic, feed, length_encode ascii,
        length_encode line, modeLength]
      simp [benchLine]
      omega

theorem length_clientRequest_hexToken (hex : HexEncoder) {random : Bytes} (enough : 16 ≤ random.length)
    (mode : AuthMode) :
    (clientRequest (hexToken hex random enough).text mode).length =
      7 + 2 * random.length + modeLength mode := by
  rw [hexToken, length_clientRequest (isAscii_hexEncode hex random), hex.twoDigits]

/-- For a hexadecimal token and a mode the client checked, the server's parser
asks only for a positive duration. -/
theorem parseRequest_hexToken (hex : HexEncoder) {random : Bytes}
    (enough : 16 ≤ random.length) {mode : AuthMode} (checked : Checked mode) :
    parseRequest (clientRequest (hexToken hex random enough).text mode) =
        .ok ((hexToken hex random enough).text, mode) ↔ Lasts mode := by
  have free : '\n' ∉ (hexToken hex random enough).text := by
    intro member
    exact absurd (hexEncode_solid hex random '\n' member) (by decide)
  cases mode with
  | vpn => simp [parseRequest_self_vpn, free, Lasts, (hexToken hex random enough).ne_nil]
  | bench direction durationSecs payloadBytes targetMbps =>
      obtain ⟨lower, upper, nonzero⟩ := checked
      have wire : payloadBytes.toNat ≤ 1452 := by
        rw [maxMtu] at upper
        omega
      have plain := (hexToken hex random enough).not_suffix (by decide : isWhitespace '\r' = true)
      simp [parseRequest_self_bench free, ReadBack, Lasts, plain, lower, wire, nonzero]

/-- A mode the client's checks let through is served, with a token as the
generator writes it, exactly when the request fits and the bench has a
duration. -/
theorem accepted_iff (hex : HexEncoder) (random : Bytes) (enough : 16 ≤ random.length) (args : Args)
    (config : ClientConfig) (maxDatagramSize : Option UInt64) (mode : AuthMode)
    (chosen : authMode args config maxDatagramSize = .ok mode) :
    ∃ token, loadToken (some (tokenFile hex random)) = .ok token ∧
      (Accepted token mode ↔
        7 + 2 * random.length + modeLength mode ≤ maxAuthBytes ∧ Lasts mode) := by
  refine ⟨hexToken hex random enough, loadToken_tokenFile hex enough, ?_⟩
  rw [Accepted, serverAuthenticate_eq_ok,
    parseRequest_hexToken hex enough (checked_of_authMode chosen), length_clientRequest_hexToken]
  constructor
  · rintro ⟨short, _, lasts⟩
    exact ⟨short, lasts⟩
  · rintro ⟨short, lasts⟩
    exact ⟨short, short, lasts⟩

/-- Bytes for a token, all of them zero. -/
def zeros (count : Nat) : Bytes := List.replicate count 0

@[simp] theorem length_zeros (count : Nat) : (zeros count).length = count :=
  List.length_replicate

/-- The acceptance theorem at a bench of one second with the smallest token. -/
theorem accepted_iff_zeros :
    ∃ token, loadToken (some (tokenFile bytewiseHex (zeros 16))) = .ok token ∧
      Accepted token (.bench .upload 1 1300 none) := by
  obtain ⟨token, loaded, served⟩ := accepted_iff bytewiseHex (zeros 16) (by decide)
    { bench := some "upload".toList, benchDurationSecs := 1 } {} none (.bench .upload 1 1300 none)
    (by decide)
  exact ⟨token, loaded, served.mpr ⟨by decide, by decide⟩⟩

/-- The client sends a bench of zero seconds and, with five hundred and twelve
token bytes, a request that is too long. The server refuses both. -/
theorem refused_after_client_checks :
    (∃ token, loadToken (some (tokenFile bytewiseHex (zeros 16))) = .ok token ∧
      authMode { bench := some "upload".toList, benchDurationSecs := 0 } {} none =
        .ok (.bench .upload 0 1300 none) ∧
      ¬ Accepted token (.bench .upload 0 1300 none)) ∧
    ∃ token, loadToken (some (tokenFile bytewiseHex (zeros 512))) = .ok token ∧
      authMode {} {} none = .ok .vpn ∧ ¬ Accepted token .vpn := by
  constructor
  · refine ⟨hexToken bytewiseHex (zeros 16) (by decide), loadToken_tokenFile _ _, by decide, ?_⟩
    rintro ⟨_, served⟩
    have parsed := (serverAuthenticate_eq_ok.mp served).2
    rw [parseRequest_hexToken _ (by decide) (by decide)] at parsed
    exact absurd parsed (by decide)
  · have enough : 16 ≤ (zeros 512).length := by
      rw [length_zeros]
      decide
    refine ⟨hexToken bytewiseHex (zeros 512) enough, loadToken_tokenFile _ enough, by decide, ?_⟩
    rintro ⟨short, _⟩
    rw [length_clientRequest_hexToken, length_zeros] at short
    exact absurd short (by decide)

end LiteVpn.Client
