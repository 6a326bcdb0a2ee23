import LiteVpn.Core.AuthAcceptance

/-!
# What the two parties agree on

The client pastes its token unescaped in front of a line feed, and the next
line selects the mode. `load_token` trims its text but lets line feeds inside
it through, so a token may bring a mode line of its own. The agreement theorem
says exactly when that happens.
-/

namespace LiteVpn.Core

open LiteVpn.Strings

/-- The mode with a target of zero read as no target. -/
def AuthMode.normalized : AuthMode → AuthMode
  | .vpn => .vpn
  | .bench direction durationSecs payloadBytes targetMbps =>
      .bench direction durationSecs payloadBytes (if targetMbps = some 0 then none else targetMbps)

/-- The bench line without its line feed. -/
def benchText (direction : BenchDirection) (durationSecs payloadBytes targetMbps : UInt64) :
    Text :=
  ['b', 'e', 'n', 'c', 'h', ' '] ++ direction.asStr ++ ' ' :: displayU64 durationSecs ++
    ' ' :: displayU64 payloadBytes ++ ' ' :: displayU64 targetMbps

/-- The lines of the client's request, without the final line feed. -/
def clientBody (token : Text) : AuthMode → Text
  | .vpn => token
  | .bench direction durationSecs payloadBytes targetMbps =>
      token ++ '\n' :: benchText direction durationSecs payloadBytes (targetMbps.getD 0)

theorem clientRequest_eq (token : Text) (mode : AuthMode) :
    clientRequest token mode = authMagic ++ encode (clientBody token mode) ++ feed := by
  have feedEq : feed = encode ['\n'] := by decide
  cases mode with
  | vpn => simp [clientRequest, clientBody, feedEq]
  | bench direction durationSecs payloadBytes targetMbps =>
      rw [clientRequest, clientBody, feedEq, List.append_assoc, List.append_assoc,
        List.append_assoc, ← encode_append, ← encode_append, ← encode_append]
      simp [benchLine, benchText]

/-- The server reads the lines the client wrote. -/
theorem parseRequest_clientRequest {token : Text} {mode : AuthMode} {result : Text × AuthMode} :
    parseRequest (clientRequest token mode) = .ok result ↔
      parseLines (lines (clientBody token mode)) = .ok result := by
  rw [parseRequest_eq_ok, clientRequest_eq]
  constructor
  · rintro ⟨body, same, parsed⟩
    have bodies : clientBody token mode = body := by simpa using same
    rwa [bodies]
  · intro parsed
    exact ⟨_, rfl, parsed⟩

theorem BenchDirection.asStr_solid (direction : BenchDirection) :
    ∀ char ∈ direction.asStr, isWhitespace char = false := by
  apply solid_of_all
  cases direction <;> decide

theorem BenchDirection.asStr_ne_nil (direction : BenchDirection) : direction.asStr ≠ [] := by
  cases direction <;> decide

theorem BenchDirection.asStr_injective : Function.Injective BenchDirection.asStr := by
  intro first second same
  have parsed : parseDirection (some first.asStr) = .ok second :=
    parseDirection_eq_ok.mpr (by rw [same])
  rw [parseDirection_eq_ok.mpr rfl] at parsed
  cases parsed
  rfl

/-- The fields of the bench line the client prints. -/
theorem splitWhitespace_benchText (direction : BenchDirection)
    (durationSecs payloadBytes targetMbps : UInt64) :
    splitWhitespace (benchText direction durationSecs payloadBytes targetMbps) =
      ["bench".toList, direction.asStr, displayU64 durationSecs, displayU64 payloadBytes,
        displayU64 targetMbps] := by
  have blank : isWhitespace ' ' = true := by decide
  have digits : ∀ value : UInt64, displayU64 value ≠ [] := fun _ => Nat.toDigits_ne_nil
  have shape : benchText direction durationSecs payloadBytes targetMbps =
      "bench".toList ++ ' ' :: (direction.asStr ++ ' ' :: (displayU64 durationSecs ++
        ' ' :: (displayU64 payloadBytes ++ ' ' :: displayU64 targetMbps))) := by
    simp [benchText]
  rw [shape, splitWhitespace_append_cons (by decide) (solid_of_all (by decide)) blank,
    splitWhitespace_append_cons direction.asStr_ne_nil direction.asStr_solid blank,
    splitWhitespace_append_cons (digits _) (displayU64_solid _) blank,
    splitWhitespace_append_cons (digits _) (displayU64_solid _) blank,
    splitWhitespace_of_solid (digits _) (displayU64_solid _)]

/-- The bench line is one line. -/
theorem not_mem_benchText {direction : BenchDirection}
    {durationSecs payloadBytes targetMbps : UInt64} :
    '\n' ∉ benchText direction durationSecs payloadBytes targetMbps := by
  have digits : ∀ value : UInt64, '\n' ∉ displayU64 value := by
    intro value member
    exact absurd (displayU64_solid value '\n' member) (by decide)
  have name : '\n' ∉ direction.asStr := by
    intro member
    exact absurd (direction.asStr_solid '\n' member) (by decide)
  simp [benchText, digits, name]

/-- A numeral of the printed value is a numeral of no other value. -/
theorem eq_of_isDecimal_displayU64 {printed value : UInt64}
    (decimal : IsDecimal (displayU64 printed) value.toNat) : printed = value := by
  rw [← parseU64_eq_some_iff, parseU64_displayU64] at decimal
  exact Option.some.inj decimal

/-- The bench line the client prints selects the client's parameters and no
others. -/
theorem mode_of_benchText {direction direction' : BenchDirection}
    {durationSecs durationSecs' payloadBytes payloadBytes' : UInt64}
    {targetMbps targetMbps' : Option UInt64}
    (fields : BenchFields direction' durationSecs' payloadBytes' targetMbps'
      (splitWhitespace (benchText direction durationSecs payloadBytes (targetMbps.getD 0)))) :
    AuthMode.bench direction' durationSecs' payloadBytes' targetMbps' =
      (AuthMode.bench direction durationSecs payloadBytes targetMbps).normalized := by
  rw [splitWhitespace_benchText] at fields
  obtain ⟨⟨duration, payload, target, same, decimal, decimal', accepted⟩, _, _, _⟩ := fields
  simp only [List.cons.injEq, true_and] at same
  obtain ⟨name, rfl, rfl, rfl⟩ := same
  have directions := BenchDirection.asStr_injective name
  have durations := eq_of_isDecimal_displayU64 decimal
  have payloads := eq_of_isDecimal_displayU64 decimal'
  subst directions durations payloads
  cases accepted with
  | present decimal =>
      rw [← eq_of_isDecimal_displayU64 decimal]
      cases targetMbps <;> simp [AuthMode.normalized]

/-- What the client believes after a successful exchange is what the server
goes on with: the same token and, up to a zero target, the same mode. -/
def Agrees (client server : Token) (mode : AuthMode) : Prop :=
  ∀ served, parseRequest (clientRequest client.text mode) = .ok (server.text, served) →
    client = server ∧ served = mode.normalized

/-- The client's token is the server's token, a line ending and a bench line. -/
def CarriesBenchLine (client server : Token) : Prop :=
  '\n' ∉ server.text ∧ ∃ line : Text, '\n' ∉ line ∧ BenchLine line ∧
    ∃ ending ∈ [['\n'], ['\r', '\n']], client.text = server.text ++ ending ++ line

/-- A token without line feeds is read back as it was sent. -/
theorem agrees_of_not_mem {client server : Token} {mode : AuthMode}
    (free : '\n' ∉ client.text) : Agrees client server mode := by
  intro served parsed
  rw [parseRequest_clientRequest] at parsed
  cases mode with
  | vpn =>
      rw [clientBody, lines_of_not_mem free client.ne_nil] at parsed
      simp only [parseLines, Except.ok.injEq, Prod.mk.injEq] at parsed
      exact ⟨Token.ext parsed.1, parsed.2.symm⟩
  | bench direction durationSecs payloadBytes targetMbps =>
      have nonempty : benchText direction durationSecs payloadBytes (targetMbps.getD 0) ≠ [] := by
        simp [benchText]
      rw [clientBody, lines_append_cons free, stripReturn_eq_token.mpr (.inl rfl),
        lines_of_not_mem not_mem_benchText nonempty] at parsed
      cases served with
      | vpn => simp [parseLines_eq_vpn] at parsed
      | bench direction' durationSecs' payloadBytes' targetMbps' =>
          obtain ⟨line, pair, fields⟩ := parseLines_eq_bench.mp parsed
          simp only [List.cons.injEq, and_true] at pair
          obtain ⟨same, rfl⟩ := pair
          exact ⟨Token.ext same, mode_of_benchText fields⟩

/-- A bench request with a line feed in its token has too many lines. -/
theorem agrees_bench_of_mem {client server : Token} {direction : BenchDirection}
    {durationSecs payloadBytes : UInt64} {targetMbps : Option UInt64}
    (member : '\n' ∈ client.text) :
    Agrees client server (.bench direction durationSecs payloadBytes targetMbps) := by
  intro served parsed
  rw [parseRequest_clientRequest] at parsed
  obtain ⟨first, rest, free, split⟩ :=
    (not_mem_or_append_cons '\n' client.text).resolve_left (not_not.mpr member)
  have nonempty : benchText direction durationSecs payloadBytes (targetMbps.getD 0) ≠ [] := by
    simp [benchText]
  -- After the token's first line come the rest of the token and the bench line.
  obtain ⟨second, third, others, same⟩ := exists_lines_append_cons rest nonempty
  rw [clientBody, split, List.append_assoc, List.cons_append, lines_append_cons free, same]
    at parsed
  cases served with
  | vpn => simp [parseLines_eq_vpn] at parsed
  | bench direction' durationSecs' payloadBytes' targetMbps' =>
      simp [parseLines_eq_bench] at parsed

/-- A VPN request whose token holds a line feed is served, if at all, as the
bench request its token spells. -/
theorem parseRequest_vpn_of_mem {client server : Token} {served : AuthMode}
    (member : '\n' ∈ client.text)
    (parsed : parseRequest (clientRequest client.text .vpn) = .ok (server.text, served)) :
    CarriesBenchLine client server := by
  have serverFree := not_mem_of_parseRequest parsed
  have noFeed : ∀ body : Text, client.text ≠ body ++ ['\n'] := fun body same =>
    client.not_suffix (by decide : isWhitespace '\n' = true) ⟨body, same.symm⟩
  rw [parseRequest_clientRequest, clientBody] at parsed
  cases served with
  | vpn =>
      rw [parseLines_eq_vpn, lines_eq_singleton_iff] at parsed
      rcases parsed with ⟨free, _, _⟩ | ⟨body, _, same, _⟩
      · exact absurd member free
      · exact absurd same (noFeed body)
  | bench direction durationSecs payloadBytes targetMbps =>
      rw [parseLines_eq_bench, lines_eq_token_pair serverFree not_benchFields_nil] at parsed
      obtain ⟨line, free, fields, ending, known, tail, tailKnown, same⟩ := parsed
      simp only [List.mem_cons, List.not_mem_nil, or_false] at tailKnown
      rcases tailKnown with rfl | rfl
      · exact ⟨serverFree, line, free, ⟨_, _, _, _, fields⟩, ending, known, by simpa using same⟩
      · exact absurd same (noFeed _)

/-- A VPN request whose token spells a bench request is served as one. -/
theorem parseRequest_of_carriesBenchLine {client server : Token}
    (carries : CarriesBenchLine client server) :
    ∃ direction durationSecs payloadBytes targetMbps,
      parseRequest (clientRequest client.text .vpn) =
        .ok (server.text, .bench direction durationSecs payloadBytes targetMbps) := by
  obtain ⟨serverFree, line, free, ⟨direction, durationSecs, payloadBytes, targetMbps, fields⟩,
    ending, known, same⟩ := carries
  refine ⟨direction, durationSecs, payloadBytes, targetMbps, ?_⟩
  rw [parseRequest_clientRequest, clientBody, parseLines_eq_bench,
    lines_eq_token_pair serverFree not_benchFields_nil]
  exact ⟨line, free, fields, ending, known, [], by simp, by simpa using same⟩

/-- The parties agree exactly when the client is not in VPN mode with a token
that is the server's token and a bench line. -/
theorem agrees_iff (client server : Token) (mode : AuthMode) :
    Agrees client server mode ↔ ¬ (mode = .vpn ∧ CarriesBenchLine client server) := by
  constructor
  · rintro agrees ⟨rfl, carries⟩
    obtain ⟨direction, durationSecs, payloadBytes, targetMbps, parsed⟩ :=
      parseRequest_of_carriesBenchLine carries
    cases (agrees _ parsed).2
  · intro plain
    by_cases member : '\n' ∈ client.text
    · cases mode with
      | vpn =>
          intro served parsed
          exact absurd ⟨rfl, parseRequest_vpn_of_mem member parsed⟩ plain
      | bench direction durationSecs payloadBytes targetMbps => exact agrees_bench_of_mem member
    · exact agrees_of_not_mem member

/-- `sampleToken`, a line feed and a bench line. -/
def smugglingToken : Token where
  text := sampleToken.text ++ '\n' :: "bench upload 5 1200".toList
  trimmed := by decide
  long := by decide

/-- A client in VPN mode with `smugglingToken` succeeds against a server whose
token is another one, and is served as a bench client. -/
theorem smugglingToken_disagrees :
    smugglingToken ≠ sampleToken ∧
      (serverAuthenticate sampleToken.text (clientRequest smugglingToken.text .vpn)).outcome =
        .ok (.bench .upload 5 1200 none) ∧
      clientAuthenticateWithMode smugglingToken.text .vpn
        (fun request => (serverAuthenticate sampleToken.text request).response) = .ok () ∧
      ¬ Agrees smugglingToken sampleToken .vpn := by
  have differ : smugglingToken ≠ sampleToken := by
    intro same
    exact absurd (congrArg (fun token : Token => token.text.length) same) (by decide)
  have parsed : parseRequest (clientRequest smugglingToken.text .vpn) =
      .ok (sampleToken.text, .bench .upload 5 1200 none) := by
    rw [parseRequest_clientRequest]
    decide
  have served : (serverAuthenticate sampleToken.text
      (clientRequest smugglingToken.text .vpn)).outcome = .ok (.bench .upload 5 1200 none) :=
    serverAuthenticate_eq_ok.mpr ⟨by decide, parsed⟩
  exact ⟨differ, served, clientAuthenticateWithMode_eq_ok.mpr ⟨_, served⟩,
    fun agrees => differ (agrees _ parsed).1⟩

end LiteVpn.Core
