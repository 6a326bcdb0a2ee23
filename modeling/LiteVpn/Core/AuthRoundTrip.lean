import LiteVpn.Core.AuthAgreement

/-!
# Which requests come back as they were sent

The encoder escapes nothing and the parser splits lines before it looks at
fields, so not every token and mode survives the trip. The two modes lose
different things: a lone token line is read without an ending and keeps its
carriage return, while a token in front of a bench line has a line feed behind
it and loses one.
-/

namespace LiteVpn.Core

open LiteVpn.Strings

/-- What a mode asks of its token and of its own parameters to be read back. -/
def ReadBack (token : Text) : AuthMode → Prop
  | .vpn => token ≠ []
  | .bench _ durationSecs payloadBytes targetMbps =>
      ¬ ['\r'] <:+ token ∧ 1 ≤ durationSecs.toNat ∧ 64 ≤ payloadBytes.toNat ∧
        payloadBytes.toNat ≤ 1452 ∧ targetMbps ≠ some 0

/-- Only a text that is already one unterminated line is its own single line. -/
theorem lines_eq_singleton_self_iff {text : Text} :
    lines text = [text] ↔ '\n' ∉ text ∧ text ≠ [] := by
  rw [lines_eq_singleton_iff]
  constructor
  · rintro (⟨free, nonempty, _⟩ | ⟨body, free, same, stripped⟩)
    · exact ⟨free, nonempty⟩
    · -- The text would be its own body with a line feed less.
      have feed : '\n' ∈ text := by simp [same]
      rw [stripped] at feed
      exact absurd (mem_of_mem_stripReturn feed) free
  · rintro ⟨free, nonempty⟩
    exact .inl ⟨free, nonempty, rfl⟩

/-- A terminated line is read as itself exactly when it ends in no carriage
return. -/
theorem stripReturn_eq_self_iff {line : Text} : stripReturn line = line ↔ ¬ ['\r'] <:+ line := by
  constructor
  · rintro same ⟨body, rfl⟩
    rw [stripReturn_append_return] at same
    simpa using congrArg List.length same
  · exact stripReturn_of_not_suffix

/-- The printed target field selects the target it was printed from, unless
that is zero. -/
theorem targetField_displayU64_iff {targetMbps : Option UInt64} :
    TargetField [displayU64 (targetMbps.getD 0)] targetMbps ↔ targetMbps ≠ some 0 := by
  have printed : TargetField [displayU64 (targetMbps.getD 0)]
      (if targetMbps.getD 0 = 0 then none else some (targetMbps.getD 0)) :=
    .present (isDecimal_displayU64 _)
  constructor
  · rintro accepted rfl
    generalize chosen : some (0 : UInt64) = target at accepted
    cases accepted with
    | present decimal =>
        split_ifs at chosen with zero
        exact zero (Option.some.inj chosen).symm
  · intro nonzero
    cases targetMbps with
    | none => simpa using printed
    | some value =>
        have positive : value ≠ 0 := fun zero => nonzero (by rw [zero])
        simpa [positive] using printed

/-- The bench line the client prints selects the client's parameters exactly
when they are in the server's ranges and the target is not a written zero. -/
theorem benchFields_benchText_iff {direction : BenchDirection}
    {durationSecs payloadBytes : UInt64} {targetMbps : Option UInt64} :
    BenchFields direction durationSecs payloadBytes targetMbps
        (splitWhitespace (benchText direction durationSecs payloadBytes (targetMbps.getD 0))) ↔
      1 ≤ durationSecs.toNat ∧ 64 ≤ payloadBytes.toNat ∧ payloadBytes.toNat ≤ 1452 ∧
        targetMbps ≠ some 0 := by
  rw [splitWhitespace_benchText, ← targetField_displayU64_iff]
  constructor
  · rintro ⟨⟨duration, payload, target, same, _, _, accepted⟩, positive, lower, upper⟩
    simp only [List.cons.injEq, true_and] at same
    obtain ⟨_, _, rfl⟩ := same
    exact ⟨positive, lower, upper, accepted⟩
  · rintro ⟨positive, lower, upper, accepted⟩
    exact ⟨⟨_, _, _, rfl, isDecimal_displayU64 _, isDecimal_displayU64 _, accepted⟩, positive,
      lower, upper⟩

/-- The lines of a bench request whose token is free of line feeds. -/
theorem lines_clientBody_bench {token : Text} (free : '\n' ∉ token) {direction : BenchDirection}
    {durationSecs payloadBytes : UInt64} {targetMbps : Option UInt64} :
    lines (clientBody token (.bench direction durationSecs payloadBytes targetMbps)) =
      [stripReturn token,
        benchText direction durationSecs payloadBytes (targetMbps.getD 0)] := by
  have nonempty : benchText direction durationSecs payloadBytes (targetMbps.getD 0) ≠ [] := by
    simp [benchText]
  rw [clientBody, lines_append_cons free, lines_of_not_mem not_mem_benchText nonempty]

/-- A VPN request is read back exactly when its token is one non-empty line. -/
theorem parseRequest_self_vpn {token : Text} :
    parseRequest (clientRequest token .vpn) = .ok (token, .vpn) ↔ '\n' ∉ token ∧ token ≠ [] := by
  rw [parseRequest_clientRequest, parseLines_eq_vpn, clientBody, lines_eq_singleton_self_iff]

/-- A bench request whose token is free of line feeds is read back exactly when
the token keeps its end and the parameters are in range. -/
theorem parseRequest_self_bench {token : Text} (free : '\n' ∉ token) {direction : BenchDirection}
    {durationSecs payloadBytes : UInt64} {targetMbps : Option UInt64} :
    parseRequest (clientRequest token (.bench direction durationSecs payloadBytes targetMbps)) =
        .ok (token, .bench direction durationSecs payloadBytes targetMbps) ↔
      ReadBack token (.bench direction durationSecs payloadBytes targetMbps) := by
  rw [parseRequest_clientRequest, parseLines_eq_bench, lines_clientBody_bench free, ReadBack,
    ← stripReturn_eq_self_iff, ← @benchFields_benchText_iff direction]
  constructor
  · rintro ⟨line, pair, fields⟩
    simp only [List.cons.injEq, and_true] at pair
    obtain ⟨same, rfl⟩ := pair
    exact ⟨same, fields⟩
  · rintro ⟨same, fields⟩
    exact ⟨_, by rw [same], fields⟩

/-- The server reads back the token and the mode the client wrote exactly when
the token is free of line feeds and the mode meets its own conditions. -/
theorem parseRequest_clientRequest_self_iff (token : Text) (mode : AuthMode) :
    parseRequest (clientRequest token mode) = .ok (token, mode) ↔
      '\n' ∉ token ∧ ReadBack token mode := by
  cases mode with
  | vpn => exact parseRequest_self_vpn
  | bench direction durationSecs payloadBytes targetMbps =>
      constructor
      · intro parsed
        have free := not_mem_of_parseRequest parsed
        exact ⟨free, (parseRequest_self_bench free).mp parsed⟩
      · rintro ⟨free, readBack⟩
        exact (parseRequest_self_bench free).mpr readBack

end LiteVpn.Core
