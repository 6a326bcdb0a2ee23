import LiteVpn.Core.Auth

/-!
# Which requests the server accepts

The parser peels a request in layers: magic, UTF-8, one final line feed, lines,
fields. This module states the accepted language without those layers, as a
grammar over the bytes of the request, and proves the two equal.
-/

namespace LiteVpn.Core

open LiteVpn.Strings

/-- A line feed as it stands on the wire. -/
def feed : Bytes := [0x0A]

/-- A carriage return and a line feed as they stand on the wire. -/
def returnFeed : Bytes := [0x0D, 0x0A]

/-- The last, optional field of a bench line and the target it selects. -/
inductive TargetField : List Text → Option UInt64 → Prop where
  | absent : TargetField [] none
  | present {field : Text} {value : UInt64} (decimal : IsDecimal field value.toNat) :
      TargetField [field] (if value = 0 then none else some value)

/-- The fields of a bench line and the parameters they select. -/
structure BenchFields (direction : BenchDirection) (durationSecs payloadBytes : UInt64)
    (targetMbps : Option UInt64) (fields : List Text) : Prop where
  shape : ∃ duration payload target,
    fields = "bench".toList :: direction.asStr :: duration :: payload :: target ∧
      IsDecimal duration durationSecs.toNat ∧ IsDecimal payload payloadBytes.toNat ∧
        TargetField target targetMbps
  durationPositive : 1 ≤ durationSecs.toNat
  payloadLower : 64 ≤ payloadBytes.toNat
  payloadUpper : payloadBytes.toNat ≤ 1452

/-- A line that selects some bench mode. -/
def BenchLine (line : Text) : Prop :=
  ∃ direction durationSecs payloadBytes targetMbps,
    BenchFields direction durationSecs payloadBytes targetMbps (splitWhitespace line)

theorem parseDirection_eq_ok {part : Option Text} {direction : BenchDirection} :
    parseDirection part = .ok direction ↔ part = some direction.asStr := by
  constructor
  · intro parsed
    cases part with
    | none => simp [parseDirection] at parsed
    | some name =>
        simp only [parseDirection] at parsed
        split_ifs at parsed with same same same same same same
        all_goals
          cases parsed
          rw [same]
          rfl
  · rintro rfl
    cases direction <;> decide

theorem parseNumber_eq_ok {missing invalid : AuthError} {part : Option Text} {value : UInt64} :
    parseNumber missing invalid part = .ok value ↔
      ∃ field, part = some field ∧ IsDecimal field value.toNat := by
  cases part with
  | none => simp [parseNumber]
  | some field =>
      simp only [parseNumber, Option.some.injEq, exists_eq_left', ← parseU64_eq_some_iff]
      cases parseU64 field <;> simp

theorem parseTarget_eq_ok {part : Option Text} {target : Option UInt64} :
    parseTarget part = .ok target ↔ TargetField part.toList target := by
  cases part with
  | none =>
      simp only [parseTarget, Except.ok.injEq, Option.toList_none]
      constructor
      · rintro rfl
        exact .absent
      · rintro ⟨⟩
        rfl
  | some field =>
      simp only [parseTarget, Option.toList_some]
      cases parsed : parseU64 field with
      | none =>
          simp only [reduceCtorEq, false_iff]
          intro accepted
          cases accepted with
          | present decimal =>
              rw [← parseU64_eq_some_iff, parsed] at decimal
              cases decimal
      | some value =>
          simp only [Except.ok.injEq]
          constructor
          · rintro rfl
            exact .present (parseU64_eq_some_iff.mp parsed)
          · intro accepted
            cases accepted with
            | present decimal =>
                rw [← parseU64_eq_some_iff, parsed, Option.some.injEq] at decimal
                rw [decimal]

/-- Reading the positions one by one fixes a list of four or five fields. -/
theorem parts_shape {parts : List Text} {first second third fourth : Text} :
    (parts[0]? = some first ∧ parts[1]? = some second ∧ parts[2]? = some third ∧
        parts[3]? = some fourth ∧ parts[5]? = none) ↔
      parts = first :: second :: third :: fourth :: parts[4]?.toList := by
  match parts with
  | [] => simp
  | [_] => simp
  | [_, _] => simp
  | [_, _, _] => simp
  | [_, _, _, _] => simp
  | [_, _, _, _, _] => simp
  | _ :: _ :: _ :: _ :: _ :: _ :: _ => simp

/-- `parse_mode` accepts exactly the bench grammar. -/
theorem parseMode_eq_ok {line : Text} {mode : AuthMode} :
    parseMode line = .ok mode ↔ ∃ direction durationSecs payloadBytes targetMbps,
      mode = .bench direction durationSecs payloadBytes targetMbps ∧
        BenchFields direction durationSecs payloadBytes targetMbps (splitWhitespace line) := by
  generalize same : splitWhitespace line = parts
  simp only [parseMode, same, bind_eq_ok, bailIf_eq_ok, not_not, parseDirection_eq_ok,
    parseNumber_eq_ok, parseTarget_eq_ok, pure, Except.pure, Except.ok.injEq]
  constructor
  · rintro ⟨_, bench, direction, directionField, durationSecs, ⟨duration, durationField, decimal⟩,
      payloadBytes, ⟨payload, payloadField, decimal'⟩, targetMbps, target, _, noMore, _, positive,
      _, range, rfl⟩
    refine ⟨direction, durationSecs, payloadBytes, targetMbps, rfl,
      ⟨duration, payload, parts[4]?.toList, ?_, decimal, decimal', target⟩, ?_, ?_, ?_⟩
    · exact parts_shape.mp ⟨bench, directionField, durationField, payloadField, by simpa using noMore⟩
    · have : durationSecs.toNat ≠ 0 := fun zero => positive (UInt64.toNat_inj.mp zero)
      omega
    · exact UInt64.le_iff_toNat_le.mp range.1
    · exact UInt64.le_iff_toNat_le.mp range.2
  · rintro ⟨direction, durationSecs, payloadBytes, targetMbps, rfl,
      ⟨duration, payload, target, rfl, decimal, decimal', accepted⟩, positive, lower, upper⟩
    have targetPart : target[0]?.toList = target := by
      cases accepted <;> rfl
    refine ⟨(), rfl, direction, rfl, durationSecs, ⟨duration, rfl, decimal⟩, payloadBytes,
      ⟨payload, rfl, decimal'⟩, targetMbps, ?_, (), ?_, (), ?_, (), ?_, rfl⟩
    · simpa [targetPart] using accepted
    · cases accepted <;> simp
    · rintro rfl
      simp at positive
    · exact ⟨UInt64.le_iff_toNat_le.mpr lower, UInt64.le_iff_toNat_le.mpr upper⟩

/-- A request parses exactly when it is the magic, some UTF-8 text whose lines
parse, and one more line feed. -/
theorem parseRequest_eq_ok {request : Bytes} {result : Text × AuthMode} :
    parseRequest request = .ok result ↔ ∃ body : Text,
      request = authMagic ++ encode body ++ feed ∧ parseLines (lines body) = .ok result := by
  have feedEq : feed = encode ['\n'] := by decide
  simp only [parseRequest, bind_eq_ok, context_eq_ok, dropPrefix?_eq_some, fromUtf8_eq_some_iff,
    dropSuffix?_eq_some, feedEq]
  constructor
  · rintro ⟨_, rfl, _, rfl, body, rfl, parsed⟩
    exact ⟨body, by simp, parsed⟩
  · rintro ⟨body, rfl, parsed⟩
    exact ⟨encode (body ++ ['\n']), by simp, body ++ ['\n'], rfl, body, rfl, parsed⟩

theorem parseLines_eq_vpn {all : List Text} {token : Text} :
    parseLines all = .ok (token, .vpn) ↔ all = [token] := by
  match all with
  | [] => simp [parseLines]
  | [only] => simp [parseLines]
  | first :: line :: rest =>
      simp only [parseLines, bind_eq_ok, parseMode_eq_ok, pure, Except.pure, Except.ok.injEq,
        Prod.mk.injEq, List.cons.injEq, reduceCtorEq, and_false, iff_false]
      rintro ⟨mode, ⟨direction, durationSecs, payloadBytes, targetMbps, rfl, _⟩, _, _, _, other⟩
      cases other

theorem parseLines_eq_bench {all : List Text} {token : Text} {direction : BenchDirection}
    {durationSecs payloadBytes : UInt64} {targetMbps : Option UInt64} :
    parseLines all = .ok (token, .bench direction durationSecs payloadBytes targetMbps) ↔
      ∃ line, all = [token, line] ∧
        BenchFields direction durationSecs payloadBytes targetMbps (splitWhitespace line) := by
  match all with
  | [] => simp [parseLines]
  | [only] => simp [parseLines]
  | first :: line :: rest =>
      simp only [parseLines, bind_eq_ok, parseMode_eq_ok, bailIf_eq_ok, not_not, pure, Except.pure,
        Except.ok.injEq, Prod.mk.injEq, List.cons.injEq]
      constructor
      · rintro ⟨mode, ⟨_, _, _, _, rfl, fields⟩, _, rfl, rfl, same⟩
        cases same
        exact ⟨line, ⟨rfl, rfl, rfl⟩, fields⟩
      · rintro ⟨_, ⟨rfl, rfl, rfl⟩, fields⟩
        exact ⟨_, ⟨_, _, _, _, rfl, fields⟩, (), rfl, rfl, rfl⟩

/-- A first line equal to a token stands in the text with or without a
carriage return: the token itself ends in none. -/
theorem stripReturn_eq_token {token : Token} {line : Text} :
    stripReturn line = token.text ↔ line = token.text ∨ line = token.text ++ ['\r'] := by
  constructor
  · exact eq_or_eq_append_of_stripReturn
  · rintro (rfl | rfl)
    · exact stripReturn_of_not_suffix (token.not_suffix (by decide))
    · exact stripReturn_append_return _

/-- The texts whose only line is a token without line feeds. -/
theorem lines_eq_token {token : Token} (free : '\n' ∉ token.text) {body : Text} :
    lines body = [token.text] ↔ body = token.text ∨ body = token.text ++ ['\n'] ∨
      body = token.text ++ ['\r', '\n'] := by
  rw [lines_eq_singleton_iff]
  constructor
  · rintro (⟨_, _, same⟩ | ⟨first, _, rfl, stripped⟩)
    · exact .inl same.symm
    · rcases stripReturn_eq_token.mp stripped.symm with rfl | rfl
      · exact .inr (.inl rfl)
      · exact .inr (.inr (by simp))
  · rintro (rfl | rfl | rfl)
    · exact .inl ⟨free, token.ne_nil, rfl⟩
    · exact .inr ⟨token.text, free, rfl, (stripReturn_eq_token.mpr (.inl rfl)).symm⟩
    · exact .inr ⟨token.text ++ ['\r'], by simpa using free, by simp,
        (stripReturn_eq_token.mpr (.inr rfl)).symm⟩

/-- The texts made of a token line and a second line whose fields satisfy a
predicate that the empty line does not. -/
theorem lines_eq_token_pair {token : Token} (free : '\n' ∉ token.text) {body : Text}
    {Fields : List Text → Prop} (nonempty : ¬ Fields []) :
    (∃ line, lines body = [token.text, line] ∧ Fields (splitWhitespace line)) ↔
      ∃ line : Text, '\n' ∉ line ∧ Fields (splitWhitespace line) ∧
        ∃ ending ∈ [['\n'], ['\r', '\n']], ∃ tail ∈ [[], ['\n']],
          body = token.text ++ ending ++ line ++ tail := by
  constructor
  · rintro ⟨second, pair, fields⟩
    obtain ⟨first, rest, _, rfl, stripped, single⟩ := lines_eq_cons_cons_iff.mp pair
    have ending : ∃ ending ∈ [['\n'], ['\r', '\n']], first ++ ['\n'] = token.text ++ ending := by
      rcases stripReturn_eq_token.mp stripped.symm with rfl | rfl
      · exact ⟨['\n'], by simp, rfl⟩
      · exact ⟨['\r', '\n'], by simp, by simp⟩
    obtain ⟨ending, member, joined⟩ := ending
    rcases lines_eq_singleton_iff.mp single with ⟨lineFree, _, rfl⟩ | ⟨line, lineFree, rfl, rfl⟩
    · exact ⟨second, lineFree, fields, ending, member, [], by simp, by simp [← joined]⟩
    · rw [splitWhitespace_stripReturn] at fields
      exact ⟨line, lineFree, fields, ending, member, ['\n'], by simp, by simp [← joined]⟩
  · rintro ⟨line, lineFree, fields, ending, member, tail, tailMember, rfl⟩
    have lineNonempty : line ≠ [] := by
      rintro rfl
      exact nonempty (by simpa using fields)
    have first : ∃ first : Text, '\n' ∉ first ∧ stripReturn first = token.text ∧
        first ++ ['\n'] = token.text ++ ending := by
      simp only [List.mem_cons, List.not_mem_nil, or_false] at member
      rcases member with rfl | rfl
      · exact ⟨token.text, free, stripReturn_eq_token.mpr (.inl rfl), rfl⟩
      · exact ⟨token.text ++ ['\r'], by simpa using free, stripReturn_append_return _, by simp⟩
    obtain ⟨first, firstFree, stripped, joined⟩ := first
    have split : token.text ++ ending ++ line ++ tail = first ++ '\n' :: (line ++ tail) := by
      simp [← joined]
    rw [split, lines_append_cons firstFree, stripped]
    simp only [List.mem_cons, List.not_mem_nil, or_false] at tailMember
    rcases tailMember with rfl | rfl
    · exact ⟨line, by rw [List.append_nil, lines_of_not_mem lineFree lineNonempty], fields⟩
    · exact ⟨stripReturn line, by rw [lines_append_cons lineFree, lines_nil], by simpa using fields⟩

/-- No bench line is blank. -/
theorem not_benchFields_nil {direction : BenchDirection} {durationSecs payloadBytes : UInt64}
    {targetMbps : Option UInt64} :
    ¬ BenchFields direction durationSecs payloadBytes targetMbps [] := by
  rintro ⟨⟨_, _, _, same, _⟩, _, _, _⟩
  cases same

/-- The token a request carries is one line of it. -/
theorem not_mem_of_parseRequest {request : Bytes} {token : Text} {mode : AuthMode}
    (parsed : parseRequest request = .ok (token, mode)) : '\n' ∉ token := by
  obtain ⟨body, _, parsed⟩ := parseRequest_eq_ok.mp parsed
  cases mode with
  | vpn =>
      rw [parseLines_eq_vpn] at parsed
      have member : token ∈ lines body := by simp [parsed]
      exact not_mem_of_mem_lines member
  | bench direction durationSecs payloadBytes targetMbps =>
      obtain ⟨line, pair, _⟩ := parseLines_eq_bench.mp parsed
      have member : token ∈ lines body := by simp [pair]
      exact not_mem_of_mem_lines member

/-- The requests that select VPN mode with a given token. -/
theorem parseRequest_eq_vpn {token : Token} (free : '\n' ∉ token.text) {request : Bytes} :
    parseRequest request = .ok (token.text, .vpn) ↔
      request ∈ [authMagic ++ encode token.text ++ feed,
        authMagic ++ encode token.text ++ feed ++ feed,
        authMagic ++ encode token.text ++ returnFeed ++ feed] := by
  have feedEq : feed = encode ['\n'] := by decide
  have returnFeedEq : returnFeed = encode ['\r', '\n'] := by decide
  simp only [parseRequest_eq_ok, parseLines_eq_vpn, lines_eq_token free, List.mem_cons,
    List.not_mem_nil, or_false]
  constructor
  · rintro ⟨body, rfl, rfl | rfl | rfl⟩
    · exact .inl rfl
    · exact .inr (.inl (by simp [feedEq]))
    · exact .inr (.inr (by simp [returnFeedEq]))
  · rintro (rfl | rfl | rfl)
    · exact ⟨token.text, rfl, .inl rfl⟩
    · exact ⟨token.text ++ ['\n'], by simp [feedEq], .inr (.inl rfl)⟩
    · exact ⟨token.text ++ ['\r', '\n'], by simp [returnFeedEq], .inr (.inr rfl)⟩

/-- The requests that select a bench mode with a given token. -/
theorem parseRequest_eq_bench {token : Token} (free : '\n' ∉ token.text) {request : Bytes}
    {direction : BenchDirection} {durationSecs payloadBytes : UInt64}
    {targetMbps : Option UInt64} :
    parseRequest request =
        .ok (token.text, .bench direction durationSecs payloadBytes targetMbps) ↔
      ∃ line : Text, '\n' ∉ line ∧
        BenchFields direction durationSecs payloadBytes targetMbps (splitWhitespace line) ∧
          ∃ ending ∈ [feed, returnFeed], ∃ tail ∈ [feed, feed ++ feed],
            request = authMagic ++ encode token.text ++ ending ++ encode line ++ tail := by
  have endings : [feed, returnFeed] = [['\n'], ['\r', '\n']].map encode := by decide
  have tails : [feed, feed ++ feed] = [[], ['\n']].map fun tail => encode tail ++ feed := by
    decide
  simp only [parseRequest_eq_ok, parseLines_eq_bench, lines_eq_token_pair free not_benchFields_nil]
  rw [endings, tails]
  constructor
  · rintro ⟨body, rfl, line, lineFree, fields, ending, member, tail, tailMember, rfl⟩
    exact ⟨line, lineFree, fields, encode ending, List.mem_map_of_mem member,
      encode tail ++ feed, List.mem_map_of_mem (f := fun tail => encode tail ++ feed) tailMember,
      by simp⟩
  · rintro ⟨line, lineFree, fields, _, member, _, tailMember, rfl⟩
    obtain ⟨ending, known, rfl⟩ := List.mem_map.mp member
    obtain ⟨tail, tailKnown, rfl⟩ := List.mem_map.mp tailMember
    exact ⟨token.text ++ ending ++ line ++ tail, by simp, line, lineFree, fields, ending, known,
      tail, tailKnown, rfl⟩

/-- Every request that parses with a given token starts with the magic, the
token and a line ending. -/
theorem parseRequest_starts {token : Token} {request : Bytes} {mode : AuthMode}
    (parsed : parseRequest request = .ok (token.text, mode)) :
    authMagic ++ encode token.text ++ feed <+: request ∨
      authMagic ++ encode token.text ++ returnFeed <+: request := by
  have free := not_mem_of_parseRequest parsed
  cases mode with
  | vpn =>
      rw [parseRequest_eq_vpn free] at parsed
      simp only [List.mem_cons, List.not_mem_nil, or_false] at parsed
      rcases parsed with rfl | rfl | rfl
      · exact .inl (List.prefix_refl _)
      · exact .inl (List.prefix_append _ _)
      · exact .inr (List.prefix_append _ _)
  | bench direction durationSecs payloadBytes targetMbps =>
      obtain ⟨line, _, _, ending, member, tail, _, rfl⟩ := (parseRequest_eq_bench free).mp parsed
      simp only [List.mem_cons, List.not_mem_nil, or_false] at member
      rcases member with rfl | rfl
      · exact .inl (by rw [List.append_assoc _ _ tail]; exact List.prefix_append _ _)
      · exact .inr (by rw [List.append_assoc _ _ tail]; exact List.prefix_append _ _)

/-- The exact language of `server_authenticate`: nothing for a token with a line
feed in it, otherwise three VPN requests and the bench grammar. -/
theorem serverAuthenticate_accepts (token : Token) (request : Bytes)
    (short : request.length ≤ maxAuthBytes) :
    ('\n' ∈ token.text → ∀ mode, (serverAuthenticate token.text request).outcome ≠ .ok mode) ∧
      ('\n' ∉ token.text →
        ((serverAuthenticate token.text request).outcome = .ok .vpn ↔
          request ∈ [authMagic ++ encode token.text ++ feed,
            authMagic ++ encode token.text ++ feed ++ feed,
            authMagic ++ encode token.text ++ returnFeed ++ feed]) ∧
        ∀ direction durationSecs payloadBytes targetMbps,
          (serverAuthenticate token.text request).outcome =
              .ok (.bench direction durationSecs payloadBytes targetMbps) ↔
            ∃ line : Text, '\n' ∉ line ∧
              BenchFields direction durationSecs payloadBytes targetMbps (splitWhitespace line) ∧
                ∃ ending ∈ [feed, returnFeed], ∃ tail ∈ [feed, feed ++ feed],
                  request = authMagic ++ encode token.text ++ ending ++ encode line ++ tail) ∧
      ∀ mode, (serverAuthenticate token.text request).outcome = .ok mode →
        authMagic ++ encode token.text ++ feed <+: request ∨
          authMagic ++ encode token.text ++ returnFeed <+: request := by
  simp only [ne_eq, serverAuthenticate_eq_ok, short, true_and]
  refine ⟨fun member mode parsed => not_mem_of_parseRequest parsed member, fun free => ?_,
    fun mode parsed => parseRequest_starts parsed⟩
  exact ⟨parseRequest_eq_vpn free, fun _ _ _ _ => parseRequest_eq_bench free⟩

/-- A token of the shortest admitted length. -/
def sampleToken : Token where
  text := "0123456789abcdef0123456789abcdef".toList
  trimmed := by decide
  long := by decide

/-- The acceptance theorem at the plain VPN request of `sampleToken`. -/
theorem serverAuthenticate_accepts_sampleToken :
    (serverAuthenticate sampleToken.text
      (authMagic ++ encode sampleToken.text ++ feed)).outcome = .ok .vpn :=
  ((serverAuthenticate_accepts sampleToken _ (by decide)).2.1 (by decide)).1.mpr
    List.mem_cons_self

end LiteVpn.Core
