import LiteVpn.Core.AuthAgreement
import Mathlib.Algebra.Group.Int.Defs

/-!
# Deadlines of the server's bench handlers

Each of the four handlers computes one deadline from the duration its client
asked for; the upload handlers first add a second for the drain window. Both
sums are checked here: a sum that leaves its type is an `Overflow`, whatever
the build profile then makes of it (a panic, which a release build turns into
an abort, or a wrapped duration).
-/

namespace LiteVpn.Server

open LiteVpn.Core LiteVpn.Strings

/-- A point of the monotonic clock: a signed 64-bit count of seconds and the
nanoseconds above it. -/
structure Instant where
  secs : Int
  nanos : Nat
  secsLower : -2 ^ 63 ≤ secs
  secsUpper : secs < 2 ^ 63
  nanosBound : nanos < 10 ^ 9

/-- Which sum left its type. -/
inductive Overflow where
  | duration
  | instant
deriving DecidableEq, Repr

/-- `u64` addition. -/
def addSecs (durationSecs : UInt64) (extra : Nat) : Except Overflow UInt64 :=
  if durationSecs.toNat + extra < 2 ^ 64 then .ok (UInt64.ofNat (durationSecs.toNat + extra))
  else .error .duration

/-- `Instant + Duration::from_secs(secs)`. Whole seconds leave the nanoseconds
as they are, so there is no carry. -/
def Instant.addDuration (started : Instant) (secs : UInt64) : Except Overflow Instant :=
  if fits : started.secs + secs.toNat < 2 ^ 63 then
    .ok { started with
      secs := started.secs + secs.toNat
      secsLower := by have := started.secsLower; omega
      secsUpper := fits }
  else .error .instant

def runUploadBenchDeadline (started : Instant) (durationSecs : UInt64) :
    Except Overflow Instant := do
  let secs ← addSecs durationSecs 1
  started.addDuration secs

def runDownloadBenchDeadline (started : Instant) (durationSecs : UInt64) :
    Except Overflow Instant :=
  started.addDuration durationSecs

def runStreamUploadBenchDeadline (started : Instant) (durationSecs : UInt64) :
    Except Overflow Instant := do
  let secs ← addSecs durationSecs 1
  started.addDuration secs

def runStreamDownloadBenchDeadline (started : Instant) (durationSecs : UInt64) :
    Except Overflow Instant :=
  started.addDuration durationSecs

/-- The dispatch of `run_bench`, reduced to the deadlines. -/
def runBenchDeadline (direction : BenchDirection) (started : Instant) (durationSecs : UInt64) :
    Except Overflow Instant :=
  match direction with
  | .upload => runUploadBenchDeadline started durationSecs
  | .download => runDownloadBenchDeadline started durationSecs
  | .streamUpload => runStreamUploadBenchDeadline started durationSecs
  | .streamDownload => runStreamDownloadBenchDeadline started durationSecs
  | .streamPacketUpload => runStreamUploadBenchDeadline started durationSecs
  | .streamPacketDownload => runStreamDownloadBenchDeadline started durationSecs

/-- The seconds a direction's handler adds to the requested duration. -/
def drainSecs : BenchDirection → Nat
  | .upload | .streamUpload | .streamPacketUpload => 1
  | .download | .streamDownload | .streamPacketDownload => 0

theorem addDuration_ok_iff {started : Instant} {secs : UInt64} :
    (∃ deadline, started.addDuration secs = .ok deadline) ↔ started.secs + secs.toNat < 2 ^ 63 := by
  unfold Instant.addDuration
  split
  · rename_i fits
    exact iff_of_true ⟨_, rfl⟩ fits
  · rename_i overflows
    exact iff_of_false (by simp) overflows

theorem addSecs_eq_ok {durationSecs secs : UInt64} {extra : Nat} :
    addSecs durationSecs extra = .ok secs ↔ secs.toNat = durationSecs.toNat + extra := by
  have bound := secs.toNat_lt
  unfold addSecs
  split
  · rename_i fits
    rw [Except.ok.injEq, ← UInt64.toNat_inj, UInt64.toNat_ofNat_of_lt' fits]
    exact eq_comm
  · simp only [reduceCtorEq, false_iff]
    omega

/-- A deadline with a drain second exists when both sums fit. -/
theorem drained_ok_iff {started : Instant} {durationSecs : UInt64} {extra : Nat} :
    (∃ deadline, (addSecs durationSecs extra >>= started.addDuration) = .ok deadline) ↔
      durationSecs.toNat + extra < 2 ^ 64 ∧
        started.secs + durationSecs.toNat + extra < 2 ^ 63 := by
  simp only [bind_eq_ok, addSecs_eq_ok]
  constructor
  · rintro ⟨deadline, secs, sum, added⟩
    have fits := addDuration_ok_iff.mp ⟨deadline, added⟩
    have bound := secs.toNat_lt
    omega
  · rintro ⟨sumFits, instantFits⟩
    have sum : (UInt64.ofNat (durationSecs.toNat + extra)).toNat = durationSecs.toNat + extra :=
      UInt64.toNat_ofNat_of_lt' sumFits
    obtain ⟨deadline, added⟩ := addDuration_ok_iff.mpr
      (by omega : started.secs + (UInt64.ofNat (durationSecs.toNat + extra)).toNat < 2 ^ 63)
    exact ⟨deadline, _, sum, added⟩

/-- When the handler of a direction computes its deadline without overflow. -/
theorem runBenchDeadline_ok_iff {direction : BenchDirection} {started : Instant}
    {durationSecs : UInt64} :
    (∃ deadline, runBenchDeadline direction started durationSecs = .ok deadline) ↔
      durationSecs.toNat + drainSecs direction < 2 ^ 64 ∧
        started.secs + durationSecs.toNat + drainSecs direction < 2 ^ 63 := by
  have bound := durationSecs.toNat_lt
  cases direction with
  | upload | streamUpload | streamPacketUpload => exact drained_ok_iff
  | download | streamDownload | streamPacketDownload =>
      refine addDuration_ok_iff.trans ?_
      simp only [drainSecs]
      omega

/-- The bytes of the bench requests a server with this token accepts, with the
parameters they spell. -/
def SpellsBench (token : Token) (request : Bytes) (direction : BenchDirection)
    (durationSecs payloadBytes : UInt64) (targetMbps : Option UInt64) : Prop :=
  request.length ≤ maxAuthBytes ∧ '\n' ∉ token.text ∧ ∃ line : Text, '\n' ∉ line ∧
    BenchFields direction durationSecs payloadBytes targetMbps (splitWhitespace line) ∧
      ∃ ending ∈ [feed, returnFeed], ∃ tail ∈ [feed, feed ++ feed],
        request = authMagic ++ encode token.text ++ ending ++ encode line ++ tail

theorem serverAuthenticate_eq_bench {token : Token} {request : Bytes}
    {direction : BenchDirection} {durationSecs payloadBytes : UInt64}
    {targetMbps : Option UInt64} :
    (serverAuthenticate token.text request).outcome =
        .ok (.bench direction durationSecs payloadBytes targetMbps) ↔
      SpellsBench token request direction durationSecs payloadBytes targetMbps := by
  rw [serverAuthenticate_eq_ok, SpellsBench]
  refine and_congr_right fun _ => ?_
  constructor
  · intro parsed
    have free := not_mem_of_parseRequest parsed
    exact ⟨free, (parseRequest_eq_bench free).mp parsed⟩
  · rintro ⟨free, spelled⟩
    exact (parseRequest_eq_bench free).mpr spelled

/-- The handler that an accepted request selects computes its deadline without
overflow. -/
def DeadlineSafe (token : Token) (request : Bytes) (started : Instant) : Prop :=
  ∀ direction durationSecs payloadBytes targetMbps,
    (serverAuthenticate token.text request).outcome =
        .ok (.bench direction durationSecs payloadBytes targetMbps) →
      ∃ deadline, runBenchDeadline direction started durationSecs = .ok deadline

/-- A request is safe to time exactly when the duration it spells, the drain
second included, fits in 64 bits and behind the start on the clock. -/
theorem deadlineSafe_iff (token : Token) (request : Bytes) (started : Instant) :
    DeadlineSafe token request started ↔
      ∀ direction durationSecs payloadBytes targetMbps,
        SpellsBench token request direction durationSecs payloadBytes targetMbps →
          durationSecs.toNat + drainSecs direction < 2 ^ 64 ∧
            started.secs + durationSecs.toNat + drainSecs direction < 2 ^ 63 := by
  simp only [DeadlineSafe, serverAuthenticate_eq_bench, runBenchDeadline_ok_iff]

/-- The longest upload bench a client can ask for. -/
def longestUpload : AuthMode := .bench .upload 18446744073709551615 64 none

/-- The longest download bench a client can ask for. -/
def longestDownload : AuthMode := .bench .download 18446744073709551615 64 none

/-- The server accepts both of them. The upload handler's sum leaves `u64` at every
start on the clock, and the download handler's leaves `Instant` at every start
that is not negative. -/
theorem longest_overflows :
    (serverAuthenticate sampleToken.text (clientRequest sampleToken.text longestUpload)).outcome =
        .ok longestUpload ∧
      (serverAuthenticate sampleToken.text
        (clientRequest sampleToken.text longestDownload)).outcome = .ok longestDownload ∧
      (∀ started, runBenchDeadline .upload started 18446744073709551615 = .error .duration) ∧
      (∀ started : Instant, 0 ≤ started.secs →
        runBenchDeadline .download started 18446744073709551615 = .error .instant) ∧
      ∀ started,
        ¬ DeadlineSafe sampleToken (clientRequest sampleToken.text longestUpload) started := by
  have accepted : ∀ mode ∈ [longestUpload, longestDownload],
      (serverAuthenticate sampleToken.text (clientRequest sampleToken.text mode)).outcome =
        .ok mode := by
    intro mode member
    rw [serverAuthenticate_eq_ok, parseRequest_clientRequest]
    simp only [List.mem_cons, List.not_mem_nil, or_false] at member
    rcases member with rfl | rfl <;> exact ⟨by decide, by decide⟩
  have overflows : ∀ started,
      runBenchDeadline .upload started 18446744073709551615 = .error .duration := by
    intro started
    rfl
  refine ⟨accepted _ (by simp), accepted _ (by simp), overflows, ?_, ?_⟩
  · intro started positive
    have large : ¬ started.secs + (18446744073709551615 : UInt64).toNat < 2 ^ 63 := by
      have : (18446744073709551615 : UInt64).toNat = 18446744073709551615 := rfl
      omega
    simp only [runBenchDeadline, runDownloadBenchDeadline, Instant.addDuration, dif_neg large]
  · intro started safe
    obtain ⟨deadline, computed⟩ := safe _ _ _ _ (accepted longestUpload (by simp))
    rw [overflows] at computed
    cases computed

end LiteVpn.Server
