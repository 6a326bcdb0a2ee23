import LiteVpn.Client.LifecycleSafety

/-!
# A series of benches

A client that benches connects once for each run, measures once on each
connection, closes it, and adds up exactly what it has measured. It stops at the
first run that fails. `marks` reads off a log what became of the connections, one
after the other.
-/

namespace LiteVpn.Client

open LiteVpn.Strings
open LiteVpn.Core
open LiteVpn.Semantics
open LiteVpn.Bench

/-- What happens to a connection of the client. -/
inductive Mark where
  | connected
  | admitted (mode : AuthMode)
  | benched (mode : AuthMode) (outcome : Except Text BenchMeasurement)
  | closed

def Event.mark? : Event → Option Mark
  | .attempt (.ok _) => some .connected
  | .authenticate mode (.ok _) => some (.admitted mode)
  | .bench mode outcome => some (.benched mode outcome)
  | .close _ => some .closed
  | _ => none

def Event.isAttempt : Event → Bool
  | .attempt _ => true
  | _ => false

/-- What became of the connections of a log, in its order. -/
def marks (log : List Event) : List Mark := log.filterMap Event.mark?

def attempts (log : List Event) : Nat := log.countP Event.isAttempt

/-- One run of a series: a connection of its own, admitted, measured in the mode of
its admission, and closed. -/
def round (mode : AuthMode) (measurement : BenchMeasurement) : List Mark :=
  [.connected, .admitted mode, .benched mode (.ok measurement), .closed]

/-- Run after run. -/
def rounds (mode : AuthMode) (measured : List BenchMeasurement) : List Mark :=
  measured.flatMap (round mode)

/-- What a run leaves that was not measured: no connection, one that was not
admitted, one whose bench failed, or one whose bench was refused for its duration. -/
inductive Broken (mode : AuthMode) : List Mark → Prop where
  | unconnected : Broken mode []
  | unadmitted : Broken mode [.connected]
  | failed (reason : Text) :
      Broken mode [.connected, .admitted mode, .benched mode (.error reason), .closed]
  | refused : Broken mode [.connected, .admitted mode, .closed]

/-- The log shows these marks, and not too many attempts. -/
structure Marked (shown : List Mark) (most : Nat) (log : List Event) : Prop where
  shows : marks log = shown
  attempted : attempts log ≤ most

/-- A series that is over: as many rounds as runs, all in one mode, and the totals of
exactly these measurements. -/
def Finished (runs retries : Nat) (log : List Event) : Prop :=
  ∃ mode measured, measured.length = runs ∧ Marked (rounds mode measured) (runs * retries) log ∧
    log.getLast? = some (.aggregate (printBenchAggregate measured))

/-- A series that has stopped early: fewer rounds than runs, all in one mode, and
behind them what is left of a run that broke. -/
def Stopped (runs retries : Nat) (log : List Event) : Prop :=
  ∃ mode measured last, measured.length < runs ∧ Broken mode last ∧
    Marked (rounds mode measured ++ last) (runs * retries) log

/-- What a client that benches has done when it leaves with an error. -/
def Interrupted (runs retries : Nat) (log : List Event) : Prop :=
  Marked [] 0 log ∨ Stopped runs retries log

variable {shown : List Mark} {most : Nat} {surroundings : Surroundings}

/-- One more event. -/
theorem Marked.snoc {log : List Event} (marked : Marked shown most log) (event : Event) :
    Marked (shown ++ event.mark?.toList) (most + if event.isAttempt then 1 else 0)
      (log ++ [event]) := by
  obtain ⟨shows, attempted⟩ := marked
  constructor
  · rw [← shows, marks, List.filterMap_append]
    cases found : event.mark? <;> simp [found, marks]
  · rw [attempts, List.countP_append, List.countP_singleton]
    exact Nat.add_le_add_right attempted _

/-- Events that concern no connection. -/
def Event.Unmarked (event : Event) : Prop := event.mark? = none ∧ event.isAttempt = false

theorem Marked.unmarked {log : List Event} (marked : Marked shown most log) {event : Event}
    (none : event.Unmarked) : Marked shown most (log ++ [event]) := by
  obtain ⟨noMark, noAttempt⟩ := none
  simpa [noMark, noAttempt] using marked.snoc event

theorem Marked.mono {log : List Event} (marked : Marked shown most log) {more : Nat}
    (enough : most ≤ more) : Marked shown more log :=
  ⟨marked.shows, Nat.le_trans marked.attempted enough⟩

theorem emit_unmarked {Failed : Failure → List Event → Prop} {event : Event}
    (none : event.Unmarked) :
    Triple (Marked shown most) (emit event) (fun _ => Marked shown most) Failed :=
  triple_emit fun _ marked => marked.unmarked none

theorem emit_close {Failed : Failure → List Event → Prop} (reason : String) :
    Triple (Marked shown most) (emit (.close reason)) (fun _ => Marked (shown ++ [.closed]) most)
      Failed :=
  triple_emit fun _ marked => marked.snoc (.close reason)

theorem perform_marked {Value : Type} {Failed : Failure → List Event → Prop}
    (answers : Nat → Value) (event : Value → Event) :
    Triple (Marked shown most) (perform answers event)
      (fun answer => Marked (shown ++ (event answer).mark?.toList)
        (most + if (event answer).isAttempt then 1 else 0)) Failed :=
  triple_perform fun _ answer marked => marked.snoc (event answer)

theorem connectOnce_marked :
    Triple (Marked shown most) (connectOnce surroundings)
      (fun _ => Marked (shown ++ [.connected]) (most + 1))
      (fun _ => Marked shown (most + 1)) := by
  refine (perform_marked _ _).bind fun outcome log marked => ?_
  cases outcome with
  | ok => exact marked
  | error reason =>
      simp only [Event.mark?, Option.toList_none, List.append_nil] at marked
      exact marked

/-- One connection at most, and no more attempts than there are numbers left. -/
theorem connectAttempts_marked {retries : Nat} {delayMs : UInt64} (left : List Nat) :
    Triple (Marked shown most) (connectAttempts surroundings retries delayMs left)
      (fun _ => Marked (shown ++ [.connected]) (most + left.length))
      (fun _ => Marked shown (most + left.length)) := by
  induction left generalizing most with
  | nil => exact fun _ marked => marked
  | cons attempt rest inductionHypothesis =>
      have enough : most + 1 ≤ most + (rest.length + 1) := by omega
      rw [connectAttempts, List.length_cons]
      refine connectOnce_marked.result.bind fun ended => ?_
      cases ended with
      | ok => exact fun _ marked => Marked.mono marked enough
      | error failure =>
          dsimp only
          split
          · exact fun _ marked => Marked.mono marked enough
          · have silent : (Event.sleep delayMs).Unmarked := ⟨rfl, rfl⟩
            have further := @inductionHypothesis (most + 1)
            rw [Nat.add_assoc, Nat.add_comm 1] at further
            exact (Triple.onlyIf_keeps fun _ => emit_unmarked silent).bind fun _ => further

theorem connectClient_marked {retries delayMs : UInt64} :
    Triple (Marked shown most) (connectClient surroundings retries delayMs)
      (fun _ => Marked (shown ++ [.connected]) (most + retries.toNat))
      (fun _ => Marked shown (most + retries.toNat)) := by
  have marked : Triple (Marked shown most) (connectClient surroundings retries delayMs)
      _ _ := connectAttempts_marked (List.range' 1 retries.toNat)
  rw [List.length_range'] at marked
  exact marked

theorem clientAuthenticate_marked {mode : AuthMode} :
    Triple (Marked shown most) (clientAuthenticate surroundings mode)
      (fun _ => Marked (shown ++ [.admitted mode]) most) (fun _ => Marked shown most) := by
  refine (perform_marked _ _).bind fun outcome log marked => ?_
  cases outcome with
  | ok => exact marked
  | error reason =>
      simp only [Event.mark?, Option.toList_none, List.append_nil] at marked
      exact marked

theorem runBench_marked {mode : AuthMode} {durationSecs : UInt64} :
    Triple (Marked shown most) (runBench surroundings mode durationSecs)
      (fun measurement => Marked (shown ++ [.benched mode (.ok measurement)]) most)
      (fun _ log => Marked shown most log ∨
        ∃ reason, Marked (shown ++ [.benched mode (.error reason)]) most log) := by
  unfold runBench
  refine Triple.bind (Triple.onlyIf_keeps fun _ log marked => .inl marked) fun _ => ?_
  refine (perform_marked _ _).bind fun outcome log marked => ?_
  cases outcome with
  | ok measurement => exact marked
  | error reason => exact .inr ⟨reason, marked⟩

/-- Whatever came of the bench, its connection is closed behind it. -/
theorem benchOnce_marked {mode : AuthMode} {durationSecs : UInt64} {run runs : Nat} :
    Triple (Marked shown most) (benchOnce surroundings mode durationSecs run runs)
      (fun measurement => Marked (shown ++ [.benched mode (.ok measurement)] ++ [.closed]) most)
      (fun _ log => Marked (shown ++ [.closed]) most log ∨
        ∃ reason, Marked (shown ++ [.benched mode (.error reason)] ++ [.closed]) most log) := by
  have announces : (Event.announce run runs).Unmarked := ⟨rfl, rfl⟩
  have waits : Event.waitIdle.Unmarked := ⟨rfl, rfl⟩
  unfold benchOnce
  refine (Triple.onlyIf_keeps fun _ => emit_unmarked announces).bind fun _ => ?_
  refine runBench_marked.result.bind fun ended => ?_
  cases ended with
  | ok measurement =>
      exact (emit_close _).bind fun _ => (emit_unmarked waits).bind fun _ _ marked => marked
  | error failure =>
      rintro log (marked | ⟨reason, marked⟩)
      · exact .inl ((marked.snoc (.close "bench complete")).unmarked waits)
      · exact .inr ⟨reason, (marked.snoc (.close "bench complete")).unmarked waits⟩

theorem rounds_concat (mode : AuthMode) (measured : List BenchMeasurement)
    (measurement : BenchMeasurement) :
    rounds mode (measured ++ [measurement]) = rounds mode measured ++ round mode measurement := by
  simp [rounds]

/-- A series that is on its way: its rounds so far, and the connection at hand, if
there is one that no bench has used yet. -/
def Series (mode : AuthMode) (retries : Nat) (measured : List BenchMeasurement)
    (connected : Bool) : List Event → Prop :=
  Marked (rounds mode measured ++ if connected then [.connected, .admitted mode] else [])
    ((measured.length + connected.toNat) * retries)

/-- A run breaks before the series is complete. -/
theorem stopped_of_marked {mode : AuthMode} {measured : List BenchMeasurement} {last : List Mark}
    {runs retries : Nat} {log : List Event} (broken : Broken mode last)
    (marked : Marked (rounds mode measured ++ last) ((measured.length + 1) * retries) log)
    (early : measured.length < runs) : Stopped runs retries log :=
  ⟨mode, measured, last, early, broken, marked.mono (Nat.mul_le_mul_right _ early)⟩

theorem reconnect_series {mode : AuthMode} {retries delayMs : UInt64} {runs : Nat}
    {measured : List BenchMeasurement} (early : measured.length < runs) :
    Triple (Series mode retries.toNat measured false)
      (reconnect surroundings mode retries delayMs)
      (fun _ => Series mode retries.toNat measured true)
      (fun _ => Stopped runs retries.toNat) := by
  have connects : Triple (Series mode retries.toNat measured false)
      (connectClient surroundings retries delayMs)
      (fun _ => Marked (rounds mode measured ++ [.connected])
        ((measured.length + 1) * retries.toNat))
      (fun _ => Stopped runs retries.toNat) := by
    have count : (measured.length + 0) * retries.toNat + retries.toNat =
        (measured.length + 1) * retries.toNat := (Nat.succ_mul _ _).symm
    refine connectClient_marked.mono (fun _ series => series) ?_ ?_
    · intro _ log marked
      rw [Bool.toNat_false, count] at marked
      simpa using marked
    · intro _ log marked
      rw [Bool.toNat_false, count] at marked
      exact stopped_of_marked (@Broken.unconnected mode) (by simpa using marked) early
  refine connects.bind fun _ => clientAuthenticate_marked.mono (fun _ marked => marked) ?_ ?_
  · intro _ log marked
    rw [List.append_assoc] at marked
    exact marked
  · intro _ log marked
    exact stopped_of_marked .unadmitted marked early

/-- A bench on the connection at hand completes a round. -/
theorem benchOnce_series {mode : AuthMode} {durationSecs : UInt64} {run runs retries : Nat}
    {measured : List BenchMeasurement} (early : measured.length < runs) :
    Triple (Series mode retries measured true)
      (benchOnce surroundings mode durationSecs run runs)
      (fun measurement => Series mode retries (measured ++ [measurement]) false)
      (fun _ => Stopped runs retries) := by
  refine benchOnce_marked.mono (fun _ series => series) ?_ ?_
  · intro measurement log marked
    rw [Series, rounds_concat, List.length_append]
    simpa [round] using marked
  · rintro failure log (marked | ⟨reason, marked⟩)
    · refine stopped_of_marked (@Broken.refused mode) ?_ early
      simpa using marked
    · refine stopped_of_marked (@Broken.failed mode reason) ?_ early
      simpa using marked

/-- Each run that is left adds one round. -/
theorem benchIterations_series {mode : AuthMode} {durationSecs gapMs retries delayMs : UInt64}
    {runs : Nat} (left : List Nat) (connected : Bool) (measured : List BenchMeasurement)
    (total : measured.length + left.length = runs) (ready : connected = true → left ≠ []) :
    Triple (Series mode retries.toNat measured connected)
      (benchIterations surroundings mode durationSecs runs gapMs retries delayMs left connected
        measured)
      (fun all log => all.length = runs ∧ Series mode retries.toNat all false log)
      (fun _ => Stopped runs retries.toNat) := by
  induction left generalizing connected measured with
  | nil =>
      cases connected with
      | true => exact absurd rfl (ready rfl)
      | false => exact fun _ series => ⟨total, series⟩
  | cons run rest inductionHypothesis =>
      have early : measured.length < runs := by
        rw [← total, List.length_cons]
        omega
      have connects : Triple (Series mode retries.toNat measured connected)
          (onlyIf (connected = false) (reconnect surroundings mode retries delayMs))
          (fun _ => Series mode retries.toNat measured true)
          (fun _ => Stopped runs retries.toNat) := by
        apply Triple.onlyIf
        · rintro rfl
          exact reconnect_series early
        · intro there log series
          rw [Bool.not_eq_false] at there
          rw [there] at series
          exact series
      have sleeps : (Event.sleep gapMs).Unmarked := ⟨rfl, rfl⟩
      rw [benchIterations]
      refine connects.bind fun _ => (benchOnce_series early).bind fun measurement => ?_
      refine (Triple.onlyIf_keeps fun _ => emit_unmarked sleeps).bind fun _ => ?_
      refine inductionHypothesis false (measured ++ [measurement]) ?_ (by simp)
      rw [← total, List.length_append, List.length_singleton, List.length_cons]
      omega

theorem runBenchIterations_series {mode : AuthMode}
    {durationSecs runs gapMs retries delayMs : UInt64} (wanted : runs ≠ 0) :
    Triple (Series mode retries.toNat [] true)
      (runBenchIterations surroundings mode durationSecs runs gapMs retries delayMs)
      (fun _ => Finished runs.toNat retries.toNat)
      (fun _ => Stopped runs.toNat retries.toNat) := by
  have count : runs.toNat ≠ 0 := fun zero => wanted (UInt64.toNat_inj.mp zero)
  refine (benchIterations_series _ true [] (by simp) fun _ => by simpa using count).bind
    fun measured log ended => ?_
  obtain ⟨all, series⟩ := ended
  have marked : Marked (rounds mode measured) (runs.toNat * retries.toNat) log := by
    rw [← all]
    simpa [Series] using series
  exact ⟨mode, measured, all, marked.unmarked ⟨rfl, rfl⟩, List.getLast?_concat⟩

section Main

variable {options : Options} {config : ClientConfig}

theorem checkedCount_eq {zero many : ClientError} {value count : UInt64}
    (passed : checkedCount zero many value = .ok count) : count = value := by
  simp only [checkedCount, bind_eq_ok, bailIf_eq_ok, pure, Except.pure, Except.ok.injEq] at passed
  obtain ⟨_, _, _, _, rfl⟩ := passed
  rfl

/-- A plan to bench is one with a direction, and counts as the options say. -/
theorem plan_bench {planned : Plan} (passed : plan options = .ok planned)
    (benches : options.bench ≠ none) :
    planned.direction ≠ none ∧ planned.runs = options.benchRuns ∧
      planned.retries = options.connectRetries := by
  obtain ⟨directed, _, retried, _, counted⟩ := plan_eq_ok passed
  have direction : planned.direction ≠ none := by
    intro none
    rw [none] at directed
    cases wanted : options.bench with
    | none => exact benches wanted
    | some value =>
        simp only [wanted, benchDirection, bind_eq_ok, pure, Except.pure, Except.ok.injEq] at directed
        obtain ⟨_, _, ⟨⟩⟩ := directed
  refine ⟨direction, ?_, checkedCount_eq retried⟩
  cases chosen : planned.direction with
  | none => exact absurd chosen direction
  | some value =>
      rw [chosen] at counted
      exact checkedCount_eq counted

theorem orLeave_marked {Value : Type} {runs retries : Nat} (outcome : Except Text Value) :
    Triple (Marked [] 0) (orLeave outcome) (fun _ => Marked [] 0)
      (fun _ => Interrupted runs retries) := by
  intro log marked
  cases outcome with
  | ok value => exact marked
  | error reason => exact .inl marked

theorem chooseMode_marked {direction : BenchDirection} {targetMbps : Option UInt64} :
    Triple (Marked shown most)
      (chooseMode surroundings options config (some direction) targetMbps)
      (fun mode log => (∃ durationSecs payloadBytes,
        mode = .bench direction durationSecs payloadBytes targetMbps) ∧ Marked shown most log)
      (fun _ => Marked shown most) := by
  simp only [chooseMode]
  refine (currentLimit_keeps _).bind fun limit => ?_
  refine Triple.ofExcept_bind (fun payloadBytes _ log marked => ?_) fun _ _ _ marked => marked
  exact ⟨⟨options.benchDurationSecs, payloadBytes, rfl⟩, marked⟩

theorem connectAndUse_marked (benches : options.bench ≠ none) :
    Triple (Marked [] 0) (connectAndUse surroundings options config)
      (fun _ => Finished options.benchRuns.toNat options.connectRetries.toNat)
      (fun _ => Interrupted options.benchRuns.toNat options.connectRetries.toNat) := by
  unfold connectAndUse
  refine (orLeave_marked _).bind fun _ => Triple.ofExcept_bind ?_ fun _ _ _ marked => .inl marked
  intro planned checked
  have passed := mapError_eq_ok.mp checked
  have wanted := plan_runs_ne_zero passed
  obtain ⟨direction, runs, retries⟩ := plan_bench passed benches
  obtain ⟨chosen, directed⟩ := Option.ne_none_iff_exists'.mp direction
  rw [← runs, ← retries, directed]
  have early : 0 < planned.runs.toNat :=
    Nat.pos_of_ne_zero fun zero => wanted (UInt64.toNat_inj.mp zero)
  -- Up to the first bench, an error leaves a first run that broke.
  have stops : ∀ {mode last}, Broken mode last → ∀ failure : Failure, ∀ log,
      Marked last (0 + planned.retries.toNat) log →
        Interrupted planned.runs.toNat planned.retries.toNat log := by
    intro mode last broken _ log marked
    have first : Marked (rounds mode [] ++ last) ((0 + 1) * planned.retries.toNat) log := by
      simpa [rounds] using marked
    exact .inr (@stopped_of_marked mode [] _ _ _ _ broken first early)
  refine (orLeave_marked _).bind fun _ => ?_
  refine (connectClient_marked.mono (fun _ marked => marked) (fun _ _ marked => marked)
    (stops (@Broken.unconnected .vpn))).bind fun _ => ?_
  refine (chooseMode_marked.mono (fun _ marked => marked) (fun _ _ marked => marked)
    (stops (@Broken.unadmitted .vpn))).bind fun mode => ?_
  rintro log ⟨⟨durationSecs, payloadBytes, rfl⟩, marked⟩
  refine (clientAuthenticate_marked.mono (fun _ marked => marked) (fun _ _ marked => marked)
    (stops (@Broken.unadmitted .vpn))).bind (fun _ => ?_) log marked
  refine (runBenchIterations_series wanted).mono ?_ (fun _ _ finished => finished)
    fun _ _ stopped => .inr stopped
  intro log marked
  simpa [Series, rounds] using marked

theorem clearStale_marked :
    Triple (Marked shown most) (clearStale surroundings options)
      (fun finished log => (finished = true → options.cleanupRoutes = true) ∧
        Marked shown most log)
      (fun _ => Marked shown most) := by
  have clears : Keeps (Marked shown most)
      (do
        let outcome ← perform surroundings.staleRoutes .staleRoutes
        orLeave outcome) := by
    refine (perform_marked _ _).bind fun outcome log marked => ?_
    simp only [Event.mark?, Option.toList_none, List.append_nil] at marked
    cases outcome with
    | ok => exact marked
    | error reason => exact marked
  unfold clearStale
  split
  · exact (Triple.onlyIf_keeps fun _ => clears).bind fun _ _ marked => ⟨id, marked⟩
  · exact Triple.bind (Triple.onlyIf_keeps fun _ _ marked => marked) fun _ _ marked =>
      ⟨by simp, marked⟩

end Main

/-- Every client that was asked to bench and returns `Ok` has made the runs it was
asked for, one after the other: each has a connection of its own, admitted in one
and the same mode, measured once in that mode and closed before the next run, and
the totals are those of exactly these measurements. Where it returns an error, it
has stopped at the first run that broke, if it got to any. It never makes more
attempts to connect than runs times retries. -/
theorem bench_series (surroundings : Surroundings) (options : Options) (config : ClientConfig)
    (benches : options.bench ≠ none) (serves : options.cleanupRoutes = false) :
    Ends (fun _ => Finished options.benchRuns.toNat options.connectRetries.toNat)
      (fun _ => Interrupted options.benchRuns.toNat options.connectRetries.toNat)
      ((clientMain surroundings options config).runOn []) := by
  have marked : Triple (Marked [] 0) (clientMain surroundings options config)
      (fun _ => Finished options.benchRuns.toNat options.connectRetries.toNat)
      (fun _ => Interrupted options.benchRuns.toNat options.connectRetries.toNat) := by
    unfold clientMain
    refine Triple.ofExcept_bind (fun _ _ => ?_) fun _ _ _ marked => .inl marked
    refine (orLeave_marked _).bind fun _ => ?_
    refine (clearStale_marked.mono (fun _ marked => marked) (fun _ _ marked => marked)
      fun _ _ marked => .inl marked).bind fun finished => ?_
    rintro log ⟨only, marked⟩
    cases finished with
    | true => exact absurd ((only rfl).symm.trans serves) (by simp)
    | false => exact connectAndUse_marked benches log marked
  exact marked [] ⟨rfl, Nat.le_refl 0⟩

/-- Surroundings in which the first attempt to connect fails and everything else
succeeds. -/
def flakySurroundings : Surroundings where
  serverAddr := .ok ()
  token := .ok ()
  clientConfig := .ok ()
  maxDatagramSize _ := some 1400
  staleRoutes _ := .ok ()
  connect event := if event = 0 then .error "connect timed out".toList else .ok ()
  authenticate _ := .ok ()
  bench _ := .ok (benchMeasurement (.fromSecs 1) 1300 1 none)
  device _ := .ok ()
  installRoutes _ := .ok ()
  openUni _ := .ok ()
  acceptUni _ := .ok ()
  tunnel _ := .shutdown (.ok ())

/-- Two uploads with one retry, on a system without route handling. -/
def twoUploads : Options :=
  { bench := some "upload".toList, benchRuns := 2, connectRetries := 2, macos := false }

theorem bench_series_flaky :
    Finished 2 2 ((clientMain flakySurroundings twoUploads {}).runOn []).2 := by
  have ends := bench_series flakySurroundings twoUploads {} (by decide) rfl
  have returns : ((clientMain flakySurroundings twoUploads {}).runOn []).1.isOk = true := by
    decide +kernel
  cases run : (clientMain flakySurroundings twoUploads {}).runOn [] with
  | mk ended log =>
      rw [run] at ends returns
      cases ended with
      | ok => exact ends
      | error failure => cases returns

end LiteVpn.Client
