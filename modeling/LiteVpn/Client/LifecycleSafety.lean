import LiteVpn.Client.Lifecycle

/-!
# The discipline of the client

`discipline` says which effect of the client may follow which: there is at most
one connection at a time, a bench runs only in the mode that was asked for and
its connection is closed behind it, the device comes after the request for the
tunnel and the routes after the device, and an armed route guard is disarmed, with
an attempt to remove its routes, before the connection is closed. The log of every
run of `main` keeps it. What the route commands leave in the routing table is not
said here: an installation can fail and its rollback with it.
-/

namespace LiteVpn.Client

open LiteVpn.Strings
open LiteVpn.Core
open LiteVpn.Semantics
open LiteVpn.Bench

/-- Where the client stands. `guarded` says that its route guard is armed. -/
inductive Stage where
  | offline
  | connected
  | admitted (mode : AuthMode)
  | measured
  | probed
  | device (guarded : Bool)
  | over (guarded : Bool)
  | closed
  /-- Something has failed and `main` is on its way out. -/
  | failed (guarded : Bool)
deriving DecidableEq, Repr

/-- On to the next stage, or on the way out. -/
def Stage.advance {Value : Type} (next : Stage) (guarded : Bool) : Except Text Value → Stage
  | .ok _ => next
  | .error _ => .failed guarded

/-- Where an attempt to connect leads. -/
def Stage.attempted : Except Text Unit → Stage
  | .ok _ => .connected
  | .error _ => .offline

/-- What one run of the client is entitled to. -/
structure Rules where
  mayConnect : Bool
  /-- The one mode it may ask for. -/
  mode : Option AuthMode

/-- Which effect may follow which. An installation that fails returns no guard, and
removing the routes disarms the guard whatever becomes of the commands. -/
def disciplineStep (rules : Rules) : Stage → Event → Option Stage
  | .offline, .staleRoutes outcome => some (Stage.offline.advance false outcome)
  | .offline, .attempt outcome =>
      if rules.mayConnect then some (Stage.attempted outcome) else none
  | .offline, .sleep _ | .offline, .aggregate _ => some .offline
  | .connected, .authenticate mode outcome =>
      if rules.mode = some mode then some ((Stage.admitted mode).advance false outcome) else none
  | .admitted (.bench d s p t), .announce _ _ => some (.admitted (.bench d s p t))
  | .admitted (.bench d s p t), .bench mode _ =>
      if mode = .bench d s p t then some .measured else none
  | .admitted (.bench _ durationSecs _ _), .close _ =>
      if durationSecs = 0 then some .closed else none
  | .measured, .close _ => some .closed
  | .admitted .vpn, .probeOk => some .probed
  | .probed, .hold _ => some .probed
  | .probed, .close _ => some .closed
  | .admitted .vpn, .device outcome => some ((Stage.device false).advance false outcome)
  | .device false, .installRoutes outcome => some ((Stage.device true).advance false outcome)
  | .device guarded, .openUni outcome => some ((Stage.device guarded).advance guarded outcome)
  | .device guarded, .acceptUni outcome => some ((Stage.device guarded).advance guarded outcome)
  | .device guarded, .tunnel _ => some (.over guarded)
  | .over true, .removeRoutes => some (.over false)
  | .over false, .close _ => some .closed
  | .failed true, .removeRoutes => some (.failed false)
  | .closed, .waitIdle => some .offline
  | _, _ => none

def discipline (rules : Rules) : Machine Stage Event where
  Initial stage := stage = .offline
  step := disciplineStep rules

/-- The stages in which `main` may return an error. No route guard is left armed,
and a connection that still stands goes with the endpoint. -/
def Stage.MayEnd : Stage → Prop
  | .offline | .connected | .admitted .vpn | .failed false => True
  | _ => False

/-- The log keeps the discipline and leads to the stage. -/
def Reached (rules : Rules) (stage : Stage) (log : List Event) : Prop :=
  Follows (discipline rules) .offline stage log

/-- An error leaves `main` in order. -/
def Leaves (rules : Rules) (failure : Failure) (log : List Event) : Prop :=
  failure ≠ .noLastError ∧ ∃ stage, Reached rules stage log ∧ stage.MayEnd

section Parts

variable {rules : Rules} {stage next : Stage} {surroundings : Surroundings}

theorem emit_reached {Failed : Failure → List Event → Prop} {event : Event}
    (taken : disciplineStep rules stage event = some next) :
    Triple (Reached rules stage) (emit event) (fun _ => Reached rules next) Failed :=
  triple_emit fun _ reached => Follows.snoc reached taken

theorem perform_reached {Value : Type} {Failed : Failure → List Event → Prop}
    {outcomes : Nat → Value} {event : Value → Event} {after : Value → Stage}
    (taken : ∀ outcome, disciplineStep rules stage (event outcome) = some (after outcome)) :
    Triple (Reached rules stage) (perform outcomes event)
      (fun outcome => Reached rules (after outcome)) Failed :=
  triple_perform fun _ outcome reached => Follows.snoc reached (taken outcome)

/-- An outcome that decides whether `main` goes on. -/
theorem orLeave_reached {Value : Type} (outcome : Except Text Value) :
    Triple (Reached rules (next.advance false outcome)) (orLeave outcome)
      (fun _ => Reached rules next) (Leaves rules) := by
  intro log reached
  cases outcome with
  | ok value => exact reached
  | error reason => exact ⟨by simp, _, reached, trivial⟩

/-- An effect that `main` cannot do without. -/
theorem performOrLeave_reached {outcomes : Nat → Except Text Unit}
    {event : Except Text Unit → Event}
    (taken : ∀ outcome,
      disciplineStep rules stage (event outcome) = some (next.advance false outcome)) :
    Triple (Reached rules stage)
      (do
        let outcome ← perform outcomes event
        orLeave outcome)
      (fun _ => Reached rules next) (Leaves rules) :=
  (perform_reached taken).bind orLeave_reached

/-- An attempt that fails leaves no connection, and never for want of an error. -/
theorem connectOnce_reached (may : rules.mayConnect = true) :
    Triple (Reached rules .offline) (connectOnce surroundings)
      (fun _ => Reached rules .connected)
      (fun failure log => failure ≠ .noLastError ∧ Reached rules .offline log) := by
  have attempted : ∀ outcome, disciplineStep rules .offline (.attempt outcome) =
      some (Stage.attempted outcome) := fun _ => if_pos may
  refine (perform_reached attempted).bind fun outcome log reached => ?_
  cases outcome with
  | ok => exact reached
  | error reason => exact ⟨by simp, reached⟩

/-- With at least one attempt to go, and the last one numbered as such, the
attempts end in a connection or in the failure of the last one. -/
theorem connectAttempts_reached (may : rules.mayConnect = true) {retries : Nat}
    {delayMs : UInt64} {attempts : List Nat} (last : attempts.getLast? = some retries) :
    Triple (Reached rules .offline) (connectAttempts surroundings retries delayMs attempts)
      (fun _ => Reached rules .connected) (Leaves rules) := by
  induction attempts with
  | nil => cases last
  | cons attempt rest inductionHypothesis =>
      rw [connectAttempts]
      refine ((connectOnce_reached may).result).bind fun ended => ?_
      cases ended with
      | ok => exact fun _ reached => reached
      | error failure =>
          intro log left
          obtain ⟨known, reached⟩ := left
          dsimp only
          split
          · exact ⟨known, .offline, reached, trivial⟩
          · rename_i more
            -- A further attempt is left: this one was not the last.
            have later : rest.getLast? = some retries := by
              cases rest with
              | nil =>
                  simp only [List.getLast?_singleton, Option.some.injEq] at last
                  omega
              | cons second others => simpa using last
            exact (Triple.onlyIf_keeps fun _ => emit_reached rfl).bind
              (fun _ => inductionHypothesis later) log reached

theorem connectClient_reached (may : rules.mayConnect = true) {retries delayMs : UInt64}
    (positive : retries ≠ 0) :
    Triple (Reached rules .offline) (connectClient surroundings retries delayMs)
      (fun _ => Reached rules .connected) (Leaves rules) := by
  apply connectAttempts_reached may
  have count : retries.toNat ≠ 0 := fun zero => positive (UInt64.toNat_inj.mp zero)
  rw [List.getLast?_range', if_neg count]
  congr 1
  omega

theorem clientAuthenticate_reached {mode : AuthMode} :
    Triple (Reached ⟨true, some mode⟩ .connected) (clientAuthenticate surroundings mode)
      (fun _ => Reached ⟨true, some mode⟩ (.admitted mode)) (Leaves ⟨true, some mode⟩) :=
  performOrLeave_reached fun _ => if_pos rfl

section Benches

variable {direction : BenchDirection} {durationSecs payloadBytes : UInt64}
  {targetMbps : Option UInt64}

/-- A bench is measured, or refused for its duration. -/
theorem runBench_reached :
    Triple (Reached rules (.admitted (.bench direction durationSecs payloadBytes targetMbps)))
      (runBench surroundings (.bench direction durationSecs payloadBytes targetMbps) durationSecs)
      (fun _ => Reached rules .measured)
      (fun failure log => failure ≠ .noLastError ∧ (Reached rules .measured log ∨
        durationSecs = 0 ∧
          Reached rules (.admitted (.bench direction durationSecs payloadBytes targetMbps)) log))
    := by
  unfold runBench
  refine Triple.bind (Triple.onlyIf_keeps fun zero log reached => ?_) fun _ => ?_
  · exact ⟨by simp, .inr ⟨zero, reached⟩⟩
  · have measured : ∀ outcome, disciplineStep rules
        (.admitted (.bench direction durationSecs payloadBytes targetMbps))
        (.bench (.bench direction durationSecs payloadBytes targetMbps) outcome) =
          some .measured := fun _ => if_pos rfl
    refine (perform_reached measured).bind fun outcome log reached => ?_
    cases outcome with
    | ok measurement => exact reached
    | error reason => exact ⟨by simp, .inl reached⟩

/-- Whatever came of a bench, its connection is closed behind it. -/
theorem benchOnce_reached {run runs : Nat} :
    Triple (Reached rules (.admitted (.bench direction durationSecs payloadBytes targetMbps)))
      (benchOnce surroundings (.bench direction durationSecs payloadBytes targetMbps)
        durationSecs run runs)
      (fun _ => Reached rules .offline) (Leaves rules) := by
  unfold benchOnce
  refine (Triple.onlyIf_keeps fun _ => emit_reached rfl).bind fun _ => ?_
  refine runBench_reached.result.bind fun ended => ?_
  cases ended with
  | ok measurement =>
      exact (emit_reached rfl).bind fun _ => (emit_reached rfl).bind fun _ _ reached => reached
  | error failure =>
      rintro log ⟨known, measured | ⟨zero, refused⟩⟩
      · refine (emit_reached rfl).bind (fun _ => (emit_reached rfl).bind fun _ log reached => ?_)
          log measured
        exact ⟨known, .offline, reached, trivial⟩
      · have closes : disciplineStep rules
            (.admitted (.bench direction durationSecs payloadBytes targetMbps))
            (.close "bench complete") = some .closed := if_pos zero
        refine (emit_reached closes).bind
          (fun _ => (emit_reached rfl).bind fun _ log reached => ?_) log refused
        exact ⟨known, .offline, reached, trivial⟩

theorem reconnect_reached {mode : AuthMode} {retries delayMs : UInt64} (positive : retries ≠ 0) :
    Triple (Reached ⟨true, some mode⟩ .offline) (reconnect surroundings mode retries delayMs)
      (fun _ => Reached ⟨true, some mode⟩ (.admitted mode)) (Leaves ⟨true, some mode⟩) :=
  (connectClient_reached rfl positive).bind fun _ => clientAuthenticate_reached

/-- Run after run, each on a connection of its own. -/
theorem benchIterations_reached {mode : AuthMode}
    (isBench : mode = .bench direction durationSecs payloadBytes targetMbps) {runs : Nat}
    {gapMs retries delayMs : UInt64} (positive : retries ≠ 0) (left : List Nat)
    (connected : Bool) (measurements : List BenchMeasurement)
    (ready : connected = true → left ≠ []) :
    Triple (Reached ⟨true, some mode⟩ (if connected then .admitted mode else .offline))
      (benchIterations surroundings mode durationSecs runs gapMs retries delayMs left connected
        measurements)
      (fun _ => Reached ⟨true, some mode⟩ .offline) (Leaves ⟨true, some mode⟩) := by
  induction left generalizing connected measurements with
  | nil =>
      cases connected with
      | true => exact absurd rfl (ready rfl)
      | false => exact fun _ reached => reached
  | cons run rest inductionHypothesis =>
      subst isBench
      rw [benchIterations]
      have admits : Triple
          (Reached ⟨true, some (.bench direction durationSecs payloadBytes targetMbps)⟩
            (if connected then .admitted (.bench direction durationSecs payloadBytes targetMbps)
              else .offline))
          (onlyIf (connected = false) (reconnect surroundings
            (.bench direction durationSecs payloadBytes targetMbps) retries delayMs))
          (fun _ => Reached ⟨true, some (.bench direction durationSecs payloadBytes targetMbps)⟩
            (.admitted (.bench direction durationSecs payloadBytes targetMbps)))
          (Leaves ⟨true, some (.bench direction durationSecs payloadBytes targetMbps)⟩) := by
        apply Triple.onlyIf
        · rintro rfl
          exact reconnect_reached positive
        · intro there log reached
          rw [Bool.not_eq_false] at there
          simpa [there] using reached
      refine admits.bind fun _ => benchOnce_reached.bind fun measurement => ?_
      refine (Triple.onlyIf_keeps fun _ => emit_reached rfl).bind fun _ => ?_
      exact inductionHypothesis false _ (by simp)

theorem runBenchIterations_reached {runs gapMs retries delayMs : UInt64} (positive : retries ≠ 0)
    (wanted : runs ≠ 0) :
    Triple (Reached ⟨true, some (.bench direction durationSecs payloadBytes targetMbps)⟩
        (.admitted (.bench direction durationSecs payloadBytes targetMbps)))
      (runBenchIterations surroundings (.bench direction durationSecs payloadBytes targetMbps)
        durationSecs runs gapMs retries delayMs)
      (fun _ => Reached ⟨true, some (.bench direction durationSecs payloadBytes targetMbps)⟩ .offline)
      (Leaves ⟨true, some (.bench direction durationSecs payloadBytes targetMbps)⟩) := by
  have count : runs.toNat ≠ 0 := fun zero => wanted (UInt64.toNat_inj.mp zero)
  exact (benchIterations_reached rfl positive _ true [] fun _ => by simpa using count).bind
    fun _ => emit_reached rfl

end Benches

theorem runProbe_reached {holdSecs : UInt64} :
    Triple (Reached rules (.admitted .vpn)) (runProbe holdSecs)
      (fun _ => Reached rules .offline) (Leaves rules) :=
  (emit_reached rfl).bind fun _ => (Triple.onlyIf_keeps fun _ => emit_reached rfl).bind fun _ =>
    (emit_reached rfl).bind fun _ => emit_reached rfl

/-- A failed step of the tunnel's start takes the route guard with it. -/
theorem orDrop_reached {guard : Bool} (outcome : Except Text Unit) :
    Triple (Reached rules ((Stage.device guard).advance guard outcome)) (orDrop guard outcome)
      (fun _ => Reached rules (.device guard)) (Leaves rules) := by
  intro log reached
  cases outcome with
  | ok => cases guard <;> exact reached
  | error reason =>
      cases guard with
      | false => exact ⟨by simp, _, reached, trivial⟩
      | true => exact ⟨by simp, .failed false, Follows.snoc reached rfl, trivial⟩

theorem openStreams_reached {guard : Bool} :
    Triple (Reached rules (.device guard)) (openStreams surroundings guard)
      (fun _ => Reached rules (.device guard)) (Leaves rules) := by
  have opens : ∀ outcome, disciplineStep rules (.device guard) (.openUni outcome) =
      some ((Stage.device guard).advance guard outcome) := by
    intro outcome
    cases guard <;> rfl
  have accepts : ∀ outcome, disciplineStep rules (.device guard) (.acceptUni outcome) =
      some ((Stage.device guard).advance guard outcome) := by
    intro outcome
    cases guard <;> rfl
  exact (perform_reached opens).bind fun outcome => (orDrop_reached outcome).bind fun _ =>
    (perform_reached accepts).bind orDrop_reached

theorem tunnelUntilEnd_reached {transport : VpnTransportMode} {guard : Bool} :
    Triple (Reached rules (.device guard)) (tunnelUntilEnd surroundings transport guard)
      (fun _ => Reached rules (.over guard)) (Leaves rules) := by
  have runs : ∀ ended, disciplineStep rules (.device guard) (.tunnel ended) =
      some (.over guard) := by
    intro ended
    cases guard <;> rfl
  exact (Triple.onlyIf_keeps fun _ => openStreams_reached).bind fun _ =>
    (perform_reached runs).bind fun _ _ reached => reached

theorem checkCapacity_reached {config : ClientConfig} :
    Triple (Reached rules (.admitted .vpn)) (checkCapacity surroundings config)
      (fun _ => Reached rules (.admitted .vpn)) (Leaves rules) := by
  intro log reached
  unfold checkCapacity
  rw [Triple.runOn_bind]
  change Ends _ _ ((Script.ofExcept _).runOn log)
  cases ensureDatagramCapacity ((surroundings.maxDatagramSize log.length).map (·.toNat))
      config.mtu "client" with
  | ok => exact reached
  | error error => exact ⟨by simp, _, reached, trivial⟩

/-- The tunnel leaves no guard armed, and no connection unless it could not start. -/
theorem runVpn_reached {options : Options} {config : ClientConfig} :
    Triple (Reached rules (.admitted .vpn)) (runVpn surroundings options config)
      (fun _ => Reached rules .offline) (Leaves rules) := by
  unfold runVpn
  refine (Triple.onlyIf_keeps fun _ => checkCapacity_reached).bind fun _ => ?_
  refine (performOrLeave_reached fun _ => rfl).bind fun _ => ?_
  generalize (options.macos && options.routeAll && !options.noRoutes) = guard
  have installs : Triple (Reached rules (.device false))
      (onlyIf (guard = true) (installRoutes surroundings))
      (fun _ => Reached rules (.device guard)) (Leaves rules) :=
    @Triple.onlyIf_sets _ _ _ (fun guarded => Reached rules (.device guarded)) guard _ fun _ =>
      performOrLeave_reached fun _ => rfl
  have removes : Triple (Reached rules (.over guard))
      (onlyIf (guard = true) (emit .removeRoutes)) (fun _ => Reached rules (.over false))
      (Leaves rules) :=
    @Triple.onlyIf_clears _ _ _ (fun guarded => Reached rules (.over guarded)) guard _ fun _ =>
      emit_reached rfl
  refine installs.bind fun _ => tunnelUntilEnd_reached.bind fun result => removes.bind fun _ => ?_
  refine (emit_reached rfl).bind fun _ => (emit_reached rfl).bind fun _ log reached => ?_
  cases result with
  | ok => exact reached
  | error reason => exact ⟨by simp, .offline, reached, trivial⟩

/-- On its connection, the client does what it has asked for and goes offline. -/
theorem useConnection_reached {options : Options} {config : ClientConfig} {mode : AuthMode}
    {runs retries delayMs : UInt64} (positive : retries ≠ 0) (wanted : runs ≠ 0)
    (lasting : ∀ direction durationSecs payloadBytes targetMbps,
      mode = .bench direction durationSecs payloadBytes targetMbps →
        durationSecs = options.benchDurationSecs) :
    Triple (Reached ⟨true, some mode⟩ (.admitted mode))
      (useConnection surroundings options config mode runs retries delayMs)
      (fun _ => Reached ⟨true, some mode⟩ .offline) (Leaves ⟨true, some mode⟩) := by
  cases mode with
  | vpn =>
      simp only [useConnection]
      split
      · exact runProbe_reached
      · exact runVpn_reached
  | bench direction durationSecs payloadBytes targetMbps =>
      obtain rfl := lasting _ _ _ _ rfl
      exact runBenchIterations_reached positive wanted

/-- Whoever only wants the routes cleaned is done behind it. -/
theorem clearStale_reached {options : Options} :
    Triple (Reached rules .offline) (clearStale surroundings options)
      (fun finished log => finished = options.cleanupRoutes ∧ Reached rules .offline log)
      (Leaves rules) := by
  unfold clearStale
  split
  · exact (Triple.onlyIf_keeps fun _ => performOrLeave_reached fun _ => rfl).bind
      fun _ _ reached => ⟨rfl, reached⟩
  · have refuses : Triple (Reached rules .offline)
        (onlyIf (options.cleanupRoutes = true) (throw .cleanupUnsupported))
        (fun _ log => options.cleanupRoutes = false ∧ Reached rules .offline log)
        (Leaves rules) := by
      apply Triple.onlyIf
      · intro _ log reached
        exact ⟨by simp, .offline, reached, trivial⟩
      · intro kept log reached
        exact ⟨by simpa using kept, reached⟩
    exact refuses.bind fun _ _ ⟨kept, reached⟩ => ⟨kept.symm, reached⟩

end Parts

/-- The client connects only after all its checks but that of the payload, and
asks only for a mode that has passed that one, too. -/
structure Entitled (options : Options) (config : ClientConfig) (rules : Rules) : Prop where
  connects : rules.mayConnect = true → options.cleanupRoutes = false ∧
    config.validate = .ok () ∧ ∃ planned, plan options = .ok planned
  asks : ∀ mode, rules.mode = some mode →
    ∃ limit, authMode options.toArgs config limit = .ok mode

theorem Entitled.nothing (options : Options) (config : ClientConfig) :
    Entitled options config ⟨false, none⟩ :=
  ⟨nofun, nofun⟩

/-- What the plan holds has passed its checks. -/
theorem plan_eq_ok {options : Options} {planned : Plan} (passed : plan options = .ok planned) :
    benchDirection options.bench = .ok planned.direction ∧
      benchTargetMbps options.benchTargetMbps = .ok planned.targetMbps ∧
      connectRetries options.connectRetries = .ok planned.retries ∧
      connectRetryDelayMs options.connectRetryDelayMs = .ok planned.delayMs ∧
      plannedRuns options.benchRuns planned.direction = .ok planned.runs := by
  simp only [plan, bind_eq_ok, pure, Except.pure, Except.ok.injEq] at passed
  obtain ⟨direction, directed, targetMbps, target, retries, retried, delayMs, delayed, runs, counted,
    rfl⟩ := passed
  exact ⟨directed, target, retried, delayed, counted⟩

theorem checkedCount_ne_zero {zero many : ClientError} {value count : UInt64}
    (passed : checkedCount zero many value = .ok count) : count ≠ 0 := by
  simp only [checkedCount, bind_eq_ok, bailIf_eq_ok, pure, Except.pure, Except.ok.injEq] at passed
  obtain ⟨_, positive, _, _, rfl⟩ := passed
  exact positive

theorem plan_retries_ne_zero {options : Options} {planned : Plan}
    (passed : plan options = .ok planned) : planned.retries ≠ 0 :=
  checkedCount_ne_zero (plan_eq_ok passed).2.2.1

theorem plan_runs_ne_zero {options : Options} {planned : Plan}
    (passed : plan options = .ok planned) : planned.runs ≠ 0 := by
  obtain ⟨_, _, _, _, counted⟩ := plan_eq_ok passed
  cases direction : planned.direction with
  | none =>
      rw [direction] at counted
      rw [← Except.ok.inj counted]
      decide
  | some chosen =>
      rw [direction] at counted
      exact checkedCount_ne_zero counted

section Main

variable {surroundings : Surroundings} {options : Options} {config : ClientConfig}

/-- The mode that `main` chooses is the one its checks yield. -/
theorem chooseMode_reached (valid : config.validate = .ok ()) {planned : Plan}
    (passed : plan options = .ok planned) :
    Triple (fun log => ∀ mode, Reached ⟨true, mode⟩ .connected log)
      (chooseMode surroundings options config planned.direction planned.targetMbps)
      (fun mode log => (∃ limit, authMode options.toArgs config limit = .ok mode) ∧
        Reached ⟨true, some mode⟩ .connected log)
      (fun failure log => ∀ mode, Leaves ⟨true, mode⟩ failure log) := by
  obtain ⟨directed, target, retried, delayed, counted⟩ := plan_eq_ok passed
  cases direction : planned.direction with
  | none =>
      intro log reached
      refine ⟨⟨none, ?_⟩, reached _⟩
      rw [direction] at directed
      simp [authMode, valid, directed, target, retried, delayed, Except.mapError, bind, Except.bind,
        pure, Except.pure]
  | some chosen =>
      rw [direction] at directed counted
      simp only [chooseMode]
      refine (currentLimit_keeps _).bind fun limit => ?_
      cases payload : benchPayloadBytes chosen options.benchPayloadBytes limit
          (UInt64.ofNat config.mtu) with
      | error error => exact fun log reached mode => ⟨by simp, .connected, reached mode, trivial⟩
      | ok payloadBytes =>
          intro log reached
          refine ⟨⟨limit, ?_⟩, reached _⟩
          rw [plannedRuns] at counted
          simp [authMode, valid, directed, target, retried, delayed, counted, payload,
            Except.mapError, bind, Except.bind, pure, Except.pure]

/-- The duration that goes into the request is the one that `main` was given. -/
theorem authMode_durationSecs {limit : Option UInt64} {direction : BenchDirection}
    {durationSecs payloadBytes : UInt64} {targetMbps : Option UInt64}
    (chosen : authMode options.toArgs config limit =
      .ok (.bench direction durationSecs payloadBytes targetMbps)) :
    durationSecs = options.benchDurationSecs := by
  simp only [authMode, bind_eq_ok] at chosen
  obtain ⟨_, _, wanted, _, _, _, _, _, _, _, rest⟩ := chosen
  cases wanted with
  | none => cases rest
  | some wanted =>
      simp only [bind_eq_ok, pure, Except.pure, Except.ok.injEq] at rest
      obtain ⟨_, _, _, _, same⟩ := rest
      cases same
      rfl

/-- An error leaves a run that has kept to what it is entitled to. -/
def LeavesEntitled (options : Options) (config : ClientConfig) (failure : Failure)
    (log : List Event) : Prop :=
  ∃ rules, Entitled options config rules ∧ Leaves rules failure log

/-- The run has kept to what it is entitled to, and is offline again. -/
def EndsEntitled (options : Options) (config : ClientConfig) (log : List Event) : Prop :=
  ∃ rules, Entitled options config rules ∧ Reached rules .offline log

/-- An error before the connection. -/
theorem leavesEntitled_offline {failure : Failure} (known : failure ≠ .noLastError)
    {log : List Event} (reached : ∀ rules, Reached rules .offline log) :
    LeavesEntitled options config failure log :=
  ⟨_, .nothing options config, known, .offline, reached _, trivial⟩

/-- A check in front of the connection. -/
theorem check_bind_reached {Value : Type} {outcome : Except ClientError Value}
    {next : Value → Part Unit} {After : Unit → List Event → Prop}
    (passes : ∀ value, outcome = .ok value →
      Triple (fun log => ∀ rules, Reached rules .offline log) (next value) After
        (LeavesEntitled options config)) :
    Triple (fun log => ∀ rules, Reached rules .offline log) (check outcome >>= next) After
      (LeavesEntitled options config) := by
  refine Triple.ofExcept_bind (fun value passed => passes value (mapError_eq_ok.mp passed)) ?_
  intro failure failed log reached
  refine leavesEntitled_offline ?_ reached
  rintro rfl
  cases outcome <;> cases failed

/-- A condition in front of the connection that lies outside. -/
theorem orLeave_offline {Value : Type} (outcome : Except Text Value) :
    Triple (fun log => ∀ rules, Reached rules .offline log) (orLeave outcome)
      (fun _ log => ∀ rules, Reached rules .offline log) (LeavesEntitled options config) := by
  intro log reached
  cases outcome with
  | ok value => exact reached
  | error reason => exact leavesEntitled_offline (by simp) reached

theorem connectAndUse_reached (valid : config.validate = .ok ())
    (serves : options.cleanupRoutes = false) :
    Triple (fun log => ∀ rules, Reached rules .offline log)
      (connectAndUse surroundings options config) (fun _ => EndsEntitled options config)
      (LeavesEntitled options config) := by
  unfold connectAndUse
  refine (orLeave_offline _).bind fun _ => check_bind_reached fun planned passed =>
    (orLeave_offline _).bind fun _ => ?_
  have positive := plan_retries_ne_zero passed
  have entitled : ∀ mode, (∀ chosen, mode = some chosen →
      ∃ limit, authMode options.toArgs config limit = .ok chosen) →
        Entitled options config ⟨true, mode⟩ :=
    fun mode asks => ⟨fun _ => ⟨serves, valid, planned, passed⟩, asks⟩
  have left : ∀ failure log, (∀ mode, Leaves ⟨true, mode⟩ failure log) →
      LeavesEntitled options config failure log :=
    fun failure log leaves => ⟨⟨true, none⟩, entitled none nofun, leaves none⟩
  -- Up to the choice of the mode the run suits every mode.
  have connects : Triple (fun log => ∀ rules, Reached rules .offline log)
      (connectClient surroundings planned.retries planned.delayMs)
      (fun _ log => ∀ mode, Reached ⟨true, mode⟩ .connected log)
      (LeavesEntitled options config) :=
    (Triple.all fun mode => connectClient_reached rfl positive).mono
      (fun log reached mode => reached ⟨true, mode⟩) (fun _ _ reached => reached) left
  refine connects.bind fun _ =>
    ((chooseMode_reached valid passed).mono (fun _ reached => reached) (fun _ _ ends => ends)
      left).bind fun mode => ?_
  rintro log ⟨⟨limit, chosen⟩, reached⟩
  have permitted : Entitled options config ⟨true, some mode⟩ := by
    apply entitled
    rintro _ ⟨⟩
    exact ⟨limit, chosen⟩
  have lasting : ∀ direction durationSecs payloadBytes targetMbps,
      mode = .bench direction durationSecs payloadBytes targetMbps →
        durationSecs = options.benchDurationSecs := by
    rintro direction durationSecs payloadBytes targetMbps rfl
    exact authMode_durationSecs chosen
  have uses : Triple (Reached ⟨true, some mode⟩ .connected)
      (do
        clientAuthenticate surroundings mode
        useConnection surroundings options config mode planned.runs planned.retries
          planned.delayMs)
      (fun _ => Reached ⟨true, some mode⟩ .offline) (Leaves ⟨true, some mode⟩) :=
    clientAuthenticate_reached.bind fun _ =>
      useConnection_reached positive (plan_runs_ne_zero passed) lasting
  exact uses.mono (fun _ reached => reached) (fun _ _ ends => ⟨_, permitted, ends⟩)
    (fun _ _ leaves => ⟨_, permitted, leaves⟩) log reached

theorem clientMain_reached :
    Triple (fun log => ∀ rules, Reached rules .offline log)
      (clientMain surroundings options config) (fun _ => EndsEntitled options config)
      (LeavesEntitled options config) := by
  unfold clientMain
  refine check_bind_reached fun _ passed => (orLeave_offline _).bind fun _ => ?_
  have valid := mapError_eq_ok.mp passed
  have cleared : Triple (fun log => ∀ rules, Reached rules .offline log)
      (clearStale surroundings options)
      (fun finished log => ∀ rules, finished = options.cleanupRoutes ∧ Reached rules .offline log)
      (LeavesEntitled options config) :=
    (Triple.all fun rules => clearStale_reached).mono (fun _ reached => reached)
      (fun _ _ ends => ends)
      fun _ _ leaves => ⟨_, .nothing options config, leaves _⟩
  refine cleared.bind fun finished log ends => ?_
  have stands := fun rules => (ends rules).2
  have same := (ends ⟨false, none⟩).1
  cases finished with
  | true => exact ⟨_, .nothing options config, stands _⟩
  | false => exact connectAndUse_reached valid same.symm log stands

end Main

/-- Every run of the client, on any platform, with any options and configuration,
and whatever its surroundings answer, keeps the discipline. It connects and asks
for a mode only after the checks. If it returns `Ok`, it is offline; if it
returns an error, no route guard is left armed, and the `expect` on the last
connection error is never what ends it. -/
theorem client_disciplined (surroundings : Surroundings) (options : Options)
    (config : ClientConfig) :
    ∃ rules stage, Entitled options config rules ∧
      Reached rules stage ((clientMain surroundings options config).runOn []).2 ∧
      (((clientMain surroundings options config).runOn []).1 = .ok () → stage = .offline) ∧
      ∀ failure, ((clientMain surroundings options config).runOn []).1 = .error failure →
        failure ≠ .noLastError ∧ stage.MayEnd := by
  have ends : Ends (fun _ => EndsEntitled options config) (LeavesEntitled options config)
      ((clientMain surroundings options config).runOn []) :=
    clientMain_reached [] fun _ => rfl
  cases run : (clientMain surroundings options config).runOn [] with
  | mk ended log =>
      rw [run] at ends
      cases ended with
      | ok =>
          obtain ⟨rules, entitled, reached⟩ := ends
          exact ⟨rules, .offline, entitled, reached, fun _ => rfl, nofun⟩
      | error failure =>
          obtain ⟨rules, entitled, known, stage, reached, mayEnd⟩ := ends
          refine ⟨rules, stage, entitled, reached, nofun, ?_⟩
          rintro _ ⟨⟩
          exact ⟨known, mayEnd⟩

end LiteVpn.Client
