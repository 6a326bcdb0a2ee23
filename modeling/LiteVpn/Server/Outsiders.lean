import LiteVpn.Semantics.Unwinding
import LiteVpn.Server.Process

/-!
# Connections that are not admitted

A connection whose requests are refused, or that only asks for a bench whose
deadline fits the clock, has no influence on the tunnel. Take any run of the
process, leave out everything such connections did, and what is left is a run to
the same registry, in which every other task stands where it stood and every other
connection is open or closed as it was. A bench whose deadline does not fit is
another matter: it takes the process down.
-/

namespace LiteVpn.Server.Registry

open LiteVpn.Core LiteVpn.Strings LiteVpn.Semantics

/-- The connection whose task takes the step, or that is lost. -/
def Action.connection : Action → Nat
  | .own connection _ | .drawId connection | .register connection | .closePrevious connection
  | .cleanUp connection | .lose connection => connection

/-- Where a task can stand that was never admitted to the tunnel. -/
def Phase.isOutside : Phase → Bool
  | .unaccepted | .connecting | .authenticating | .benching | .ended none | .finished => true
  | _ => false

/-- The connection whose task makes the move. -/
def Move.connection : Move → Nat
  | .task action => action.connection
  | .setDeadline connection _ => connection

/-- The trace admits no connection of the set to the tunnel, and the bench that one
of them asks for is safe to time whenever its handler sets its deadline. -/
structure KeptOut (token : Token) (outside : Nat → Bool) (trace : List Move) : Prop where
  refused : ∀ connection request,
    .task (.own connection (.authenticate request)) ∈ trace → outside connection = true →
      (serverAuthenticate token.text request).outcome ≠ .ok .vpn
  timely : ∀ connection request now,
    .task (.own connection (.authenticate request)) ∈ trace →
      .setDeadline connection now ∈ trace → outside connection = true →
        DeadlineSafe token request now

/-- What that comes to for one move: it admits nobody outside, and no handler
outside panics. -/
structure StaysOut (token : Token) (outside : Nat → Bool) (process : Process) (move : Move) :
    Prop where
  refused : ∀ connection request, move = .task (.own connection (.authenticate request)) →
    outside connection = true → (serverAuthenticate token.text request).outcome ≠ .ok .vpn
  timely : ∀ connection now timing, move = .setDeadline connection now →
    outside connection = true → process.untimed connection = some timing →
      ∃ deadline, releaseDeadline timing.direction now timing.durationSecs = .ok deadline

/-- Two states that differ in nothing but connections outside, which are not
admitted. -/
structure Alike (outside : Nat → Bool) (state other : State) : Prop where
  active : other.active = state.active
  nextClientId : other.nextClientId = state.nextClientId
  phase : ∀ connection, outside connection = false →
    other.phase connection = state.phase connection
  closed : ∀ connection, outside connection = false →
    other.closed connection = state.closed connection
  waits : ∀ connection, outside connection = true → (state.phase connection).isOutside = true

section Steps

variable {config : ServerConfig} {token : Token} {outside : Nat → Bool} {state other next : State}

theorem ne_of_outside {seen hidden : Nat} (inside : outside seen = false)
    (out : outside hidden = true) : seen ≠ hidden := by
  rintro rfl
  rw [out] at inside
  cases inside

/-- A task outside stays there, unless it is admitted. -/
theorem isOutside_ownStep {step : OwnStep} {phase after : Phase}
    (waits : phase.isOutside = true)
    (refused : ∀ request, step = .authenticate request →
      (serverAuthenticate token.text request).outcome ≠ .ok .vpn)
    (moved : ownStep config token step phase = some after) : after.isOutside = true := by
  cases step with
  | accept =>
      cases phase <;> simp only [ownStep, reduceCtorEq, Option.some.injEq] at moved
      rw [← moved]
      rfl
  | connect =>
      cases phase <;> simp only [ownStep, reduceCtorEq, Option.some.injEq] at moved
      rw [← moved]
      rfl
  | authenticate request =>
      cases phase <;> simp only [ownStep, reduceCtorEq, Option.some.injEq] at moved
      rw [← moved]
      unfold afterAuthentication
      split
      · rfl
      · rfl
      · rename_i admitted
        exact absurd admitted (refused request rfl)
  | checkCapacity maxDatagramSize =>
      cases phase <;> simp only [ownStep, reduceCtorEq] at moved
      cases waits
  | startPumps =>
      cases phase <;> simp only [ownStep, reduceCtorEq] at moved
      cases waits
  | leave =>
      cases phase with
      | connecting | authenticating | benching =>
          cases moved
          rfl
      | unaccepted | finished => cases moved
      | ended clientId => cases moved
      | authenticated | checked => cases waits
      | drawn id | registered id previous | ready id | pumping id => cases waits

/-- The mover outside changes phase and nothing else. -/
theorem Alike.goto_outside (alike : Alike outside state other) {connection : Nat} {phase : Phase}
    (hidden : outside connection = true) (waits : phase.isOutside = true) :
    Alike outside (state.goto connection phase) other where
  active := alike.active
  nextClientId := alike.nextClientId
  phase := by
    intro seen inside
    rw [goto_phase, if_neg (ne_of_outside inside hidden)]
    exact alike.phase seen inside
  closed := alike.closed
  waits := by
    intro unseen out
    rw [goto_phase]
    split
    · exact waits
    · exact alike.waits unseen out

theorem Alike.goto_inside (alike : Alike outside state other) {connection : Nat} {phase : Phase}
    (visible : outside connection = false) :
    Alike outside (state.goto connection phase) (other.goto connection phase) where
  active := alike.active
  nextClientId := alike.nextClientId
  phase := by
    intro seen inside
    rw [goto_phase, goto_phase, alike.phase seen inside]
  closed := alike.closed
  waits := by
    intro unseen out
    rw [goto_phase, if_neg (ne_of_outside visible out).symm]
    exact alike.waits unseen out

/-- A connection is closed on both sides. -/
theorem Alike.close (alike : Alike outside state other) (connection : Nat) :
    Alike outside (state.close connection) (other.close connection) where
  active := alike.active
  nextClientId := alike.nextClientId
  phase := alike.phase
  closed := by
    intro seen inside
    rw [close_closed, close_closed, alike.closed seen inside]
  waits := alike.waits

theorem Alike.closeDisplaced (alike : Alike outside state other)
    (previous : Option ActiveClient) :
    Alike outside (state.closeDisplaced previous) (other.closeDisplaced previous) := by
  cases previous with
  | none => exact alike
  | some client => exact alike.close client.connection

/-- Whoever is outside takes no step that the others could see. -/
theorem Alike.unseen (alike : Alike outside state other) {action : Action}
    (out : ∀ connection request, action = .own connection (.authenticate request) →
      outside connection = true → (serverAuthenticate token.text request).outcome ≠ .ok .vpn)
    (hidden : outside action.connection = true)
    (taken : step config token state action = some next) : Alike outside next other := by
  have waits := alike.waits _ hidden
  cases transition_of_step taken with
  | own moved =>
      apply alike.goto_outside hidden
      refine isOutside_ownStep waits ?_ moved
      rintro request rfl
      exact out _ request rfl hidden
  | drawId stands =>
      rw [Action.connection, stands] at waits
      cases waits
  | register stands =>
      rw [Action.connection, stands] at waits
      cases waits
  | closePrevious stands =>
      rw [Action.connection, stands] at waits
      cases waits
  | @cleanUp connection clientId stands =>
      rw [Action.connection, stands] at waits
      -- The task never had an id, so that there is nothing to clear.
      cases clientId with
      | some id => cases waits
      | none => exact alike.goto_outside hidden rfl
  | @lose connection =>
      refine ⟨alike.active, alike.nextClientId, alike.phase, ?_, alike.waits⟩
      intro seen inside
      have elsewhere : seen ≠ connection := ne_of_outside inside hidden
      rw [close_closed, if_neg elsewhere]
      exact alike.closed seen inside

/-- Whoever is inside takes the same step without the others. -/
theorem Alike.seen (alike : Alike outside state other) {action : Action}
    (visible : outside action.connection = false)
    (taken : step config token state action = some next) :
    ∃ after, step config token other action = some after ∧ Alike outside next after := by
  have same := alike.phase _ visible
  cases transition_of_step taken with
  | @own connection own phase moved =>
      refine ⟨other.goto connection phase, ?_, alike.goto_inside visible⟩
      rw [step, show other.phase connection = state.phase connection from same, moved]
      rfl
  | @drawId connection stands =>
      rw [Action.connection, stands] at same
      have moved : Alike outside (state.goto connection (.drawn state.nextClientId))
          (other.goto connection (.drawn state.nextClientId)) := alike.goto_inside visible
      refine ⟨{ other.goto connection (.drawn state.nextClientId) with
        nextClientId := state.nextClientId + 1 }, ?_, ?_⟩
      · simp only [step, same, alike.nextClientId]
      · exact ⟨moved.active, rfl, moved.phase, moved.closed, moved.waits⟩
  | @register connection id stands =>
      rw [Action.connection, stands] at same
      have moved : Alike outside (state.goto connection (.registered id state.active))
          (other.goto connection (.registered id state.active)) := alike.goto_inside visible
      refine ⟨{ other.goto connection (.registered id state.active) with
        active := some ⟨id, connection⟩ }, ?_, ?_⟩
      · simp only [step, same, alike.active]
      · exact ⟨rfl, moved.nextClientId, moved.phase, moved.closed, moved.waits⟩
  | @closePrevious connection id previous stands =>
      rw [Action.connection, stands] at same
      have moved : Alike outside (state.goto connection (.ready id))
          (other.goto connection (.ready id)) := alike.goto_inside visible
      refine ⟨(other.goto connection (.ready id)).closeDisplaced previous, ?_,
        moved.closeDisplaced previous⟩
      simp only [step, same]
  | @cleanUp connection clientId stands =>
      rw [Action.connection, stands] at same
      have moved : Alike outside (state.goto connection .finished)
          (other.goto connection .finished) := alike.goto_inside visible
      refine ⟨{ other.goto connection .finished with
        active := clear clientId state.active }, ?_, ?_⟩
      · simp only [step, same, alike.active]
      · exact ⟨rfl, moved.nextClientId, moved.phase, moved.closed, moved.waits⟩
  | @lose connection => exact ⟨other.close connection, rfl, alike.close connection⟩

end Steps

/-- Two processes that differ in nothing but connections outside. -/
structure ProcessAlike (outside : Nat → Bool) (process other : Process) : Prop where
  tasks : Alike outside process.tasks other.tasks
  untimed : ∀ connection, outside connection = false →
    other.untimed connection = process.untimed connection
  aborted : other.aborted = process.aborted

section Moves

variable {config : ServerConfig} {token : Token} {outside : Nat → Bool}
  {process other next : Process}

/-- A step notes nothing for any task but its own. -/
theorem noteTiming_of_ne {untimed : Nat → Option Timing} {action : Action} {seen : Nat}
    (elsewhere : seen ≠ action.connection) :
    noteTiming token untimed action seen = untimed seen := by
  unfold noteTiming
  split
  · exact Function.update_of_ne elsewhere _ _
  · rfl

theorem ProcessAlike.unseen (alike : ProcessAlike outside process other) {move : Move}
    (out : StaysOut token outside process move) (hidden : outside move.connection = true)
    (taken : processStep config token process move = some next) :
    ProcessAlike outside next other := by
  obtain ⟨_, moved⟩ := moved_of_step taken
  cases moved with
  | @task action tasks stepped =>
      refine ⟨alike.tasks.unseen ?_ hidden stepped, ?_, alike.aborted⟩
      · rintro connection request rfl
        exact out.refused connection request rfl
      · intro seen inside
        exact (alike.untimed seen inside).trans
          (noteTiming_of_ne (ne_of_outside inside hidden)).symm
  | timed benching untimed fits =>
      refine ⟨alike.tasks, fun seen inside => ?_, alike.aborted⟩
      have kept := Function.update_of_ne (ne_of_outside inside hidden) none process.untimed
      exact (alike.untimed seen inside).trans kept.symm
  | aborted benching untimed panics =>
      obtain ⟨deadline, fits⟩ := out.timely _ _ _ rfl hidden untimed
      rw [fits] at panics
      cases panics

/-- What a step notes depends on what was noted for its own task only. -/
theorem noteTiming_congr {first second : Nat → Option Timing} {action : Action} {seen : Nat}
    (same : first seen = second seen) :
    noteTiming token first action seen = noteTiming token second action seen := by
  unfold noteTiming
  split
  · rw [Function.update_apply, Function.update_apply, same]
  · exact same

theorem ProcessAlike.seen (alike : ProcessAlike outside process other) {move : Move}
    (visible : outside move.connection = false)
    (taken : processStep config token process move = some next) :
    ∃ after, processStep config token other move = some after ∧
      ProcessAlike outside next after := by
  obtain ⟨running, moved⟩ := moved_of_step taken
  have runs : other.aborted = false := alike.aborted.trans running
  cases moved with
  | @task action tasks stepped =>
      obtain ⟨after, followed, still⟩ := alike.tasks.seen visible stepped
      refine ⟨{ other with tasks := after, untimed := noteTiming token other.untimed action }, ?_,
        still, fun seen inside => noteTiming_congr (alike.untimed seen inside), alike.aborted⟩
      simp [processStep, runs, followed]
  | @timed connection now timing deadline benching untimed fits =>
      have stands := (alike.tasks.phase connection visible).trans benching
      have noted := (alike.untimed connection visible).trans untimed
      refine ⟨{ other with untimed := Function.update other.untimed connection none }, ?_,
        alike.tasks, fun seen inside => ?_, alike.aborted⟩
      · simp [processStep, runs, Process.setDeadline, stands, noted, fits]
      · simp only [Function.update_apply, alike.untimed seen inside]
  | @aborted connection now timing overflow benching untimed panics =>
      have stands := (alike.tasks.phase connection visible).trans benching
      have noted := (alike.untimed connection visible).trans untimed
      refine ⟨{ other with aborted := true }, ?_, alike.tasks, alike.untimed, rfl⟩
      simp [processStep, runs, Process.setDeadline, stands, noted, panics]

/-- Making moves that keep the connections outside where they are, these can be left
out. -/
theorem unwinding_outside :
    Machine.Unwinding (server config token) (StaysOut token outside)
      (fun move => outside move.connection) (ProcessAlike outside) where
  initial := by
    rintro _ rfl
    exact ⟨⟨rfl, rfl, fun _ _ => rfl, fun _ _ => rfl, fun _ _ => rfl⟩, fun _ _ => rfl, rfl⟩
  unseen alike out hidden taken := alike.unseen out hidden taken
  seen alike _ visible taken := alike.seen visible taken

/-- Whatever a handler has to time comes from a request of its connection. -/
def Requested (token : Token) (trace : List Move) (process : Process) : Prop :=
  ∀ connection timing, process.untimed connection = some timing →
    ∃ request, .task (.own connection (.authenticate request)) ∈ trace ∧
      timing? (serverAuthenticate token.text request).outcome = some timing

theorem requested_step {trace : List Move} {move : Move}
    (requested : Requested token trace process)
    (taken : processStep config token process move = some next) :
    Requested token (trace ++ [move]) next := by
  have earlier : Requested token (trace ++ [move]) process := by
    intro connection timing untimed
    obtain ⟨request, member, asked⟩ := requested connection timing untimed
    exact ⟨request, List.mem_append_left _ member, asked⟩
  cases (moved_of_step taken).2 with
  | @task action tasks stepped =>
      intro connection timing untimed
      simp only [noteTiming] at untimed
      split at untimed
      · rename_i mover request
        rw [Function.update_apply] at untimed
        split at untimed
        · rename_i here
          exact ⟨request, by simp [here], untimed⟩
        · exact earlier connection timing untimed
      · exact earlier connection timing untimed
  | @timed mover now timed deadline benching found fits =>
      intro connection timing untimed
      simp only [Function.update_apply] at untimed
      split at untimed
      · cases untimed
      · exact earlier connection timing untimed
  | aborted => exact earlier

theorem invariant_requested :
    Machine.InvariantUnder (server config token) Machine.Unrestricted (Requested token) where
  initial := by
    rintro _ rfl connection timing ⟨⟩
  preserved requested _ taken := requested_step requested taken

theorem timing?_eq_some {outcome : Except AuthError AuthMode} {timing : Timing}
    (asked : timing? outcome = some timing) :
    ∃ payloadBytes targetMbps,
      outcome = .ok (.bench timing.direction timing.durationSecs payloadBytes targetMbps) := by
  unfold timing? at asked
  split at asked
  · cases asked
    exact ⟨_, _, rfl⟩
  · cases asked

/-- In a run that keeps the connections outside, every move does. -/
theorem KeptOut.staysOut {trace before after : List Move} {move : Move}
    (out : KeptOut token outside trace) (split : trace = before ++ move :: after)
    (requested : Requested token before process) : StaysOut token outside process move := by
  have here : move ∈ trace := by simp [split]
  constructor
  · rintro connection request rfl
    exact out.refused connection request here
  · rintro connection now timing rfl hidden untimed
    obtain ⟨request, member, asked⟩ := requested connection timing untimed
    have sent : .task (.own connection (.authenticate request)) ∈ trace := by
      rw [split]
      exact List.mem_append_left _ member
    obtain ⟨payloadBytes, targetMbps, accepted⟩ := timing?_eq_some asked
    exact releaseDeadline_ok
      (out.timely connection request now sent here hidden _ _ _ _ accepted)

end Moves

/-- A task that was never admitted does not use the device. -/
theorem Alike.usesDevice_iff {outside : Nat → Bool} {state other : State}
    (alike : Alike outside state other) (connection : Nat) :
    UsesDevice state connection ↔ outside connection = false ∧ UsesDevice other connection := by
  constructor
  · intro uses
    have inside : outside connection = false := by
      rw [← Bool.not_eq_true]
      intro hidden
      obtain ⟨⟨id, pumping⟩, _⟩ := uses
      have waits := alike.waits connection hidden
      rw [pumping] at waits
      cases waits
    refine ⟨inside, ?_⟩
    rw [UsesDevice, alike.phase connection inside, alike.closed connection inside]
    exact uses
  · rintro ⟨inside, uses⟩
    rw [UsesDevice, alike.phase connection inside, alike.closed connection inside] at uses
    exact uses

/-- Whatever a set of connections does that are never admitted to the tunnel, and
whose benches have deadlines that fit the clock: without their moves, the run is a
run to a process that differs in these connections only. The one is aborted if the
other is, and with or without them the same connections use the device. -/
theorem outsiders_without_influence {config : ServerConfig} {token : Token}
    {outside : Nat → Bool} {trace : List Move} {process : Process}
    (reached : (server config token).Reaches trace process) (out : KeptOut token outside trace) :
    ∃ other, (server config token).Reaches
        (trace.filter fun move => !outside move.connection) other ∧
      ProcessAlike outside process other ∧
        ∀ connection, process.UsesDevice connection ↔
          outside connection = false ∧ other.UsesDevice connection := by
  obtain ⟨first, initial, runs⟩ := reached
  have guarded := runs.guarded invariant_requested initial
    fun before move after middle split requested => out.staysOut split requested
  obtain ⟨other, purged, alike⟩ :=
    (@unwinding_outside config token outside).purge ⟨first, initial, guarded⟩
  refine ⟨other, purged, alike, fun connection => ?_⟩
  rw [Process.UsesDevice, Process.UsesDevice, alike.aborted, alike.tasks.usesDevice_iff connection]
  exact and_left_comm

/-- The zero of the clock. -/
def clockZero : Instant := ⟨0, 0, by decide, by decide, by decide⟩

/-- A bench comes in before a client and asks for it while that one pumps. -/
def benchBeside (token : Token) (mode : AuthMode) : List Move :=
  [.task (.own 9 .accept), .task (.own 9 .connect)] ++ (join token 0).map .task ++
    [.task (.own 9 (.authenticate (clientRequest token.text mode))), .setDeadline 9 clockZero]

/-- Without the bench, the client pumps all the same. -/
theorem outsiders_without_influence_benchBeside :
    ∃ process other,
      (server {} sampleToken).Reaches (benchBeside sampleToken (.bench .upload 5 64 none)) process ∧
        (server {} sampleToken).Reaches ((join sampleToken 0).map .task) other ∧
          process.UsesDevice 0 ∧ other.UsesDevice 0 := by
  have executed : ((server {} sampleToken).run boot
      (benchBeside sampleToken (.bench .upload 5 64 none))).map
        (fun process => (process.aborted, process.tasks.phase 0, process.tasks.closed 0)) =
          some (false, .pumping 1, false) := by
    decide +kernel
  obtain ⟨process, run, observed⟩ := Option.map_eq_some_iff.mp executed
  simp only [Prod.mk.injEq] at observed
  obtain ⟨running, pumping, opened⟩ := observed
  have reached : (server {} sampleToken).Reaches
      (benchBeside sampleToken (.bench .upload 5 64 none)) process :=
    ⟨boot, rfl, Machine.runs_of_run run⟩
  have benches : (serverAuthenticate sampleToken.text
      (clientRequest sampleToken.text (.bench .upload 5 64 none))).outcome =
        .ok (.bench .upload 5 64 none) := by
    decide +kernel
  have sent : ∀ request, .task (.own 9 (.authenticate request)) ∈
      benchBeside sampleToken (.bench .upload 5 64 none) →
        request = clientRequest sampleToken.text (.bench .upload 5 64 none) := by
    intro request member
    simpa [benchBeside, join, arrive] using member
  have out : KeptOut sampleToken (· == 9)
      (benchBeside sampleToken (.bench .upload 5 64 none)) := by
    constructor
    · intro connection request member hidden
      rw [beq_iff_eq] at hidden
      subst hidden
      rw [sent request member, benches]
      simp
    · intro connection request now member begun hidden
      rw [beq_iff_eq] at hidden
      subst hidden
      have time : now = clockZero := by
        simpa [benchBeside, join, arrive] using begun
      rw [sent request member, time]
      intro direction durationSecs payloadBytes targetMbps accepted
      rw [benches] at accepted
      cases accepted
      exact ⟨_, rfl⟩
  obtain ⟨other, purged, alike, same⟩ := outsiders_without_influence reached out
  have uses : process.UsesDevice 0 := ⟨running, ⟨1, pumping⟩, opened⟩
  exact ⟨process, other, reached, purged, uses, ((same 0).mp uses).2⟩

/-- A bench that asks for too long takes the client's process down. -/
example : ((server {} sampleToken).run boot (benchBeside sampleToken longestDownload)).map
    Process.aborted = some true := by
  decide +kernel

end LiteVpn.Server.Registry
