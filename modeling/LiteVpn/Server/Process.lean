import LiteVpn.Server.BenchDeadline
import LiteVpn.Server.Exclusive

/-!
# The process behind the tasks

All tasks of the server run in one process, and a release build turns a panic in
any of them into an abort of the whole process. A bench handler panics when its
deadline does not fit the clock. `server` is the registry with this one more way
for its tasks to meet: a handler sets its deadline some time after its task was
admitted, and if that fails, nothing moves any more.
-/

namespace LiteVpn.Server.Registry

open LiteVpn.Core LiteVpn.Strings LiteVpn.Semantics

/-- The deadline in a release build: the sum of the seconds wraps around, and only
the sum with the instant can still panic. -/
def releaseDeadline (direction : BenchDirection) (started : Instant) (durationSecs : UInt64) :
    Except Overflow Instant :=
  started.addDuration (durationSecs + UInt64.ofNat (drainSecs direction))

/-- Where no sum overflows, a release build has its deadline, too. -/
theorem releaseDeadline_ok {direction : BenchDirection} {started : Instant}
    {durationSecs : UInt64}
    (fits : ∃ deadline, runBenchDeadline direction started durationSecs = .ok deadline) :
    ∃ deadline, releaseDeadline direction started durationSecs = .ok deadline := by
  obtain ⟨sumFits, instantFits⟩ := runBenchDeadline_ok_iff.mp fits
  have drain : (UInt64.ofNat (drainSecs direction)).toNat = drainSecs direction :=
    UInt64.toNat_ofNat_of_lt' (Nat.lt_of_le_of_lt (Nat.le_add_left _ _) sumFits)
  have sum : (durationSecs + UInt64.ofNat (drainSecs direction)).toNat =
      durationSecs.toNat + drainSecs direction := by
    rw [UInt64.toNat_add, drain, Nat.mod_eq_of_lt sumFits]
  refine addDuration_ok_iff.mpr ?_
  rw [sum]
  omega

/-- What a bench handler was asked for, as far as its deadline is concerned. -/
structure Timing where
  direction : BenchDirection
  durationSecs : UInt64
deriving DecidableEq, Repr

structure Process where
  tasks : State
  /-- The benches that were admitted and have not set their deadlines yet. -/
  untimed : Nat → Option Timing
  aborted : Bool

/-- The moves of the process: a step of the tasks, or a bench handler that sets its
deadline right now. -/
inductive Move where
  | task (action : Action)
  | setDeadline (connection : Nat) (now : Instant)

/-- What an accepted request leaves for its handler to time. -/
def timing? (outcome : Except AuthError AuthMode) : Option Timing :=
  match outcome with
  | .ok (.bench direction durationSecs _ _) => some ⟨direction, durationSecs⟩
  | _ => none

/-- Only the authentication of a task gives its handler something to time. -/
def noteTiming (token : Token) (untimed : Nat → Option Timing) : Action → Nat → Option Timing
  | .own connection (.authenticate request) =>
      Function.update untimed connection
        (timing? (serverAuthenticate token.text request).outcome)
  | _ => untimed

/-- The handler of a bench sets its deadline, or takes the process down. -/
def Process.setDeadline (process : Process) (connection : Nat) (now : Instant) : Option Process :=
  match process.tasks.phase connection, process.untimed connection with
  | .benching, some timing =>
      match releaseDeadline timing.direction now timing.durationSecs with
      | .ok _ => some { process with untimed := Function.update process.untimed connection none }
      | .error _ => some { process with aborted := true }
  | _, _ => none

def processStep (config : ServerConfig) (token : Token) (process : Process) :
    Move → Option Process
  | .task action =>
      if process.aborted then none
      else
        (step config token process.tasks action).map fun tasks =>
          { process with tasks := tasks, untimed := noteTiming token process.untimed action }
  | .setDeadline connection now =>
      if process.aborted then none else process.setDeadline connection now

def boot : Process where
  tasks := start
  untimed _ := none
  aborted := false

/-- The server's process. -/
def server (config : ServerConfig) (token : Token) : Machine Process Move where
  Initial process := process = boot
  step := processStep config token

/-- Everything a move can do. -/
inductive Moved (config : ServerConfig) (token : Token) (process : Process) :
    Move → Process → Prop where
  | task {action tasks} (taken : step config token process.tasks action = some tasks) :
      Moved config token process (.task action)
        { process with tasks := tasks, untimed := noteTiming token process.untimed action }
  | timed {connection now timing deadline}
      (benching : process.tasks.phase connection = .benching)
      (untimed : process.untimed connection = some timing)
      (fits : releaseDeadline timing.direction now timing.durationSecs = .ok deadline) :
      Moved config token process (.setDeadline connection now)
        { process with untimed := Function.update process.untimed connection none }
  | aborted {connection now timing overflow}
      (benching : process.tasks.phase connection = .benching)
      (untimed : process.untimed connection = some timing)
      (panics : releaseDeadline timing.direction now timing.durationSecs = .error overflow) :
      Moved config token process (.setDeadline connection now) { process with aborted := true }

theorem moved_of_step {config : ServerConfig} {token : Token} {process next : Process}
    {move : Move} (taken : processStep config token process move = some next) :
    process.aborted = false ∧ Moved config token process move next := by
  cases move with
  | task action =>
      simp only [processStep, Option.ite_none_left_eq_some, Bool.not_eq_true,
        Option.map_eq_some_iff] at taken
      obtain ⟨running, tasks, stepped, rfl⟩ := taken
      exact ⟨running, .task stepped⟩
  | setDeadline connection now =>
      simp only [processStep, Option.ite_none_left_eq_some, Bool.not_eq_true] at taken
      obtain ⟨running, taken⟩ := taken
      refine ⟨running, ?_⟩
      unfold Process.setDeadline at taken
      split at taken
      · rename_i timing benching untimed
        split at taken
        · cases taken
          exact .timed benching untimed ‹_›
        · cases taken
          exact .aborted benching untimed ‹_›
      · cases taken

/-- The steps of the tasks, in their order. -/
def Move.action? : Move → Option Action
  | .task action => some action
  | .setDeadline _ _ => none

/-- The tasks of every run of the process are a run of the registry, so that what
holds of the registry holds of them. -/
theorem reaches_tasks {config : ServerConfig} {token : Token} {trace : List Move}
    {process : Process} (reached : (server config token).Reaches trace process) :
    (registry config token).Reaches (trace.filterMap Move.action?) process.tasks := by
  refine reached.project Process.tasks Move.action? ?_ ?_ ?_
  · rintro _ rfl
    rfl
  · intro process move next action taken shown
    cases (moved_of_step taken).2 with
    | task stepped =>
        cases shown
        exact stepped
    | timed => cases shown
    | aborted => cases shown
  · intro process move next taken hidden
    cases (moved_of_step taken).2 with
    | task => cases hidden
    | timed => rfl
    | aborted => rfl

/-- A process that still runs can do whatever its tasks can. -/
theorem exists_runs_tasks {config : ServerConfig} {token : Token} {process : Process}
    {actions : List Action} {tasks : State} (running : process.aborted = false)
    (runs : (registry config token).Runs Machine.Unrestricted process.tasks actions tasks) :
    ∃ next, (server config token).Runs Machine.Unrestricted process (actions.map .task) next ∧
      next.tasks = tasks ∧ next.aborted = false := by
  induction runs with
  | refl => exact ⟨process, .refl, rfl, running⟩
  | @step trace state action after _ _ taken inductionHypothesis =>
      obtain ⟨next, before, rfl, still⟩ := inductionHypothesis
      have moved : processStep config token next (.task action) = some
          { next with tasks := after, untimed := noteTiming token next.untimed action } := by
        have stepped : step config token next.tasks action = some after := taken
        simp [processStep, still, stepped]
      rw [List.map_append]
      exact ⟨_, before.step trivial moved, rfl, still⟩

/-- The connection uses the device of a process that is still there. -/
def Process.UsesDevice (process : Process) (connection : Nat) : Prop :=
  process.aborted = false ∧ Registry.UsesDevice process.tasks connection

end LiteVpn.Server.Registry
