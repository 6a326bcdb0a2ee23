/-!
# Executable transition machines

A machine has an executable step function; an action that the current state
does not admit is refused. `Machine.Runs` is the relational view of the same
steps. It carries a guard, so that "every step of the run met this condition"
is part of the run and not a side remark, and it keeps the trace of actions,
so that an invariant may speak about what has happened before.
-/

namespace LiteVpn.Semantics

universe u v

/-- A state machine whose transitions can be executed. -/
structure Machine (State : Type u) (Action : Type v) where
  Initial : State → Prop
  step : State → Action → Option State

namespace Machine

variable {State : Type u} {Action : Type v}

/-- Perform the actions in order; one refused action refuses the whole list. -/
def run (machine : Machine State Action) : State → List Action → Option State
  | state, [] => some state
  | state, action :: rest =>
      match machine.step state action with
      | none => none
      | some next => machine.run next rest

/-- A finite run from `start` in which every step meets `Guard` in the state
before it. The trace lists the actions in the order they were taken. -/
inductive Runs (machine : Machine State Action) (Guard : State → Action → Prop)
    (start : State) : List Action → State → Prop where
  | refl : Runs machine Guard start [] start
  | step {trace state action next} (prior : Runs machine Guard start trace state)
      (allowed : Guard state action) (taken : machine.step state action = some next) :
      Runs machine Guard start (trace ++ [action]) next

/-- The guard that admits every step. -/
def Unrestricted : State → Action → Prop := fun _ _ => True

/-- `state` is reached from an initial state by a guarded run with this trace. -/
def ReachesUnder (machine : Machine State Action) (Guard : State → Action → Prop)
    (trace : List Action) (state : State) : Prop :=
  ∃ start, machine.Initial start ∧ machine.Runs Guard start trace state

/-- `state` is reached from an initial state by some run with this trace. -/
def Reaches (machine : Machine State Action) (trace : List Action) (state : State) : Prop :=
  machine.ReachesUnder Unrestricted trace state

/-- `state` is reached by some run from an initial state. -/
def Reachable (machine : Machine State Action) (state : State) : Prop :=
  ∃ trace, machine.Reaches trace state

variable {machine : Machine State Action} {Guard : State → Action → Prop}

/-- Two guarded runs that meet in one state compose. -/
theorem Runs.trans {start middle finish : State} {first second : List Action}
    (before : machine.Runs Guard start first middle)
    (after : machine.Runs Guard middle second finish) :
    machine.Runs Guard start (first ++ second) finish := by
  induction after with
  | refl => simpa using before
  | step prior allowed taken inductionHypothesis =>
      simpa [List.append_assoc] using Runs.step inductionHypothesis allowed taken

/-- One admitted step is a run. -/
theorem Runs.single {state next : State} {action : Action}
    (allowed : Guard state action) (taken : machine.step state action = some next) :
    machine.Runs Guard state [action] next := by
  simpa using Runs.step (.refl : machine.Runs Guard state [] state) allowed taken

/-- What a run did at one place of its trace, and how it came there. -/
theorem Runs.split {start finish : State} {trace before after : List Action} {action : Action}
    (runs : machine.Runs Guard start trace finish) (same : trace = before ++ action :: after) :
    ∃ middle next, machine.Runs Guard start before middle ∧
      machine.step middle action = some next := by
  induction runs generalizing after with
  | refl => simp at same
  | @step trace state last next prior allowed taken inductionHypothesis =>
      rcases List.eq_nil_or_concat after with rfl | ⟨front, final, rfl⟩
      · obtain ⟨rfl, ⟨⟩⟩ := List.append_inj' same rfl
        exact ⟨state, next, prior, taken⟩
      · rw [List.concat_eq_append, ← List.cons_append, ← List.append_assoc] at same
        exact inductionHypothesis (List.append_inj' same rfl).1

/-- Executing a list of actions that the guard admits in every state produces a
guarded run with that trace. -/
theorem runs_of_run_guarded {start finish : State} {actions : List Action}
    (executed : machine.run start actions = some finish)
    (allowed : ∀ action ∈ actions, ∀ state, Guard state action) :
    machine.Runs Guard start actions finish := by
  induction actions generalizing start with
  | nil =>
      simp only [run, Option.some.injEq] at executed
      subst executed
      exact .refl
  | cons action rest inductionHypothesis =>
      simp only [run] at executed
      split at executed
      · cases executed
      · rename_i next taken
        obtain ⟨first, others⟩ := List.forall_mem_cons.mp allowed
        exact (Runs.single (first start) taken).trans (inductionHypothesis executed others)

/-- Executing a list of actions produces an unrestricted run with that trace. -/
theorem runs_of_run {start finish : State} {actions : List Action}
    (executed : machine.run start actions = some finish) :
    machine.Runs Unrestricted start actions finish :=
  runs_of_run_guarded executed fun _ _ _ => trivial

/-- Executing a list of actions from an initial state reaches its end. -/
theorem reachable_of_run {start finish : State} {actions : List Action}
    (initial : machine.Initial start)
    (executed : machine.run start actions = some finish) : machine.Reachable finish :=
  ⟨actions, start, initial, runs_of_run executed⟩

/-- A guarded run from an initial state may be extended by one more step. -/
theorem ReachesUnder.step {trace : List Action} {state next : State} {action : Action}
    (reached : machine.ReachesUnder Guard trace state) (allowed : Guard state action)
    (taken : machine.step state action = some next) :
    machine.ReachesUnder Guard (trace ++ [action]) next := by
  obtain ⟨start, initial, runs⟩ := reached
  exact ⟨start, initial, runs.step allowed taken⟩

/-- A run may always be extended by one more unrestricted step. -/
theorem Reachable.step {state next : State} (reachable : machine.Reachable state)
    (action : Action) (taken : machine.step state action = some next) :
    machine.Reachable next := by
  obtain ⟨trace, reached⟩ := reachable
  exact ⟨trace ++ [action], reached.step trivial taken⟩

/-- A property of traces and states that holds initially and that every
guarded step preserves. -/
structure InvariantUnder (machine : Machine State Action) (Guard : State → Action → Prop)
    (Inv : List Action → State → Prop) : Prop where
  initial : ∀ state, machine.Initial state → Inv [] state
  preserved : ∀ {trace state action next}, Inv trace state → Guard state action →
    machine.step state action = some next → Inv (trace ++ [action]) next

/-- An invariant holds at the end of every guarded run from an initial state. -/
theorem InvariantUnder.holds {Inv : List Action → State → Prop}
    (invariant : InvariantUnder machine Guard Inv) {trace : List Action} {state : State}
    (reached : machine.ReachesUnder Guard trace state) : Inv trace state := by
  obtain ⟨start, initial, runs⟩ := reached
  induction runs with
  | refl => exact invariant.initial start initial
  | step _ allowed taken inductionHypothesis =>
      exact invariant.preserved inductionHypothesis allowed taken

section Project

variable {PartState : Type u} {PartAction : Type v} {part : Machine PartState PartAction}

/-- Where the actions that `shown` shows are steps of a part of the machine and all
others leave the part as it is, every run shows a run of the part. -/
theorem Reaches.project {trace : List Action} {state : State}
    (reached : machine.Reaches trace state) (view : State → PartState)
    (shown : Action → Option PartAction)
    (initial : ∀ state, machine.Initial state → part.Initial (view state))
    (steps : ∀ {state action next seen}, machine.step state action = some next →
      shown action = some seen → part.step (view state) seen = some (view next))
    (stays : ∀ {state action next}, machine.step state action = some next →
      shown action = none → view next = view state) :
    part.Reaches (trace.filterMap shown) (view state) := by
  have invariant : InvariantUnder machine Unrestricted
      fun trace state => part.Reaches (trace.filterMap shown) (view state) := by
    constructor
    · exact fun state first => ⟨view state, initial state first, .refl⟩
    · intro trace state action next before _ taken
      rw [List.filterMap_append]
      cases found : shown action with
      | some seen =>
          rw [List.filterMap_cons_some found]
          exact before.step trivial (steps taken found)
      | none =>
          rw [List.filterMap_cons_none found, List.filterMap_nil, List.append_nil,
            stays taken found]
          exact before
  exact invariant.holds reached

end Project

/-- A state property that holds initially and that every step preserves holds
in every reachable state. -/
@[elab_as_elim]
theorem Reachable.induct {Inv : State → Prop} {state : State}
    (reachable : machine.Reachable state)
    (initial : ∀ start, machine.Initial start → Inv start)
    (preserved : ∀ {before action after}, Inv before →
      machine.step before action = some after → Inv after) : Inv state := by
  obtain ⟨trace, reached⟩ := reachable
  have invariant : InvariantUnder machine Unrestricted fun _ state => Inv state :=
    ⟨initial, fun holds _ taken => preserved holds taken⟩
  exact invariant.holds reached

end Machine

end LiteVpn.Semantics
