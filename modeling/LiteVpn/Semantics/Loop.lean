import Mathlib.Data.List.Basic

/-!
# Loops that meet an environment

A loop takes one input a turn: what the environment shows it between two visits
to its head. A turn adds to a log and either goes on in a new state or leaves
the loop. A run over finitely many inputs has left the loop, or stands at its
head with all inputs used up.
-/

namespace LiteVpn.Semantics

/-- How a turn ends. -/
inductive TurnEnd (State Exit : Type) where
  | next (state : State)
  | exit (reason : Exit)
deriving DecidableEq, Repr

variable {State Input Entry Exit : Type}

/-- Turn after turn, with the log and where the run stands. -/
def runLoop (turn : State → Input → List Entry × TurnEnd State Exit) (state : State) :
    List Input → List Entry × TurnEnd State Exit
  | [] => ([], .next state)
  | input :: rest =>
      match turn state input with
      | (log, .exit reason) => (log, .exit reason)
      | (log, .next after) =>
          let later := runLoop turn after rest
          (log ++ later.1, later.2)

variable {turn : State → Input → List Entry × TurnEnd State Exit} {state : State}

@[simp] theorem runLoop_nil : runLoop turn state [] = ([], .next state) := rfl

theorem runLoop_cons_exit {input : Input} {rest : List Input} {log : List Entry} {reason : Exit}
    (left : turn state input = (log, .exit reason)) :
    runLoop turn state (input :: rest) = (log, .exit reason) := by
  simp only [runLoop, left]

theorem runLoop_cons_next {input : Input} {rest : List Input} {log : List Entry} {after : State}
    (stayed : turn state input = (log, .next after)) :
    runLoop turn state (input :: rest) =
      (log ++ (runLoop turn after rest).1, (runLoop turn after rest).2) := by
  simp only [runLoop, stayed]

/-- One more turn behind a run that stands at the head of the loop. -/
theorem runLoop_snoc {inputs : List Input} {input : Input} {middle : State}
    (stands : (runLoop turn state inputs).2 = .next middle) :
    runLoop turn state (inputs ++ [input]) =
      ((runLoop turn state inputs).1 ++ (turn middle input).1, (turn middle input).2) := by
  induction inputs generalizing state with
  | nil =>
      cases stands
      cases taken : turn middle input with
      | mk log ending =>
          cases ending with
          | exit reason => simp [runLoop_cons_exit taken]
          | next after => simp [runLoop_cons_next taken]
  | cons first rest inductionHypothesis =>
      cases taken : turn state first with
      | mk log ending =>
          cases ending with
          | exit reason =>
              rw [runLoop_cons_exit taken] at stands
              cases stands
          | next after =>
              rw [runLoop_cons_next taken] at stands
              rw [List.cons_append, runLoop_cons_next taken, runLoop_cons_next taken,
                inductionHypothesis stands, List.append_assoc]

/-- What the log holds after a turn that left the loop: nothing that follows adds
to it. -/
theorem runLoop_exit_log {before after : List Input} {input : Input} {middle : State}
    {reason : Exit} (stands : (runLoop turn state before).2 = .next middle)
    (left : (turn middle input).2 = .exit reason) :
    (runLoop turn state (before ++ input :: after)).1 =
      (runLoop turn state before).1 ++ (turn middle input).1 := by
  induction before generalizing state with
  | nil =>
      cases stands
      cases taken : turn middle input with
      | mk log ending =>
          rw [taken] at left
          cases left
          rw [List.nil_append, runLoop_cons_exit taken]
          rfl
  | cons first rest inductionHypothesis =>
      cases taken : turn state first with
      | mk log ending =>
          cases ending with
          | exit reason =>
              rw [runLoop_cons_exit taken] at stands
              cases stands
          | next following =>
              rw [runLoop_cons_next taken] at stands
              rw [List.cons_append, runLoop_cons_next taken, runLoop_cons_next taken,
                inductionHypothesis stands, List.append_assoc]

/-- A run has left the loop exactly when some turn, entered at the head of the
loop, left it. -/
theorem runLoop_exit_iff {inputs : List Input} {reason : Exit} :
    (runLoop turn state inputs).2 = .exit reason ↔
      ∃ before input after middle, inputs = before ++ input :: after ∧
        (runLoop turn state before).2 = .next middle ∧
          (turn middle input).2 = .exit reason := by
  induction inputs generalizing state with
  | nil => simp
  | cons first rest inductionHypothesis =>
      cases taken : turn state first with
      | mk log ending =>
          cases ending with
          | exit found =>
              rw [runLoop_cons_exit taken]
              constructor
              · intro same
                exact ⟨[], first, rest, state, rfl, rfl, by rw [taken]; exact same⟩
              · rintro ⟨before, input, after, middle, split, reached, left⟩
                cases before with
                | nil =>
                    cases split
                    cases reached
                    rw [taken] at left
                    exact left
                | cons head tail =>
                    cases split
                    rw [runLoop_cons_exit taken] at reached
                    cases reached
          | next following =>
              rw [runLoop_cons_next taken, inductionHypothesis]
              constructor
              · rintro ⟨before, input, after, middle, rfl, reached, left⟩
                exact ⟨first :: before, input, after, middle, rfl,
                  by rw [runLoop_cons_next taken]; exact reached, left⟩
              · rintro ⟨before, input, after, middle, split, reached, left⟩
                cases before with
                | nil =>
                    cases split
                    cases reached
                    rw [taken] at left
                    cases left
                | cons head tail =>
                    cases split
                    rw [runLoop_cons_next taken] at reached
                    exact ⟨tail, input, after, middle, rfl, reached, left⟩

/-- Where a run stands, with less of the state. -/
def TurnEnd.project {State' : Type} (view : State → State') : TurnEnd State Exit → TurnEnd State' Exit
  | .next state => .next (view state)
  | .exit reason => .exit reason

/-- A loop that carries and logs more than another one, and whose every turn shows a
turn of the other one, shows the other one's run. -/
theorem runLoop_project {State' Input' Entry' : Type}
    {turn' : State' → Input' → List Entry' × TurnEnd State' Exit} (view : State → State')
    (viewInput : Input → Input') (viewEntry : Entry → Option Entry')
    (shows : ∀ state input,
      ((turn state input).1.filterMap viewEntry, (turn state input).2.project view) =
        turn' (view state) (viewInput input)) (inputs : List Input) :
    ((runLoop turn state inputs).1.filterMap viewEntry,
        (runLoop turn state inputs).2.project view) =
      runLoop turn' (view state) (inputs.map viewInput) := by
  induction inputs generalizing state with
  | nil => rfl
  | cons input rest inductionHypothesis =>
      have shown := shows state input
      cases taken : turn state input with
      | mk log ending =>
          rw [taken] at shown
          cases ending with
          | exit reason =>
              rw [runLoop_cons_exit taken, List.map_cons, runLoop_cons_exit shown.symm]
              rfl
          | next after =>
              have later := @inductionHypothesis after
              rw [runLoop_cons_next taken, List.map_cons, runLoop_cons_next shown.symm, ← later,
                List.filterMap_append]

/-- What a loop keeps at its head about the inputs it has used, its log and its
state, and what that gives when it leaves. -/
structure LoopInvariant (turn : State → Input → List Entry × TurnEnd State Exit)
    (Head : List Input → List Entry → State → Prop)
    (Left : List Input → List Entry → Exit → Prop) : Prop where
  stays : ∀ {before log state input more after}, Head before log state →
    turn state input = (more, .next after) → Head (before ++ [input]) (log ++ more) after
  leaves : ∀ {before log state input more reason}, Head before log state →
    turn state input = (more, .exit reason) → ∀ rest,
      Left (before ++ input :: rest) (log ++ more) reason

/-- The invariant behind one turn, wherever it ends. -/
def AfterTurn (Head : List Input → List Entry → State → Prop)
    (Left : List Input → List Entry → Exit → Prop) (before : List Input) (log : List Entry)
    (input : Input) (taken : List Entry × TurnEnd State Exit) : Prop :=
  match taken.2 with
  | .next after => Head (before ++ [input]) (log ++ taken.1) after
  | .exit reason => ∀ rest, Left (before ++ input :: rest) (log ++ taken.1) reason

/-- An invariant from one case analysis of the turn. -/
theorem LoopInvariant.of_turns {Head : List Input → List Entry → State → Prop}
    {Left : List Input → List Entry → Exit → Prop}
    (turns : ∀ before log state input, Head before log state →
      AfterTurn Head Left before log input (turn state input)) :
    LoopInvariant turn Head Left where
  stays := by
    intro before log state input more after holds taken
    have behind := turns before log state input holds
    rw [taken] at behind
    exact behind
  leaves := by
    intro before log state input more reason holds taken
    have behind := turns before log state input holds
    rw [taken] at behind
    exact behind

/-- The invariant at the end of a run, wherever it stands. -/
def Stands (Head : List Input → List Entry → State → Prop)
    (Left : List Input → List Entry → Exit → Prop) (inputs : List Input)
    (run : List Entry × TurnEnd State Exit) : Prop :=
  match run.2 with
  | .next state => Head inputs run.1 state
  | .exit reason => Left inputs run.1 reason

/-- An invariant carries over every run, from any head at which it holds. -/
theorem LoopInvariant.stands_from {Head : List Input → List Entry → State → Prop}
    {Left : List Input → List Entry → Exit → Prop} (invariant : LoopInvariant turn Head Left)
    {before : List Input} {log : List Entry} (holds : Head before log state)
    (inputs : List Input) :
    Stands Head Left (before ++ inputs)
      (log ++ (runLoop turn state inputs).1, (runLoop turn state inputs).2) := by
  induction inputs generalizing before log state with
  | nil => simpa [Stands] using holds
  | cons input rest inductionHypothesis =>
      cases taken : turn state input with
      | mk more ending =>
          cases ending with
          | exit reason =>
              rw [runLoop_cons_exit taken]
              exact invariant.leaves holds taken rest
          | next after =>
              rw [runLoop_cons_next taken]
              have later := inductionHypothesis (invariant.stays holds taken)
              simpa only [List.append_assoc, List.singleton_append] using later

/-- An invariant that holds before the first turn carries over every run. -/
theorem LoopInvariant.stands {Head : List Input → List Entry → State → Prop}
    {Left : List Input → List Entry → Exit → Prop} (invariant : LoopInvariant turn Head Left)
    (state : State) (holds : Head [] [] state) (inputs : List Input) :
    Stands Head Left inputs (runLoop turn state inputs) := by
  simpa using invariant.stands_from holds inputs

/-- What the invariant gives for a run that has left the loop. -/
theorem LoopInvariant.left {Head : List Input → List Entry → State → Prop}
    {Left : List Input → List Entry → Exit → Prop} (invariant : LoopInvariant turn Head Left)
    (holds : Head [] [] state) {inputs : List Input} {reason : Exit}
    (ended : (runLoop turn state inputs).2 = .exit reason) :
    Left inputs (runLoop turn state inputs).1 reason := by
  have stands := invariant.stands state holds inputs
  rw [Stands, ended] at stands
  exact stands

/-- A loop whose turns on one and the same input leave it as wanted or bring it
back to its head with a smaller measure leaves as wanted after finitely many of
them. -/
theorem LoopInvariant.exists_exit_from {Head : List Input → List Entry → State → Prop}
    {Left : List Input → List Entry → Exit → Prop} (invariant : LoopInvariant turn Head Left)
    {Wanted : Exit → Prop} (measure : State → Nat) (input : Input)
    (advances : ∀ before log state, Head before log state →
      (∃ more reason, turn state input = (more, .exit reason) ∧ Wanted reason) ∨
        ∃ more after, turn state input = (more, .next after) ∧ measure after < measure state)
    (before : List Input) {log : List Entry} (holds : Head before log state) :
    ∃ inputs reason, (runLoop turn state inputs).2 = .exit reason ∧ Wanted reason := by
  induction bound : measure state using Nat.strongRecOn generalizing before log state with
  | _ size inductionHypothesis =>
      rcases advances before log state holds with
        ⟨more, reason, left, wanted⟩ | ⟨more, after, stayed, less⟩
      · exact ⟨[input], reason, by rw [runLoop_cons_exit left], wanted⟩
      · obtain ⟨inputs, reason, ended, wanted⟩ :=
          inductionHypothesis (measure after) (bound ▸ less) _ (invariant.stays holds stayed) rfl
        exact ⟨input :: inputs, reason, by rw [runLoop_cons_next stayed]; exact ended, wanted⟩

end LiteVpn.Semantics
