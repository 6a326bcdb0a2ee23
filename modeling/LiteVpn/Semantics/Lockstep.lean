import Mathlib.Logic.Basic

/-!
# Two programs that answer alike

A transducer turns a state and an input into the next state and an answer.
Two transducers give the same answers to every sequence of inputs when some
relation of their states makes the next answers equal and is kept. The relation
may speak about the inputs still to come.
-/

namespace LiteVpn.Semantics

variable {State State' Input Answer : Type}

/-- The answers to a sequence of inputs, and the state behind them. -/
def answers (step : State → Input → State × Answer) (state : State) :
    List Input → State × List Answer
  | [] => (state, [])
  | input :: rest =>
      let after := step state input
      let later := answers step after.1 rest
      (later.1, after.2 :: later.2)

/-- What a relation has to do to keep two transducers together. -/
structure Lockstep (step : State → Input → State × Answer)
    (step' : State' → Input → State' × Answer)
    (Related : State → State' → List Input → Prop) : Prop where
  answer : ∀ {state state' input rest}, Related state state' (input :: rest) →
    (step state input).2 = (step' state' input).2
  keeps : ∀ {state state' input rest}, Related state state' (input :: rest) →
    Related (step state input).1 (step' state' input).1 rest

/-- Related states answer every sequence of inputs alike. -/
theorem Lockstep.answers_eq {step : State → Input → State × Answer}
    {step' : State' → Input → State' × Answer} {Related : State → State' → List Input → Prop}
    (lockstep : Lockstep step step' Related) {state : State} {state' : State'}
    {inputs : List Input} (related : Related state state' inputs) :
    (answers step state inputs).2 = (answers step' state' inputs).2 := by
  induction inputs generalizing state state' with
  | nil => rfl
  | cons input rest inductionHypothesis =>
      simp only [answers, lockstep.answer related, inductionHypothesis (lockstep.keeps related)]

end LiteVpn.Semantics
