import LiteVpn.Semantics.Machine

/-!
# Steps without influence

Some actions of a machine are hidden. If they change nothing that the other steps
depend on, every run can be purged of them: what is left is a run, and it ends in
a state that looks the same.
-/

namespace LiteVpn.Semantics.Machine

universe u v

variable {State : Type u} {Action : Type v} {machine : Machine State Action}
  {Guard : State → Action → Prop}

/-- A run is a run under every guard that an invariant of the machine gives for the
steps of this run. -/
theorem Runs.guarded {Inv : List Action → State → Prop} {start finish : State}
    {trace : List Action} (invariant : InvariantUnder machine Unrestricted Inv)
    (initial : machine.Initial start) (runs : machine.Runs Unrestricted start trace finish)
    (allows : ∀ before action after state, trace = before ++ action :: after →
      Inv before state → Guard state action) :
    machine.Runs Guard start trace finish := by
  induction runs with
  | refl => exact .refl
  | @step trace state action next prior allowed taken inductionHypothesis =>
      refine .step (inductionHypothesis fun before earlier after middle split => ?_) ?_ taken
      · exact allows before earlier (after ++ [action]) middle (by rw [split]; simp)
      · exact allows trace action [] state rfl (invariant.holds ⟨start, initial, prior⟩)

/-- What looks alike before a step looks alike behind it, and a hidden step is not
seen at all. -/
structure Unwinding (machine : Machine State Action) (Guard : State → Action → Prop)
    (hidden : Action → Bool) (Alike : State → State → Prop) : Prop where
  initial : ∀ state, machine.Initial state → Alike state state
  unseen : ∀ {state other action next}, Alike state other → Guard state action →
    hidden action = true → machine.step state action = some next → Alike next other
  seen : ∀ {state other action next}, Alike state other → Guard state action →
    hidden action = false → machine.step state action = some next →
      ∃ after, machine.step other action = some after ∧ Alike next after

/-- Without its hidden actions, a run is a run to a state that looks the same. -/
theorem Unwinding.purge {hidden : Action → Bool} {Alike : State → State → Prop}
    (unwinding : Unwinding machine Guard hidden Alike) {trace : List Action} {state : State}
    (reached : machine.ReachesUnder Guard trace state) :
    ∃ other, machine.Reaches (trace.filter fun action => !hidden action) other ∧
      Alike state other := by
  obtain ⟨start, initial, runs⟩ := reached
  induction runs with
  | refl => exact ⟨start, ⟨start, initial, .refl⟩, unwinding.initial start initial⟩
  | @step trace state action next prior allowed taken inductionHypothesis =>
      obtain ⟨other, ⟨first, initially, purged⟩, alike⟩ := inductionHypothesis
      rw [List.filter_append]
      cases unseen : hidden action with
      | true =>
          rw [List.filter_cons_of_neg (by simp [unseen]), List.filter_nil, List.append_nil]
          exact ⟨other, ⟨first, initially, purged⟩, unwinding.unseen alike allowed unseen taken⟩
      | false =>
          rw [List.filter_cons_of_pos (by simp [unseen]), List.filter_nil]
          obtain ⟨after, followed, still⟩ := unwinding.seen alike allowed unseen taken
          exact ⟨after, ⟨first, initially, purged.step trivial followed⟩, still⟩

end LiteVpn.Semantics.Machine
