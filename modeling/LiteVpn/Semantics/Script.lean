import LiteVpn.Semantics.Machine

/-!
# Scripts

A script acts on a record and ends with a value or a failure; whatever it did to
the record before it failed stays done. Triples speak about both ways out. A log
of events follows a machine when the machine can perform it from its start, so a
triple over such logs says which events a script may perform, and when. A machine
may also only read a log; `Suits` says how it stands at each place of it.
-/

namespace LiteVpn.Semantics

/-- A computation on a record that may fail. -/
abbrev Script (Record Failure Value : Type) := ExceptT Failure (StateM Record) Value

variable {Record Failure Value Value' : Type}

/-- What a script ends with, and the record it leaves. -/
def Script.runOn (script : Script Record Failure Value) (record : Record) :
    Except Failure Value × Record :=
  StateT.run (ExceptT.run script) record

/-- Run a script and look at what it ended with. -/
def Script.result (script : Script Record Failure Value) :
    Script Record Failure (Except Failure Value) :=
  ExceptT.mk (do
    let ended ← ExceptT.run script
    return .ok ended)

/-- A computation that only ends. -/
def Script.ofExcept (ended : Except Failure Value) : Script Record Failure Value :=
  ExceptT.mk (pure ended)

/-- A script that is left out unless the condition holds. -/
def onlyIf (condition : Prop) [Decidable condition] (script : Script Record Failure Unit) :
    Script Record Failure Unit :=
  if condition then script else pure ()

/-- Add an event to the log. -/
def emit {Event : Type} (event : Event) : Script (List Event) Failure Unit :=
  modifyGet fun log => ((), log ++ [event])

/-- Ask the surroundings for something and log it with what came of it. They may
answer differently each time: the number is that of the event. -/
def perform {Event : Type} (outcomes : Nat → Value) (event : Value → Event) :
    Script (List Event) Failure Value :=
  modifyGet fun log => (outcomes log.length, log ++ [event (outcomes log.length)])

/-- Both ways out of a script. -/
def Ends (After : Value → Record → Prop) (Failed : Failure → Record → Prop) :
    Except Failure Value × Record → Prop
  | (.ok value, record) => After value record
  | (.error failure, record) => Failed failure record

/-- From every record that meets `Before`, the script ends with a value that meets
`After` or with a failure that meets `Failed`. -/
def Triple (Before : Record → Prop) (script : Script Record Failure Value)
    (After : Value → Record → Prop) (Failed : Failure → Record → Prop) : Prop :=
  ∀ record, Before record → Ends After Failed (script.runOn record)

namespace Triple

variable {Before : Record → Prop} {After : Value → Record → Prop}
  {Failed : Failure → Record → Prop} {script : Script Record Failure Value}

theorem runOn_bind (script : Script Record Failure Value)
    (next : Value → Script Record Failure Value') (record : Record) :
    (script >>= next).runOn record =
      match script.runOn record with
      | (.ok value, middle) => (next value).runOn middle
      | (.error failure, middle) => (.error failure, middle) := by
  simp only [Script.runOn, ExceptT.run_bind, StateT.run_bind]
  cases ended : StateT.run (ExceptT.run script) record with
  | mk value middle => cases value <;> rfl

theorem bind {Between : Value → Record → Prop} {After' : Value' → Record → Prop}
    {next : Value → Script Record Failure Value'} (first : Triple Before script Between Failed)
    (second : ∀ value, Triple (Between value) (next value) After' Failed) :
    Triple Before (script >>= next) After' Failed := by
  intro record holds
  have between := first record holds
  rw [runOn_bind]
  cases ended : script.runOn record with
  | mk value middle =>
      rw [ended] at between
      cases value with
      | error failure => exact between
      | ok value => exact second value middle between

/-- What comes behind an outcome knows it. -/
theorem ofExcept_bind {ended : Except Failure Value} {After' : Value' → Record → Prop}
    {next : Value → Script Record Failure Value'}
    (goesOn : ∀ value, ended = .ok value → Triple Before (next value) After' Failed)
    (leaves : ∀ failure, ended = .error failure → ∀ record, Before record →
      Failed failure record) :
    Triple Before (Script.ofExcept ended >>= next) After' Failed := by
  intro record before
  rw [runOn_bind]
  cases ended with
  | ok value => exact goesOn value rfl record before
  | error failure => exact leaves failure rfl record before

/-- A script whose failure is looked at cannot fail itself. -/
theorem result {Failed' : Failure → Record → Prop} (holds : Triple Before script After Failed) :
    Triple Before script.result
      (fun ended record => Ends After Failed (ended, record)) Failed' :=
  fun record before => holds record before

theorem mono {Before' : Record → Prop} {After' : Value → Record → Prop}
    {Failed' : Failure → Record → Prop} (holds : Triple Before script After Failed)
    (before : ∀ record, Before' record → Before record)
    (after : ∀ value record, After value record → After' value record)
    (failed : ∀ failure record, Failed failure record → Failed' failure record) :
    Triple Before' script After' Failed' := by
  intro record starts
  have ends := holds record (before record starts)
  cases ended : script.runOn record with
  | mk value middle =>
      rw [ended] at ends
      cases value with
      | error failure => exact failed failure middle ends
      | ok value => exact after value middle ends

/-- A script that may be left out leads on from where either way ends. -/
theorem onlyIf {condition : Prop} [Decidable condition] {After : Unit → Record → Prop}
    {script : Script Record Failure Unit} (holds : condition → Triple Before script After Failed)
    (skips : ¬ condition → ∀ record, Before record → After () record) :
    Triple Before (Semantics.onlyIf condition script) After Failed := by
  unfold Semantics.onlyIf
  split
  · rename_i met
    exact holds met
  · rename_i unmet
    exact skips unmet

/-- A script that may be left out and otherwise keeps what holds. -/
theorem onlyIf_keeps {condition : Prop} [Decidable condition]
    {script : Script Record Failure Unit}
    (holds : condition → Triple Before script (fun _ => Before) Failed) :
    Triple Before (Semantics.onlyIf condition script) (fun _ => Before) Failed :=
  onlyIf holds fun _ _ before => before

/-- A script that sets a flag and runs only where the flag is wanted. -/
theorem onlyIf_sets {At : Bool → Record → Prop} {flag : Bool}
    {script : Script Record Failure Unit}
    (sets : flag = true → Triple (At false) script (fun _ => At true) Failed) :
    Triple (At false) (Semantics.onlyIf (flag = true) script) (fun _ => At flag) Failed := by
  cases flag with
  | true => exact sets rfl
  | false => exact fun _ unset => unset

/-- A script that clears a flag and runs only where the flag is set. -/
theorem onlyIf_clears {At : Bool → Record → Prop} {flag : Bool}
    {script : Script Record Failure Unit}
    (clears : flag = true → Triple (At true) script (fun _ => At false) Failed) :
    Triple (At flag) (Semantics.onlyIf (flag = true) script) (fun _ => At false) Failed := by
  cases flag with
  | true => exact clears rfl
  | false => exact fun _ unset => unset

/-- What holds of one script for every index holds for all of them at once. -/
theorem all {Index : Type} {Before : Index → Record → Prop}
    {After : Index → Value → Record → Prop} {Failed : Index → Failure → Record → Prop}
    (holds : ∀ index, Triple (Before index) script (After index) (Failed index)) :
    Triple (fun record => ∀ index, Before index record) script
      (fun value record => ∀ index, After index value record)
      (fun failure record => ∀ index, Failed index failure record) := by
  intro record before
  have ends := fun index => holds index record (before index)
  cases ended : script.runOn record with
  | mk value middle =>
      rw [ended] at ends
      cases value <;> exact ends

end Triple

section Events

variable {Event State : Type} {Before : List Event → Prop} {Failed : Failure → List Event → Prop}

theorem triple_emit {After : Unit → List Event → Prop} {event : Event}
    (adds : ∀ log, Before log → After () (log ++ [event])) :
    Triple Before (emit event) After Failed :=
  adds

theorem triple_perform {After : Value → List Event → Prop} {outcomes : Nat → Value}
    {event : Value → Event}
    (adds : ∀ log outcome, Before log → After outcome (log ++ [event outcome])) :
    Triple Before (perform outcomes event) After Failed :=
  fun log before => adds log (outcomes log.length) before

/-- The machine can perform the log from `start` and then stands in `state`. -/
def Follows (machine : Machine State Event) (start state : State) (log : List Event) : Prop :=
  machine.run start log = some state

theorem Follows.snoc {machine : Machine State Event} {start state next : State} {log : List Event}
    {event : Event} (follows : Follows machine start state log)
    (taken : machine.step state event = some next) :
    Follows machine start next (log ++ [event]) := by
  induction log generalizing start with
  | nil =>
      cases follows
      simp only [Follows, List.nil_append, Machine.run, taken]
  | cons first rest inductionHypothesis =>
      simp only [Follows, Machine.run] at follows
      simp only [Follows, List.cons_append, Machine.run]
      split at follows
      · cases follows
      · exact inductionHypothesis follows

/-- Where a machine stands at some place of a log that it can perform. -/
theorem Follows.split {machine : Machine State Event} {start state : State}
    {before rest : List Event} (follows : Follows machine start state (before ++ rest)) :
    ∃ middle, Follows machine start middle before ∧ Follows machine middle state rest := by
  induction before generalizing start with
  | nil => exact ⟨start, rfl, follows⟩
  | cons first others inductionHypothesis =>
      simp only [Follows, List.cons_append, Machine.run] at follows
      simp only [Follows, Machine.run]
      split at follows
      · cases follows
      · exact inductionHypothesis follows

/-- A machine that reads the log stands well behind it, and stood well in front of
each of its events. -/
structure Suits (machine : Machine State Event) (start : State) (Now : State → Prop)
    (At : Event → State → Prop) (log : List Event) : Prop where
  now : ∀ state, Follows machine start state log → Now state
  past : ∀ before event after, log = before ++ event :: after →
    ∀ state, Follows machine start state before → At event state

section Suits

variable {machine : Machine State Event} {start : State} {Now Next : State → Prop}
  {At : Event → State → Prop} {log : List Event}

theorem Suits.nil (now : Now start) : Suits machine start Now At [] where
  now := by
    rintro _ ⟨⟩
    exact now
  past := by
    intro before event after same
    simp at same

/-- One more event, in a state that suits it. -/
theorem Suits.snoc (suits : Suits machine start Now At log) {event : Event}
    (here : ∀ state, Now state → At event state)
    (leads : ∀ state next, Now state → machine.step state event = some next → Next next) :
    Suits machine start Next At (log ++ [event]) where
  now := by
    intro next follows
    obtain ⟨state, reached, taken⟩ := follows.split
    simp only [Follows, Machine.run] at taken
    split at taken
    · cases taken
    · rename_i step
      cases taken
      exact leads state next (suits.now state reached) step
  past := by
    intro before other after same state follows
    rcases List.eq_nil_or_concat after with rfl | ⟨front, final, rfl⟩
    · obtain ⟨rfl, ⟨⟩⟩ := List.append_inj' same rfl
      exact here state (suits.now state follows)
    · rw [List.concat_eq_append, ← List.cons_append, ← List.append_assoc] at same
      exact suits.past before other front (List.append_inj' same rfl).1 state follows

end Suits

end Events

section Keeps

/-- The script keeps the invariant, whichever way it ends. -/
abbrev Keeps (Inv : Record → Prop) (script : Script Record Failure Value) : Prop :=
  Triple Inv script (fun _ => Inv) (fun _ => Inv)

theorem keeps_pure {Inv : Record → Prop} (value : Value) :
    Keeps Inv (pure value : Script Record Failure Value) :=
  fun _ holds => holds

theorem keeps_throw {Inv : Record → Prop} (failure : Failure) :
    Keeps Inv (throw failure : Script Record Failure Value) :=
  fun _ holds => holds

theorem keeps_ofExcept {Inv : Record → Prop} (ended : Except Failure Value) :
    Keeps Inv (Script.ofExcept ended) := by
  intro record holds
  cases ended <;> exact holds

theorem Keeps.run {Inv : Record → Prop} {script : Script Record Failure Value}
    (keeps : Keeps Inv script) {record : Record} (holds : Inv record) :
    Inv (script.runOn record).2 := by
  have ends := keeps record holds
  cases ended : script.runOn record with
  | mk value middle =>
      rw [ended] at ends
      cases value <;> exact ends

end Keeps

end LiteVpn.Semantics
