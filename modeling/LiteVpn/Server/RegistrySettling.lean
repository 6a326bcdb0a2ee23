import LiteVpn.Server.Exclusive

/-!
# Settling of the registry

While a task rests between its registration and its close of the displaced
client, two clients may pump at once. The overlap heals by itself: the only
steps it takes are the pending closes, they can always be taken, they never hit
the active client, and once they are taken nobody but the client that
registered last uses the device.
-/

namespace LiteVpn.Server.Registry

open LiteVpn.Core LiteVpn.Strings LiteVpn.Semantics

/-- No task holds a displaced client that it still has to close. -/
def Settled (state : State) : Prop :=
  ∀ holder, (state.phase holder).previous? = none

def Action.registers? : Action → Option Nat
  | .register connection => some connection
  | _ => none

def Action.isClose : Action → Bool
  | .closePrevious _ => true
  | _ => false

/-- The connection whose task replaced `active` last. -/
def lastRegistered (trace : List Action) : Option Nat :=
  (trace.filterMap Action.registers?).getLast?

theorem lastRegistered_register (trace : List Action) (connection : Nat) :
    lastRegistered (trace ++ [.register connection]) = some connection := by
  simp [lastRegistered, Action.registers?]

theorem lastRegistered_of_none {trace : List Action} {action : Action}
    (other : action.registers? = none) :
    lastRegistered (trace ++ [action]) = lastRegistered trace := by
  simp [lastRegistered, other]

/-- Whoever is in `active` registered after everybody else. -/
def NewestActive (trace : List Action) (state : State) : Prop :=
  ∀ client, state.active = some client → lastRegistered trace = some client.connection

theorem newestActive_step {config : ServerConfig} {token : Token} {trace : List Action}
    {state next : State} {action : Action} (newest : NewestActive trace state)
    (taken : step config token state action = some next) :
    NewestActive (trace ++ [action]) next := by
  intro client active
  cases transition_of_step taken with
  | register stands =>
      cases active
      exact lastRegistered_register trace _
  | own moved =>
      rw [lastRegistered_of_none rfl]
      exact newest client active
  | drawId stands =>
      rw [lastRegistered_of_none rfl]
      exact newest client active
  | closePrevious stands =>
      rw [closeDisplaced_active] at active
      rw [lastRegistered_of_none rfl]
      exact newest client active
  | cleanUp stands =>
      rw [lastRegistered_of_none rfl]
      exact newest client (clear_eq_some.mp active).1
  | lose =>
      rw [lastRegistered_of_none rfl]
      exact newest client active

/-- Outside a finite list, no connection has been accepted. -/
def Known (known : List Nat) (state : State) : Prop :=
  ∀ connection, connection ∉ known → state.phase connection = .unaccepted

theorem known_goto {known : List Nat} {state : State} (listed : Known known state)
    (connection : Nat) (phase : Phase) :
    Known (connection :: known) (state.goto connection phase) := by
  intro other fresh
  rw [List.mem_cons, not_or] at fresh
  rw [goto_phase, if_neg fresh.1]
  exact listed other fresh.2

theorem known_step {config : ServerConfig} {token : Token} {state next : State} {action : Action}
    {known : List Nat} (listed : Known known state)
    (taken : step config token state action = some next) : ∃ known, Known known next := by
  cases transition_of_step taken with
  | own moved => exact ⟨_, known_goto listed _ _⟩
  | drawId stands => exact ⟨_, known_goto listed _ _⟩
  | register stands => exact ⟨_, known_goto listed _ _⟩
  | @closePrevious connection id previous stands =>
      refine ⟨connection :: known, fun other fresh => ?_⟩
      rw [closeDisplaced_phase]
      exact known_goto listed connection (.ready id) other fresh
  | cleanUp stands => exact ⟨_, known_goto listed _ _⟩
  | lose => exact ⟨known, listed⟩

/-- What closing displaced clients leaves as it is. -/
structure ClosesOnly (before after : State) : Prop where
  active : after.active = before.active
  /-- No duty to close comes up. -/
  duties : ∀ {holder client}, (after.phase holder).previous? = some client →
    (before.phase holder).previous? = some client
  pumps : ∀ connection id, after.phase connection = .pumping id ↔
    before.phase connection = .pumping id
  /-- The client in `active` stays as open as it was. -/
  spared : ∀ client, before.active = some client →
    after.closed client.connection = before.closed client.connection
  stillClosed : ∀ connection, before.closed connection = true → after.closed connection = true

theorem ClosesOnly.refl (state : State) : ClosesOnly state state :=
  ⟨rfl, id, fun _ _ => Iff.rfl, fun _ _ => rfl, fun _ => id⟩

theorem ClosesOnly.trans {first second third : State} (before : ClosesOnly first second)
    (after : ClosesOnly second third) : ClosesOnly first third where
  active := after.active.trans before.active
  duties holds := before.duties (after.duties holds)
  pumps connection id := (after.pumps connection id).trans (before.pumps connection id)
  spared client found :=
    (after.spared client (before.active.trans found)).trans (before.spared client found)
  stillClosed connection closed :=
    after.stillClosed connection (before.stillClosed connection closed)

theorem closesOnly_closePrevious {state : State} {connection : Nat} {id : UInt64}
    {previous : Option ActiveClient} (ownership : Ownership state)
    (stands : state.phase connection = .registered id previous) :
    ClosesOnly state ((state.goto connection (.ready id)).closeDisplaced previous) := by
  constructor
  · simp
  · intro holder client holds
    rw [closeDisplaced_phase] at holds
    exact goto_previous? rfl holds
  · intro other otherId
    rw [closeDisplaced_phase, goto_phase]
    split
    · rename_i here
      rw [here, stands]
      simp
    · rfl
  · intro client active
    -- What the task holds is displaced, so it is not the client in `active`.
    have elsewhere : ∀ displaced, previous = some displaced →
        displaced.connection ≠ client.connection := by
      rintro displaced rfl same
      have holds : (state.phase connection).previous? = some displaced := by
        rw [stands]
        rfl
      exact ownership.held_inactive holds active same.symm
    cases previous with
    | none => rfl
    | some displaced =>
        have other := elsewhere displaced rfl
        simp [State.closeDisplaced, close_closed, Ne.symm other]
  · intro other closed
    by_contra opened
    rw [Bool.not_eq_true, closeDisplaced_closed] at opened
    rw [goto_closed, closed] at opened
    cases opened.1

/-- One by one, the tasks of a list can close whom they still hold. -/
theorem exists_closings (config : ServerConfig) (token : Token) {state : State}
    (ownership : Ownership state) (holders : List Nat) :
    ∃ closings next, (∀ action ∈ closings, action.isClose = true) ∧
      (registry config token).run state closings = some next ∧ Ownership next ∧
      ClosesOnly state next ∧ ∀ holder ∈ holders, (next.phase holder).previous? = none := by
  induction holders generalizing state with
  | nil =>
      exact ⟨[], state, by simp, rfl, ownership, .refl state, by simp⟩
  | cons holder rest inductionHypothesis =>
      cases holds : (state.phase holder).previous? with
      | none =>
          obtain ⟨closings, next, closes, executed, owned, only, free⟩ :=
            inductionHypothesis ownership
          refine ⟨closings, next, closes, executed, owned, only, ?_⟩
          rw [List.forall_mem_cons]
          refine ⟨?_, free⟩
          cases still : (next.phase holder).previous? with
          | none => rfl
          | some client => exact absurd (holds.symm.trans (only.duties still)) (by simp)
      | some client =>
          obtain ⟨id, stands⟩ := Phase.previous?_eq_some.mp holds
          have taken : (registry config token).step state (.closePrevious holder) =
              some ((state.goto holder (.ready id)).closeDisplaced (some client)) := by
            simp [registry, step, stands]
          obtain ⟨closings, next, closes, executed, owned, only, free⟩ :=
            inductionHypothesis (ownership_closePrevious ownership stands)
          refine ⟨.closePrevious holder :: closings, next, ?_, ?_, owned,
            (closesOnly_closePrevious ownership stands).trans only, ?_⟩
          · rw [List.forall_mem_cons]
            exact ⟨rfl, closes⟩
          · simp only [Machine.run, taken]
            exact executed
          · rw [List.forall_mem_cons]
            refine ⟨?_, free⟩
            cases still : (next.phase holder).previous? with
            | none => rfl
            | some other =>
                have held := only.duties still
                rw [closeDisplaced_phase, goto_phase, if_pos rfl] at held
                cases held

/-- With no duty left on the known connections, none is left at all. -/
theorem settled_of_known {known : List Nat} {state next : State} (listed : Known known state)
    (only : ClosesOnly state next) (free : ∀ holder ∈ known, (next.phase holder).previous? = none) :
    Settled next := by
  intro holder
  by_cases member : holder ∈ known
  · exact free holder member
  · cases still : (next.phase holder).previous? with
    | none => rfl
    | some client =>
        have held := only.duties still
        rw [listed holder member] at held
        cases held

/-- Once nothing is left to close, only the client in `active` uses the device. -/
theorem UsesDevice.active_of_settled {state : State} {connection : Nat}
    (ownership : Ownership state) (settled : Settled state)
    (uses : UsesDevice state connection) :
    ∃ client, state.active = some client ∧ client.connection = connection := by
  obtain ⟨⟨id, pumping⟩, opened⟩ := uses
  by_contra inactive
  have registered : (state.phase connection).registeredId? = some id := by
    rw [pumping]
    rfl
  obtain ⟨holder, client, holds, _⟩ := ownership.displaced_held registered opened
    fun current active here => inactive ⟨current, active, here⟩
  rw [settled holder] at holds
  cases holds

/-- The steps of every run leave the registry in a state that knows its clients. -/
theorem reaches_settling {config : ServerConfig} {token : Token} {trace : List Action}
    {state : State} (reached : (registry config token).Reaches trace state) :
    Sound trace state ∧ NewestActive trace state ∧ ∃ known, Known known state := by
  have invariant : Machine.InvariantUnder (registry config token) Machine.Unrestricted
      fun trace state => Sound trace state ∧ NewestActive trace state ∧
        ∃ known, Known known state := by
    constructor
    · rintro _ rfl
      refine ⟨sound_start, ?_, [], fun _ _ => rfl⟩
      rintro client ⟨⟩
    · rintro trace state action next ⟨sound, newest, known, listed⟩ _ taken
      exact ⟨sound_step sound taken, newestActive_step newest taken, known_step listed taken⟩
  exact invariant.holds reached

/-- From every state that any interleaving reaches, the pending closes, and no
other steps, lead to a state in which the device belongs to the client that
registered last: whoever still uses it is that client, and if that client was
open and pumping before, it still is. -/
theorem registry_settles {config : ServerConfig} {token : Token} {trace : List Action}
    {state : State} (reached : (registry config token).Reaches trace state)
    (few : draws trace < 2 ^ 64) :
    ∃ closings next, (∀ action ∈ closings, action.isClose = true) ∧
      (registry config token).Reaches (trace ++ closings) next ∧
      Settled next ∧ Exclusive next ∧
      (∀ connection, UsesDevice next connection → lastRegistered trace = some connection) ∧
      ∀ client, state.active = some client →
        (UsesDevice next client.connection ↔ UsesDevice state client.connection) := by
  obtain ⟨sound, newest, known, listed⟩ := reaches_settling reached
  obtain ⟨closings, next, closes, executed, owned, only, free⟩ :=
    exists_closings config token (sound few).2 known
  have settled := settled_of_known listed only free
  have latest : ∀ connection, UsesDevice next connection →
      lastRegistered trace = some connection := by
    intro connection uses
    obtain ⟨client, active, rfl⟩ := uses.active_of_settled owned settled
    exact newest client (only.active.symm.trans active)
  obtain ⟨first, initial, runs⟩ := reached
  refine ⟨closings, next, closes, ⟨first, initial, runs.trans (Machine.runs_of_run executed)⟩,
    settled, ?_, latest, ?_⟩
  · intro one other usesOne usesOther
    exact Option.some.inj ((latest one usesOne).symm.trans (latest other usesOther))
  · intro client active
    simp only [UsesDevice, only.pumps, only.spared client active]

/-- The overlapping run of three clients settles on the third. -/
theorem registry_settles_overlap :
    ∃ state, (registry {} sampleToken).Reaches (overlap sampleToken) state ∧
      (UsesDevice state 0 ∧ UsesDevice state 2) ∧
      ∃ closings next, (registry {} sampleToken).Reaches (overlap sampleToken ++ closings) next ∧
        ¬ UsesDevice next 0 := by
  obtain ⟨state, reached, firstPumps, firstOpen, thirdPumps, thirdOpen⟩ := overlap_reaches
  obtain ⟨closings, next, _, settling, _, _, latest, _⟩ :=
    registry_settles reached (by decide)
  refine ⟨state, reached, ⟨⟨⟨1, firstPumps⟩, firstOpen⟩, ⟨⟨3, thirdPumps⟩, thirdOpen⟩⟩,
    closings, next, settling, fun uses => ?_⟩
  have last := latest 0 uses
  revert last
  decide

end LiteVpn.Server.Registry
