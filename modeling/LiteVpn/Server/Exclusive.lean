import LiteVpn.Server.RegistrySafety

/-!
# Exclusive use of the TUN device

The server has one TUN device, and the pumps of every VPN client work on it.
A task closes the client it displaced only after it has released the lock, so a
third client can slip in between: it displaces the second one, which has not
closed the first one yet. Where every registration waits until the displaced
clients are closed, no two open clients ever pump.
-/

namespace LiteVpn.Server.Registry

open LiteVpn.Core LiteVpn.Strings LiteVpn.Semantics

/-- The connection is open and runs its pumps on the shared device. -/
def UsesDevice (state : State) (connection : Nat) : Prop :=
  (∃ id, state.phase connection = .pumping id) ∧ state.closed connection = false

/-- At most one connection uses the device. -/
def Exclusive (state : State) : Prop :=
  ∀ first second, UsesDevice state first → UsesDevice state second → first = second

/-- A task may replace `active` only once every displaced client that some task
still holds is closed. -/
def DisplacedClosed (state : State) (action : Action) : Prop :=
  ∀ connection, action = .register connection → ∀ holder id previous,
    state.phase holder = .registered id (some previous) →
      state.closed previous.connection = true

/-- Whoever holds a displaced client that is still open is in `active` itself. -/
def HolderActive (state : State) : Prop :=
  ∀ holder id previous, state.phase holder = .registered id (some previous) →
    state.closed previous.connection = false → state.active = some ⟨id, holder⟩

/-- A task that holds a displaced client after another phase was entered held it
before. -/
theorem goto_eq_registered {state : State} {connection holder : Nat} {phase : Phase} {id : UInt64}
    {previous : ActiveClient} (free : phase.previous? = none)
    (stands : (state.goto connection phase).phase holder = .registered id (some previous)) :
    state.phase holder = .registered id (some previous) := by
  rw [goto_phase] at stands
  split at stands
  · rw [stands] at free
    cases free
  · exact stands

theorem holderActive_step {config : ServerConfig} {token : Token} {trace : List Action}
    {state next : State} {action : Action} (numbering : Numbering trace state)
    (holderActive : HolderActive state) (allowed : DisplacedClosed state action)
    (taken : step config token state action = some next) : HolderActive next := by
  intro holder id previous stands opened
  cases transition_of_step taken with
  | own moved =>
      have role := (ownStep_sameRole moved).1
      exact holderActive holder id previous
        (goto_eq_registered role.stillNone stands) opened
  | drawId _ =>
      exact holderActive holder id previous (goto_eq_registered rfl stands) opened
  | register registering =>
      simp only [goto_phase] at stands
      split at stands
      · rename_i here
        obtain ⟨rfl, _⟩ := Phase.registered.inj stands
        rw [here]
      · -- Any other task holds a client that the guard has seen closed.
        have closed := allowed _ rfl holder id previous stands
        exact absurd (closed.symm.trans opened) (by simp)
  | closePrevious _ =>
      rw [closeDisplaced_phase] at stands
      rw [closeDisplaced_active]
      exact holderActive holder id previous (goto_eq_registered rfl stands)
        (closeDisplaced_closed.mp opened).1
  | @cleanUp connection clientId ending =>
      have held := goto_eq_registered rfl stands
      refine clear_eq_some.mpr ⟨holderActive holder id previous held opened, ?_⟩
      intro same
      -- The task that cleans up would be the holder, which stands elsewhere.
      have mine : (state.phase connection).clientId? = some id := by
        rw [ending]
        exact same
      have theirs : (state.phase holder).clientId? = some id := by
        rw [held]
        rfl
      have here := numbering.distinct mine theirs
      rw [here, held] at ending
      cases ending
  | lose =>
      rw [close_closed] at opened
      split at opened
      · cases opened
      · exact holderActive holder id previous stands opened

/-- An open client that pumps is in `active`, or a task in `active` is about to
close it. -/
theorem UsesDevice.active_or_held {state : State} {connection : Nat}
    (ownership : Ownership state) (holderActive : HolderActive state)
    (uses : UsesDevice state connection) :
    (∃ client, state.active = some client ∧ client.connection = connection) ∨
      ∃ holder id previous, state.active = some ⟨id, holder⟩ ∧
        state.phase holder = .registered id (some previous) ∧
          previous.connection = connection := by
  obtain ⟨⟨id, pumping⟩, opened⟩ := uses
  by_cases active : ∃ client, state.active = some client ∧ client.connection = connection
  · exact .inl active
  · have registered : (state.phase connection).registeredId? = some id := by
      rw [pumping]
      rfl
    obtain ⟨holder, previous, holds, here⟩ := ownership.displaced_held registered opened
      fun current found same => active ⟨current, found, same⟩
    obtain ⟨holderId, stands⟩ := Phase.previous?_eq_some.mp holds
    refine .inr ⟨holder, holderId, previous, ?_, stands, here⟩
    exact holderActive holder holderId previous stands (here ▸ opened)

theorem exclusive_of_holderActive {state : State} (ownership : Ownership state)
    (holderActive : HolderActive state) : Exclusive state := by
  intro first second usesFirst usesSecond
  have notHolder : ∀ {connection holder id previous}, UsesDevice state connection →
      state.phase holder = .registered id (some previous) → holder ≠ connection := by
    rintro connection holder id previous ⟨⟨other, pumping⟩, _⟩ stands rfl
    rw [pumping] at stands
    cases stands
  rcases usesFirst.active_or_held ownership holderActive with
      ⟨client, active, rfl⟩ | ⟨holder, id, previous, active, stands, rfl⟩ <;>
    rcases usesSecond.active_or_held ownership holderActive with
      ⟨other, otherActive, rfl⟩ | ⟨otherHolder, otherId, otherPrevious, otherActive, otherStands, rfl⟩
  · rw [active] at otherActive
    cases otherActive
    rfl
  · rw [active] at otherActive
    cases otherActive
    exact absurd rfl (notHolder usesFirst otherStands)
  · rw [active] at otherActive
    cases otherActive
    exact absurd rfl (notHolder usesSecond stands)
  · rw [active] at otherActive
    cases otherActive
    rw [stands] at otherStands
    cases otherStands
    rfl

/-- In every run in which each registration finds the displaced clients closed,
the device is used exclusively in every state reached. -/
theorem exclusive_when_displacedClosed {config : ServerConfig} {token : Token}
    {trace : List Action} {state : State}
    (reached : (registry config token).ReachesUnder DisplacedClosed trace state)
    (few : draws trace < 2 ^ 64) : Exclusive state := by
  have invariant : Machine.InvariantUnder (registry config token) DisplacedClosed
      fun trace state => Sound trace state ∧ (draws trace < 2 ^ 64 → HolderActive state) := by
    constructor
    · rintro _ rfl
      refine ⟨sound_start, ?_⟩
      rintro _ holder id previous ⟨⟩
    · rintro trace state action next ⟨sound, holderActive⟩ allowed taken
      refine ⟨sound_step sound taken, fun few => ?_⟩
      have before := draws_le_snoc trace action
      obtain ⟨numbering, _⟩ := sound (by omega)
      exact holderActive_step numbering (holderActive (by omega)) allowed taken
  obtain ⟨sound, holderActive⟩ := invariant.holds reached
  exact exclusive_of_holderActive (sound few).2 (holderActive few)

/-- The guard restricts nothing but registrations. -/
theorem displacedClosed_of_ne {state : State} {action : Action}
    (other : ∀ connection, action ≠ .register connection) : DisplacedClosed state action :=
  fun connection registering => absurd registering (other connection)

/-- The state in which a task has drawn its id and not yet registered. -/
def State.arrived (state : State) (connection : Nat) : State :=
  { state.goto connection (.drawn state.nextClientId) with
    nextClientId := state.nextClientId + 1 }

/-- A client with the right token is admitted up to its registration. -/
theorem runs_arrive {config : ServerConfig} {token : Token} {state : State} {connection : Nat}
    (accepted : (serverAuthenticate token.text (clientRequest token.text .vpn)).outcome =
      .ok .vpn) (roomy : config.mtu ≤ 1350) (fresh : state.phase connection = .unaccepted) :
    (registry config token).Runs DisplacedClosed state (arrive token connection)
      (state.arrived connection) := by
  have room : ensureDatagramCapacity (some 1350) config.mtu "server" = .ok () := by
    simp [ensureDatagramCapacity, Nat.not_lt.mpr roomy]
  refine Machine.runs_of_run_guarded ?_ ?_
  · simp [Machine.run, registry, arrive, step, ownStep, fresh, accepted, afterAuthentication,
      afterCapacityCheck, room, State.goto, State.arrived]
  · intro action member state
    refine displacedClosed_of_ne ?_
    rintro other rfl
    simp [arrive] at member

/-- Where no task holds a displaced client, an arrived one may register. -/
theorem displacedClosed_arrived {state : State} {connection : Nat}
    (free : ∀ holder, (state.phase holder).previous? = none) :
    DisplacedClosed (state.arrived connection) (.register connection) := by
  intro _ _ holder id previous stands
  have held := goto_eq_registered rfl stands
  have none := free holder
  rw [held] at none
  cases none

/-- A client that joins while no task holds a displaced client. -/
theorem runs_join {config : ServerConfig} {token : Token} {state : State} {connection : Nat}
    (accepted : (serverAuthenticate token.text (clientRequest token.text .vpn)).outcome =
      .ok .vpn) (roomy : config.mtu ≤ 1350) (fresh : state.phase connection = .unaccepted)
    (free : ∀ holder, (state.phase holder).previous? = none) :
    ∃ next, (registry config token).Runs DisplacedClosed state (join token connection) next ∧
      next.phase = Function.update state.phase connection (.pumping state.nextClientId) ∧
      next.active = some ⟨state.nextClientId, connection⟩ ∧
      ∀ other, next.closed other = false ↔ state.closed other = false ∧
        ∀ client, state.active = some client → client.connection ≠ other := by
  have rest : ∀ action ∈ [Action.closePrevious connection, .own connection .startPumps],
      ∀ state, DisplacedClosed state action := by
    intro action member state
    refine displacedClosed_of_ne ?_
    rintro other rfl
    simp at member
  have taken : (registry config token).step (state.arrived connection) (.register connection) =
      some { (state.arrived connection).goto connection
          (.registered state.nextClientId state.active) with
        active := some ⟨state.nextClientId, connection⟩ } := by
    simp [registry, step, State.arrived, goto_phase]
  have registered := (runs_arrive accepted roomy fresh).step (displacedClosed_arrived free) taken
  have pumping : (registry config token).run
      { (state.arrived connection).goto connection
          (.registered state.nextClientId state.active) with
        active := some ⟨state.nextClientId, connection⟩ }
      [.closePrevious connection, .own connection .startPumps] =
        some ({ state.goto connection (.pumping state.nextClientId) with
          active := some ⟨state.nextClientId, connection⟩
          nextClientId := state.nextClientId + 1 }.closeDisplaced state.active) := by
    cases state.active <;>
      simp [Machine.run, registry, step, ownStep, State.arrived, State.goto, State.closeDisplaced,
        State.close]
  refine ⟨_, registered.trans (Machine.runs_of_run_guarded pumping rest), ?_, ?_, ?_⟩
  · simp [State.goto]
  · simp
  · intro other
    exact closeDisplaced_closed

/-- One client displaces another and closes it before anyone else registers. -/
theorem exclusive_when_displacedClosed_takeover :
    ∃ state, (registry {} sampleToken).ReachesUnder DisplacedClosed
        (join sampleToken 0 ++ join sampleToken 1) state ∧
      Exclusive state ∧ UsesDevice state 1 := by
  have accepted : (serverAuthenticate sampleToken.text
      (clientRequest sampleToken.text .vpn)).outcome = .ok .vpn := by
    decide +kernel
  obtain ⟨middle, first, phases, active, closed⟩ : ∃ next,
      (registry {} sampleToken).Runs DisplacedClosed start (join sampleToken 0) next ∧ _ :=
    runs_join accepted (by decide) rfl fun _ => rfl
  have fresh : middle.phase 1 = .unaccepted := by
    rw [phases]
    rfl
  have free : ∀ holder, (middle.phase holder).previous? = none := by
    intro holder
    rw [phases, Function.update_apply]
    split <;> rfl
  obtain ⟨finish, second, finalPhases, _, finalClosed⟩ : ∃ next,
      (registry {} sampleToken).Runs DisplacedClosed middle (join sampleToken 1) next ∧ _ :=
    runs_join accepted (by decide) fresh free
  have reached : (registry {} sampleToken).ReachesUnder DisplacedClosed
      (join sampleToken 0 ++ join sampleToken 1) finish := ⟨start, rfl, first.trans second⟩
  refine ⟨finish, reached, exclusive_when_displacedClosed reached (by decide), ?_, ?_⟩
  · exact ⟨middle.nextClientId, by rw [finalPhases, Function.update_self]⟩
  · simp [finalClosed, closed, active, start]

/-- With a third client in between, two open clients pump at once. -/
theorem overlap_not_exclusive :
    ∃ state, (registry {} sampleToken).Reaches (overlap sampleToken) state ∧
      ¬ Exclusive state := by
  obtain ⟨state, reached, firstPumps, firstOpen, thirdPumps, thirdOpen⟩ := overlap_reaches
  refine ⟨state, reached, fun exclusive => ?_⟩
  have same := exclusive 0 2 ⟨⟨1, firstPumps⟩, firstOpen⟩ ⟨⟨3, thirdPumps⟩, thirdOpen⟩
  cases same

end LiteVpn.Server.Registry
