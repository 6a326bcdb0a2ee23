import LiteVpn.Server.Registry

/-!
# The invariants of the registry

Two invariants carry everything that is said about the registry. `Numbering`:
ids in use are distinct, as long as fewer than 2^64 are drawn. `Ownership`: who
is in `active`, and which task still has to close whom. A clean-up compares ids,
so the second rests on the first.
-/

namespace LiteVpn.Server.Registry

open LiteVpn.Core LiteVpn.Strings LiteVpn.Semantics

/-- The id a task has drawn and not yet cleaned up. -/
def Phase.clientId? : Phase → Option UInt64
  | .drawn id | .registered id _ | .ready id | .pumping id => some id
  | .ended clientId => clientId
  | _ => none

/-- The id of a task that has registered and not yet cleaned up. -/
def Phase.registeredId? : Phase → Option UInt64
  | .registered id _ | .ready id | .pumping id => some id
  | .ended clientId => clientId
  | _ => none

/-- The displaced client that a task holds and is about to close. -/
def Phase.previous? : Phase → Option ActiveClient
  | .registered _ previous => previous
  | _ => none

/-- The task can no longer register. -/
def Phase.PastRegistration : Phase → Prop
  | .registered _ _ | .ready _ | .pumping _ | .ended (some _) | .finished => True
  | _ => False

theorem Phase.clientId?_of_registeredId? {phase : Phase} {id : UInt64}
    (registered : phase.registeredId? = some id) : phase.clientId? = some id := by
  cases phase with
  | registered _ _ | ready _ | pumping _ | ended _ => exact registered
  | _ => cases registered

theorem Phase.pastRegistration_of_registeredId? {phase : Phase} {id : UInt64}
    (registered : phase.registeredId? = some id) : phase.PastRegistration := by
  cases phase with
  | registered _ _ | ready _ | pumping _ => trivial
  | ended clientId =>
      cases registered
      trivial
  | _ => cases registered

/-- A task that holds a displaced client stands right after its registration. -/
theorem Phase.previous?_eq_some {phase : Phase} {client : ActiveClient} :
    phase.previous? = some client ↔ ∃ id, phase = .registered id (some client) := by
  cases phase <;> simp [previous?]

/-- A task that moves from `before` to `after` keeps its registration, and there
is nobody it has to close. -/
structure Phase.SameRole (before after : Phase) : Prop where
  registeredId : after.registeredId? = before.registeredId?
  holdsNone : before.previous? = none
  stillNone : after.previous? = none
  past : before.PastRegistration → after.PastRegistration

theorem ownStep_sameRole {config : ServerConfig} {token : Token} {taken : OwnStep}
    {before after : Phase} (moved : ownStep config token taken before = some after) :
    before.SameRole after ∧ after.clientId? = before.clientId? := by
  unfold ownStep at moved
  split at moved
  · cases moved
    exact ⟨⟨rfl, rfl, rfl, id⟩, rfl⟩
  · cases moved
    exact ⟨⟨rfl, rfl, rfl, id⟩, rfl⟩
  · cases moved
    unfold afterAuthentication
    split <;> exact ⟨⟨rfl, rfl, rfl, id⟩, rfl⟩
  · cases moved
    unfold afterCapacityCheck
    split
    · split <;> exact ⟨⟨rfl, rfl, rfl, id⟩, rfl⟩
    · exact ⟨⟨rfl, rfl, rfl, id⟩, rfl⟩
  · cases moved
    exact ⟨⟨rfl, rfl, rfl, id⟩, rfl⟩
  · unfold leave at moved
    split at moved
    · cases moved
      exact ⟨⟨rfl, rfl, rfl, id⟩, rfl⟩
    · cases moved
      exact ⟨⟨rfl, rfl, rfl, id⟩, rfl⟩
    · cases moved
      exact ⟨⟨rfl, rfl, rfl, id⟩, rfl⟩
    · split at moved
      · cases moved
        exact ⟨⟨rfl, rfl, rfl, id⟩, rfl⟩
      · cases moved
    · cases moved
      exact ⟨⟨rfl, rfl, rfl, id⟩, rfl⟩
    · cases moved
  · cases moved

def Action.isDraw : Action → Bool
  | .drawId _ => true
  | _ => false

/-- How many ids a run has drawn. -/
def draws (trace : List Action) : Nat := trace.countP Action.isDraw

theorem draws_snoc (trace : List Action) (action : Action) :
    draws (trace ++ [action]) = draws trace + if action.isDraw then 1 else 0 := by
  simp [draws, List.countP_append, List.countP_singleton]

theorem draws_le_snoc (trace : List Action) (action : Action) :
    draws trace ≤ draws (trace ++ [action]) := by
  rw [draws_snoc]
  omega

/-- Ids in use are distinct and lie behind the counter. -/
structure Numbering (trace : List Action) (state : State) : Prop where
  next : state.nextClientId.toNat = (1 + draws trace) % 2 ^ 64
  bounded : ∀ {connection id}, (state.phase connection).clientId? = some id →
    id.toNat ≤ draws trace
  distinct : ∀ {first second id}, (state.phase first).clientId? = some id →
    (state.phase second).clientId? = some id → first = second

/-- A step that draws nothing and gives no task a new id keeps the numbering. -/
theorem Numbering.keep {trace : List Action} {action : Action} {state next : State}
    (numbering : Numbering trace state) (draw : action.isDraw = false)
    (counter : next.nextClientId = state.nextClientId)
    (ids : ∀ connection id, (next.phase connection).clientId? = some id →
      (state.phase connection).clientId? = some id) :
    Numbering (trace ++ [action]) next := by
  have same : draws (trace ++ [action]) = draws trace := by
    simp [draws_snoc, draw]
  constructor
  · rw [counter, same]
    exact numbering.next
  · intro connection id used
    rw [same]
    exact numbering.bounded (ids connection id used)
  · intro first second id usedFirst usedSecond
    exact numbering.distinct (ids first id usedFirst) (ids second id usedSecond)

/-- Moving one task between phases with the same id gives no task a new id. -/
theorem goto_clientId? {state : State} {connection : Nat} {phase : Phase}
    (same : ∀ id, phase.clientId? = some id → (state.phase connection).clientId? = some id) :
    ∀ other id, ((state.goto connection phase).phase other).clientId? = some id →
      (state.phase other).clientId? = some id := by
  intro other id used
  rw [goto_phase] at used
  split at used
  · rename_i here
    rw [here]
    exact same id used
  · exact used

/-- Drawing hands out a fresh id while the counter has not wrapped. -/
theorem Numbering.draw {trace : List Action} {state : State} {connection : Nat}
    (numbering : Numbering trace state)
    (few : draws (trace ++ [.drawId connection]) < 2 ^ 64) :
    Numbering (trace ++ [.drawId connection])
      { state.goto connection (.drawn state.nextClientId) with
        nextClientId := state.nextClientId + 1 } := by
  have drawn : draws (trace ++ [.drawId connection]) = draws trace + 1 := by
    simp [draws_snoc, Action.isDraw]
  have current := numbering.next
  rw [drawn] at few
  rw [Nat.mod_eq_of_lt (by omega)] at current
  -- The counter lies above every id in use, so the new one is fresh.
  have fresh : ∀ {other}, (state.phase other).clientId? ≠ some state.nextClientId := by
    intro other used
    have := numbering.bounded used
    omega
  constructor
  · simp only [drawn, UInt64.toNat_add, current]
    rfl
  · intro other id used
    simp only [goto_phase] at used
    rw [drawn]
    split at used
    · cases used
      omega
    · have := numbering.bounded used
      omega
  · intro first second id usedFirst usedSecond
    simp only [goto_phase] at usedFirst usedSecond
    split at usedFirst <;> split at usedSecond
    · simp_all
    · cases usedFirst
      exact absurd usedSecond fresh
    · cases usedSecond
      exact absurd usedFirst fresh
    · exact numbering.distinct usedFirst usedSecond

theorem numbering_step {config : ServerConfig} {token : Token} {trace : List Action}
    {state next : State} {action : Action} (numbering : Numbering trace state)
    (few : draws (trace ++ [action]) < 2 ^ 64)
    (taken : step config token state action = some next) :
    Numbering (trace ++ [action]) next := by
  cases transition_of_step taken with
  | own moved =>
      refine numbering.keep rfl rfl (goto_clientId? ?_)
      rw [(ownStep_sameRole moved).2]
      exact fun _ used => used
  | drawId => exact numbering.draw few
  | register stands =>
      refine numbering.keep rfl rfl (goto_clientId? ?_)
      rw [stands]
      exact fun _ used => used
  | closePrevious stands =>
      refine numbering.keep rfl (by simp) ?_
      rw [closeDisplaced_phase]
      refine goto_clientId? ?_
      rw [stands]
      exact fun _ used => used
  | cleanUp stands =>
      refine numbering.keep rfl rfl (goto_clientId? ?_)
      intro id used
      cases used
  | lose => exact numbering.keep rfl rfl fun _ _ used => used

/-- Who is in `active`, and who is about to close whom. -/
structure Ownership (state : State) : Prop where
  active_registered : ∀ {client}, state.active = some client →
    (state.phase client.connection).registeredId? = some client.id
  held_registered : ∀ {holder client}, (state.phase holder).previous? = some client →
    (state.phase client.connection).PastRegistration
  held_inactive : ∀ {holder client current}, (state.phase holder).previous? = some client →
    state.active = some current → current.connection ≠ client.connection
  held_once : ∀ {first second one other}, (state.phase first).previous? = some one →
    (state.phase second).previous? = some other → one.connection = other.connection →
      first = second
  displaced_held : ∀ {connection id}, (state.phase connection).registeredId? = some id →
    state.closed connection = false →
      (∀ current, state.active = some current → current.connection ≠ connection) →
        ∃ holder client, (state.phase holder).previous? = some client ∧
          client.connection = connection

/-- A task that moves without a change of its registration changes nobody's. -/
theorem goto_registeredId? {state : State} {connection : Nat} {phase : Phase}
    (same : phase.registeredId? = (state.phase connection).registeredId?) (other : Nat) :
    ((state.goto connection phase).phase other).registeredId? =
      (state.phase other).registeredId? := by
  rw [goto_phase]
  split
  · rename_i here
    rw [here, same]
  · rfl

/-- A task that moves to a phase with nobody to close takes over no duty. -/
theorem goto_previous? {state : State} {connection other : Nat} {phase : Phase}
    {client : ActiveClient} (free : phase.previous? = none)
    (holds : ((state.goto connection phase).phase other).previous? = some client) :
    (state.phase other).previous? = some client := by
  rw [goto_phase] at holds
  split at holds
  · rw [free] at holds
    cases holds
  · exact holds

/-- A duty to close stays where it is while another task moves. -/
theorem goto_previous?_of_ne {state : State} {connection holder : Nat} {phase : Phase}
    {client : ActiveClient} (elsewhere : holder ≠ connection)
    (holds : (state.phase holder).previous? = some client) :
    ((state.goto connection phase).phase holder).previous? = some client := by
  rw [goto_phase, if_neg elsewhere]
  exact holds

theorem goto_pastRegistration {state : State} {connection other : Nat} {phase : Phase}
    (past : (state.phase connection).PastRegistration → phase.PastRegistration)
    (stands : (state.phase other).PastRegistration) :
    ((state.goto connection phase).phase other).PastRegistration := by
  rw [goto_phase]
  split
  · rename_i here
    exact past (here ▸ stands)
  · exact stands

/-- A task that keeps its role, while nothing shared changes, keeps the ownership. -/
theorem Ownership.move {state next : State} {connection : Nat} {phase : Phase}
    (ownership : Ownership state) (role : (state.phase connection).SameRole phase)
    (moved : next.phase = (state.goto connection phase).phase)
    (sameActive : next.active = state.active) (sameClosed : next.closed = state.closed) :
    Ownership next := by
  constructor
  · intro client active
    rw [moved, goto_registeredId? role.registeredId]
    exact ownership.active_registered (sameActive ▸ active)
  · intro holder client holds
    rw [moved] at holds ⊢
    exact goto_pastRegistration role.past
      (ownership.held_registered (goto_previous? role.stillNone holds))
  · intro holder client current holds active
    rw [moved] at holds
    exact ownership.held_inactive (goto_previous? role.stillNone holds) (sameActive ▸ active)
  · intro first second one other holdsFirst holdsSecond same
    rw [moved] at holdsFirst holdsSecond
    exact ownership.held_once (goto_previous? role.stillNone holdsFirst)
      (goto_previous? role.stillNone holdsSecond) same
  · intro other id registered opened inactive
    rw [moved, goto_registeredId? role.registeredId] at registered
    rw [sameClosed] at opened
    rw [sameActive] at inactive
    obtain ⟨holder, client, holds, here⟩ :=
      ownership.displaced_held registered opened inactive
    have elsewhere : holder ≠ connection := by
      rintro rfl
      rw [role.holdsNone] at holds
      cases holds
    rw [moved]
    exact ⟨holder, client, goto_previous?_of_ne elsewhere holds, here⟩

/-- Registering hands the displaced client over to the new one's task. -/
theorem ownership_register {state : State} {connection : Nat} {id : UInt64}
    (ownership : Ownership state) (stands : state.phase connection = .drawn id) :
    Ownership { state.goto connection (.registered id state.active) with
      active := some ⟨id, connection⟩ } := by
  -- The new client is nobody's displaced client: those have registered before.
  have unheld : ∀ {holder client}, (state.phase holder).previous? = some client →
      client.connection ≠ connection := by
    intro holder client holds here
    have past := ownership.held_registered holds
    rw [here, stands] at past
    exact past
  have current : ∀ {client}, state.active = some client → client.connection ≠ connection := by
    intro client active here
    have registered := ownership.active_registered active
    rw [here, stands] at registered
    cases registered
  constructor
  · rintro client ⟨⟩
    simp [goto_phase, Phase.registeredId?]
  · intro holder client holds
    simp only [goto_phase] at holds ⊢
    split
    · trivial
    · split at holds
      · exact Phase.pastRegistration_of_registeredId? (ownership.active_registered holds)
      · exact ownership.held_registered holds
  · rintro holder client _ holds ⟨⟩ here
    simp only [goto_phase] at holds
    split at holds
    · exact current holds here.symm
    · exact unheld holds here.symm
  · intro first second one other holdsFirst holdsSecond same
    simp only [goto_phase] at holdsFirst holdsSecond
    split at holdsFirst <;> split at holdsSecond
    · simp_all
    · exact absurd same (ownership.held_inactive holdsSecond holdsFirst)
    · exact absurd same.symm (ownership.held_inactive holdsFirst holdsSecond)
    · exact ownership.held_once holdsFirst holdsSecond same
  · intro other otherId registered opened inactive
    simp only [goto_phase] at registered
    split at registered
    · rename_i here
      exact absurd here.symm (inactive _ rfl)
    · by_cases wasActive : ∃ client, state.active = some client ∧ client.connection = other
      · obtain ⟨client, active, here⟩ := wasActive
        refine ⟨connection, client, ?_, here⟩
        simpa [goto_phase, Phase.previous?] using active
      · obtain ⟨holder, client, holds, here⟩ := ownership.displaced_held registered opened
          fun client active here => wasActive ⟨client, active, here⟩
        have elsewhere : holder ≠ connection := by
          rintro rfl
          rw [stands] at holds
          cases holds
        exact ⟨holder, client, goto_previous?_of_ne elsewhere holds, here⟩

/-- A task that closes the client it displaced is rid of its duty. -/
theorem ownership_closePrevious {state : State} {connection : Nat} {id : UInt64}
    {previous : Option ActiveClient} (ownership : Ownership state)
    (stands : state.phase connection = .registered id previous) :
    Ownership ((state.goto connection (.ready id)).closeDisplaced previous) := by
  have sameId : (Phase.ready id).registeredId? = (state.phase connection).registeredId? := by
    rw [stands]
    rfl
  constructor
  · intro client active
    rw [closeDisplaced_phase, goto_registeredId? sameId]
    exact ownership.active_registered (by simpa using active)
  · intro holder client holds
    rw [closeDisplaced_phase] at holds ⊢
    exact goto_pastRegistration (fun _ => trivial)
      (ownership.held_registered (goto_previous? rfl holds))
  · intro holder client current holds active
    rw [closeDisplaced_phase] at holds
    exact ownership.held_inactive (goto_previous? rfl holds) (by simpa using active)
  · intro first second one other holdsFirst holdsSecond same
    rw [closeDisplaced_phase] at holdsFirst holdsSecond
    exact ownership.held_once (goto_previous? rfl holdsFirst) (goto_previous? rfl holdsSecond) same
  · intro other otherId registered opened inactive
    rw [closeDisplaced_phase, goto_registeredId? sameId] at registered
    obtain ⟨opened, spared⟩ := closeDisplaced_closed.mp opened
    obtain ⟨holder, client, holds, here⟩ := ownership.displaced_held registered opened
      fun current active => inactive current (by simpa using active)
    have elsewhere : holder ≠ connection := by
      rintro rfl
      rw [stands] at holds
      exact spared client holds here
    rw [closeDisplaced_phase]
    exact ⟨holder, client, goto_previous?_of_ne elsewhere holds, here⟩

/-- A clean-up removes the task's own client from `active`, and no other. -/
theorem ownership_cleanUp {trace : List Action} {state : State} {connection : Nat}
    {clientId : Option UInt64} (numbering : Numbering trace state) (ownership : Ownership state)
    (stands : state.phase connection = .ended clientId) :
    Ownership { state.goto connection .finished with active := clear clientId state.active } := by
  constructor
  · intro client active
    obtain ⟨active, kept⟩ := clear_eq_some.mp active
    have registered := ownership.active_registered active
    have elsewhere : client.connection ≠ connection := by
      intro here
      rw [here, stands] at registered
      exact kept registered
    simpa [goto_phase, elsewhere] using registered
  · intro holder client holds
    exact goto_pastRegistration (fun _ => trivial)
      (ownership.held_registered (goto_previous? rfl holds))
  · intro holder client current holds active
    exact ownership.held_inactive (goto_previous? rfl holds) (clear_eq_some.mp active).1
  · intro first second one other holdsFirst holdsSecond same
    exact ownership.held_once (goto_previous? rfl holdsFirst) (goto_previous? rfl holdsSecond) same
  · intro other otherId registered opened inactive
    simp only [goto_phase] at registered
    split at registered
    · cases registered
    · rename_i elsewhere
      -- If the clean-up has just removed `other`, then both share an id.
      have inactiveBefore : ∀ current, state.active = some current →
          current.connection ≠ other := by
        intro current active here
        by_cases kept : clientId = some current.id
        · have mine : (state.phase connection).clientId? = some current.id := by
            rw [stands]
            exact kept
          have theirs := Phase.clientId?_of_registeredId? (ownership.active_registered active)
          exact elsewhere (here.symm.trans (numbering.distinct theirs mine))
        · exact inactive current (clear_eq_some.mpr ⟨active, kept⟩) here
      obtain ⟨holder, client, holds, here⟩ :=
        ownership.displaced_held registered opened inactiveBefore
      have held : holder ≠ connection := by
        rintro rfl
        rw [stands] at holds
        cases holds
      exact ⟨holder, client, goto_previous?_of_ne held holds, here⟩

theorem ownership_lose {state : State} {connection : Nat} (ownership : Ownership state) :
    Ownership (state.close connection) := by
  refine ⟨ownership.active_registered, ownership.held_registered, ownership.held_inactive,
    ownership.held_once, ?_⟩
  intro other id registered opened inactive
  rw [close_closed] at opened
  split at opened
  · cases opened
  · exact ownership.displaced_held registered opened inactive

theorem ownership_step {config : ServerConfig} {token : Token} {trace : List Action}
    {state next : State} {action : Action} (numbering : Numbering trace state)
    (ownership : Ownership state) (taken : step config token state action = some next) :
    Ownership next := by
  cases transition_of_step taken with
  | own moved => exact ownership.move (ownStep_sameRole moved).1 rfl rfl rfl
  | @drawId connection stands =>
      have role : (state.phase connection).SameRole (.drawn state.nextClientId) := by
        rw [stands]
        exact ⟨rfl, rfl, rfl, False.elim⟩
      exact ownership.move role rfl rfl rfl
  | register stands => exact ownership_register ownership stands
  | closePrevious stands => exact ownership_closePrevious ownership stands
  | cleanUp stands => exact ownership_cleanUp numbering ownership stands
  | lose => exact ownership_lose ownership

/-- Both invariants together, for runs that draw fewer than 2^64 ids. -/
def Sound (trace : List Action) (state : State) : Prop :=
  draws trace < 2 ^ 64 → Numbering trace state ∧ Ownership state

theorem sound_start : Sound [] start := by
  intro _
  refine ⟨⟨rfl, ?_, ?_⟩, ?_, ?_, ?_, ?_, ?_⟩ <;> intros <;> contradiction

theorem sound_step {config : ServerConfig} {token : Token} {trace : List Action}
    {state next : State} {action : Action} (sound : Sound trace state)
    (taken : step config token state action = some next) : Sound (trace ++ [action]) next := by
  intro few
  have before := draws_le_snoc trace action
  obtain ⟨numbering, ownership⟩ := sound (by omega)
  exact ⟨numbering_step numbering few taken, ownership_step numbering ownership taken⟩

end LiteVpn.Server.Registry
