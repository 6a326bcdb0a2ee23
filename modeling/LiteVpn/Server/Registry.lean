import LiteVpn.Core.Auth
import LiteVpn.Core.Datagram
import LiteVpn.Semantics.Machine
import Mathlib.Logic.Function.Basic

/-!
# The registry of the active client

Every accepted connection is served by a task of its own. The tasks share the
id counter, the slot `active` behind its lock, and the connections themselves,
which any task that holds a handle may close. Each step below touches at most one
of these, and between any two of them the runtime may let any other task run, so
the tasks' steps interleave in every order.
-/

namespace LiteVpn.Server.Registry

open LiteVpn.Core LiteVpn.Strings LiteVpn.Semantics

/-- `ActiveClient`. A connection goes by the number of the task that serves it. -/
structure ActiveClient where
  id : UInt64
  connection : Nat
deriving DecidableEq, Repr

/-- Where a task stands. An id appears once it is drawn, and from there on it is
the task's `client_id`. -/
inductive Phase where
  | unaccepted
  | connecting
  | authenticating
  | benching
  | authenticated
  | checked
  | drawn (id : UInt64)
  /-- Registered; what `active` held before is still to be closed. -/
  | registered (id : UInt64) (previous : Option ActiveClient)
  | ready (id : UInt64)
  | pumping (id : UInt64)
  /-- `handle_connection` has returned. -/
  | ended (clientId : Option UInt64)
  | finished
deriving DecidableEq, Repr

structure State where
  active : Option ActiveClient
  nextClientId : UInt64
  phase : Nat → Phase
  closed : Nat → Bool

/-- Steps of a task that touch nothing but the task itself. -/
inductive OwnStep where
  | accept
  | connect
  | authenticate (request : Bytes)
  | checkCapacity (maxDatagramSize : Option Nat)
  /-- The pumps begin. In stream mode this also says that `accept_uni` has returned
  before, which is up to the peer. -/
  | startPumps
  /-- `handle_connection` returns: an await failed or timed out, the bench is
  over, or a pump has ended. -/
  | leave
deriving DecidableEq, Repr

/-- All steps. A step that touches something shared is named on its own. -/
inductive Action where
  | own (connection : Nat) (step : OwnStep)
  /-- `next_client_id.fetch_add(1)`. -/
  | drawId (connection : Nat)
  /-- Replace `active` under the lock. -/
  | register (connection : Nat)
  /-- Close what `active` held before, if it held anything. -/
  | closePrevious (connection : Nat)
  /-- Clear `active` under the lock, if it still holds this task's id. -/
  | cleanUp (connection : Nat)
  /-- The peer or the network closes a connection. -/
  | lose (connection : Nat)
deriving DecidableEq, Repr

/-- A bench is served without any registration. -/
def afterAuthentication (outcome : Except AuthError AuthMode) : Phase :=
  match outcome with
  | .error _ => .ended none
  | .ok (.bench _ _ _ _) => .benching
  | .ok .vpn => .authenticated

/-- The capacity matters only where packets travel in datagrams. -/
def afterCapacityCheck (config : ServerConfig) (maxDatagramSize : Option Nat) : Phase :=
  if config.vpnTransport = .datagram then
    match ensureDatagramCapacity maxDatagramSize config.mtu "server" with
    | .error _ => .ended none
    | .ok _ => .checked
  else .checked

/-- Where `handle_connection` can return at an await. Between the draw of the id
and the pumps of datagram mode nothing can fail. -/
def leave (config : ServerConfig) : Phase → Option Phase
  | .connecting | .authenticating | .benching => some (.ended none)
  | .ready id => if config.vpnTransport = .stream then some (.ended (some id)) else none
  | .pumping id => some (.ended (some id))
  | _ => none

def ownStep (config : ServerConfig) (token : Token) : OwnStep → Phase → Option Phase
  | .accept, .unaccepted => some .connecting
  | .connect, .connecting => some .authenticating
  | .authenticate request, .authenticating =>
      some (afterAuthentication (serverAuthenticate token.text request).outcome)
  | .checkCapacity maxDatagramSize, .authenticated =>
      some (afterCapacityCheck config maxDatagramSize)
  | .startPumps, .ready id => some (.pumping id)
  | .leave, phase => leave config phase
  | _, _ => none

/-- Put one task into another phase. -/
def State.goto (state : State) (connection : Nat) (phase : Phase) : State :=
  { state with phase := Function.update state.phase connection phase }

/-- Close one connection. -/
def State.close (state : State) (connection : Nat) : State :=
  { state with closed := Function.update state.closed connection true }

/-- Close the displaced client, if there is one. -/
def State.closeDisplaced (state : State) : Option ActiveClient → State
  | none => state
  | some previous => state.close previous.connection

/-- The clean-up of a task: `active` is cleared only if it holds the task's id. -/
def clear (clientId : Option UInt64) (active : Option ActiveClient) : Option ActiveClient :=
  match clientId with
  | none => active
  | some id => if (active.map fun client => client.id == id).getD false then none else active

def step (config : ServerConfig) (token : Token) (state : State) : Action → Option State
  | .own connection step =>
      (ownStep config token step (state.phase connection)).map (state.goto connection)
  | .drawId connection =>
      match state.phase connection with
      | .checked =>
          some { state.goto connection (.drawn state.nextClientId) with
            nextClientId := state.nextClientId + 1 }
      | _ => none
  | .register connection =>
      match state.phase connection with
      | .drawn id =>
          some { state.goto connection (.registered id state.active) with
            active := some ⟨id, connection⟩ }
      | _ => none
  | .closePrevious connection =>
      match state.phase connection with
      | .registered id previous =>
          some ((state.goto connection (.ready id)).closeDisplaced previous)
      | _ => none
  | .cleanUp connection =>
      match state.phase connection with
      | .ended clientId =>
          some { state.goto connection .finished with active := clear clientId state.active }
      | _ => none
  | .lose connection => some (state.close connection)

/-- No connection is accepted yet; ids start at one. -/
def start : State where
  active := none
  nextClientId := 1
  phase _ := .unaccepted
  closed _ := false

/-- The server's tasks. -/
def registry (config : ServerConfig) (token : Token) : Machine State Action where
  Initial state := state = start
  step := step config token

@[simp] theorem goto_active (state : State) (connection : Nat) (phase : Phase) :
    (state.goto connection phase).active = state.active := rfl

@[simp] theorem goto_closed (state : State) (connection : Nat) (phase : Phase) :
    (state.goto connection phase).closed = state.closed := rfl

@[simp] theorem goto_nextClientId (state : State) (connection : Nat) (phase : Phase) :
    (state.goto connection phase).nextClientId = state.nextClientId := rfl

theorem goto_phase (state : State) (connection other : Nat) (phase : Phase) :
    (state.goto connection phase).phase other =
      if other = connection then phase else state.phase other :=
  Function.update_apply state.phase connection phase other

theorem close_closed (state : State) (connection other : Nat) :
    (state.close connection).closed other =
      if other = connection then true else state.closed other :=
  Function.update_apply state.closed connection true other

@[simp] theorem closeDisplaced_active (state : State) (previous : Option ActiveClient) :
    (state.closeDisplaced previous).active = state.active := by
  cases previous <;> rfl

@[simp] theorem closeDisplaced_phase (state : State) (previous : Option ActiveClient) :
    (state.closeDisplaced previous).phase = state.phase := by
  cases previous <;> rfl

@[simp] theorem closeDisplaced_nextClientId (state : State) (previous : Option ActiveClient) :
    (state.closeDisplaced previous).nextClientId = state.nextClientId := by
  cases previous <;> rfl

/-- What a connection that is still open after the close was before it. -/
theorem closeDisplaced_closed {state : State} {previous : Option ActiveClient} {other : Nat} :
    (state.closeDisplaced previous).closed other = false ↔
      state.closed other = false ∧ ∀ client, previous = some client → client.connection ≠ other := by
  cases previous with
  | none => simp [State.closeDisplaced]
  | some client =>
      simp only [State.closeDisplaced, close_closed, Option.some.injEq, forall_eq']
      by_cases same : other = client.connection
      · simp [same]
      · simp [same, Ne.symm same]

/-- Clearing leaves every client with another id where it is. -/
theorem clear_of_ne {clientId : Option UInt64} {client : ActiveClient}
    (other : clientId ≠ some client.id) : clear clientId (some client) = some client := by
  cases clientId with
  | none => rfl
  | some id =>
      have differ : ¬ client.id = id := fun same => other (by rw [same])
      simp [clear, differ]

/-- What is in `active` after clearing was there before. -/
theorem clear_eq_some {clientId : Option UInt64} {active : Option ActiveClient}
    {client : ActiveClient} :
    clear clientId active = some client ↔ active = some client ∧ clientId ≠ some client.id := by
  constructor
  · intro left
    cases clientId with
    | none => exact ⟨left, by simp⟩
    | some id =>
        simp only [clear] at left
        split at left
        · cases left
        · rename_i kept
          subst left
          refine ⟨rfl, fun same => kept ?_⟩
          simpa using (Option.some.inj same).symm
  · rintro ⟨rfl, other⟩
    exact clear_of_ne other

/-- Everything a step can do. -/
inductive Transition (config : ServerConfig) (token : Token) (state : State) :
    Action → State → Prop where
  | own {connection taken phase}
      (moved : ownStep config token taken (state.phase connection) = some phase) :
      Transition config token state (.own connection taken) (state.goto connection phase)
  | drawId {connection} (stands : state.phase connection = .checked) :
      Transition config token state (.drawId connection)
        { state.goto connection (.drawn state.nextClientId) with
          nextClientId := state.nextClientId + 1 }
  | register {connection id} (stands : state.phase connection = .drawn id) :
      Transition config token state (.register connection)
        { state.goto connection (.registered id state.active) with
          active := some ⟨id, connection⟩ }
  | closePrevious {connection id previous}
      (stands : state.phase connection = .registered id previous) :
      Transition config token state (.closePrevious connection)
        ((state.goto connection (.ready id)).closeDisplaced previous)
  | cleanUp {connection clientId} (stands : state.phase connection = .ended clientId) :
      Transition config token state (.cleanUp connection)
        { state.goto connection .finished with active := clear clientId state.active }
  | lose {connection} :
      Transition config token state (.lose connection) (state.close connection)

theorem transition_of_step {config : ServerConfig} {token : Token} {state next : State}
    {action : Action} (taken : step config token state action = some next) :
    Transition config token state action next := by
  cases action with
  | own connection own =>
      simp only [step, Option.map_eq_some_iff] at taken
      obtain ⟨phase, moved, rfl⟩ := taken
      exact .own moved
  | drawId connection =>
      simp only [step] at taken
      split at taken <;> cases taken
      exact .drawId ‹_›
  | register connection =>
      simp only [step] at taken
      split at taken <;> cases taken
      exact .register ‹_›
  | closePrevious connection =>
      simp only [step] at taken
      split at taken <;> cases taken
      exact .closePrevious ‹_›
  | cleanUp connection =>
      simp only [step] at taken
      split at taken <;> cases taken
      exact .cleanUp ‹_›
  | lose connection =>
      cases taken
      exact .lose

end LiteVpn.Server.Registry
