import LiteVpn.Core.Stream
import LiteVpn.Semantics.Machine
import Mathlib.Logic.Function.Basic

/-!
# Start-up of the stream transport

After authentication both programs do the same three things in stream mode:
`open_uni`, `accept_uni`, then the two pumps. They run on different hosts, so
their steps interleave in every order. QUIC shows a new stream to the peer only
once its opener has written on it or finished it, and neither program writes
before its own `accept_uni` has returned.
-/

namespace LiteVpn.Vpn

open LiteVpn.Core LiteVpn.Strings LiteVpn.Semantics

/-- The two ends of the tunnel. -/
inductive Side where
  | server
  | client
deriving DecidableEq, Repr

def Side.peer : Side → Side
  | .server => .client
  | .client => .server

/-- Where a program stands between authentication and its exit. -/
inductive Phase where
  | openUni
  | acceptUni
  | startPumps
  | pumping
  | exited
deriving DecidableEq, Repr

/-- One end: its program, the packet stream it opens, and its TUN device. -/
structure Endpoint where
  phase : Phase
  opened : Bool
  written : Bytes
  finished : Bool
  tun : List Packet
deriving DecidableEq, Repr

/-- The peer's `accept_uni` returns a stream only once its opener has written at
least one byte on it or finished it. -/
def Endpoint.Acceptable (endpoint : Endpoint) : Prop :=
  endpoint.opened = true ∧ (endpoint.written ≠ [] ∨ endpoint.finished = true)

instance (endpoint : Endpoint) : Decidable endpoint.Acceptable :=
  inferInstanceAs (Decidable (_ ∧ _))

structure State where
  endpoint : Side → Endpoint
  connectionOpen : Bool

/-- Replace one end. -/
def State.set (state : State) (side : Side) (endpoint : Endpoint) : State :=
  { state with endpoint := Function.update state.endpoint side endpoint }

/-- The steps of the two programs and of their surroundings. -/
inductive Action where
  /-- A packet arrives at the TUN device of one side. -/
  | offer (side : Side) (packet : Packet)
  /-- The program of one side takes its next step. -/
  | advance (side : Side)
  /-- A pump of one side ends: the program closes the connection and leaves. -/
  | pumpExit (side : Side)
  /-- The connection is lost or closed. -/
  | close
  /-- A program that waits on a closed connection leaves with an error. -/
  | fail (side : Side)
deriving DecidableEq, Repr

/-- One turn of the sending pump. -/
def pumpOnce (mtu : Nat) (endpoint : Endpoint) : Option Endpoint :=
  match endpoint.tun with
  | [] => none
  | packet :: rest =>
      some { endpoint with
        tun := rest
        written := endpoint.written ++ (pumpTunToStream mtu [.received packet]).written }

/-- The next step of a program, or nothing while it has to wait. -/
def advance (mtu : Nat) (state : State) (side : Side) : Option Endpoint :=
  let endpoint := state.endpoint side
  match endpoint.phase with
  | .openUni =>
      if state.connectionOpen then some { endpoint with opened := true, phase := .acceptUni }
      else none
  | .acceptUni =>
      if state.connectionOpen = true ∧ (state.endpoint side.peer).Acceptable then
        some { endpoint with phase := .startPumps }
      else none
  | .startPumps => some { endpoint with phase := .pumping }
  | .pumping => pumpOnce mtu endpoint
  | .exited => none

def step (mtu : Nat) (state : State) : Action → Option State
  | .offer side packet =>
      let endpoint := state.endpoint side
      some (state.set side { endpoint with tun := endpoint.tun ++ [packet] })
  | .advance side => (advance mtu state side).map (state.set side)
  | .pumpExit side =>
      let endpoint := state.endpoint side
      if endpoint.phase = .pumping then
        -- Leaving drops the send stream, which finishes it.
        some { state.set side { endpoint with phase := .exited, finished := true } with
          connectionOpen := false }
      else none
  | .close => some { state with connectionOpen := false }
  | .fail side =>
      let endpoint := state.endpoint side
      if state.connectionOpen = false ∧ endpoint.phase ≠ .exited then
        some (state.set side { endpoint with phase := .exited, finished := true })
      else none

/-- Both programs have authenticated and are about to open their streams; each
TUN device may already hold packets. -/
def start (traffic : Side → List Packet) : State where
  endpoint side := ⟨.openUni, false, [], false, traffic side⟩
  connectionOpen := true

/-- The two programs on one connection, with the packets that wait at start. -/
def startup (mtu : Nat) (traffic : Side → List Packet) : Machine State Action where
  Initial state := state = start traffic
  step := step mtu

/-- The connection is open, both programs wait in `accept_uni`, and nothing is
written on either packet stream. -/
def Deadlocked (state : State) : Prop :=
  state.connectionOpen = true ∧
    ∀ side, (state.endpoint side).phase = .acceptUni ∧ (state.endpoint side).written = []

/-- No reachable state is deadlocked. -/
def DeadlockFree (mtu : Nat) (traffic : Side → List Packet) : Prop :=
  ∀ state, (startup mtu traffic).Reachable state → ¬ Deadlocked state

/-- An end that has not got past `accept_uni` has nothing to show its peer. -/
def Silent (endpoint : Endpoint) : Prop :=
  endpoint.written = [] ∧ endpoint.finished = false ∧
    (endpoint.phase = .openUni ∧ endpoint.opened = false ∨
      endpoint.phase = .acceptUni ∧ endpoint.opened = true)

theorem Silent.not_acceptable {endpoint : Endpoint} (silent : Silent endpoint) :
    ¬ endpoint.Acceptable := by
  rintro ⟨_, written | finished⟩
  · exact written silent.1
  · rw [silent.2.1] at finished
    cases finished

/-- The invariant of every start-up: while the connection lives, both ends are
silent. -/
def StartupInvariant (state : State) : Prop :=
  state.connectionOpen = true → ∀ side, Silent (state.endpoint side)

theorem silent_set {state : State} {side : Side} {endpoint : Endpoint}
    (silent : ∀ other, Silent (state.endpoint other)) (next : Silent endpoint) :
    ∀ other, Silent ((state.set side endpoint).endpoint other) := by
  intro other
  by_cases same : other = side
  · subst same
    simpa [State.set] using next
  · simpa [State.set, same] using silent other

/-- A silent end next to a silent peer can only open its stream. -/
theorem advance_silent {mtu : Nat} {state : State} {side : Side} {next : Endpoint}
    (silent : ∀ other, Silent (state.endpoint other))
    (advanced : advance mtu state side = some next) : Silent next := by
  obtain ⟨written, finished, ⟨phase, _⟩ | ⟨phase, _⟩⟩ := silent side
  · simp only [advance, phase] at advanced
    split at advanced
    · cases advanced
      exact ⟨written, finished, .inr ⟨rfl, rfl⟩⟩
    · cases advanced
  · simp only [advance, phase] at advanced
    rw [if_neg (fun accepted => (silent side.peer).not_acceptable accepted.2)] at advanced
    cases advanced

/-- Every step keeps both ends silent while the connection lives. -/
theorem step_startupInvariant {mtu : Nat} {state next : State} {action : Action}
    (invariant : StartupInvariant state) (taken : step mtu state action = some next) :
    StartupInvariant next := by
  intro connected
  cases action with
  | offer side packet =>
      cases taken
      have silent := invariant connected
      exact silent_set silent (silent side)
  | advance side =>
      simp only [step, Option.map_eq_some_iff] at taken
      obtain ⟨endpoint, advanced, rfl⟩ := taken
      have silent := invariant connected
      exact silent_set silent (advance_silent silent advanced)
  | pumpExit side =>
      simp only [step, Option.ite_none_right_eq_some, Option.some.injEq] at taken
      obtain ⟨_, rfl⟩ := taken
      cases connected
  | close =>
      cases taken
      cases connected
  | fail side =>
      simp only [step, Option.ite_none_right_eq_some, Option.some.injEq] at taken
      obtain ⟨⟨closed, _⟩, rfl⟩ := taken
      have open' : state.connectionOpen = true := connected
      rw [closed] at open'
      cases open'

/-- On every run, whatever the traffic, the connection is only ever open with
both ends silent. -/
theorem startupInvariant_of_reachable {mtu : Nat} {traffic : Side → List Packet} {state : State}
    (reachable : (startup mtu traffic).Reachable state) : StartupInvariant state := by
  refine reachable.induct ?_ fun holds taken => step_startupInvariant holds taken
  rintro _ rfl _ side
  exact ⟨rfl, rfl, .inl ⟨rfl, rfl⟩⟩

/-- Opening both streams already leads into the deadlock. -/
theorem deadlock_reachable (mtu : Nat) (traffic : Side → List Packet) :
    ∃ state, (startup mtu traffic).Reachable state ∧ Deadlocked state := by
  have executed : ∃ state, (startup mtu traffic).run (start traffic)
      [.advance .server, .advance .client] = some state ∧ Deadlocked state := by
    refine ⟨_, rfl, rfl, fun side => ?_⟩
    cases side <;> exact ⟨rfl, rfl⟩
  obtain ⟨state, executed, deadlocked⟩ := executed
  exact ⟨state, Machine.reachable_of_run rfl executed, deadlocked⟩

/-- Stream mode is never free of the deadlock, whatever the MTU and the traffic.
The deadlock is not one unlucky order either: in every order of steps it is
where the programs stand once both streams are open. -/
theorem stream_startup_deadlocks (mtu : Nat) (traffic : Side → List Packet) :
    ¬ DeadlockFree mtu traffic ∧
      ∀ state, (startup mtu traffic).Reachable state → state.connectionOpen = true →
        (∀ side, (state.endpoint side).opened = true) → Deadlocked state := by
  constructor
  · intro free
    obtain ⟨state, reachable, deadlocked⟩ := deadlock_reachable mtu traffic
    exact free state reachable deadlocked
  · intro state reachable connected opened
    refine ⟨connected, fun side => ?_⟩
    obtain ⟨written, _, ⟨_, closed⟩ | ⟨phase, _⟩⟩ :=
      startupInvariant_of_reachable reachable connected side
    · rw [opened side] at closed
      cases closed
    · exact ⟨phase, written⟩

/-- With packets waiting in both TUN devices the start-up still deadlocks. -/
theorem startup_deadlocks_under_traffic :
    ¬ DeadlockFree 1300 fun _ => [[0x45, 0x00], [0x45, 0x01]] := by
  intro free
  obtain ⟨state, reachable, deadlocked⟩ := deadlock_reachable 1300 fun _ => [[0x45, 0x00], [0x45, 0x01]]
  exact free state reachable deadlocked

end LiteVpn.Vpn
