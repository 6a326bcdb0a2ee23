import LiteVpn.Server.Process
import LiteVpn.Server.RegistrySettling

/-!
# A new client can always take over

In datagram mode no state of the other tasks keeps a new client from the device:
whatever has happened before, as long as the process runs, its own steps are all
enabled, and with the pending closes it ends up as the only one that uses the
device. In particular a client whose old connection still lingers on the server can
simply connect again. In stream mode the pumps also wait for a stream of the peer,
so there the server alone cannot promise as much.
-/

namespace LiteVpn.Server.Registry

open LiteVpn.Core LiteVpn.Strings LiteVpn.Semantics

/-- The steps of one task from its acceptance to its pumps. -/
def takeOver (request : Bytes) (maxDatagramSize : Option Nat) (connection : Nat) : List Action :=
  [.own connection .accept, .own connection .connect, .own connection (.authenticate request),
    .own connection (.checkCapacity maxDatagramSize), .drawId connection, .register connection,
    .closePrevious connection, .own connection .startPumps]

/-- What they leave: the task pumps under the id it drew, is in `active`, and has
closed whoever was there. -/
def State.takenOver (state : State) (connection : Nat) : State :=
  { state.goto connection (.pumping state.nextClientId) with
    active := some ⟨state.nextClientId, connection⟩
    nextClientId := state.nextClientId + 1 }.closeDisplaced state.active

section

variable {config : ServerConfig} {token : Token} {trace : List Action} {state : State}
  {connection : Nat} {request : Bytes} {maxDatagramSize : Option Nat}

/-- Each step is enabled, whatever the others are doing. -/
theorem run_takeOver (datagram : config.vpnTransport = .datagram)
    (accepted : (serverAuthenticate token.text request).outcome = .ok .vpn)
    (roomy : ensureDatagramCapacity maxDatagramSize config.mtu "server" = .ok ())
    (fresh : state.phase connection = .unaccepted) :
    (registry config token).run state (takeOver request maxDatagramSize connection) =
      some (state.takenOver connection) := by
  have checked : afterCapacityCheck config maxDatagramSize = .checked := by
    simp only [afterCapacityCheck, datagram, roomy, if_true]
  cases active : state.active <;>
    simp [Machine.run, registry, takeOver, step, ownStep, fresh, accepted, afterAuthentication,
      checked, State.goto, State.takenOver, State.closeDisplaced, State.close, active]

theorem draws_takeOver :
    draws (trace ++ takeOver request maxDatagramSize connection) = draws trace + 1 := by
  rw [draws, List.countP_append]
  rfl

/-- The new client's connection is not the one it closes. -/
theorem takenOver_closed (ownership : Ownership state)
    (fresh : state.phase connection = .unaccepted) :
    (state.takenOver connection).closed connection = state.closed connection := by
  unfold State.takenOver
  cases active : state.active with
  | none => rfl
  | some client =>
      have elsewhere : connection ≠ client.connection := by
        intro here
        have registered := ownership.active_registered active
        rw [← here, fresh] at registered
        cases registered
      simp [State.closeDisplaced, close_closed, elsewhere]

/-- The new client's steps and pending closes lead to tasks of which only the new one
uses the device. -/
theorem exists_takeOver (datagram : config.vpnTransport = .datagram)
    (reached : (registry config token).Reaches trace state) (few : draws trace + 1 < 2 ^ 64)
    (accepted : (serverAuthenticate token.text request).outcome = .ok .vpn)
    (roomy : ensureDatagramCapacity maxDatagramSize config.mtu "server" = .ok ())
    (fresh : state.phase connection = .unaccepted) (opened : state.closed connection = false) :
    ∃ closings next, (∀ action ∈ closings, action.isClose = true) ∧
      (registry config token).Runs Machine.Unrestricted state
        (takeOver request maxDatagramSize connection ++ closings) next ∧
      ∀ other, UsesDevice next other ↔ other = connection := by
  obtain ⟨sound, _, _⟩ := reaches_settling reached
  have ownership := (sound (by omega)).2
  have takes := Machine.runs_of_run (run_takeOver datagram accepted roomy fresh)
  obtain ⟨first, initial, runs⟩ := reached
  have taking : (registry config token).Reaches
      (trace ++ takeOver request maxDatagramSize connection) (state.takenOver connection) :=
    ⟨first, initial, runs.trans takes⟩
  obtain ⟨soundAfter, _, known, listed⟩ := reaches_settling taking
  obtain ⟨closings, next, closes, executed, owned, only, free⟩ :=
    exists_closings config token (soundAfter (by rw [draws_takeOver]; exact few)).2 known
  have settled := settled_of_known listed only free
  refine ⟨closings, next, closes, takes.trans (Machine.runs_of_run executed), ?_⟩
  have active : (state.takenOver connection).active = some ⟨state.nextClientId, connection⟩ := by
    simp [State.takenOver]
  intro other
  constructor
  · intro uses
    obtain ⟨client, found, rfl⟩ := uses.active_of_settled owned settled
    rw [only.active, active] at found
    cases found
    rfl
  · rintro rfl
    refine ⟨⟨state.nextClientId, (only.pumps _ _).mpr ?_⟩, ?_⟩
    · simp [State.takenOver, goto_phase]
    · rw [only.spared _ active]
      exact (takenOver_closed ownership fresh).trans opened

end

/-- In datagram mode, from every process that still runs and that any interleaving
reaches with fewer than 2^64 ids drawn, the new one included, a connection that is
not accepted yet, sends a request with the right token, and has room for the
packets, can get the device to itself: its own steps and pending closes suffice. -/
theorem takeover_possible {config : ServerConfig} {token : Token} {trace : List Move}
    {process : Process} {connection : Nat} {request : Bytes} {maxDatagramSize : Option Nat}
    (datagram : config.vpnTransport = .datagram)
    (reached : (server config token).Reaches trace process) (running : process.aborted = false)
    (few : draws (trace.filterMap Move.action?) + 1 < 2 ^ 64)
    (accepted : (serverAuthenticate token.text request).outcome = .ok .vpn)
    (roomy : ensureDatagramCapacity maxDatagramSize config.mtu "server" = .ok ())
    (fresh : process.tasks.phase connection = .unaccepted)
    (opened : process.tasks.closed connection = false) :
    ∃ closings next, (∀ action ∈ closings, action.isClose = true) ∧
      (server config token).Reaches
        (trace ++ (takeOver request maxDatagramSize connection ++ closings).map .task) next ∧
      ∀ other, next.UsesDevice other ↔ other = connection := by
  obtain ⟨closings, tasks, closes, taking, alone⟩ :=
    exists_takeOver datagram (reaches_tasks reached) few accepted roomy fresh opened
  obtain ⟨next, runs, rfl, still⟩ := exists_runs_tasks running taking
  obtain ⟨first, initial, before⟩ := reached
  refine ⟨closings, next, closes, ⟨first, initial, before.trans runs⟩, fun other => ?_⟩
  rw [Process.UsesDevice, and_iff_right still]
  exact alone other

/-- A fourth client ends the overlap of the three. -/
theorem takeover_possible_overlap :
    ∃ process, (server {} sampleToken).Reaches ((overlap sampleToken).map .task) process ∧
      (process.UsesDevice 0 ∧ process.UsesDevice 2) ∧
      ∃ closings next, (server {} sampleToken).Reaches
          ((overlap sampleToken).map .task ++
            (takeOver (clientRequest sampleToken.text .vpn) (some 1350) 3 ++ closings).map .task)
          next ∧
        ∀ other, next.UsesDevice other ↔ other = 3 := by
  have executed : ((registry {} sampleToken).run start (overlap sampleToken)).map
      (fun state => (state.phase 0, state.closed 0, state.phase 2, state.closed 2, state.phase 3,
        state.closed 3)) =
        some (.pumping 1, false, .pumping 3, false, .unaccepted, false) := by
    decide +kernel
  obtain ⟨state, run, observed⟩ := Option.map_eq_some_iff.mp executed
  obtain ⟨process, runs, rfl, running⟩ :=
    @exists_runs_tasks {} sampleToken boot _ _ rfl (Machine.runs_of_run run)
  simp only [Prod.mk.injEq] at observed
  obtain ⟨firstPumps, firstOpen, thirdPumps, thirdOpen, fresh, opened⟩ := observed
  have reached : (server {} sampleToken).Reaches ((overlap sampleToken).map .task) process :=
    ⟨boot, rfl, runs⟩
  have accepted : (serverAuthenticate sampleToken.text
      (clientRequest sampleToken.text .vpn)).outcome = .ok .vpn := by
    decide +kernel
  have roomy : ensureDatagramCapacity (some 1350) ({} : ServerConfig).mtu "server" = .ok () := by
    decide
  obtain ⟨closings, next, _, taken, alone⟩ :=
    takeover_possible rfl reached running (by decide) accepted roomy fresh opened
  exact ⟨process, reached,
    ⟨⟨running, ⟨1, firstPumps⟩, firstOpen⟩, ⟨running, ⟨3, thirdPumps⟩, thirdOpen⟩⟩, closings, next,
    taken, alone⟩

end LiteVpn.Server.Registry
