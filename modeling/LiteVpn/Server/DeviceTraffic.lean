import LiteVpn.Server.RegistrySettling

/-!
# Whose packets pass the server's device

The pumps of all clients work on one TUN device. This module puts their packets
beside the steps of the tasks: a packet passes for a connection only while its
task pumps. Hence no packet enters or leaves the tunnel for a connection that has
not authenticated, and as long as a connection is open, packets pass for it only
if it registered last or some task is about to close it.
-/

namespace LiteVpn.Server.Registry

open LiteVpn.Core LiteVpn.Strings LiteVpn.Semantics

/-- A step of a task, or a packet that a pump carries. -/
inductive Traffic where
  | control (action : Action)
  /-- `pump_quic_to_tun` or `pump_stream_to_tun` writes a packet to the device. -/
  | inbound (connection : Nat) (packet : Bytes)
  /-- `pump_tun_to_quic` or `pump_tun_to_stream` takes a packet from the device. -/
  | outbound (connection : Nat) (packet : Bytes)
deriving DecidableEq, Repr

def Traffic.control? : Traffic → Option Action
  | .control action => some action
  | _ => none

/-- The connection for which a packet passes. -/
def Traffic.carrier? : Traffic → Option Nat
  | .control _ => none
  | .inbound connection _ | .outbound connection _ => some connection

def Phase.isPumping : Phase → Bool
  | .pumping _ => true
  | _ => false

/-- A pump works only inside of the `select!` that runs it. -/
def trafficStep (config : ServerConfig) (token : Token) (state : State) :
    Traffic → Option State
  | .control action => step config token state action
  | .inbound connection _ | .outbound connection _ =>
      if (state.phase connection).isPumping then some state else none

/-- The server's tasks with the packets of their pumps. -/
def traffic (config : ServerConfig) (token : Token) : Machine State Traffic where
  Initial state := state = start
  step := trafficStep config token

/-- What the tasks have done. -/
def controls (trace : List Traffic) : List Action := trace.filterMap Traffic.control?

/-- What a step is: one of a task, or a packet of a task that pumps. -/
theorem trafficStep_cases {config : ServerConfig} {token : Token} {state next : State}
    {taken : Traffic} (stepped : trafficStep config token state taken = some next) :
    (∃ action, taken = .control action ∧ step config token state action = some next) ∨
      ∃ connection id, taken.control? = none ∧ taken.carrier? = some connection ∧
        state.phase connection = .pumping id ∧ next = state := by
  have pumps : ∀ {connection}, (if (state.phase connection).isPumping then some state else none) =
      some next → ∃ id, state.phase connection = .pumping id ∧ next = state := by
    intro connection passes
    split at passes
    · rename_i pumping
      cases passes
      cases phase : state.phase connection with
      | pumping id => exact ⟨id, rfl, rfl⟩
      | _ =>
          rw [phase] at pumping
          cases pumping
    · cases passes
  cases taken with
  | control action => exact .inl ⟨action, rfl, stepped⟩
  | inbound connection packet =>
      obtain ⟨id, pumping, same⟩ := pumps stepped
      exact .inr ⟨connection, id, rfl, rfl, pumping, same⟩
  | outbound connection packet =>
      obtain ⟨id, pumping, same⟩ := pumps stepped
      exact .inr ⟨connection, id, rfl, rfl, pumping, same⟩

/-- Without its packets, a run is a run of the registry. -/
theorem reaches_controls {config : ServerConfig} {token : Token} {trace : List Traffic}
    {state : State} (reached : (traffic config token).Reaches trace state) :
    (registry config token).Reaches (controls trace) state := by
  refine reached.project id Traffic.control? (fun _ initial => initial) ?_ ?_
  · intro state taken next action stepped shown
    rcases trafficStep_cases stepped with ⟨own, rfl, moved⟩ | ⟨_, _, carried, _⟩
    · cases shown
      exact moved
    · rw [shown] at carried
      cases carried
  · intro state taken next stepped hidden
    rcases trafficStep_cases stepped with ⟨own, rfl, _⟩ | ⟨_, _, _, _, _, same⟩
    · cases hidden
    · exact same

/-- Whoever has an id in the registry has registered. -/
def RegisteredBefore (trace : List Action) (state : State) : Prop :=
  ∀ connection id, (state.phase connection).registeredId? = some id → .register connection ∈ trace

theorem registeredBefore_step {config : ServerConfig} {token : Token} {trace : List Action}
    {state next : State} {action : Action} (registered : RegisteredBefore trace state)
    (taken : step config token state action = some next) :
    RegisteredBefore (trace ++ [action]) next := by
  intro connection id found
  have earlier : (state.phase connection).registeredId? = some id →
      .register connection ∈ trace ++ [action] :=
    fun before => List.mem_append_left _ (registered connection id before)
  cases transition_of_step taken with
  | own moved =>
      rw [goto_registeredId? (ownStep_sameRole moved).1.registeredId] at found
      exact earlier found
  | @drawId mover stands =>
      simp only [goto_phase] at found
      split at found
      · cases found
      · exact earlier found
  | @register mover drawn stands =>
      simp only [goto_phase] at found
      split at found
      · rename_i here
        rw [here]
        exact List.mem_append_right _ List.mem_cons_self
      · exact earlier found
  | @closePrevious mover own previous stands =>
      have role : (Phase.ready own).registeredId? = (state.phase mover).registeredId? := by
        rw [stands]
        rfl
      rw [closeDisplaced_phase, goto_registeredId? role] at found
      exact earlier found
  | @cleanUp mover clientId stands =>
      simp only [goto_phase] at found
      split at found
      · cases found
      · exact earlier found
  | lose => exact earlier found

/-- What the trace says about the tasks of every run. -/
theorem reaches_admission {config : ServerConfig} {token : Token} {trace : List Action}
    {state : State} (reached : (registry config token).Reaches trace state) :
    Admission config token trace state ∧ RegisteredBefore trace state := by
  have invariant : Machine.InvariantUnder (registry config token) Machine.Unrestricted
      fun trace state => Admission config token trace state ∧ RegisteredBefore trace state := by
    constructor
    · rintro _ rfl
      exact ⟨admission_start, nofun⟩
    · rintro trace state action next ⟨admission, registered⟩ _ taken
      exact ⟨admission_step admission taken, registeredBefore_step registered taken⟩
  exact invariant.holds reached

/-- Why a packet may pass for a connection in a state. -/
structure MayPass (config : ServerConfig) (token : Token) (trace : List Action) (state : State)
    (connection : Nat) : Prop where
  /-- It has authenticated for VPN use and passed the capacity check. -/
  admitted : Admitted config token trace connection
  registered : .register connection ∈ trace
  /-- While it is open, it is the newest client, or some task is about to close it. -/
  current : state.closed connection = false → lastRegistered trace = some connection ∨
    ∃ holder, AboutToClose state holder connection

theorem mayPass_of_pumping {config : ServerConfig} {token : Token} {trace : List Action}
    {state : State} (reached : (registry config token).Reaches trace state)
    (few : draws trace < 2 ^ 64) {connection : Nat} {id : UInt64}
    (pumping : state.phase connection = .pumping id) :
    MayPass config token trace state connection := by
  obtain ⟨admission, registered⟩ := reaches_admission reached
  obtain ⟨sound, newest, _⟩ := reaches_settling reached
  have past : (state.phase connection).PastCheck := by
    rw [pumping]
    trivial
  have mine : (state.phase connection).registeredId? = some id := by
    rw [pumping]
    rfl
  refine ⟨admission.checked past, registered connection id mine, fun opened => ?_⟩
  by_cases active : ∃ client, state.active = some client ∧ client.connection = connection
  · obtain ⟨client, found, rfl⟩ := active
    exact .inl (newest client found)
  · obtain ⟨holder, previous, holds, here⟩ := (sound few).2.displaced_held mine opened
      fun current found same => active ⟨current, found, same⟩
    obtain ⟨holderId, stands⟩ := Phase.previous?_eq_some.mp holds
    exact .inr ⟨holder, holderId, previous, stands, here⟩

/-- Every packet that passes the device in any run, into it or out of it, passes
for a connection that may have it at that moment. -/
theorem traffic_authentic {config : ServerConfig} {token : Token}
    {trace before after : List Traffic} {state : State} {packet : Traffic} {connection : Nat}
    (reached : (traffic config token).Reaches trace state) (few : draws (controls trace) < 2 ^ 64)
    (split : trace = before ++ packet :: after) (carried : packet.carrier? = some connection) :
    ∃ middle, (traffic config token).Reaches before middle ∧
      MayPass config token (controls before) middle connection := by
  obtain ⟨first, initial, runs⟩ := reached
  obtain ⟨middle, next, prior, taken⟩ := runs.split split
  refine ⟨middle, ⟨first, initial, prior⟩, ?_⟩
  have fewer : draws (controls before) < 2 ^ 64 := by
    refine Nat.lt_of_le_of_lt ?_ few
    rw [split, draws, draws, controls, controls, List.filterMap_append, List.countP_append]
    exact Nat.le_add_right _ _
  rcases trafficStep_cases taken with ⟨own, rfl, _⟩ | ⟨passing, id, _, passes, pumping, _⟩
  · cases carried
  · obtain rfl : passing = connection := Option.some.inj (passes.symm.trans carried)
    exact mayPass_of_pumping (reaches_controls ⟨first, initial, prior⟩) fewer pumping

/-- A packet that passes for the displaced first client while its successor rests. -/
def latePacket (token : Token) : List Traffic :=
  (overlap token).map .control ++ [.inbound 0 [69]]

/-- The first client's packet may still pass: the second one's task is about to
close its connection. -/
theorem traffic_authentic_latePacket :
    ∃ state, (traffic {} sampleToken).Reaches (latePacket sampleToken) state ∧
      ∃ middle, MayPass {} sampleToken (overlap sampleToken) middle 0 := by
  have executed : ((traffic {} sampleToken).run start (latePacket sampleToken)).isSome = true := by
    decide +kernel
  obtain ⟨state, run⟩ := Option.isSome_iff_exists.mp executed
  have reached : (traffic {} sampleToken).Reaches (latePacket sampleToken) state :=
    ⟨start, rfl, Machine.runs_of_run run⟩
  have same : controls ((overlap sampleToken).map .control) = overlap sampleToken := by
    decide +kernel
  obtain ⟨middle, _, passes⟩ := traffic_authentic reached (by decide +kernel) rfl rfl
  rw [same] at passes
  exact ⟨state, reached, middle, passes⟩

end LiteVpn.Server.Registry
