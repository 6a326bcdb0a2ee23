import LiteVpn.Core.DatagramPump
import LiteVpn.Core.DatagramReceive
import LiteVpn.Semantics.Lossy
import LiteVpn.Semantics.Machine
import LiteVpn.Vpn.StreamStartup

/-!
# The tunnel in datagram mode

Both programs run `pump_tun_to_quic` and `pump_quic_to_tun` side by side and leave
with the first of them that ends. Between them QUIC carries datagrams: it may lose
any of them and deliver the others in any order, but it delivers none twice. The
steps of the four pumps and of the network interleave in every order.

A turn of the sending pump is placed where its datagram is handed over. What it
meets before and after, the check of the limit and the wait for the backlog,
touches nothing but the pump itself. A pump that still waits inside its turn has
not ended: the program goes on with the other pump.
-/

namespace LiteVpn.Vpn.DatagramSession

open LiteVpn.Core LiteVpn.Strings LiteVpn.Semantics

/-- What one side is configured with, and the statistics at the start of its pump. -/
structure Settings where
  mtu : Nat
  frameTxDatagram : Nat
  datagramBacklogPackets : Nat
deriving DecidableEq, Repr

/-- One direction of the tunnel: the sending pump, the network, and the receiving
pump on the other side. -/
structure Link where
  turns : List PumpTurn
  log : List Disposition
  up : TurnEnd DatagramBacklog PumpEnd
  inFlight : List Packet
  lost : List Packet
  deliveries : List DeliveryTurn
  written : List Packet
  down : TurnEnd Unit DeliveryEnd

/-- Nothing sent yet, both pumps at the head of their loops. -/
def Link.start (settings : Settings) : Link where
  turns := []
  log := []
  up := .next (.new settings.frameTxDatagram settings.datagramBacklogPackets)
  inFlight := []
  lost := []
  deliveries := []
  written := []
  down := .next ()

/-- One turn of the sending pump, if it stands at the head of its loop. -/
def Link.send (mtu : Nat) (link : Link) (turn : PumpTurn) : Option Link :=
  match link.up with
  | .exit _ => none
  | .next backlog =>
      let taken := pumpTurn mtu backlog turn
      some { link with
        turns := link.turns ++ [turn]
        log := link.log ++ taken.1
        up := taken.2
        inFlight := link.inFlight ++ handedPackets taken.1 }

/-- One turn of the receiving pump, with the packets that stay in flight. -/
def Link.receive (link : Link) (turn : DeliveryTurn) (inFlight : List Packet) : Option Link :=
  match link.down with
  | .exit _ => none
  | .next () =>
      let taken := deliveryTurn () turn
      some { link with
        deliveries := link.deliveries ++ [turn]
        written := link.written ++ taken.1
        down := taken.2
        inFlight := inFlight }

/-- `read_datagram` returns any one of the datagrams in flight. -/
def Link.deliver (link : Link) (index : Nat) (written : Option Nat) : Option Link :=
  match link.inFlight[index]? with
  | none => none
  | some packet => link.receive (.datagram packet written) (link.inFlight.eraseIdx index)

/-- The network loses a datagram. -/
def Link.lose (link : Link) (index : Nat) : Option Link :=
  match link.inFlight[index]? with
  | none => none
  | some packet =>
      some { link with inFlight := link.inFlight.eraseIdx index, lost := link.lost ++ [packet] }

/-- The traffic from each side, and which programs still run their pumps. -/
structure State where
  link : Side → Link
  running : Side → Bool

inductive Action where
  /-- A turn of `pump_tun_to_quic`. -/
  | up (side : Side) (turn : PumpTurn)
  /-- `pump_quic_to_tun` of one side reads a datagram. -/
  | deliver (side : Side) (index : Nat) (written : Option Nat)
  /-- `read_datagram` fails: the connection is gone. -/
  | readFails (side : Side) (reason : String)
  /-- The network loses a datagram of one side. -/
  | lose (side : Side) (index : Nat)
  /-- The client's shutdown signal. -/
  | shutdown
deriving DecidableEq, Repr

/-- Whether the sending pump has returned. One that waits for QUIC or for its
backlog has not. -/
def upReturned : TurnEnd DatagramBacklog PumpEnd → Bool
  | .next _ | .exit .sending | .exit .queueing => false
  | .exit _ => true

def downReturned : TurnEnd Unit DeliveryEnd → Bool
  | .next _ => false
  | .exit _ => true

/-- One link takes a step, and a program leaves its `select!` if its pump has
returned. -/
def State.update (state : State) (sender program : Side) (link : Link) (returned : Bool) :
    State where
  link := Function.update state.link sender link
  running := Function.update state.running program (state.running program && !returned)

def step (settings : Side → Settings) (state : State) : Action → Option State
  | .up side turn =>
      if state.running side then
        ((state.link side).send (settings side).mtu turn).map fun link =>
          state.update side side link (upReturned link.up)
      else none
  | .deliver side index written =>
      if state.running side then
        ((state.link side.peer).deliver index written).map fun link =>
          state.update side.peer side link (downReturned link.down)
      else none
  | .readFails side reason =>
      if state.running side then
        ((state.link side.peer).receive (.readFailed reason) (state.link side.peer).inFlight).map
          fun link => state.update side.peer side link (downReturned link.down)
      else none
  | .lose side index =>
      ((state.link side).lose index).map fun link => state.update side side link false
  | .shutdown => some (state.update .client .client (state.link .client) true)

/-- Both programs are about to start their pumps. -/
def start (settings : Side → Settings) : State where
  link side := .start (settings side)
  running _ := true

def session (settings : Side → Settings) : Machine State Action where
  Initial state := state = start settings
  step := step settings

/-- One direction in order: both pumps are runs of the source's loops, and every
datagram that was handed over is on the other side, in flight or lost. -/
structure Link.Sound (settings : Settings) (link : Link) : Prop where
  sent : (link.log, link.up) = pumpTunToQuic settings.mtu settings.frameTxDatagram
    settings.datagramBacklogPackets link.turns
  received : (link.written, link.down) = pumpQuicToTun link.deliveries
  conserved : (handedPackets link.log).Perm (link.written ++ link.inFlight ++ link.lost)

section Direction

variable {settings : Settings} {link next : Link}

theorem sound_start (settings : Settings) : (Link.start settings).Sound settings :=
  ⟨rfl, rfl, .refl _⟩

theorem handedPackets_append (first second : List Disposition) :
    handedPackets (first ++ second) = handedPackets first ++ handedPackets second := by
  simp [handedPackets]

theorem Link.Sound.send (sound : link.Sound settings) {turn : PumpTurn}
    (taken : link.send settings.mtu turn = some next) : next.Sound settings := by
  unfold Link.send at taken
  split at taken
  · cases taken
  · rename_i backlog stands
    cases taken
    have same := sound.sent
    rw [stands] at same
    have head : (pumpTunToQuic settings.mtu settings.frameTxDatagram
        settings.datagramBacklogPackets link.turns).2 = .next backlog := by
      rw [← same]
    refine ⟨?_, sound.received, ?_⟩
    · rw [pumpTunToQuic, runLoop_snoc head, ← pumpTunToQuic, ← same]
    · rw [handedPackets_append]
      exact conserved_handed sound.conserved _

theorem Link.Sound.receive (sound : link.Sound settings) {turn : DeliveryTurn}
    {inFlight : List Packet} (taken : link.receive turn inFlight = some next)
    (moved : link.inFlight.Perm (turn.packet.toList ++ inFlight)) : next.Sound settings := by
  unfold Link.receive at taken
  split at taken
  · cases taken
  · rename_i stands
    cases taken
    have same := sound.received
    rw [stands] at same
    have head : (pumpQuicToTun link.deliveries).2 = .next () := by
      rw [← same]
    refine ⟨sound.sent, ?_, ?_⟩
    · rw [pumpQuicToTun, runLoop_snoc head, ← pumpQuicToTun, ← same]
    · rw [deliveryTurn_fst]
      exact conserved_received sound.conserved moved

theorem Link.Sound.lose (sound : link.Sound settings) {index : Nat}
    (taken : link.lose index = some next) : next.Sound settings := by
  unfold Link.lose at taken
  split at taken
  · cases taken
  · rename_i packet found
    cases taken
    exact ⟨sound.sent, sound.received, conserved_lost sound.conserved found⟩

/-- Sending gives the other device nothing. -/
theorem send_written {mtu : Nat} {turn : PumpTurn} (taken : link.send mtu turn = some next) :
    next.written = link.written := by
  unfold Link.send at taken
  split at taken <;> cases taken
  rfl

/-- Receiving hands nothing over. -/
theorem receive_log {turn : DeliveryTurn} {inFlight : List Packet}
    (taken : link.receive turn inFlight = some next) : next.log = link.log := by
  unfold Link.receive at taken
  split at taken <;> cases taken
  rfl

theorem lose_keeps {index : Nat} (taken : link.lose index = some next) :
    next.log = link.log ∧ next.written = link.written := by
  unfold Link.lose at taken
  split at taken <;> cases taken
  exact ⟨rfl, rfl⟩

/-- What is read off a device is not empty and fits the buffer. -/
theorem sized_packetsRead {mtu : Nat} {turns : List PumpTurn} {packet : Packet}
    (member : packet ∈ packetsRead mtu turns) : packet ≠ [] ∧ packet.length ≤ mtu + 64 := by
  simp only [packetsRead, List.mem_filter, List.mem_filterMap] at member
  obtain ⟨⟨turn, _, read⟩, nonempty⟩ := member
  refine ⟨by simpa using nonempty, ?_⟩
  cases turn with
  | receiveFailed => cases read
  | connectionClosed reason => cases read
  | received raw maxDatagramSize send reading waits =>
      cases read
      exact List.length_take_le _ _

end Direction

/-- What holds of the traffic from one side at every moment. -/
structure Carried (settings : Settings) (link : Link) : Prop where
  /-- Every datagram handed to QUIC was given to the other device once, or is in
  flight, or was lost by the network. -/
  conserved : (handedPackets link.log).Perm (link.written ++ link.inFlight ++ link.lost)
  /-- The datagrams handed over are the packets read, in their order, without those
  that were larger than the limit and without the one that the pump holds, or held
  when it ended. -/
  carries : Carries settings.mtu settings.frameTxDatagram settings.datagramBacklogPackets
    link.turns link.log link.up
  /-- The other device gets nothing but packets that were read, none more often
  than it was read. -/
  genuine : link.written.Subperm (packetsRead settings.mtu link.turns)
  sized : ∀ packet ∈ link.written, packet ≠ [] ∧ packet.length ≤ settings.mtu + 64

theorem Link.Sound.carried {settings : Settings} {link : Link} (sound : link.Sound settings) :
    Carried settings link := by
  have carries : Carries settings.mtu settings.frameTxDatagram settings.datagramBacklogPackets
      link.turns link.log link.up := by
    have run := carries_pumpTunToQuic settings.mtu settings.frameTxDatagram
      settings.datagramBacklogPackets link.turns
    rwa [← sound.sent] at run
  have genuine : link.written.Subperm (packetsRead settings.mtu link.turns) :=
    (received_subperm sound.conserved).trans carries.subsequence.subperm
  exact ⟨sound.conserved, carries, genuine,
    fun packet member => sized_packetsRead (genuine.subset member)⟩

/-- Everything a step can do to a link and to the programs. -/
inductive Changed (settings : Side → Settings) (state : State) : State → Prop where
  | sent {side turn link} (runs : state.running side = true)
      (taken : (state.link side).send (settings side).mtu turn = some link) :
      Changed settings state (state.update side side link (upReturned link.up))
  | received {side turn inFlight link} (runs : state.running side = true)
      (moved : (state.link side.peer).inFlight.Perm (turn.packet.toList ++ inFlight))
      (taken : (state.link side.peer).receive turn inFlight = some link) :
      Changed settings state (state.update side.peer side link (downReturned link.down))
  | lost {side index link} (taken : (state.link side).lose index = some link) :
      Changed settings state (state.update side side link false)
  | shutdown : Changed settings state (state.update .client .client (state.link .client) true)

theorem changed_of_step {settings : Side → Settings} {state next : State} {action : Action}
    (taken : step settings state action = some next) : Changed settings state next := by
  cases action with
  | up side turn =>
      simp only [step, Option.ite_none_right_eq_some, Option.map_eq_some_iff] at taken
      obtain ⟨runs, link, sent, rfl⟩ := taken
      exact .sent runs sent
  | deliver side index written =>
      simp only [step, Option.ite_none_right_eq_some, Option.map_eq_some_iff] at taken
      obtain ⟨runs, link, delivered, rfl⟩ := taken
      unfold Link.deliver at delivered
      split at delivered
      · cases delivered
      · rename_i packet found
        exact .received runs (perm_of_getElem? found) delivered
  | readFails side reason =>
      simp only [step, Option.ite_none_right_eq_some, Option.map_eq_some_iff] at taken
      obtain ⟨runs, link, failed, rfl⟩ := taken
      exact .received runs (.refl _) failed
  | lose side index =>
      simp only [step, Option.map_eq_some_iff] at taken
      obtain ⟨link, lost, rfl⟩ := taken
      exact .lost lost
  | shutdown =>
      cases taken
      exact .shutdown

/-- One link of an updated state. -/
theorem update_link (state : State) (sender program other : Side) (link : Link) (returned : Bool) :
    (state.update sender program link returned).link other =
      if other = sender then link else state.link other :=
  Function.update_apply state.link sender link other

/-- What the link that took the step keeps is kept everywhere. -/
theorem update_keeps {Field : Type} (field : Link → Field) {state : State}
    {sender program side : Side} {link : Link} {returned : Bool}
    (same : field link = field (state.link sender)) :
    field ((state.update sender program link returned).link side) = field (state.link side) := by
  rw [update_link]
  split
  · rename_i here
    rw [same, here]
  · rfl

/-- A property of single links survives a step if the link that took it keeps it. -/
theorem update_forall {Holds : Side → Link → Prop} {state : State} {sender program : Side}
    {link : Link} {returned : Bool} (before : ∀ side, Holds side (state.link side))
    (kept : Holds sender link) :
    ∀ side, Holds side ((state.update sender program link returned).link side) := by
  intro side
  rw [update_link]
  split
  · rename_i same
    rw [same]
    exact kept
  · exact before side

/-- Both directions are in order in every reachable state. -/
theorem sound_of_reachable {settings : Side → Settings} {state : State}
    (reachable : (session settings).Reachable state) :
    ∀ side, (state.link side).Sound (settings side) := by
  refine reachable.induct ?_ ?_
  · rintro _ rfl side
    exact sound_start (settings side)
  · intro before action after sound taken
    cases changed_of_step taken with
    | sent runs sent => exact update_forall sound ((sound _).send sent)
    | received runs moved received => exact update_forall sound ((sound _).receive received moved)
    | lost lost => exact update_forall sound ((sound _).lose lost)
    | shutdown => exact update_forall sound (sound _)

/-- A program that has left its pumps: what it has handed over and what it has
given to its device. -/
structure Frozen (side : Side) (before after : State) : Prop where
  stopped : after.running side = false
  handed : (after.link side).log = (before.link side).log
  written : (after.link side.peer).written = (before.link side.peer).written

theorem Side.peer_eq_of_ne {first second : Side} (differ : first ≠ second) :
    first.peer = second := by
  cases first <;> cases second <;> first | rfl | exact absurd rfl differ

/-- A program that has left never runs again. -/
theorem update_stopped {state : State} {side : Side} (sender program : Side) (link : Link)
    (returned : Bool) (stopped : state.running side = false) :
    (state.update sender program link returned).running side = false := by
  simp only [State.update, Function.update_apply]
  split
  · rename_i same
    rw [← same, stopped]
    rfl
  · exact stopped

theorem Frozen.step {settings : Side → Settings} {side : Side} {first state next : State}
    {action : Action} (frozen : Frozen side first state)
    (taken : step settings state action = some next) : Frozen side first next := by
  obtain ⟨stopped, handed, written⟩ := frozen
  have runner : ∀ {other}, state.running other = true → other ≠ side := by
    rintro other runs rfl
    rw [stopped] at runs
    cases runs
  cases changed_of_step taken with
  | @sent other turn link runs sent =>
      refine ⟨update_stopped _ _ _ _ stopped, ?_, ?_⟩
      · rw [update_link, if_neg (runner runs).symm]
        exact handed
      · rw [update_keeps Link.written (send_written sent)]
        exact written
  | @received other turn inFlight link runs moved received =>
      refine ⟨update_stopped _ _ _ _ stopped, ?_, ?_⟩
      · rw [update_keeps Link.log (receive_log received)]
        exact handed
      · have elsewhere : side.peer ≠ other.peer := by
          rw [Side.peer_eq_of_ne (runner runs)]
          cases side <;> simp [Side.peer]
        rw [update_link, if_neg elsewhere]
        exact written
  | @lost other index link lost =>
      obtain ⟨sameLog, sameWritten⟩ := lose_keeps lost
      refine ⟨update_stopped _ _ _ _ stopped, ?_, ?_⟩
      · rw [update_keeps Link.log sameLog]
        exact handed
      · rw [update_keeps Link.written sameWritten]
        exact written
  | shutdown =>
      refine ⟨update_stopped _ _ _ _ stopped, ?_, ?_⟩
      · rw [update_keeps Link.log rfl]
        exact handed
      · rw [update_keeps Link.written rfl]
        exact written

/-- For any MTUs and limits of the two sides and any interleaving of their pumps
with a network that loses and reorders datagrams, in every reachable state: the
packets of each side are carried to the other one unaltered and at most once, and
all that were handed over are accounted for. A program that has left its pumps
hands over nothing and gives its device nothing from then on. -/
theorem tunnel_carries {settings : Side → Settings} {state : State}
    (reachable : (session settings).Reachable state) (side : Side) :
    Carried (settings side) (state.link side) ∧
      ∀ trace later, (session settings).Runs Machine.Unrestricted state trace later →
        state.running side = false → Frozen side state later := by
  refine ⟨(sound_of_reachable reachable side).carried, ?_⟩
  intro trace later runs stopped
  induction runs with
  | refl => exact ⟨stopped, rfl, rfl⟩
  | step prior allowed taken inductionHypothesis => exact inductionHypothesis.step taken

/-- Two packets of the client overtake each other, a third one is lost, and an
oversized one is dropped; then the client is told to stop. -/
def overtakingTraffic : List Action :=
  [.up .client (.received [1, 2] (some 1350) (.enqueue 1350) ⟨0, 0⟩ []),
    .up .client (.received [3] (some 1350) (.enqueue 1350) ⟨0, 0⟩ []),
    .up .client (.received [4] (some 1350) (.enqueue 1350) ⟨0, 0⟩ []),
    .up .client (.received [5, 6] (some 1) (.enqueue 1) ⟨0, 0⟩ []),
    .deliver .server 1 (some 1), .lose .client 1, .deliver .server 0 (some 2), .shutdown]

theorem tunnel_carries_overtaking :
    ∃ state, (session fun _ => ⟨1300, 0, 64⟩).run (start fun _ => ⟨1300, 0, 64⟩)
        overtakingTraffic = some state ∧
      (state.link .client).written = [[3], [1, 2]] ∧ (state.link .client).lost = [[4]] ∧
      state.running .client = false ∧ Carried ⟨1300, 0, 64⟩ (state.link .client) := by
  refine ⟨_, rfl, rfl, rfl, rfl, ?_⟩
  have executed : (session fun _ => ⟨1300, 0, 64⟩).run (start fun _ => ⟨1300, 0, 64⟩)
      overtakingTraffic = some _ := rfl
  exact (tunnel_carries (Machine.reachable_of_run rfl executed) .client).1

end LiteVpn.Vpn.DatagramSession
