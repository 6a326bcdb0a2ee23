import LiteVpn.Core.BacklogWait
import LiteVpn.Core.Stream
import LiteVpn.Semantics.Loop
import Mathlib.Data.List.Forall2

/-!
# The datagram pump

`pump_tun_to_quic`. A packet is compared with the connection's datagram limit
and dropped if it is larger; `send_datagram_wait` compares it again when it
enqueues it, with the limit in force then. In between the sender may have to
wait for QUIC, and the limit may shrink meanwhile. The pacer delays the loop and
changes nothing in it.
-/

namespace LiteVpn.Core

open LiteVpn.Strings
open LiteVpn.Semantics

/-- What `send_datagram_wait` meets: it enqueues under some limit, the connection
is lost, or it still waits for room. -/
inductive SendEvent where
  | enqueue (limit : Nat)
  | lost (reason : String)
  | pending
deriving DecidableEq, Repr

/-- What the pump meets in one turn of its loop. -/
inductive PumpTurn where
  | receiveFailed
  | connectionClosed (reason : String)
  /-- A read of the device, the datagram limit at the check, and what sending
  and the backlog meet if the packet gets there. -/
  | received (packet : Packet) (maxDatagramSize : Option Nat) (send : SendEvent)
      (reading : Reading) (waits : List Wait)
deriving DecidableEq, Repr

/-- Why the pump is not at the head of its loop. -/
inductive PumpEnd where
  | sending
  | queueing
  | tunReceive
  | closedWaitingForTun (reason : String)
  | connectionLost (reason : String)
  | closedWaitingForBacklog (reason : String)
  | datagramTooLarge (bytes limit : Nat)
deriving DecidableEq, Repr

/-- The text of each error that the program itself words; the others come from
the device or from QUIC as they are. -/
def PumpEnd.message (label : String) : PumpEnd → Option String
  | .closedWaitingForTun reason =>
      s!"{label}: connection closed while waiting for tun packet: {reason}"
  | .closedWaitingForBacklog reason => backlogClosedMessage reason
  | _ => none

/-- What became of a packet. -/
inductive Disposition where
  | handed (packet : Packet)
  | dropped (packet : Packet) (maxDatagramSize : Nat)
deriving DecidableEq, Repr

def Disposition.packet : Disposition → Packet
  | .handed packet | .dropped packet _ => packet

def Disposition.wasHanded : Disposition → Bool
  | .handed _ => true
  | .dropped _ _ => false

/-- A packet that passed the check is sent and counted in the backlog. -/
def sendDatagram (backlog : DatagramBacklog) (packet : Packet) (send : SendEvent)
    (reading : Reading) (waits : List Wait) :
    List Disposition × TurnEnd DatagramBacklog PumpEnd :=
  match send with
  | .pending => ([], .exit .sending)
  | .lost reason => ([], .exit (.connectionLost reason))
  | .enqueue limit =>
      if packet.length > limit then ([], .exit (.datagramTooLarge packet.length limit))
      else
        let counted := backlog.queued reading waits
        match counted.2.ending with
        | .closed reason => ([.handed packet], .exit (.closedWaitingForBacklog reason))
        | .waiting => ([.handed packet], .exit .queueing)
        | .returned _ => ([.handed packet], .next counted.1)

/-- One turn of the loop. The buffer bounds what a read can return. -/
def pumpTurn (mtu : Nat) (backlog : DatagramBacklog) :
    PumpTurn → List Disposition × TurnEnd DatagramBacklog PumpEnd
  | .receiveFailed => ([], .exit .tunReceive)
  | .connectionClosed reason => ([], .exit (.closedWaitingForTun reason))
  | .received packet maxDatagramSize send reading waits =>
      let packet := packet.take (mtu + 64)
      if packet.length = 0 then ([], .next backlog)
      else
        match maxDatagramSize with
        | none => sendDatagram backlog packet send reading waits
        | some max =>
            if packet.length > max then ([.dropped packet max], .next backlog)
            else sendDatagram backlog packet send reading waits

/-- `pump_tun_to_quic`: what became of the packets, and where the pump stands. -/
def pumpTunToQuic (mtu frameTxDatagram datagramBacklogPackets : Nat) (turns : List PumpTurn) :
    List Disposition × TurnEnd DatagramBacklog PumpEnd :=
  runLoop (pumpTurn mtu) (.new frameTxDatagram datagramBacklogPackets) turns

/-- The packet a turn reads off the device. -/
def PumpTurn.packet (mtu : Nat) : PumpTurn → Option Packet
  | .received packet _ _ _ _ => some (packet.take (mtu + 64))
  | _ => none

/-- The non-empty packets that the turns read, in their order. -/
def packetsRead (mtu : Nat) (turns : List PumpTurn) : List Packet :=
  (turns.filterMap (PumpTurn.packet mtu)).filter fun packet => !packet.isEmpty

/-- The limit at the check of a turn is below the packet's size. -/
def PumpTurn.OversizedFor (mtu : Nat) (packet : Packet) (max : Nat) (turn : PumpTurn) : Prop :=
  ∃ raw send reading waits, turn = .received raw (some max) send reading waits ∧
    raw.take (mtu + 64) = packet ∧ max < packet.length

/-- A packet that passes the check still fits the limit under which it is
enqueued. -/
def PumpTurn.KeepsLimit (mtu : Nat) : PumpTurn → Prop
  | .received packet maxDatagramSize (.enqueue limit) _ _ =>
      packet.take (mtu + 64) ≠ [] →
        (∀ max, maxDatagramSize = some max → (packet.take (mtu + 64)).length ≤ max) →
          (packet.take (mtu + 64)).length ≤ limit
  | _ => True

/-- The reasons for which the pump may leave its loop, or be inside a turn. -/
def PumpEnd.Expected : PumpEnd → Prop
  | .datagramTooLarge _ _ => False
  | _ => True

/-- The packet of the turn was read but has not become a datagram: the send has
not returned, or it has failed. -/
def PumpEnd.PacketUnsent : PumpEnd → Prop
  | .sending | .connectionLost _ | .datagramTooLarge _ _ => True
  | _ => False

/-- The packets handed to QUIC. -/
def handedPackets (log : List Disposition) : List Packet :=
  (log.filter Disposition.wasHanded).map Disposition.packet

/-- The turn reads a packet that is not empty. -/
def PumpTurn.reads (mtu : Nat) (turn : PumpTurn) : Bool :=
  (turn.packet mtu).any fun packet => !packet.isEmpty

/-- What may become of a packet in its turn: it is handed over as it was read, or
dropped because it is larger than the limit at the check. -/
def PumpTurn.Disposes (mtu : Nat) (turn : PumpTurn) : Disposition → Prop
  | .handed packet => turn.packet mtu = some packet
  | .dropped packet max => turn.OversizedFor mtu packet max

/-- Each turn that reads a packet has disposed of it, in the order of the turns, and
nothing else is in the log. -/
def Accounts (mtu : Nat) (turns : List PumpTurn) (log : List Disposition) : Prop :=
  List.Forall₂ (PumpTurn.Disposes mtu) (turns.filter (PumpTurn.reads mtu)) log

/-- The packets handed over are a subsequence of those read, and every packet in
the log as dropped was larger than the limit. -/
structure Selects (mtu : Nat) (turns : List PumpTurn) (log : List Disposition) : Prop where
  subsequence : List.Sublist (handedPackets log) (packetsRead mtu turns)
  oversized : ∀ packet max, .dropped packet max ∈ log →
    ∃ turn ∈ turns, turn.OversizedFor mtu packet max

/-- What the pump does with the packets it reads. It hands over a subsequence of
them and drops only those that were larger than the limit. At the head of its
loop no packet is left out of account; when it has left its loop, or is inside a
turn, at most the packet of its last turn is. -/
structure Carries (mtu frameTxDatagram datagramBacklogPackets : Nat) (turns : List PumpTurn)
    (log : List Disposition) (ending : TurnEnd DatagramBacklog PumpEnd) : Prop
    extends Selects mtu turns log where
  atHead : ∀ backlog, ending = .next backlog → Accounts mtu turns log
  atEnd : ∀ reason, ending = .exit reason → ∃ before turn after backlog,
    turns = before ++ turn :: after ∧
      (pumpTunToQuic mtu frameTxDatagram datagramBacklogPackets before).2 = .next backlog ∧
      (pumpTurn mtu backlog turn).2 = .exit reason ∧
      (Accounts mtu (before ++ [turn]) log ∨ reason.PacketUnsent ∧ Accounts mtu before log)

/-- What one turn can come to, with the reasons. The packet is read whole; it may
be empty, dropped at the check, refused when it is enqueued, or handed over. -/
inductive Turned (mtu : Nat) : PumpTurn → List Disposition × TurnEnd DatagramBacklog PumpEnd → Prop
    where
  | unread {turn : PumpTurn} {reason : PumpEnd} (none : turn.packet mtu = none)
      (expected : reason.Expected) (keeps : turn.KeepsLimit mtu) :
      Turned mtu turn ([], .exit reason)
  | empty {turn : PumpTurn} {backlog : DatagramBacklog} (read : turn.packet mtu = some [])
      (keeps : turn.KeepsLimit mtu) : Turned mtu turn ([], .next backlog)
  | dropped {turn : PumpTurn} {packet : Packet} {max : Nat} {backlog : DatagramBacklog}
      (read : turn.packet mtu = some packet) (nonempty : packet ≠ [])
      (oversized : turn.OversizedFor mtu packet max) (keeps : turn.KeepsLimit mtu) :
      Turned mtu turn ([.dropped packet max], .next backlog)
  | stuck {turn : PumpTurn} {packet : Packet} {reason : PumpEnd}
      (read : turn.packet mtu = some packet) (nonempty : packet ≠ []) (expected : reason.Expected)
      (unsent : reason.PacketUnsent) (keeps : turn.KeepsLimit mtu) :
      Turned mtu turn ([], .exit reason)
  | refused {turn : PumpTurn} {packet : Packet} {limit : Nat}
      (read : turn.packet mtu = some packet) (nonempty : packet ≠ [])
      (shrunk : ¬ turn.KeepsLimit mtu) :
      Turned mtu turn ([], .exit (.datagramTooLarge packet.length limit))
  | left {turn : PumpTurn} {packet : Packet} {reason : PumpEnd}
      (read : turn.packet mtu = some packet) (nonempty : packet ≠ []) (expected : reason.Expected)
      (keeps : turn.KeepsLimit mtu) : Turned mtu turn ([.handed packet], .exit reason)
  | handed {turn : PumpTurn} {packet : Packet} {backlog : DatagramBacklog}
      (read : turn.packet mtu = some packet) (nonempty : packet ≠ [])
      (keeps : turn.KeepsLimit mtu) : Turned mtu turn ([.handed packet], .next backlog)

/-- Sending a packet that passed the check. -/
theorem turned_sendDatagram {mtu : Nat} {raw : Packet} {maxDatagramSize : Option Nat}
    (send : SendEvent) (reading : Reading) (waits : List Wait) (backlog : DatagramBacklog)
    (nonempty : raw.take (mtu + 64) ≠ [])
    (passed : ∀ max, maxDatagramSize = some max → (raw.take (mtu + 64)).length ≤ max) :
    Turned mtu (.received raw maxDatagramSize send reading waits)
      (sendDatagram backlog (raw.take (mtu + 64)) send reading waits) := by
  cases send with
  | pending => exact .stuck rfl nonempty trivial trivial trivial
  | lost reason => exact .stuck rfl nonempty trivial trivial trivial
  | enqueue limit =>
      by_cases large : (raw.take (mtu + 64)).length > limit
      · rw [sendDatagram, if_pos large]
        refine .refused rfl nonempty fun keeps => ?_
        exact absurd (keeps nonempty passed) (Nat.not_le.mpr large)
      · have keeps : PumpTurn.KeepsLimit mtu
            (.received raw maxDatagramSize (.enqueue limit) reading waits) :=
          fun _ _ => Nat.not_lt.mp large
        rw [sendDatagram, if_neg large]
        dsimp only
        cases (backlog.queued reading waits).2.ending with
        | closed reason => exact .left rfl nonempty trivial keeps
        | waiting => exact .left rfl nonempty trivial keeps
        | returned passed => exact .handed rfl nonempty keeps

/-- Every turn comes to one of those. -/
theorem turned_pumpTurn (mtu : Nat) (backlog : DatagramBacklog) (turn : PumpTurn) :
    Turned mtu turn (pumpTurn mtu backlog turn) := by
  cases turn with
  | receiveFailed => exact .unread rfl trivial trivial
  | connectionClosed reason => exact .unread rfl trivial trivial
  | received raw maxDatagramSize send reading waits =>
      by_cases empty : raw.take (mtu + 64) = []
      · have keeps : PumpTurn.KeepsLimit mtu
            (.received raw maxDatagramSize send reading waits) := by
          cases send with
          | enqueue limit => exact fun nonempty => absurd empty nonempty
          | lost reason => trivial
          | pending => trivial
        have read : (PumpTurn.received raw maxDatagramSize send reading waits).packet mtu =
            some [] := by
          rw [PumpTurn.packet, empty]
        simp only [pumpTurn, empty, List.length_nil, if_true]
        exact .empty read keeps
      · have length : (raw.take (mtu + 64)).length ≠ 0 :=
          fun zero => empty (List.eq_nil_of_length_eq_zero zero)
        simp only [pumpTurn, length, if_false]
        cases maxDatagramSize with
        | none => exact turned_sendDatagram send reading waits backlog empty (by simp)
        | some max =>
            by_cases large : (raw.take (mtu + 64)).length > max
            · have keeps : PumpTurn.KeepsLimit mtu
                  (.received raw (some max) send reading waits) := by
                cases send with
                | enqueue limit =>
                    exact fun _ passed => absurd (passed max rfl) (Nat.not_le.mpr large)
                | lost reason => trivial
                | pending => trivial
              simp only [large, if_true]
              exact .dropped rfl empty ⟨raw, send, reading, waits, rfl, rfl, large⟩ keeps
            · simp only [large, if_false]
              refine turned_sendDatagram send reading waits backlog empty fun max' same => ?_
              cases same
              exact Nat.not_lt.mp large

theorem reads_of_packet {mtu : Nat} {turn : PumpTurn} {packet : Packet}
    (read : turn.packet mtu = some packet) (nonempty : packet ≠ []) :
    turn.reads mtu = true := by
  simp [PumpTurn.reads, read, nonempty]

/-- The packets of the turns that read one. -/
theorem packetsRead_eq_filterMap (mtu : Nat) (turns : List PumpTurn) :
    packetsRead mtu turns =
      (turns.filter (PumpTurn.reads mtu)).filterMap (PumpTurn.packet mtu) := by
  induction turns with
  | nil => rfl
  | cons turn rest inductionHypothesis =>
      cases read : turn.packet mtu with
      | none => simpa [packetsRead, PumpTurn.reads, read] using inductionHypothesis
      | some packet =>
          cases packet with
          | nil => simpa [packetsRead, PumpTurn.reads, read] using inductionHypothesis
          | cons byte bytes => simpa [packetsRead, PumpTurn.reads, read] using inductionHypothesis

/-- A disposition is one of the packet of its turn. -/
theorem PumpTurn.Disposes.packet {mtu : Nat} {turn : PumpTurn} {entry : Disposition}
    (disposes : turn.Disposes mtu entry) : turn.packet mtu = some entry.packet := by
  cases entry with
  | handed packet => exact disposes
  | dropped packet max =>
      obtain ⟨raw, send, reading, waits, rfl, rfl, _⟩ := disposes
      rfl

section Accounting

variable {mtu : Nat} {turns : List PumpTurn} {turn : PumpTurn} {log : List Disposition}

/-- The packets in the log are the packets read. -/
theorem Accounts.packets (accounts : Accounts mtu turns log) :
    log.map Disposition.packet = packetsRead mtu turns := by
  rw [packetsRead_eq_filterMap]
  unfold Accounts at accounts
  generalize turns.filter (PumpTurn.reads mtu) = reading at accounts
  induction accounts with
  | nil => rfl
  | cons disposes _ inductionHypothesis =>
      rw [List.map_cons, List.filterMap_cons, disposes.packet, inductionHypothesis]

/-- Every drop in the log belongs to a turn whose packet was larger than the limit. -/
theorem Accounts.oversized (accounts : Accounts mtu turns log) {packet : Packet} {max : Nat}
    (member : .dropped packet max ∈ log) :
    ∃ turn ∈ turns, turn.OversizedFor mtu packet max := by
  unfold Accounts at accounts
  obtain ⟨place, inside, here⟩ := List.getElem_of_mem member
  have disposes := accounts.get (accounts.length_eq ▸ inside) inside
  simp only [List.get_eq_getElem, here] at disposes
  exact ⟨_, List.mem_of_mem_filter (List.getElem_mem _), disposes⟩

/-- A turn that disposes of its packet. -/
theorem Accounts.snoc (accounts : Accounts mtu turns log) (reads : turn.reads mtu = true)
    {entry : Disposition} (disposes : turn.Disposes mtu entry) :
    Accounts mtu (turns ++ [turn]) (log ++ [entry]) := by
  unfold Accounts
  rw [List.filter_append, List.filter_cons_of_pos reads]
  exact List.rel_append accounts (.cons disposes .nil)

/-- A turn that has no packet to dispose of. -/
theorem Accounts.snoc_idle (accounts : Accounts mtu turns log) (idle : turn.reads mtu = false) :
    Accounts mtu (turns ++ [turn]) log := by
  unfold Accounts
  rw [List.filter_append, List.filter_cons_of_neg (by simp [idle]), List.filter_nil,
    List.append_nil]
  exact accounts

/-- One more turn, wherever it ends. -/
theorem Accounts.turned (accounts : Accounts mtu turns log)
    {result : List Disposition × TurnEnd DatagramBacklog PumpEnd}
    (turned : Turned mtu turn result) :
    match result.2 with
    | .next _ => Accounts mtu (turns ++ [turn]) (log ++ result.1)
    | .exit reason => Accounts mtu (turns ++ [turn]) (log ++ result.1) ∨
        reason.PacketUnsent ∧ Accounts mtu turns (log ++ result.1) := by
  cases turned with
  | unread unread expected keeps =>
      left
      rw [List.append_nil]
      exact accounts.snoc_idle (by simp [PumpTurn.reads, unread])
  | empty read keeps =>
      rw [List.append_nil]
      exact accounts.snoc_idle (by simp [PumpTurn.reads, read])
  | dropped read nonempty oversized keeps =>
      exact accounts.snoc (reads_of_packet read nonempty) oversized
  | stuck read nonempty expected unsent keeps =>
      right
      rw [List.append_nil]
      exact ⟨unsent, accounts⟩
  | refused read nonempty shrunk =>
      right
      rw [List.append_nil]
      exact ⟨trivial, accounts⟩
  | left read nonempty expected keeps =>
      left
      exact accounts.snoc (reads_of_packet read nonempty) read
  | handed read nonempty keeps =>
      exact accounts.snoc (reads_of_packet read nonempty) read

end Accounting

/-- At the head of the loop every packet read so far is accounted for. -/
theorem loopInvariant_pumpTurn (mtu : Nat) :
    LoopInvariant (pumpTurn mtu) (fun before log _ => Accounts mtu before log)
      (fun _ _ _ => True) := by
  apply LoopInvariant.of_turns
  intro before log backlog turn accounts
  have behind := accounts.turned (turned_pumpTurn mtu backlog turn)
  unfold AfterTurn
  split
  · rename_i after ending
    rw [ending] at behind
    exact behind
  · exact fun _ => trivial

theorem accounts_pumpTunToQuic {mtu frameTxDatagram datagramBacklogPackets : Nat}
    {turns : List PumpTurn} {backlog : DatagramBacklog}
    (head : (pumpTunToQuic mtu frameTxDatagram datagramBacklogPackets turns).2 = .next backlog) :
    Accounts mtu turns (pumpTunToQuic mtu frameTxDatagram datagramBacklogPackets turns).1 := by
  have stands := (loopInvariant_pumpTurn mtu).stands
    (.new frameTxDatagram datagramBacklogPackets) .nil turns
  unfold Stands at stands
  unfold pumpTunToQuic at head ⊢
  rw [head] at stands
  exact stands

/-- What accounts for the first turns selects from all of them. -/
theorem Accounts.selects {mtu : Nat} {turns : List PumpTurn} {log : List Disposition}
    (accounts : Accounts mtu turns log) (rest : List PumpTurn) :
    Selects mtu (turns ++ rest) log := by
  constructor
  · have among : List.Sublist (handedPackets log) (packetsRead mtu turns) := by
      rw [← accounts.packets]
      exact List.filter_sublist.map _
    have more : List.Sublist (packetsRead mtu turns) (packetsRead mtu (turns ++ rest)) :=
      ((List.sublist_append_left turns rest).filterMap _).filter _
    exact among.trans more
  · intro packet max member
    obtain ⟨turn, known, oversized⟩ := accounts.oversized member
    exact ⟨turn, List.mem_append_left _ known, oversized⟩

/-- Whatever the limit does, the pump carries packets as it should. -/
theorem carries_pumpTunToQuic (mtu frameTxDatagram datagramBacklogPackets : Nat)
    (turns : List PumpTurn) :
    Carries mtu frameTxDatagram datagramBacklogPackets turns
      (pumpTunToQuic mtu frameTxDatagram datagramBacklogPackets turns).1
      (pumpTunToQuic mtu frameTxDatagram datagramBacklogPackets turns).2 := by
  cases ending : (pumpTunToQuic mtu frameTxDatagram datagramBacklogPackets turns).2 with
  | next backlog =>
      have accounts := accounts_pumpTunToQuic ending
      have selects := accounts.selects []
      rw [List.append_nil] at selects
      exact ⟨selects, fun _ _ => accounts, nofun⟩
  | exit reason =>
      obtain ⟨before, turn, after, backlog, rfl, head, left⟩ := runLoop_exit_iff.mp ending
      have behind := (accounts_pumpTunToQuic head).turned (turned_pumpTurn mtu backlog turn)
      rw [left] at behind
      have log : (pumpTunToQuic mtu frameTxDatagram datagramBacklogPackets
          (before ++ turn :: after)).1 =
            (pumpTunToQuic mtu frameTxDatagram datagramBacklogPackets before).1 ++
              (pumpTurn mtu backlog turn).1 :=
        runLoop_exit_log head left
      rw [← log] at behind
      refine ⟨?_, nofun, ?_⟩
      · rcases behind with whole | ⟨_, short⟩
        · simpa using whole.selects after
        · exact short.selects (turn :: after)
      · rintro _ ⟨⟩
        exact ⟨before, turn, after, backlog, rfl, head, left, behind⟩

end LiteVpn.Core
