import LiteVpn.Semantics.Counter

/-!
# Datagram limits of a connection

The capacity check that both programs make before they carry packets in
datagrams, and `DatagramBacklog`, which holds a sender back while too many of
its datagrams are still waiting in QUIC.
-/

namespace LiteVpn.Core

open LiteVpn.Semantics

/-- A connection whose datagrams cannot carry a packet of the tunnel. -/
structure CapacityError where
  label : String
  max : Nat
  mtu : Nat
deriving DecidableEq, Repr

def CapacityError.message (error : CapacityError) : String :=
  error.label ++ ": QUIC datagram capacity " ++ toString error.max ++
    " is below configured tunnel MTU " ++ toString error.mtu

/-- A connection that reports no limit passes. -/
def ensureDatagramCapacity (maxDatagramSize : Option Nat) (mtu : Nat) (label : String) :
    Except CapacityError Unit :=
  match maxDatagramSize with
  | none => .ok ()
  | some max => if max < mtu then .error ⟨label, max, mtu⟩ else .ok ()

/-- `DatagramBacklog`: lifetime counters of one sender on one connection. -/
structure DatagramBacklog where
  baselineTxDatagrams : Nat
  queuedDatagrams : Nat
  transmittedDatagrams : Nat
  maxBacklogPackets : Nat
deriving DecidableEq, Repr

namespace DatagramBacklog

/-- `frameTxDatagram` is the connection's count of transmitted datagrams. -/
def new (frameTxDatagram maxBacklogPackets : Nat) : DatagramBacklog where
  baselineTxDatagrams := frameTxDatagram
  queuedDatagrams := 0
  transmittedDatagrams := 0
  maxBacklogPackets := maxBacklogPackets

def estimatedBacklog (backlog : DatagramBacklog) : Nat :=
  backlog.queuedDatagrams - backlog.transmittedDatagrams

/-- The first statement of `queued` and `queued_until`. -/
def countQueued (backlog : DatagramBacklog) : DatagramBacklog :=
  { backlog with queuedDatagrams := saturatingAdd backlog.queuedDatagrams 1 }

/-- Read the connection's statistics again. -/
def refresh (backlog : DatagramBacklog) (frameTxDatagram : Nat) : DatagramBacklog :=
  { backlog with transmittedDatagrams := frameTxDatagram - backlog.baselineTxDatagrams }

/-- What `wait_until` does before its loop: it returns on the cached numbers, or
goes on into the loop. -/
def entryCheck (backlog : DatagramBacklog) : Option Bool :=
  if backlog.maxBacklogPackets = 0 then some true
  else if backlog.estimatedBacklog ≤ backlog.maxBacklogPackets then some true
  else none

/-- The checks at the head of the loop of `wait_until`, on fresh statistics;
without a result the caller sleeps and comes back. -/
def loopCheck (backlog : DatagramBacklog) (frameTxDatagram : Nat) (deadline : Option Nat)
    (now : Nat) : DatagramBacklog × Option Bool :=
  let fresh := backlog.refresh frameTxDatagram
  if fresh.estimatedBacklog ≤ fresh.maxBacklogPackets then (fresh, some true)
  else if deadline.any fun deadline => deadline ≤ now then (fresh, some false)
  else (fresh, none)

theorem loopCheck_fst (backlog : DatagramBacklog) (frameTxDatagram : Nat)
    (deadline : Option Nat) (now : Nat) :
    (backlog.loopCheck frameTxDatagram deadline now).1 = backlog.refresh frameTxDatagram := by
  simp only [loopCheck]
  split
  · rfl
  · split <;> rfl

/-- The loop lets the caller go exactly on a fresh estimate within the limit. -/
theorem loopCheck_passes {backlog : DatagramBacklog} {frameTxDatagram : Nat}
    {deadline : Option Nat} {now : Nat} :
    (backlog.loopCheck frameTxDatagram deadline now).2 = some true ↔
      (backlog.refresh frameTxDatagram).estimatedBacklog ≤ backlog.maxBacklogPackets := by
  simp only [loopCheck]
  split
  · rename_i within
    exact iff_of_true rfl within
  · rename_i beyond
    refine iff_of_false ?_ beyond
    split <;> simp

/-- With a limit, the first check lets the caller go exactly on a cached estimate
within it, and it never turns the caller away. -/
theorem entryCheck_of_limited {backlog : DatagramBacklog} (limited : 0 < backlog.maxBacklogPackets) :
    backlog.entryCheck =
      if backlog.estimatedBacklog ≤ backlog.maxBacklogPackets then some true else none := by
  simp [entryCheck, Nat.ne_of_gt limited]

end DatagramBacklog

end LiteVpn.Core
