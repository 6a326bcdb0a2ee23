import LiteVpn.Core.Datagram

/-!
# Waiting for the backlog

`queued`, `queued_until` and `wait_until` as functions of what they meet: the
statistics and the clock at every turn of the loop, and how each of the waits
between two turns ends. A caller whose last wait has not ended is `waiting`.
-/

namespace LiteVpn.Core

/-- What one turn of the loop reads. -/
structure Reading where
  frameTxDatagram : Nat
  now : Nat
deriving DecidableEq, Repr

/-- How a wait ends: the sleep is over and the loop reads again, the deadline
fires, or the connection is gone. -/
inductive Wait where
  | slept (next : Reading)
  | deadline
  | closed (reason : String)
deriving DecidableEq, Repr

/-- How a call stands. -/
inductive WaitEnd where
  | returned (passed : Bool)
  | closed (reason : String)
  | waiting
deriving DecidableEq, Repr

/-- What a call answers: the waits it has been through, and how it stands. -/
structure Waited where
  waits : List Wait
  ending : WaitEnd
deriving DecidableEq, Repr

/-- The text of the error when the connection is gone. -/
def backlogClosedMessage (reason : String) : String :=
  "connection closed while waiting for datagram backlog: " ++ reason

/-- The statistics read in a sequence of waits. -/
def Wait.frameTx : List Wait → List Nat
  | [] => []
  | .slept next :: rest => next.frameTxDatagram :: Wait.frameTx rest
  | .deadline :: rest | .closed _ :: rest => Wait.frameTx rest

namespace DatagramBacklog

/-- The loop of `wait_until`, from a turn that reads `reading`. -/
def waitLoop (backlog : DatagramBacklog) (deadline : Option Nat) (reading : Reading)
    (waits : List Wait) : DatagramBacklog × Waited :=
  match backlog.loopCheck reading.frameTxDatagram deadline reading.now, waits with
  | (fresh, some passed), _ => (fresh, ⟨[], .returned passed⟩)
  | (fresh, none), [] => (fresh, ⟨[], .waiting⟩)
  | (fresh, none), .slept next :: rest =>
      let later := waitLoop fresh deadline next rest
      (later.1, ⟨.slept next :: later.2.waits, later.2.ending⟩)
  | (fresh, none), .closed reason :: _ => (fresh, ⟨[.closed reason], .closed reason⟩)
  | (fresh, none), .deadline :: _ =>
      match deadline with
      | some _ => (fresh, ⟨[.deadline], .returned false⟩)
      -- Without a deadline the select has no such branch and goes on.
      | none => (fresh, ⟨[], .waiting⟩)

def waitUntil (backlog : DatagramBacklog) (deadline : Option Nat) (reading : Reading)
    (waits : List Wait) : DatagramBacklog × Waited :=
  match backlog.entryCheck with
  | some passed => (backlog, ⟨[], .returned passed⟩)
  | none => backlog.waitLoop deadline reading waits

/-- `queued` drops the flag, which is set whenever a call without a deadline
returns. -/
def queued (backlog : DatagramBacklog) (reading : Reading) (waits : List Wait) :
    DatagramBacklog × Waited :=
  backlog.countQueued.waitUntil none reading waits

def queuedUntil (backlog : DatagramBacklog) (deadline : Nat) (reading : Reading)
    (waits : List Wait) : DatagramBacklog × Waited :=
  backlog.countQueued.waitUntil (some deadline) reading waits

/-- Two backlogs that differ at most in the cached counter. -/
structure SameButCache (first second : DatagramBacklog) : Prop where
  baseline : first.baselineTxDatagrams = second.baselineTxDatagrams
  queued : first.queuedDatagrams = second.queuedDatagrams
  limit : first.maxBacklogPackets = second.maxBacklogPackets

variable {first second backlog : DatagramBacklog} {deadline : Option Nat} {reading : Reading}
  {waits : List Wait}

/-- Fresh statistics wipe out the difference. -/
theorem SameButCache.refresh_eq (same : SameButCache first second) (frameTxDatagram : Nat) :
    first.refresh frameTxDatagram = second.refresh frameTxDatagram := by
  cases first
  cases second
  obtain ⟨rfl, rfl, rfl⟩ := same
  rfl

/-- The loop reads before it decides, so the cache does not matter to it. -/
theorem SameButCache.waitLoop_eq (same : SameButCache first second) :
    first.waitLoop deadline reading waits = second.waitLoop deadline reading waits := by
  have checked : first.loopCheck reading.frameTxDatagram deadline reading.now =
      second.loopCheck reading.frameTxDatagram deadline reading.now := by
    simp only [loopCheck, same.refresh_eq]
  unfold waitLoop
  rw [checked]

/-- The loop lets go at once on a reading within the limit. -/
theorem waitLoop_of_within
    (within : (backlog.refresh reading.frameTxDatagram).estimatedBacklog ≤
      backlog.maxBacklogPackets) :
    backlog.waitLoop deadline reading waits =
      (backlog.refresh reading.frameTxDatagram, ⟨[], .returned true⟩) := by
  have passes : backlog.loopCheck reading.frameTxDatagram deadline reading.now =
      (backlog.refresh reading.frameTxDatagram, some true) :=
    Prod.ext (loopCheck_fst ..) (loopCheck_passes.mpr within)
  unfold waitLoop
  rw [passes]

@[simp] theorem refresh_refresh (backlog : DatagramBacklog) (earlier later : Nat) :
    (backlog.refresh earlier).refresh later = backlog.refresh later := rfl

/-- What a turn of the loop finds is a fresh reading. -/
theorem eq_refresh_of_loopCheck {frameTxDatagram now : Nat} {fresh : DatagramBacklog}
    {result : Option Bool}
    (checked : backlog.loopCheck frameTxDatagram deadline now = (fresh, result)) :
    fresh = backlog.refresh frameTxDatagram := by
  rw [← loopCheck_fst backlog frameTxDatagram deadline now, checked]

/-- The loop leaves the backlog as one of its readings shows it. -/
theorem waitLoop_fst (backlog : DatagramBacklog) (deadline : Option Nat) (reading : Reading)
    (waits : List Wait) :
    ∃ frameTxDatagram ∈ reading.frameTxDatagram :: Wait.frameTx waits,
      (backlog.waitLoop deadline reading waits).1 = backlog.refresh frameTxDatagram := by
  fun_induction waitLoop backlog deadline reading waits with
  | case3 backlog reading fresh next rest checked later inductionHypothesis =>
      obtain ⟨frameTxDatagram, member, same⟩ := inductionHypothesis
      refine ⟨frameTxDatagram, List.mem_cons_of_mem _ member, same.trans ?_⟩
      rw [eq_refresh_of_loopCheck checked, refresh_refresh]
  | case1 backlog reading waits fresh passed checked =>
      exact ⟨_, List.mem_cons_self, eq_refresh_of_loopCheck checked⟩
  | case2 backlog reading fresh checked =>
      exact ⟨_, List.mem_cons_self, eq_refresh_of_loopCheck checked⟩
  | case4 backlog reading fresh reason rest checked =>
      exact ⟨_, List.mem_cons_self, eq_refresh_of_loopCheck checked⟩
  | case5 backlog reading fresh rest checked =>
      exact ⟨_, List.mem_cons_self, eq_refresh_of_loopCheck checked⟩
  | case6 backlog reading fresh rest checked =>
      exact ⟨_, List.mem_cons_self, eq_refresh_of_loopCheck checked⟩

/-- The first check lets its caller go without a limit or within it, and never
turns it away. -/
theorem entryCheck_eq_some {passed : Bool} :
    backlog.entryCheck = some passed ↔ passed = true ∧
      (backlog.maxBacklogPackets = 0 ∨ backlog.estimatedBacklog ≤ backlog.maxBacklogPackets) := by
  unfold entryCheck
  by_cases unlimited : backlog.maxBacklogPackets = 0
  · simp [unlimited, eq_comm]
  · by_cases within : backlog.estimatedBacklog ≤ backlog.maxBacklogPackets
    · simp [unlimited, within, eq_comm]
    · simp [unlimited, within]

end DatagramBacklog

end LiteVpn.Core
