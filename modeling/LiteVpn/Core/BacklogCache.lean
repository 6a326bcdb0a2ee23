import LiteVpn.Core.BacklogWait
import LiteVpn.Semantics.Lockstep

/-!
# The cached backlog and the plain one

`DatagramBacklog` looks at the connection's statistics only when its cached
counter shows too many datagrams. The plain version reads them at the start of
every call. The caches of the two differ for most of a run; what keeps them
together is that the cached counter never runs ahead of a reading still to come.
-/

namespace LiteVpn.Core

open LiteVpn.Semantics

/-- A call of `queued`, without a deadline, or of `queued_until`, and what the
connection shows during it: the statistics when the call starts, at the first
turn of the loop, and after each wait. -/
structure QueueCall where
  deadline : Option Nat
  frameTxDatagram : Nat
  reading : Reading
  waits : List Wait
deriving DecidableEq, Repr

/-- The statistics in the order in which a call can read them. -/
def QueueCall.readings (call : QueueCall) : List Nat :=
  call.frameTxDatagram :: call.reading.frameTxDatagram :: Wait.frameTx call.waits

namespace DatagramBacklog

/-- The program's version. -/
def cachedCall (backlog : DatagramBacklog) (call : QueueCall) : DatagramBacklog × Waited :=
  match call.deadline with
  | none => backlog.queued call.reading call.waits
  | some deadline => backlog.queuedUntil deadline call.reading call.waits

/-- The version that reads the statistics at the start of every call. -/
def plainCall (backlog : DatagramBacklog) (call : QueueCall) : DatagramBacklog × Waited :=
  (backlog.countQueued.refresh call.frameTxDatagram).waitUntil call.deadline call.reading call.waits

/-- The cached counter is behind every reading still to come, and the readings
do not decrease. -/
structure Lags (cached plain : DatagramBacklog) (calls : List QueueCall) : Prop where
  same : SameButCache cached plain
  sorted : (calls.flatMap QueueCall.readings).Pairwise (· ≤ ·)
  behind : ∀ frameTxDatagram ∈ calls.flatMap QueueCall.readings,
    cached.transmittedDatagrams ≤ frameTxDatagram - cached.baselineTxDatagrams

variable {cached plain : DatagramBacklog} {call : QueueCall} {rest : List QueueCall}

theorem cachedCall_eq (cached : DatagramBacklog) (call : QueueCall) :
    cached.cachedCall call =
      cached.countQueued.waitUntil call.deadline call.reading call.waits := by
  unfold cachedCall queued queuedUntil
  cases call.deadline <;> rfl

theorem SameButCache.countQueued (same : SameButCache cached plain) :
    SameButCache cached.countQueued plain.countQueued := by
  refine ⟨same.baseline, ?_, same.limit⟩
  simp only [DatagramBacklog.countQueued, same.queued]

/-- A counter that has moved on lowers the estimate. -/
theorem estimatedBacklog_refresh_le {backlog : DatagramBacklog} {frameTxDatagram : Nat}
    (behind : backlog.transmittedDatagrams ≤ frameTxDatagram - backlog.baselineTxDatagrams) :
    (backlog.refresh frameTxDatagram).estimatedBacklog ≤ backlog.estimatedBacklog := by
  simp only [estimatedBacklog, refresh]
  omega

/-- A later reading lowers the estimate. -/
theorem estimatedBacklog_refresh_mono (backlog : DatagramBacklog) {earlier later : Nat}
    (ordered : earlier ≤ later) :
    (backlog.refresh later).estimatedBacklog ≤ (backlog.refresh earlier).estimatedBacklog := by
  simp only [estimatedBacklog, refresh]
  omega

/-- Where the cache suffices, fresh statistics suffice. -/
theorem entryCheck_refresh {backlog : DatagramBacklog} {frameTxDatagram : Nat} {passed : Bool}
    (behind : backlog.transmittedDatagrams ≤ frameTxDatagram - backlog.baselineTxDatagrams)
    (decided : backlog.entryCheck = some passed) :
    (backlog.refresh frameTxDatagram).entryCheck = some passed := by
  obtain ⟨passes, unlimited | within⟩ := entryCheck_eq_some.mp decided
  · exact entryCheck_eq_some.mpr ⟨passes, .inl unlimited⟩
  · exact entryCheck_eq_some.mpr
      ⟨passes, .inr (Nat.le_trans (estimatedBacklog_refresh_le behind) within)⟩

/-- The first check on fresh statistics that passes means that the loop, which
reads later, passes at once. -/
theorem waitLoop_of_entryCheck {backlog : DatagramBacklog} {frameTxDatagram : Nat}
    {deadline : Option Nat} {reading : Reading} {waits : List Wait} {passed : Bool}
    (limited : backlog.maxBacklogPackets ≠ 0) (ordered : frameTxDatagram ≤ reading.frameTxDatagram)
    (decided : (backlog.refresh frameTxDatagram).entryCheck = some passed) :
    (backlog.waitLoop deadline reading waits).2 = ⟨[], .returned passed⟩ := by
  obtain ⟨rfl, unlimited | within⟩ := entryCheck_eq_some.mp decided
  · exact absurd unlimited limited
  · have later := Nat.le_trans (estimatedBacklog_refresh_mono backlog ordered) within
    rw [waitLoop_of_within later]

/-- Both versions answer a call alike. -/
theorem Lags.answer (lags : Lags cached plain (call :: rest)) :
    (cached.cachedCall call).2 = (plain.plainCall call).2 := by
  have counted := lags.same.countQueued
  have behind : cached.countQueued.transmittedDatagrams ≤
      call.frameTxDatagram - cached.countQueued.baselineTxDatagrams :=
    lags.behind call.frameTxDatagram (by simp [QueueCall.readings])
  have ordered : call.frameTxDatagram ≤ call.reading.frameTxDatagram := by
    have sorted := lags.sorted
    rw [List.flatMap_cons, QueueCall.readings, List.cons_append, List.pairwise_cons] at sorted
    exact sorted.1 _ (by simp)
  rw [cachedCall_eq, plainCall, ← counted.refresh_eq]
  unfold waitUntil
  cases cache : cached.countQueued.entryCheck with
  | some passed => rw [entryCheck_refresh behind cache]
  | none =>
      have limited : cached.countQueued.maxBacklogPackets ≠ 0 := by
        intro unlimited
        simp [entryCheck, unlimited] at cache
      cases fresh : (cached.countQueued.refresh call.frameTxDatagram).entryCheck with
      | some passed => exact waitLoop_of_entryCheck limited ordered fresh
      | none =>
          -- Both are in the loop, which reads the same statistics in both.
          have same : SameButCache cached.countQueued
              (cached.countQueued.refresh call.frameTxDatagram) := ⟨rfl, rfl, rfl⟩
          simp only [same.waitLoop_eq]

/-- A call leaves the cache where it was or at one of the call's readings. -/
theorem cachedCall_fst (cached : DatagramBacklog) (call : QueueCall) :
    (cached.cachedCall call).1 = cached.countQueued ∨
      ∃ frameTxDatagram ∈ call.readings,
        (cached.cachedCall call).1 = cached.countQueued.refresh frameTxDatagram := by
  rw [cachedCall_eq]
  unfold waitUntil
  cases cached.countQueued.entryCheck with
  | some passed => exact .inl rfl
  | none =>
      obtain ⟨frameTxDatagram, member, same⟩ :=
        waitLoop_fst cached.countQueued call.deadline call.reading call.waits
      exact .inr ⟨frameTxDatagram, List.mem_cons_of_mem _ member, same⟩

/-- A call of the plain version changes only the cache and the count. -/
theorem plainCall_sameButCache (plain : DatagramBacklog) (call : QueueCall) :
    SameButCache (plain.plainCall call).1 plain.countQueued := by
  unfold plainCall waitUntil
  cases (plain.countQueued.refresh call.frameTxDatagram).entryCheck with
  | some passed => exact ⟨rfl, rfl, rfl⟩
  | none =>
      obtain ⟨frameTxDatagram, _, same⟩ :=
        waitLoop_fst (plain.countQueued.refresh call.frameTxDatagram) call.deadline call.reading
          call.waits
      simp only [same]
      exact ⟨rfl, rfl, rfl⟩

/-- The cache still lags after a call. -/
theorem Lags.keeps (lags : Lags cached plain (call :: rest)) :
    Lags (cached.cachedCall call).1 (plain.plainCall call).1 rest := by
  have counted := lags.same.countQueued
  have after := plainCall_sameButCache plain call
  have sorted := lags.sorted
  rw [List.flatMap_cons, List.pairwise_append] at sorted
  have later : ∀ reading ∈ rest.flatMap QueueCall.readings,
      reading ∈ (call :: rest).flatMap QueueCall.readings := by
    intro reading member
    rw [List.flatMap_cons]
    exact List.mem_append_right _ member
  rcases cachedCall_fst cached call with kept | ⟨frameTxDatagram, member, read⟩
  · rw [kept]
    refine ⟨⟨?_, ?_, ?_⟩, sorted.2.1, fun reading later' => lags.behind reading (later _ later')⟩
    · rw [counted.baseline, after.baseline]
    · rw [counted.queued, after.queued]
    · rw [counted.limit, after.limit]
  · rw [read]
    refine ⟨⟨?_, ?_, ?_⟩, sorted.2.1, ?_⟩
    · exact counted.baseline.trans after.baseline.symm
    · exact counted.queued.trans after.queued.symm
    · exact counted.limit.trans after.limit.symm
    · intro reading later'
      exact Nat.sub_le_sub_right (sorted.2.2 _ member _ later') _

theorem lockstep_lags : Lockstep cachedCall plainCall Lags where
  answer := Lags.answer
  keeps := Lags.keeps

/-- For every limit and every sequence of calls, the backlog answers as the plain
version does and waits as it does, as long as the connection's count does not
decrease. -/
theorem cached_answers_eq_plain (limit baseline : Nat) (calls : List QueueCall)
    (sorted : (baseline :: calls.flatMap QueueCall.readings).Pairwise (· ≤ ·)) :
    (answers cachedCall (new baseline limit) calls).2 =
      (answers plainCall (new baseline limit) calls).2 := by
  rw [List.pairwise_cons] at sorted
  apply lockstep_lags.answers_eq
  exact ⟨⟨rfl, rfl, rfl⟩, sorted.2, fun _ _ => Nat.zero_le _⟩

/-- Three calls under a limit of one datagram: the second one is held back once,
and the third one finds its cache out of date. -/
def heldBack : List QueueCall :=
  [⟨none, 5, ⟨5, 0⟩, []⟩,
    ⟨some 9, 5, ⟨5, 1⟩, [.slept ⟨6, 3⟩]⟩,
    ⟨none, 7, ⟨7, 4⟩, [.closed "timed out"]⟩]

/-- The two versions agree on those calls. -/
theorem cached_answers_eq_plain_heldBack :
    (answers cachedCall (new 5 1) heldBack).2 = (answers plainCall (new 5 1) heldBack).2 :=
  cached_answers_eq_plain 1 5 heldBack (by decide)

end DatagramBacklog

end LiteVpn.Core
