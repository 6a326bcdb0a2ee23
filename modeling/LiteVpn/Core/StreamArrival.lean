import LiteVpn.Core.StreamReference

/-!
# What has arrived so far

While the sender goes on, the receiving pump sees a front of what was written.
It has then handed over exactly the packets of the complete frames in that front
and waits for the rest, unless a header announces more than its buffer holds.
The two sides need not have the same MTU: a packet that the sender may send and
the receiver cannot hold ends the receiving pump.
-/

namespace LiteVpn.Core

open LiteVpn.Strings

/-- How the pump stands on a stream that goes on behind these bytes. -/
def pendingEnd (max : Nat) : Bytes → PumpExit
  | high :: low :: _ =>
      let length := fromBeBytes [high, low]
      if length > max then .failed (.exceedsMax length max) else .waiting
  | _ => .waiting

variable {send : Packet → Option Nat} {max : Nat} {bytes : Bytes} {stream : RecvStream} {buf : Bytes}

theorem pumpStreamLoop_blocked (read : readStreamPacket stream buf = .blocked) :
    pumpStreamLoop send stream buf = ⟨[], .waiting⟩ := by
  rw [pumpStreamLoop]
  split
  all_goals
    rename_i other
    rw [read] at other
  all_goals cases other

/-- With fewer bytes than a header the reader waits. -/
theorem readStreamPacket_short (few : stream.unread.length < 2) (more : stream.finished = false) :
    readStreamPacket stream buf = .blocked := by
  have header := readStreamExactOrEof_blocked stream [0, 0] 0 few more
  simp only [readStreamPacket, header]

/-- A header without its body: the reader waits, or refuses the length. -/
theorem pumpStreamLoop_pending {rest : Bytes} {high low : UInt8}
    (unread : stream.unread = high :: low :: rest) (more : stream.finished = false)
    (incomplete : ¬ (fromBeBytes [high, low] ≤ buf.length ∧
      fromBeBytes [high, low] ≤ rest.length)) :
    pumpStreamLoop send stream buf = ⟨[], pendingEnd buf.length (high :: low :: rest)⟩ := by
  obtain ⟨sizes, header⟩ := readStreamExactOrEof_header unread
  have announced : fromBeBytes [high, low] ≠ 0 := by omega
  by_cases large : fromBeBytes [high, low] > buf.length
  · have read : readStreamPacket stream buf =
        .failed (.exceedsMax (fromBeBytes [high, low]) buf.length) := by
      simp only [readStreamPacket, header, announced, large, if_true, if_false]
    rw [pumpStreamLoop_failed read]
    simp only [pendingEnd, large, if_true]
  · have bodyLength : (buf.take (fromBeBytes [high, low])).length = fromBeBytes [high, low] := by
      rw [List.length_take]
      omega
    have body := readStreamExactOrEof_blocked ⟨rest, stream.finished, sizes⟩
      (buf.take (fromBeBytes [high, low])) 0 (by simp only [bodyLength]; omega) more
    have read : readStreamPacket stream buf = .blocked := by
      simp only [readStreamPacket, header, announced, large, body, if_false]
    rw [pumpStreamLoop_blocked read]
    simp only [pendingEnd, large, if_false]

/-- The loop hands over the complete frames, and then stands as it stands on the
bytes behind them. -/
theorem pumpStreamLoop_behind_frames {finished : Bool} {ending : PumpExit} :
    (∀ sizes (buf : Bytes), buf.length = max →
      pumpStreamLoop send ⟨(splitFrames max bytes).2, finished, sizes⟩ buf = ⟨[], ending⟩) →
    ∀ sizes (buf : Bytes), buf.length = max →
      pumpStreamLoop send ⟨bytes, finished, sizes⟩ buf =
        handOver send ending ((splitFrames max bytes).1.filter (fun body => !body.isEmpty)) := by
  fun_induction splitFrames max bytes with
  | case1 high low rest announced complete later inductionHypothesis =>
      intro behind sizes buf length
      obtain ⟨sizes', read⟩ : ∃ sizes',
          readStreamPacket ⟨high :: low :: rest, finished, sizes⟩ buf =
            .done (some announced, rest.take announced ++ buf.drop announced,
              ⟨rest.drop announced, finished, sizes'⟩) :=
        readStreamPacket_complete _ buf rfl (by rw [length]; exact complete.1) complete.2
      have body : (rest.take announced).length = announced := List.length_take_of_le complete.2
      have filled : (rest.take announced ++ buf.drop announced).length = max := by
        rw [List.length_append, body, List.length_drop]
        omega
      have taken : (rest.take announced ++ buf.drop announced).take announced =
          rest.take announced := List.take_left' body
      rw [pumpStreamLoop_done read, inductionHypothesis behind sizes' _ filled, taken]
      by_cases empty : announced = 0
      · simp [empty, later]
      · have nonempty : rest.take announced ≠ [] := List.ne_nil_of_length_pos (by omega)
        have kept : (rest.take announced).isEmpty = false := by
          rwa [List.isEmpty_eq_false_iff]
        simp only [List.filter_cons, kept, Bool.not_false, if_true, if_neg empty, handOver, body]
        rfl
  | case2 high low rest announced incomplete => exact fun behind => behind
  | case3 short few => exact fun behind => behind

/-- Behind the complete frames there is nothing to hand over yet. -/
theorem pumpStreamLoop_tail (sizes : List Nat) (length : buf.length = max) :
    pumpStreamLoop send ⟨(splitFrames max bytes).2, false, sizes⟩ buf =
      ⟨[], pendingEnd max (splitFrames max bytes).2⟩ := by
  fun_induction splitFrames max bytes with
  | case1 high low rest announced complete later inductionHypothesis => exact inductionHypothesis
  | case2 high low rest announced incomplete =>
      rw [← length]
      exact pumpStreamLoop_pending rfl rfl (by rw [length]; exact incomplete)
  | case3 short few =>
      rcases short with _ | ⟨high, _ | ⟨low, rest⟩⟩
      · exact pumpStreamLoop_blocked (readStreamPacket_short (by simp) rfl)
      · exact pumpStreamLoop_blocked (readStreamPacket_short (by simp) rfl)
      · exact absurd rfl (few high low rest)

/-- On a stream that goes on, the loop hands over the complete frames and waits. -/
theorem pumpStreamLoop_unfinished (sizes : List Nat) (length : buf.length = max) :
    pumpStreamLoop send ⟨bytes, false, sizes⟩ buf =
      handOver send (pendingEnd max (splitFrames max bytes).2)
        ((splitFrames max bytes).1.filter (fun body => !body.isEmpty)) :=
  pumpStreamLoop_behind_frames (fun sizes _ length => pumpStreamLoop_tail sizes length) sizes buf
    length

/-- The two bytes of a header announce the length of the packet. -/
theorem exists_header {packet : Packet} (small : packet.length < 65536) :
    ∃ high low, toBeBytes (UInt16.ofNat packet.length) = [high, low] ∧
      fromBeBytes [high, low] = packet.length := by
  refine ⟨_, _, rfl, ?_⟩
  rw [← toBeBytes, fromBeBytes_toBeBytes, UInt16.toNat_ofNat_of_lt' small]

/-- A complete frame in front is cut off. -/
theorem splitFrames_frame {packet : Packet} (fits : packet.length ≤ max)
    (small : packet.length < 65536) (rest : Bytes) :
    splitFrames max (frame packet ++ rest) =
      (packet :: (splitFrames max rest).1, (splitFrames max rest).2) := by
  obtain ⟨high, low, header, length⟩ := exists_header small
  rw [frame, header]
  simp only [List.cons_append, List.nil_append]
  rw [splitFrames]
  simp only [length, fits, List.length_append, Nat.le_add_right, and_self, if_true,
    List.take_left, List.drop_left]

theorem splitFrames_frames {packets : List Packet} (fits : ∀ packet ∈ packets, packet.length ≤ max)
    (small : ∀ packet ∈ packets, packet.length < 65536) (rest : Bytes) :
    splitFrames max (packets.flatMap frame ++ rest) =
      (packets ++ (splitFrames max rest).1, (splitFrames max rest).2) := by
  induction packets with
  | nil => rfl
  | cons packet later inductionHypothesis =>
      rw [List.forall_mem_cons] at fits small
      rw [List.flatMap_cons, List.append_assoc, splitFrames_frame fits.1 small.1,
        inductionHypothesis fits.2 small.2]
      rfl

/-- A frame that does not fit stays where it is, and its header is refused. -/
theorem splitFrames_large {packet : Packet} (large : max < packet.length)
    (small : packet.length < 65536) (rest : Bytes) :
    splitFrames max (toBeBytes (UInt16.ofNat packet.length) ++ rest) =
        ([], toBeBytes (UInt16.ofNat packet.length) ++ rest) ∧
      pendingEnd max (toBeBytes (UInt16.ofNat packet.length) ++ rest) =
        .failed (.exceedsMax packet.length max) := by
  obtain ⟨high, low, header, length⟩ := exists_header small
  rw [header]
  simp only [List.cons_append, List.nil_append]
  constructor
  · rw [splitFrames]
    simp only [length, Nat.not_le.mpr large, false_and, if_false]
  · simp only [pendingEnd, length, gt_iff_lt, large, if_true]

/-- Less than a header is waited for. -/
theorem splitFrames_short {part : Bytes} (few : part.length < 2) :
    splitFrames max part = ([], part) ∧ pendingEnd max part = .waiting := by
  rcases part with _ | ⟨first, _ | ⟨second, body⟩⟩
  · exact ⟨by rw [splitFrames]; simp, rfl⟩
  · exact ⟨by rw [splitFrames]; simp, rfl⟩
  · simp only [List.length_cons] at few
    omega

/-- A part of a frame that fits is waited for. -/
theorem splitFrames_part {packet : Packet} {part : Bytes} (fits : packet.length ≤ max)
    (small : packet.length < 65536) (front : part <+: frame packet)
    (shorter : part.length < (frame packet).length) :
    splitFrames max part = ([], part) ∧ pendingEnd max part = .waiting := by
  obtain ⟨high, low, header, length⟩ := exists_header small
  rw [frame, header] at front shorter
  simp only [List.cons_append, List.nil_append, List.length_cons] at front shorter
  rcases part with _ | ⟨first, _ | ⟨second, body⟩⟩
  · exact splitFrames_short (by simp)
  · exact splitFrames_short (by simp)
  · rw [List.cons_prefix_cons, List.cons_prefix_cons] at front
    obtain ⟨rfl, rfl, _⟩ := front
    simp only [List.length_cons] at shorter
    have missing : ¬ packet.length ≤ body.length := by omega
    constructor
    · rw [splitFrames]
      simp only [length, missing, and_false, if_false]
    · simp only [pendingEnd, length, gt_iff_lt, Nat.not_lt.mpr fits, if_false]

/-- Of a front of the frames that were sent, the reference finds a front of the
packets. It stops at a frame that has not arrived whole or does not fit. -/
theorem splitFrames_arrived {sent : List Packet} {arrived : Bytes}
    (small : ∀ packet ∈ sent, packet.length < 65536) (front : arrived <+: sent.flatMap frame) :
    ∃ rest, sent = (splitFrames max arrived).1 ++ rest ∧
      (pendingEnd max (splitFrames max arrived).2 = .waiting ∨
        ∃ packet later, rest = packet :: later ∧ max < packet.length ∧
          pendingEnd max (splitFrames max arrived).2 = .failed (.exceedsMax packet.length max)) := by
  induction sent generalizing arrived with
  | nil =>
      rw [List.flatMap_nil, List.prefix_nil] at front
      subst front
      obtain ⟨split, waits⟩ := splitFrames_short (by simp : ([] : Bytes).length < 2)
      rw [split]
      exact ⟨[], rfl, .inl waits⟩
  | cons packet later inductionHypothesis =>
      rw [List.forall_mem_cons] at small
      rw [List.flatMap_cons] at front
      by_cases fits : packet.length ≤ max
      · by_cases whole : (frame packet).length ≤ arrived.length
        · obtain ⟨behind, rfl⟩ := List.prefix_of_prefix_length_le
            (List.prefix_append (frame packet) (later.flatMap frame)) front whole
          rw [List.prefix_append_right_inj] at front
          obtain ⟨rest, split, stands⟩ := inductionHypothesis small.2 front
          rw [splitFrames_frame fits small.1]
          exact ⟨rest, by rw [List.cons_append, ← split], stands⟩
        · have part : arrived <+: frame packet :=
            List.prefix_of_prefix_length_le front (List.prefix_append _ _) (by omega)
          obtain ⟨split, waits⟩ := splitFrames_part fits small.1 part (by omega)
          rw [split]
          exact ⟨packet :: later, rfl, .inl waits⟩
      · refine ⟨packet :: later, ?_⟩
        by_cases few : arrived.length < 2
        · obtain ⟨split, waits⟩ := splitFrames_short few
          rw [split]
          exact ⟨rfl, .inl waits⟩
        · have header : toBeBytes (UInt16.ofNat packet.length) <+: arrived := by
            refine List.prefix_of_prefix_length_le ?_ front (by rw [length_toBeBytes]; omega)
            rw [frame, List.append_assoc]
            exact List.prefix_append _ _
          obtain ⟨body, rfl⟩ := header
          obtain ⟨split, refused⟩ := splitFrames_large (Nat.not_le.mp fits) small.1 body
          rw [split]
          exact ⟨rfl, .inr ⟨packet, later, rfl, Nat.not_le.mp fits, refused⟩⟩

/-- How a receiving pump with room for `max` bytes stands when `arrived` has
arrived of the frames of `sent`. -/
structure SoFar (max : Nat) (sent : List Packet) (arrived : Bytes) (run : ReceiveRun) : Prop where
  /-- The device was given a front of the packets, in order and unaltered. -/
  inOrder : run.handed <+: sent
  /-- It was given no packet whose frame has not arrived whole. -/
  whole : run.handed.flatMap frame <+: arrived
  /-- No packet is held back once its last byte and all before it are there. -/
  prompt : ∀ front, (∀ packet ∈ front, packet.length ≤ max) → front <+: sent →
    front.flatMap frame <+: arrived → front <+: run.handed
  /-- The pump waits, or has met the first packet that it cannot hold. -/
  stands : run.exit = .waiting ∨ ∃ packet rest, sent = run.handed ++ packet :: rest ∧
    max < packet.length ∧ run.exit = .failed (.exceedsMax packet.length max)
  /-- The header alone is enough to refuse such a packet. -/
  refuses : ∀ front packet rest, sent = front ++ packet :: rest →
    (∀ earlier ∈ front, earlier.length ≤ max) → max < packet.length →
      front.flatMap frame ++ toBeBytes (UInt16.ofNat packet.length) <+: arrived →
        run = ⟨front, .failed (.exceedsMax packet.length max)⟩

theorem soFar_pumpStreamToTun {sent : List Packet} {arrived : Bytes}
    (small : ∀ packet ∈ sent, packet.length < 65536) (nonempty : ∀ packet ∈ sent, packet ≠ [])
    (front : arrived <+: sent.flatMap frame) (sizes : List Nat) :
    SoFar max sent arrived
      (pumpStreamToTun (fun packet => some packet.length) ⟨arrived, false, sizes⟩ max) := by
  obtain ⟨rest, split, stands⟩ := @splitFrames_arrived max sent arrived small front
  have kept : (splitFrames max arrived).1.filter (fun body => !body.isEmpty) =
      (splitFrames max arrived).1 := by
    rw [List.filter_eq_self]
    intro packet member
    have sentToo : packet ∈ sent := by
      rw [split]
      exact List.mem_append_left _ member
    simpa using nonempty packet sentToo
  have run : pumpStreamToTun (fun packet => some packet.length) ⟨arrived, false, sizes⟩ max =
      ⟨(splitFrames max arrived).1, pendingEnd max (splitFrames max arrived).2⟩ := by
    rw [pumpStreamToTun, pumpStreamLoop_unfinished sizes List.length_replicate, kept,
      handOver_whole]
  rw [run]
  constructor
  · exact ⟨rest, split.symm⟩
  · exact ⟨_, (framePrefix_splitFrames max arrived).split.symm⟩
  · intro complete fits partOfSent arrivedWhole
    obtain ⟨behind, rfl⟩ := arrivedWhole
    rw [splitFrames_frames fits fun packet member => small packet (partOfSent.subset member)]
    exact List.prefix_append _ _
  · rcases stands with waits | ⟨packet, later, rfl, large, refused⟩
    · exact .inl waits
    · exact .inr ⟨packet, later, split, large, refused⟩
  · intro earlier packet later parts fits large arrivedHeader
    obtain ⟨behind, rfl⟩ := arrivedHeader
    rw [parts] at small
    simp only [List.mem_append, List.mem_cons] at small
    obtain ⟨cut, refused⟩ := splitFrames_large large (small packet (.inr (.inl rfl))) behind
    rw [List.append_assoc, splitFrames_frames fits fun packet member => small packet (.inl member),
      cut, List.append_nil, refused]

/-- For any admitted MTU of the sender and any MTU of the receiver, any packets that
the sending buffer can hold, any front of the written bytes and any reads: the
receiving device has been given a front of the non-empty packets, only such as have
arrived whole, with nothing held back that has; and the receiving pump waits unless
a packet is larger than its own buffer. -/
theorem stream_arrives {senderMtu tunPrefix datagramBufferBytes : Nat}
    (admitted : validateCommon senderMtu tunPrefix datagramBufferBytes = .ok ())
    (receiverMtu : Nat) (packets : List Packet)
    (fits : ∀ packet ∈ packets, packet.length ≤ senderMtu + 64) {arrived : Bytes}
    (front : arrived <+: (pumpTunToStream senderMtu (packets.map .received)).written)
    (sizes : List Nat) :
    SoFar (receiverMtu + 64) (packets.filter (fun packet => !packet.isEmpty)) arrived
      (pumpStreamToTun (fun packet => some packet.length) ⟨arrived, false, sizes⟩
        (receiverMtu + 64)) := by
  obtain ⟨_, upper, _, _⟩ := validateCommon_eq_ok.mp admitted
  rw [maxMtu] at upper
  rw [pumpTunToStream_received fits (by omega)] at front
  refine soFar_pumpStreamToTun ?_ ?_ front sizes
  · intro packet member
    have := fits packet (List.mem_of_mem_filter member)
    omega
  · intro packet member
    simpa using (List.mem_filter.mp member).2

/-- The first packet has arrived and the second one lacks its last byte. -/
theorem stream_arrives_half :
    SoFar (576 + 64) [[1, 2, 3], [4, 5]] [0, 3, 1, 2, 3, 0, 2, 4]
      (pumpStreamToTun (fun packet => some packet.length)
        ⟨[0, 3, 1, 2, 3, 0, 2, 4], false, [1, 0, 4]⟩ (576 + 64)) :=
  stream_arrives (by decide : validateCommon 1300 24 65536 = .ok ()) 576
    [[1, 2, 3], [], [4, 5]] (by decide) (by decide +kernel) [1, 0, 4]

end LiteVpn.Core
