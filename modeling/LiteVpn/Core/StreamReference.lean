import LiteVpn.Core.StreamDelivery

/-!
# The stream decoder and its reference

The reference works on the whole byte string: it cuts off complete frames for
as long as it finds them, and the bytes it is left with say how the stream
ends. The receiving pump works on reads of any size into a buffer that still
holds older packets. Both come to the same packets and the same end.
-/

namespace LiteVpn.Core

open LiteVpn.Strings

/-- The bodies of the complete frames at the front of a byte string that fit in
`max` bytes, and the bytes behind them. -/
def splitFrames (max : Nat) : Bytes → List Packet × Bytes
  | high :: low :: rest =>
      let length := fromBeBytes [high, low]
      if length ≤ max ∧ length ≤ rest.length then
        let later := splitFrames max (rest.drop length)
        (rest.take length :: later.1, later.2)
      else ([], high :: low :: rest)
  | short => ([], short)
termination_by bytes => bytes.length
decreasing_by
  simp only [List.length_cons, List.length_drop]
  omega

/-- `bodies` are the frames of the longest front of `bytes` that is made of
complete frames of at most `max` bytes, and `tail` is what is behind it. -/
structure FramePrefix (max : Nat) (bytes : Bytes) (bodies : List Packet) (tail : Bytes) :
    Prop where
  split : bytes = bodies.flatMap frame ++ tail
  fits : ∀ body ∈ bodies, body.length ≤ max ∧ body.length < 65536
  maximal : ∀ body rest, body.length ≤ max → body.length < 65536 → tail ≠ frame body ++ rest

/-- How a finished stream ends whose last bytes are not a complete frame: in a
header, with a length that is too large, right behind a header, or in a body. -/
def frameEnd (max : Nat) : Bytes → PumpExit
  | [] => .ok
  | [_] => .failed .endedMidFrame
  | high :: low :: rest =>
      let length := fromBeBytes [high, low]
      if length > max then .failed (.exceedsMax length max)
      else if rest = [] then .failed .endedMidPacket
      else .failed .endedMidFrame

/-- The device is given packets until it fails on one. -/
def handOver (send : Packet → Option Nat) (ending : PumpExit) : List Packet → ReceiveRun
  | [] => ⟨[], ending⟩
  | packet :: rest =>
      match send packet with
      | none => ⟨[packet], .failed .tunSend⟩
      | some written =>
          if written ≠ packet.length then
            ⟨[packet], .failed (.partialTunWrite written packet.length)⟩
          else
            let later := handOver send ending rest
            ⟨packet :: later.handed, later.exit⟩

/-- A clean end is an end between two frames. -/
theorem frameEnd_eq_ok {max : Nat} {tail : Bytes} : frameEnd max tail = .ok ↔ tail = [] := by
  match tail with
  | [] => simp [frameEnd]
  | [_] => simp [frameEnd]
  | high :: low :: rest =>
      simp only [frameEnd]
      split_ifs <;> simp

/-- The header is the encoding of the length it stands for. -/
theorem toBeBytes_fromBeBytes (high low : UInt8) :
    toBeBytes (UInt16.ofNat (fromBeBytes [high, low])) = [high, low] := by
  have highBound := high.toNat_lt
  have lowBound := low.toNat_lt
  have value : fromBeBytes [high, low] = high.toNat * 256 + low.toNat := rfl
  have fits : (UInt16.ofNat (fromBeBytes [high, low])).toNat = high.toNat * 256 + low.toNat := by
    rw [value, UInt16.toNat_ofNat_of_lt' (by simp [UInt16.size]; omega)]
  rw [toBeBytes, List.cons.injEq, List.cons.injEq]
  refine ⟨UInt8.toNat_inj.mp ?_, UInt8.toNat_inj.mp ?_, rfl⟩
  · simp [fits, Nat.shiftRight_eq_div_pow]
    omega
  · simp [value]

theorem fromBeBytes_lt (high low : UInt8) : fromBeBytes [high, low] < 65536 := by
  have highBound := high.toNat_lt
  have lowBound := low.toNat_lt
  have value : fromBeBytes [high, low] = high.toNat * 256 + low.toNat := rfl
  omega

/-- A header and as many bytes as it announces are a frame. -/
theorem frame_take {high low : UInt8} {rest : Bytes}
    (enough : fromBeBytes [high, low] ≤ rest.length) :
    frame (rest.take (fromBeBytes [high, low])) =
      high :: low :: rest.take (fromBeBytes [high, low]) := by
  rw [frame, List.length_take_of_le enough, toBeBytes_fromBeBytes]
  rfl

/-- A header of a frame announces the length of its body. -/
theorem eq_of_cons_cons_eq_frame {high low : UInt8} {rest body behind : Bytes}
    (small : body.length < 65536) (same : high :: low :: rest = frame body ++ behind) :
    fromBeBytes [high, low] = body.length ∧ rest = body ++ behind := by
  simp only [frame, toBeBytes, List.cons_append, List.nil_append, List.cons.injEq] at same
  obtain ⟨rfl, rfl, rfl⟩ := same
  refine ⟨?_, rfl⟩
  rw [← toBeBytes, fromBeBytes_toBeBytes, UInt16.toNat_ofNat_of_lt' small]

/-- The reference finds the longest front of complete frames. -/
theorem framePrefix_splitFrames (max : Nat) (bytes : Bytes) :
    FramePrefix max bytes (splitFrames max bytes).1 (splitFrames max bytes).2 := by
  fun_induction splitFrames max bytes with
  | case1 high low rest length complete later inductionHypothesis =>
      obtain ⟨split, fits, maximal⟩ := inductionHypothesis
      refine ⟨?_, ?_, maximal⟩
      · have behind : rest = rest.take length ++ rest.drop length :=
          (List.take_append_drop length rest).symm
        rw [List.flatMap_cons, frame_take complete.2, List.append_assoc, ← split]
        simp only [List.cons_append]
        rw [← behind]
      · rw [List.forall_mem_cons]
        refine ⟨?_, fits⟩
        rw [List.length_take_of_le complete.2]
        exact ⟨complete.1, fromBeBytes_lt high low⟩
  | case2 high low rest length incomplete =>
      refine ⟨rfl, by simp, ?_⟩
      intro body behind fits small same
      obtain ⟨announced, split⟩ := eq_of_cons_cons_eq_frame small same
      apply incomplete
      have length' : length = body.length := announced
      rw [split, List.length_append]
      omega
  | case3 short few =>
      refine ⟨rfl, by simp, ?_⟩
      intro body behind _ _ same
      rw [frame, toBeBytes] at same
      exact few _ _ _ same

/-- A finished stream that ends behind the first byte of a buffer and in front
of its last one ends in the middle of a frame. -/
theorem readStreamExactOrEof_truncated (stream : RecvStream) (buf : Bytes) (offset : Nat)
    (inside : offset ≤ buf.length) (short : stream.unread.length < buf.length - offset)
    (finished : stream.finished = true) (started : offset ≠ 0 ∨ stream.unread ≠ []) :
    readStreamExactOrEof stream buf offset = .failed .endedMidFrame := by
  fun_induction readStreamExactOrEof stream buf offset with
  | case1 stream buf offset unfilled chunk next returned empty inductionHypothesis =>
      obtain ⟨split, same, _, _⟩ := RecvStream.read_data (by omega) returned
      have none : chunk = [] := List.eq_nil_of_length_eq_zero empty
      rw [none, List.nil_append] at split
      rw [split] at short started
      exact inductionHypothesis inside short (by rw [same, finished]) started
  | case2 stream buf offset unfilled chunk next returned some inductionHypothesis =>
      obtain ⟨split, same, bounded, _⟩ := RecvStream.read_data (by omega) returned
      have room : offset + chunk.length ≤ buf.length := by omega
      rw [split, List.length_append] at short
      apply inductionHypothesis
      · rw [length_writeAt room]
        exact room
      · rw [length_writeAt room]
        omega
      · rw [same, finished]
      · exact .inl (by omega)
  | case3 stream buf unfilled next returned =>
      have empty := (RecvStream.read_eof (by omega) returned).1
      simp [empty] at started
  | case4 => rfl
  | case5 stream buf offset unfilled next returned =>
      rw [(RecvStream.read_blocked (by omega) returned).2] at finished
      cases finished
  | case6 stream buf offset full => omega

/-- The header is read off in front of everything else. -/
theorem readStreamExactOrEof_header {stream : RecvStream} {high low : UInt8} {rest : Bytes}
    (unread : stream.unread = high :: low :: rest) :
    ∃ sizes, readStreamExactOrEof stream [0, 0] 0 =
      .done (true, [high, low], ⟨rest, stream.finished, sizes⟩) := by
  obtain ⟨sizes, header⟩ := readStreamExactOrEof_filled stream [0, 0] 0 (by simp)
    (by simp [unread])
  exact ⟨sizes, by simpa [unread] using header⟩

/-- A complete frame is read into the front of the buffer; an empty one leaves
the buffer alone. -/
theorem readStreamPacket_complete (stream : RecvStream) (buf : Bytes) {rest : Bytes}
    {high low : UInt8} (unread : stream.unread = high :: low :: rest)
    (fits : fromBeBytes [high, low] ≤ buf.length)
    (enough : fromBeBytes [high, low] ≤ rest.length) :
    ∃ sizes, readStreamPacket stream buf =
      .done (some (fromBeBytes [high, low]),
        rest.take (fromBeBytes [high, low]) ++ buf.drop (fromBeBytes [high, low]),
        ⟨rest.drop (fromBeBytes [high, low]), stream.finished, sizes⟩) := by
  by_cases empty : fromBeBytes [high, low] = 0
  · obtain ⟨sizes, header⟩ := readStreamExactOrEof_header unread
    refine ⟨sizes, ?_⟩
    simp only [readStreamPacket, header, empty, if_true, List.take_zero, List.drop_zero,
      List.nil_append]
  · have length : (rest.take (fromBeBytes [high, low])).length = fromBeBytes [high, low] :=
      List.length_take_of_le enough
    have nonempty : rest.take (fromBeBytes [high, low]) ≠ [] :=
      List.ne_nil_of_length_pos (by omega)
    have small := fromBeBytes_lt high low
    have behind : stream.unread = frame (rest.take (fromBeBytes [high, low])) ++
        rest.drop (fromBeBytes [high, low]) := by
      rw [unread, frame_take enough]
      simp
    obtain ⟨sizes, read⟩ := readStreamPacket_frame stream _ nonempty
      (by omega : _ ≤ buf.length) (by omega) behind
    rw [length] at read
    exact ⟨sizes, read⟩

/-- A finished stream whose bytes are no complete frame is refused, for the
reason the reference gives. -/
theorem readStreamPacket_incomplete (stream : RecvStream) (buf : Bytes) {rest : Bytes}
    {high low : UInt8} (unread : stream.unread = high :: low :: rest)
    (finished : stream.finished = true)
    (incomplete : ¬ (fromBeBytes [high, low] ≤ buf.length ∧
      fromBeBytes [high, low] ≤ rest.length)) :
    ∃ error, frameEnd buf.length (high :: low :: rest) = .failed error ∧
      readStreamPacket stream buf = .failed error := by
  obtain ⟨sizes, header⟩ := readStreamExactOrEof_header unread
  by_cases large : fromBeBytes [high, low] > buf.length
  · have announced : fromBeBytes [high, low] ≠ 0 := by omega
    refine ⟨.exceedsMax (fromBeBytes [high, low]) buf.length, ?_, ?_⟩
    · simp only [frameEnd, large, if_true]
    · simp only [readStreamPacket, header, announced, large, if_true, if_false]
  · have announced : fromBeBytes [high, low] ≠ 0 := by omega
    have bodyLength : (buf.take (fromBeBytes [high, low])).length = fromBeBytes [high, low] := by
      rw [List.length_take]
      omega
    by_cases behind : rest = []
    · have room : buf.take (fromBeBytes [high, low]) ≠ [] :=
        List.ne_nil_of_length_pos (by omega)
      obtain ⟨next, body⟩ := readStreamExactOrEof_eof ⟨rest, stream.finished, sizes⟩ _ room behind
        finished
      refine ⟨.endedMidPacket, ?_, ?_⟩
      · simp only [frameEnd, large, behind, if_true, if_false]
      · simp only [readStreamPacket, header, announced, large, body, if_false]
    · have body := readStreamExactOrEof_truncated ⟨rest, stream.finished, sizes⟩
        (buf.take (fromBeBytes [high, low])) 0 (by omega) (by simp only [bodyLength]; omega)
        finished (.inr behind)
      refine ⟨.endedMidFrame, ?_, ?_⟩
      · simp only [frameEnd, large, behind, if_false]
      · simp only [readStreamPacket, header, announced, large, body, if_false]

/-- A single byte is no header. -/
theorem readStreamPacket_half {stream : RecvStream} {byte : UInt8} (buf : Bytes)
    (unread : stream.unread = [byte]) (finished : stream.finished = true) :
    readStreamPacket stream buf = .failed .endedMidFrame := by
  rw [readStreamPacket, readStreamExactOrEof_truncated stream [0, 0] 0 (by simp)
    (by simp [unread]) finished (.inr (by simp [unread]))]

/-- The loop ends with the reader's error. -/
theorem pumpStreamLoop_failed {send : Packet → Option Nat} {stream : RecvStream} {buf : Bytes}
    {error : StreamError} (read : readStreamPacket stream buf = .failed error) :
    pumpStreamLoop send stream buf = ⟨[], .failed error⟩ := by
  rw [pumpStreamLoop]
  split
  all_goals
    rename_i other
    rw [read] at other
    cases other
  rfl

/-- The receiving loop hands over the frames the reference finds and ends as the
reference says, whatever the buffer holds and however the bytes arrive. -/
theorem pumpStreamLoop_eq_handOver (send : Packet → Option Nat) (max : Nat) (bytes : Bytes)
    (sizes : List Nat) (buf : Bytes) (length : buf.length = max) :
    pumpStreamLoop send ⟨bytes, true, sizes⟩ buf =
      handOver send (frameEnd max (splitFrames max bytes).2)
        ((splitFrames max bytes).1.filter (fun body => !body.isEmpty)) := by
  -- The induction follows the frames the reference cuts off.
  fun_induction splitFrames max bytes generalizing sizes buf with
  | case1 high low rest announced complete later inductionHypothesis =>
      obtain ⟨sizes', read⟩ : ∃ sizes', readStreamPacket ⟨high :: low :: rest, true, sizes⟩ buf =
          .done (some announced, rest.take announced ++ buf.drop announced,
            ⟨rest.drop announced, true, sizes'⟩) :=
        readStreamPacket_complete _ buf rfl (by rw [length]; exact complete.1) complete.2
      have body : (rest.take announced).length = announced := List.length_take_of_le complete.2
      have filled : (rest.take announced ++ buf.drop announced).length = max := by
        rw [List.length_append, body, List.length_drop]
        omega
      have taken : (rest.take announced ++ buf.drop announced).take announced =
          rest.take announced := List.take_left' body
      rw [pumpStreamLoop_done read, inductionHypothesis sizes' _ filled, taken]
      by_cases empty : announced = 0
      · simp [empty, later]
      · have nonempty : rest.take announced ≠ [] := List.ne_nil_of_length_pos (by omega)
        have kept : (rest.take announced).isEmpty = false := by
          rwa [List.isEmpty_eq_false_iff]
        simp only [List.filter_cons, kept, Bool.not_false, if_true, if_neg empty, handOver, body]
        rfl
  | case2 high low rest announced incomplete =>
      obtain ⟨error, ending, read⟩ := readStreamPacket_incomplete
        ⟨high :: low :: rest, true, sizes⟩ buf rfl rfl (by rw [length]; exact incomplete)
      rw [pumpStreamLoop_failed read, ← length, ending]
      rfl
  | case3 short few =>
      rcases short with _ | ⟨high, _ | ⟨low, rest⟩⟩
      · exact pumpStreamLoop_end rfl
      · exact pumpStreamLoop_failed (readStreamPacket_half buf rfl rfl)
      · exact absurd rfl (few high low rest)

/-- A device that takes whole packets is given all of them. -/
theorem handOver_whole (ending : PumpExit) (packets : List Packet) :
    handOver (fun packet => some packet.length) ending packets = ⟨packets, ending⟩ := by
  induction packets with
  | nil => rfl
  | cons packet rest inductionHypothesis => simp [handOver, inductionHypothesis]

/-- The receiving pump decodes every finished stream as its reference does, for
every way of cutting it into reads: it hands over the bodies of the longest
front of complete frames, without the empty ones, and ends cleanly exactly when
nothing is behind them. -/
theorem pumpStreamToTun_eq_reference (max : Nat) (bytes : Bytes) :
    ∃ bodies tail, FramePrefix max bytes bodies tail ∧
      (frameEnd max tail = .ok ↔ tail = []) ∧
      ∀ sizes,
        pumpStreamToTun (fun packet => some packet.length) ⟨bytes, true, sizes⟩ max =
            ⟨bodies.filter (fun body => !body.isEmpty), frameEnd max tail⟩ ∧
          ∀ send, pumpStreamToTun send ⟨bytes, true, sizes⟩ max =
            handOver send (frameEnd max tail) (bodies.filter (fun body => !body.isEmpty)) := by
  refine ⟨_, _, framePrefix_splitFrames max bytes, frameEnd_eq_ok, fun sizes => ?_⟩
  have decoded := fun send => pumpStreamLoop_eq_handOver send max bytes sizes
    (List.replicate max 0) List.length_replicate
  exact ⟨by rw [pumpStreamToTun, decoded, handOver_whole], decoded⟩

end LiteVpn.Core
