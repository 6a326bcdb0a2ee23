import LiteVpn.Core.Stream

/-!
# The stream transport delivers what was sent

One frame is read back as the packet it carries, whatever the chunks it
arrives in. The pumps then compose: what the sending pump writes, the receiving
pump hands to its device packet by packet.
-/

namespace LiteVpn.Core

open LiteVpn.Strings

/-- A packet as it stands on the stream. -/
def frame (packet : Packet) : Bytes := toBeBytes (UInt16.ofNat packet.length) ++ packet

@[simp] theorem length_toBeBytes (value : UInt16) : (toBeBytes value).length = 2 := rfl

/-- The header gives the length back. -/
theorem fromBeBytes_toBeBytes (value : UInt16) : fromBeBytes (toBeBytes value) = value.toNat := by
  have bound := value.toNat_lt
  have high : (value >>> 8).toUInt8.toNat = value.toNat / 256 := by
    simp [Nat.shiftRight_eq_div_pow]
    omega
  have low : value.toUInt8.toNat = value.toNat % 256 := by
    simp
  simp only [fromBeBytes, toBeBytes, List.getD_cons_zero, List.getD_cons_succ, high, low]
  omega

/-- A frame at the front of the stream is read as its packet, and the stream
goes on behind it. -/
theorem readStreamPacket_frame {packet buf : Bytes} (stream : RecvStream) (rest : Bytes)
    (nonempty : packet ≠ []) (fits : packet.length ≤ buf.length) (small : packet.length < 65536)
    (unread : stream.unread = frame packet ++ rest) :
    ∃ sizes, readStreamPacket stream buf =
      .done (some packet.length, packet ++ buf.drop packet.length,
        ⟨rest, stream.finished, sizes⟩) := by
  have positive := List.length_pos_iff.mpr nonempty
  have unreadLength : stream.unread.length = 2 + packet.length + rest.length := by
    simp [unread, frame, Nat.add_assoc]
  obtain ⟨sizes, header⟩ := readStreamExactOrEof_filled stream [0, 0] 0 (by simp)
    (by simp [unreadLength]; omega)
  have headerBytes : stream.unread.take 2 = toBeBytes (UInt16.ofNat packet.length) := by
    rw [unread, frame, List.append_assoc]
    exact List.take_left' (length_toBeBytes _)
  have behind : stream.unread.drop 2 = packet ++ rest := by
    rw [unread, frame, List.append_assoc]
    exact List.drop_left' (length_toBeBytes _)
  have length : fromBeBytes (toBeBytes (UInt16.ofNat packet.length)) = packet.length := by
    rw [fromBeBytes_toBeBytes, UInt16.toNat_ofNat_of_lt' small]
  simp only [List.length_cons, List.length_nil, Nat.zero_add, Nat.reduceAdd, Nat.sub_zero,
    List.take_zero, List.nil_append, headerBytes, behind] at header
  have bodyLength : (buf.take packet.length).length = packet.length := by
    simp [fits]
  obtain ⟨sizes', body⟩ := readStreamExactOrEof_filled ⟨packet ++ rest, stream.finished, sizes⟩
    (buf.take packet.length) 0 (by simp) (by simp [bodyLength])
  simp only [bodyLength, Nat.sub_zero, List.take_zero, List.nil_append, List.take_left,
    List.drop_left] at body
  refine ⟨sizes', ?_⟩
  simp only [readStreamPacket, header, length, if_neg (by omega : ¬ packet.length = 0),
    if_neg (by omega : ¬ packet.length > buf.length), body]

/-- Behind the last frame the reader waits, or ends cleanly if the sender has
finished. -/
theorem readStreamPacket_end {stream : RecvStream} (buf : Bytes) (unread : stream.unread = []) :
    (stream.finished = false → readStreamPacket stream buf = .blocked) ∧
      (stream.finished = true → ∃ next, readStreamPacket stream buf = .done (none, buf, next)) := by
  constructor
  · intro more
    rw [readStreamPacket, readStreamExactOrEof_blocked stream [0, 0] 0 (by simp [unread]) more]
  · intro ended
    obtain ⟨next, header⟩ := readStreamExactOrEof_eof stream [0, 0] (by simp) unread ended
    exact ⟨next, by rw [readStreamPacket, header]⟩

/-- One turn of the receiving loop, from what the reader returns. -/
theorem pumpStreamLoop_done {send : Packet → Option Nat} {stream next : RecvStream}
    {buf filled : Bytes} {packetLen : Nat}
    (read : readStreamPacket stream buf = .done (some packetLen, filled, next)) :
    pumpStreamLoop send stream buf =
      if packetLen = 0 then pumpStreamLoop send next filled
      else
        match send (filled.take packetLen) with
        | none => ⟨[filled.take packetLen], .failed .tunSend⟩
        | some written =>
            if written ≠ packetLen then
              ⟨[filled.take packetLen], .failed (.partialTunWrite written packetLen)⟩
            else
              ⟨filled.take packetLen :: (pumpStreamLoop send next filled).handed,
                (pumpStreamLoop send next filled).exit⟩ := by
  rw [pumpStreamLoop]
  split
  all_goals
    rename_i other
    rw [read] at other
    cases other
  rfl

/-- One turn of the receiving loop with a device that takes the whole packet. -/
theorem pumpStreamLoop_packet {send : Packet → Option Nat} {stream next : RecvStream}
    {buf filled : Bytes} {packetLen : Nat}
    (read : readStreamPacket stream buf = .done (some packetLen, filled, next))
    (nonempty : packetLen ≠ 0) (sent : send (filled.take packetLen) = some packetLen) :
    pumpStreamLoop send stream buf =
      ⟨filled.take packetLen :: (pumpStreamLoop send next filled).handed,
        (pumpStreamLoop send next filled).exit⟩ := by
  rw [pumpStreamLoop_done read, if_neg nonempty, sent]
  simp

/-- How the receiving loop stands behind the last byte of the stream. -/
def standing (finished : Bool) : PumpExit := if finished then .ok else .waiting

theorem pumpStreamLoop_end {send : Packet → Option Nat} {stream : RecvStream} {buf : Bytes}
    (unread : stream.unread = []) :
    pumpStreamLoop send stream buf = ⟨[], standing stream.finished⟩ := by
  rw [pumpStreamLoop]
  cases ended : stream.finished with
  | false =>
      have blocked := (readStreamPacket_end buf unread).1 ended
      split
      all_goals
        rename_i other
        rw [blocked] at other
        cases other
      rfl
  | true =>
      obtain ⟨next, clean⟩ := (readStreamPacket_end buf unread).2 ended
      split
      all_goals
        rename_i other
        rw [clean] at other
        cases other
      rfl

/-- The receiving loop hands over the packets of the frames in the stream. -/
theorem pumpStreamLoop_frames {send : Packet → Option Nat}
    (whole : ∀ packet, send packet = some packet.length) {packets : List Packet}
    (nonempty : ∀ packet ∈ packets, packet ≠ [])
    (small : ∀ packet ∈ packets, packet.length < 65536) (finished : Bool) (sizes : List Nat)
    (buf : Bytes) (fits : ∀ packet ∈ packets, packet.length ≤ buf.length) :
    pumpStreamLoop send ⟨packets.flatMap frame, finished, sizes⟩ buf =
      ⟨packets, standing finished⟩ := by
  induction packets generalizing sizes buf with
  | nil => exact pumpStreamLoop_end rfl
  | cons packet rest inductionHypothesis =>
      rw [List.forall_mem_cons] at nonempty small fits
      have positive := List.length_pos_iff.mpr nonempty.1
      obtain ⟨sizes', read⟩ := readStreamPacket_frame
        ⟨(packet :: rest).flatMap frame, finished, sizes⟩ (rest.flatMap frame) nonempty.1 fits.1
        small.1 (by simp)
      have taken : (packet ++ buf.drop packet.length).take packet.length = packet := List.take_left
      have bufLength : (packet ++ buf.drop packet.length).length = buf.length := by
        have := fits.1
        simp only [List.length_append, List.length_drop]
        omega
      rw [pumpStreamLoop_packet read (by omega) (by rw [taken, whole]), taken,
        inductionHypothesis nonempty.2 small.2 sizes' _ (by rw [bufLength]; exact fits.2)]

/-- The sending pump writes the frames of the non-empty packets it reads. -/
theorem pumpTunToStream_received {mtu : Nat} {packets : List Packet}
    (fits : ∀ packet ∈ packets, packet.length ≤ mtu + 64) (small : mtu + 64 < 65536) :
    pumpTunToStream mtu (packets.map .received) =
      ⟨(packets.filter (fun packet => !packet.isEmpty)).flatMap frame, .waiting⟩ := by
  induction packets with
  | nil => rfl
  | cons packet rest inductionHypothesis =>
      rw [List.forall_mem_cons] at fits
      have taken : packet.take (mtu + 64) = packet := List.take_of_length_le fits.1
      simp only [List.map_cons, pumpTunToStream, taken, inductionHypothesis fits.2]
      by_cases empty : packet = []
      · simp [empty]
      · have written : writeStreamPacket [0, 0] packet = .ok (frame packet) := by
          rw [writeStreamPacket, if_neg (by omega), if_neg (by simp)]
          rfl
        simp [empty, written]

/-- The stream transport delivers the sequence of non-empty packets exactly: for
every admitted MTU, every sequence of packets the sending buffer can hold and
every way of cutting the stream into reads. -/
theorem stream_delivers_exactly {mtu tunPrefix datagramBufferBytes : Nat}
    (admitted : validateCommon mtu tunPrefix datagramBufferBytes = .ok ())
    (packets : List Packet) (fits : ∀ packet ∈ packets, packet.length ≤ mtu + 64)
    (finished : Bool) (sizes : List Nat) (send : Packet → Option Nat)
    (whole : ∀ packet, send packet = some packet.length) :
    (pumpTunToStream mtu (packets.map .received)).exit = .waiting ∧
      pumpStreamToTun send
          ⟨(pumpTunToStream mtu (packets.map .received)).written, finished, sizes⟩ (mtu + 64) =
        ⟨packets.filter (fun packet => !packet.isEmpty),
          if finished then .ok else .waiting⟩ := by
  obtain ⟨_, upper, _, _⟩ := validateCommon_eq_ok.mp admitted
  rw [maxMtu] at upper
  rw [pumpTunToStream_received fits (by omega)]
  refine ⟨rfl, ?_⟩
  have inFilter : ∀ packet ∈ packets.filter (fun packet => !packet.isEmpty),
      packet ≠ [] ∧ packet.length ≤ mtu + 64 := by
    intro packet member
    rw [List.mem_filter] at member
    exact ⟨by simpa using member.2, fits packet member.1⟩
  exact pumpStreamLoop_frames whole (fun packet member => (inFilter packet member).1)
    (fun packet member => by have := (inFilter packet member).2; omega) finished sizes _
    (fun packet member => by simpa using (inFilter packet member).2)

/-- The delivery theorem for two packets and an empty read between them, cut
inside the second header. -/
theorem stream_delivers_two_packets :
    pumpStreamToTun (fun packet => some packet.length)
        ⟨(pumpTunToStream 1300 ([[1, 2, 3], [], [4, 5]].map .received)).written, true,
          [1, 0, 5, 1]⟩ (1300 + 64) =
      ⟨[[1, 2, 3], [4, 5]], .ok⟩ :=
  (stream_delivers_exactly (by decide : validateCommon 1300 24 65536 = .ok ())
    [[1, 2, 3], [], [4, 5]] (by decide) true [1, 0, 5, 1] (fun packet => some packet.length)
    (fun _ => rfl)).2

end LiteVpn.Core
