import LiteVpn.Core.Config

/-!
# Packets over a QUIC stream

`write_stream_packet`, `read_stream_packet` and the two stream pumps of
`quic.rs`. A receive stream is the in-order bytes that are still to be read,
whether the sender has finished, and the sizes in which the network chooses to
hand the bytes over. An operation that waits for bytes that never come is
`blocked`, which is neither a result nor an error.
-/

namespace LiteVpn.Core

open LiteVpn.Strings

abbrev Packet := Bytes

/-- The errors of the stream functions. -/
inductive StreamError where
  | packetTooLarge (bytes : Nat)
  | headerTooSmall (bytes : Nat)
  | exceedsMax (bytes max : Nat)
  | endedMidFrame
  | endedMidPacket
  | partialTunWrite (written bytes : Nat)
  | tunSend
  | tunReceive
  | streamWrite
  | connectionClosed (reason : String)
deriving DecidableEq, Repr

/-- The text of each error that the program itself words; the others come from
the device or from QUIC as they are. -/
def StreamError.message (label : String) : StreamError → Option String
  | .packetTooLarge bytes => s!"{label}: stream packet is too large: {bytes} bytes"
  | .headerTooSmall bytes => s!"{label}: stream frame header buffer {bytes} bytes is too small"
  | .exceedsMax bytes max => s!"{label}: stream packet {bytes} bytes exceeds max {max} bytes"
  | .endedMidFrame => s!"{label}: stream ended mid-frame"
  | .endedMidPacket => s!"{label}: stream ended mid-packet"
  | .partialTunWrite written bytes =>
      s!"{label}: partial tun write: wrote {written} of {bytes} bytes"
  | .connectionClosed reason =>
      s!"{label}: connection closed while waiting for tun packet: {reason}"
  | .tunSend | .tunReceive | .streamWrite => none

/-- `u16::to_be_bytes`. -/
def toBeBytes (value : UInt16) : Bytes := [(value >>> 8).toUInt8, value.toUInt8]

/-- `u16::from_be_bytes` on the first two bytes of a header. -/
def fromBeBytes (header : Bytes) : Nat :=
  (header.getD 0 0).toNat * 256 + (header.getD 1 0).toNat

/-- `write_stream_packet`: the bytes that go on the stream. -/
def writeStreamPacket (frameHeader : Bytes) (packet : Packet) : Except StreamError Bytes :=
  if packet.length > 65535 then .error (.packetTooLarge packet.length)
  else if frameHeader.length < 2 then .error (.headerTooSmall frameHeader.length)
  else .ok (toBeBytes (UInt16.ofNat packet.length) ++ packet)

/-- What the sending pump sees in one turn of its loop. -/
inductive TunEvent where
  | received (packet : Packet)
  | receiveFailed
  | connectionClosed (reason : String)
  | writeFailed (packet : Packet)
deriving DecidableEq, Repr

/-- How a pump stands: still waiting, or gone with a result. -/
inductive PumpExit where
  | waiting
  | ok
  | failed (error : StreamError)
deriving DecidableEq, Repr

/-- The bytes a sending pump has put on its stream, and how it stands. -/
structure SendRun where
  written : Bytes
  exit : PumpExit
deriving DecidableEq, Repr

/-- `pump_tun_to_stream`. The buffer bounds what one read of the device can
return; the pacer delays the loop and changes no byte of it. -/
def pumpTunToStream (mtu : Nat) : List TunEvent → SendRun
  | [] => ⟨[], .waiting⟩
  | .receiveFailed :: _ => ⟨[], .failed .tunReceive⟩
  | .connectionClosed reason :: _ => ⟨[], .failed (.connectionClosed reason)⟩
  | .writeFailed _ :: _ => ⟨[], .failed .streamWrite⟩
  | .received packet :: rest =>
      let packet := packet.take (mtu + 64)
      if packet.length = 0 then pumpTunToStream mtu rest
      else
        match writeStreamPacket [0, 0] packet with
        | .error error => ⟨[], .failed error⟩
        | .ok frame =>
            let later := pumpTunToStream mtu rest
            ⟨frame ++ later.written, later.exit⟩

/-- The receiving end of a stream. The next read hands over at most the first of
`sizes`; a zero there is a read that returns no bytes. Once `sizes` is used up,
reads return whatever fits. -/
structure RecvStream where
  unread : Bytes
  finished : Bool
  sizes : List Nat
deriving DecidableEq, Repr

/-- What one read returns. -/
inductive ReadResult where
  | data (chunk : Bytes)
  | eof
  | blocked
deriving DecidableEq, Repr

/-- Hand over up to `count` bytes; without any left, report the end or wait. -/
def RecvStream.deliver (stream : RecvStream) (count : Nat) (sizes : List Nat) :
    ReadResult × RecvStream :=
  if stream.unread = [] then
    (if stream.finished then .eof else .blocked, { stream with sizes := sizes })
  else
    (.data (stream.unread.take count), ⟨stream.unread.drop count, stream.finished, sizes⟩)

/-- `RecvStream::read` into a buffer with room for `capacity` bytes. -/
def RecvStream.read (stream : RecvStream) (capacity : Nat) : ReadResult × RecvStream :=
  match stream.sizes with
  | [] => stream.deliver capacity []
  | 0 :: rest => (.data [], { stream with sizes := rest })
  | (size + 1) :: rest => stream.deliver (min (size + 1) capacity) rest

/-- Bytes and scheduling decisions left; every read that returns data uses some. -/
def RecvStream.fuel (stream : RecvStream) : Nat := stream.unread.length + stream.sizes.length

/-- What handing over can come to. -/
theorem RecvStream.deliver_cases (stream : RecvStream) (count : Nat) (sizes : List Nat) :
    (stream.unread = [] ∧ stream.finished = true ∧
        stream.deliver count sizes = (.eof, { stream with sizes := sizes })) ∨
      (stream.unread = [] ∧ stream.finished = false ∧
        stream.deliver count sizes = (.blocked, { stream with sizes := sizes })) ∨
      (stream.unread ≠ [] ∧ stream.deliver count sizes =
        (.data (stream.unread.take count),
          ⟨stream.unread.drop count, stream.finished, sizes⟩)) := by
  unfold RecvStream.deliver
  by_cases empty : stream.unread = []
  · cases ended : stream.finished <;> simp [empty]
  · simp [empty]

/-- A read is either a scheduled empty one or hands bytes over, at least one if
there is room. -/
theorem RecvStream.read_cases (stream : RecvStream) {capacity : Nat} (room : 0 < capacity) :
    (∃ rest, stream.sizes = 0 :: rest ∧
        stream.read capacity = (.data [], { stream with sizes := rest })) ∨
      ∃ count rest, 0 < count ∧ count ≤ capacity ∧ rest.length ≤ stream.sizes.length ∧
        stream.read capacity = stream.deliver count rest := by
  unfold RecvStream.read
  cases sizes : stream.sizes with
  | nil => exact .inr ⟨capacity, [], room, le_rfl, le_rfl, rfl⟩
  | cons size rest =>
      cases size with
      | zero => exact .inl ⟨rest, rfl, rfl⟩
      | succ size =>
          exact .inr ⟨min (size + 1) capacity, rest, by omega, by omega, by simp, rfl⟩

/-- What a read that returns data does to the stream: it moves the chunk out of
the unread bytes and uses up fuel. -/
theorem RecvStream.read_data {stream next : RecvStream} {capacity : Nat} {chunk : Bytes}
    (room : 0 < capacity) (returned : stream.read capacity = (.data chunk, next)) :
    stream.unread = chunk ++ next.unread ∧ next.finished = stream.finished ∧
      chunk.length ≤ capacity ∧ next.fuel < stream.fuel := by
  rcases stream.read_cases room with ⟨rest, sizes, same⟩ | ⟨count, rest, positive, bounded, shorter, same⟩
  · rw [same] at returned
    cases returned
    simp [RecvStream.fuel, sizes]
  · rw [same] at returned
    rcases stream.deliver_cases count rest with ⟨_, _, same⟩ | ⟨_, _, same⟩ | ⟨nonempty, same⟩
    all_goals
      rw [same] at returned
      cases returned
    have length := List.length_pos_iff.mpr nonempty
    refine ⟨(List.take_append_drop count stream.unread).symm, rfl, ?_, ?_⟩
    · exact (List.length_take_le count stream.unread).trans bounded
    · simp only [RecvStream.fuel, List.length_drop]
      omega

/-- The end of the stream is reported only behind the last byte. -/
theorem RecvStream.read_eof {stream next : RecvStream} {capacity : Nat}
    (room : 0 < capacity) (returned : stream.read capacity = (.eof, next)) :
    stream.unread = [] ∧ stream.finished = true := by
  rcases stream.read_cases room with ⟨rest, _, same⟩ | ⟨count, rest, _, _, _, same⟩
  · rw [same] at returned
    cases returned
  · rw [same] at returned
    rcases stream.deliver_cases count rest with ⟨empty, ended, _⟩ | ⟨_, _, same⟩ | ⟨_, same⟩
    · exact ⟨empty, ended⟩
    all_goals
      rw [same] at returned
      cases returned

/-- A read waits only when there is nothing to read and more may come. -/
theorem RecvStream.read_blocked {stream next : RecvStream} {capacity : Nat}
    (room : 0 < capacity) (returned : stream.read capacity = (.blocked, next)) :
    stream.unread = [] ∧ stream.finished = false := by
  rcases stream.read_cases room with ⟨rest, _, same⟩ | ⟨count, rest, _, _, _, same⟩
  · rw [same] at returned
    cases returned
  · rw [same] at returned
    rcases stream.deliver_cases count rest with ⟨_, _, same⟩ | ⟨empty, more, _⟩ | ⟨_, same⟩
    · rw [same] at returned
      cases returned
    · exact ⟨empty, more⟩
    · rw [same] at returned
      cases returned

/-- How an operation on a stream ends. -/
inductive Outcome (α : Type) where
  | done (value : α)
  | failed (error : StreamError)
  | blocked
deriving DecidableEq, Repr

/-- Overwrite part of a buffer. -/
def writeAt (buf : Bytes) (offset : Nat) (chunk : Bytes) : Bytes :=
  buf.take offset ++ chunk ++ buf.drop (offset + chunk.length)

/-- The loop of `read_stream_exact_or_eof`, from `offset` on. The value says
whether the buffer was filled and carries the buffer and the stream back. -/
def readStreamExactOrEof (stream : RecvStream) (buf : Bytes) (offset : Nat) :
    Outcome (Bool × Bytes × RecvStream) :=
  if _unfilled : offset < buf.length then
    match _returned : stream.read (buf.length - offset) with
    | (.data chunk, next) =>
        if chunk.length = 0 then readStreamExactOrEof next buf offset
        else readStreamExactOrEof next (writeAt buf offset chunk) (offset + chunk.length)
    | (.eof, next) =>
        if offset = 0 then .done (false, buf, next) else .failed .endedMidFrame
    | (.blocked, _) => .blocked
  else .done (true, buf, stream)
termination_by stream.fuel
decreasing_by
  all_goals exact (RecvStream.read_data (by omega) _returned).2.2.2

/-- `read_stream_packet`: the length of the packet that now stands at the start
of the buffer, or nothing at a clean end. -/
def readStreamPacket (stream : RecvStream) (buf : Bytes) :
    Outcome (Option Nat × Bytes × RecvStream) :=
  match readStreamExactOrEof stream [0, 0] 0 with
  | .failed error => .failed error
  | .blocked => .blocked
  | .done (false, _, next) => .done (none, buf, next)
  | .done (true, header, next) =>
      let packetLen := fromBeBytes header
      if packetLen = 0 then .done (some 0, buf, next)
      else if packetLen > buf.length then .failed (.exceedsMax packetLen buf.length)
      else
        match readStreamExactOrEof next (buf.take packetLen) 0 with
        | .failed error => .failed error
        | .blocked => .blocked
        | .done (false, _, _) => .failed .endedMidPacket
        | .done (true, body, last) => .done (some packetLen, body ++ buf.drop packetLen, last)

@[simp] theorem length_writeAt {buf chunk : Bytes} {offset : Nat}
    (room : offset + chunk.length ≤ buf.length) :
    (writeAt buf offset chunk).length = buf.length := by
  simp only [writeAt, List.length_append, List.length_take, List.length_drop]
  omega

theorem take_writeAt {buf chunk : Bytes} {offset : Nat} (inside : offset ≤ buf.length) :
    (writeAt buf offset chunk).take (offset + chunk.length) = buf.take offset ++ chunk := by
  have length : (buf.take offset ++ chunk).length = offset + chunk.length := by
    simp [inside]
  rw [writeAt, ← length, List.take_left]

/-- With enough bytes in the stream the buffer is filled, whatever the sizes of
the reads, and the stream goes on behind those bytes. -/
theorem readStreamExactOrEof_filled (stream : RecvStream) (buf : Bytes) (offset : Nat)
    (inside : offset ≤ buf.length) (enough : buf.length - offset ≤ stream.unread.length) :
    ∃ sizes, readStreamExactOrEof stream buf offset =
      .done (true, buf.take offset ++ stream.unread.take (buf.length - offset),
        ⟨stream.unread.drop (buf.length - offset), stream.finished, sizes⟩) := by
  fun_induction readStreamExactOrEof stream buf offset with
  | case1 stream buf offset unfilled chunk next returned empty inductionHypothesis =>
      obtain ⟨split, same, _, _⟩ := RecvStream.read_data (by omega) returned
      have none : chunk = [] := List.eq_nil_of_length_eq_zero empty
      rw [none, List.nil_append] at split
      obtain ⟨sizes, filled⟩ := inductionHypothesis inside (by rw [← split]; exact enough)
      exact ⟨sizes, by rw [filled, split, same]⟩
  | case2 stream buf offset unfilled chunk next returned some inductionHypothesis =>
      obtain ⟨split, same, bounded, _⟩ := RecvStream.read_data (by omega) returned
      have room : offset + chunk.length ≤ buf.length := by omega
      rw [split, List.length_append] at enough
      obtain ⟨sizes, filled⟩ := inductionHypothesis
        (by rw [length_writeAt room]; exact room) (by rw [length_writeAt room]; omega)
      have need : buf.length - offset = chunk.length + (buf.length - (offset + chunk.length)) := by
        omega
      refine ⟨sizes, ?_⟩
      rw [filled, length_writeAt room, take_writeAt inside, split, same, need,
        List.take_length_add_append, List.drop_length_add_append, List.append_assoc]
  | case3 stream buf unfilled next returned =>
      have empty := (RecvStream.read_eof (by omega) returned).1
      simp only [empty, List.length_nil] at enough
      omega
  | case4 stream buf offset unfilled next returned started =>
      have empty := (RecvStream.read_eof (by omega) returned).1
      simp only [empty, List.length_nil] at enough
      omega
  | case5 stream buf offset unfilled next returned =>
      have empty := (RecvStream.read_blocked (by omega) returned).1
      simp only [empty, List.length_nil] at enough
      omega
  | case6 stream buf offset full =>
      have done : buf.length - offset = 0 := by omega
      have whole : buf.take offset = buf := List.take_of_length_le (by omega)
      exact ⟨stream.sizes, by simp [done, whole]⟩

/-- Without enough bytes and with more to come, the read waits. -/
theorem readStreamExactOrEof_blocked (stream : RecvStream) (buf : Bytes) (offset : Nat)
    (short : stream.unread.length < buf.length - offset) (more : stream.finished = false) :
    readStreamExactOrEof stream buf offset = .blocked := by
  fun_induction readStreamExactOrEof stream buf offset with
  | case1 stream buf offset unfilled chunk next returned empty inductionHypothesis =>
      obtain ⟨split, same, _, _⟩ := RecvStream.read_data (by omega) returned
      rw [split, List.length_append] at short
      exact inductionHypothesis (by omega) (by rw [same, more])
  | case2 stream buf offset unfilled chunk next returned some inductionHypothesis =>
      obtain ⟨split, same, bounded, _⟩ := RecvStream.read_data (by omega) returned
      rw [split, List.length_append] at short
      exact inductionHypothesis (by rw [length_writeAt (by omega)]; omega) (by rw [same, more])
  | case3 stream buf unfilled next returned =>
      rw [(RecvStream.read_eof (by omega) returned).2] at more
      cases more
  | case4 stream buf offset unfilled next returned started =>
      rw [(RecvStream.read_eof (by omega) returned).2] at more
      cases more
  | case5 => rfl
  | case6 stream buf offset full => omega

/-- A finished stream without bytes ends cleanly in front of a buffer. -/
theorem readStreamExactOrEof_eof (stream : RecvStream) (buf : Bytes) (nonempty : buf ≠ [])
    (unread : stream.unread = []) (finished : stream.finished = true) :
    ∃ next, readStreamExactOrEof stream buf 0 = .done (false, buf, next) := by
  have room := List.length_pos_iff.mpr nonempty
  generalize same : 0 = offset
  fun_induction readStreamExactOrEof stream buf offset with
  | case1 stream buf offset unfilled chunk next returned empty inductionHypothesis =>
      obtain ⟨split, ended, _, _⟩ := RecvStream.read_data (by omega) returned
      rw [unread, List.nil_eq_append_iff] at split
      exact inductionHypothesis nonempty split.2 (by rw [ended, finished]) room same
  | case2 stream buf offset unfilled chunk next returned some inductionHypothesis =>
      obtain ⟨split, _, _, _⟩ := RecvStream.read_data (by omega) returned
      rw [unread, List.nil_eq_append_iff] at split
      simp [split.1] at some
  | case3 => exact ⟨_, rfl⟩
  | case4 stream buf offset unfilled next returned started => exact absurd same.symm started
  | case5 stream buf offset unfilled next returned =>
      rw [(RecvStream.read_blocked (by omega) returned).2] at finished
      cases finished
  | case6 stream buf offset full => omega

/-- A filled buffer has used up fuel. -/
theorem readStreamExactOrEof_fuel {stream next : RecvStream} {buf filled : Bytes} {offset : Nat}
    (unfilled : offset < buf.length)
    (result : readStreamExactOrEof stream buf offset = .done (true, filled, next)) :
    next.fuel < stream.fuel := by
  fun_induction readStreamExactOrEof stream buf offset with
  | case1 stream buf offset _ chunk after returned empty inductionHypothesis =>
      have used := (RecvStream.read_data (by omega) returned).2.2.2
      exact (inductionHypothesis unfilled result).trans used
  | case2 stream buf offset _ chunk after returned some inductionHypothesis =>
      obtain ⟨_, _, bounded, used⟩ := RecvStream.read_data (by omega) returned
      have length := length_writeAt (by omega : offset + chunk.length ≤ buf.length)
      by_cases more : offset + chunk.length < buf.length
      · exact (inductionHypothesis (by rw [length]; exact more) result).trans used
      · rw [readStreamExactOrEof, dif_neg (by rw [length]; exact more)] at result
        cases result
        exact used
  | case3 => cases result
  | case4 => cases result
  | case5 => cases result
  | case6 stream buf offset full => exact absurd unfilled full

/-- Every packet read off the stream uses up fuel. -/
theorem readStreamPacket_fuel {stream next : RecvStream} {buf filled : Bytes} {packetLen : Nat}
    (result : readStreamPacket stream buf = .done (some packetLen, filled, next)) :
    next.fuel < stream.fuel := by
  unfold readStreamPacket at result
  split at result
  · cases result
  · cases result
  · cases result
  · rename_i header middle headerRead
    have headerFuel := readStreamExactOrEof_fuel (by simp) headerRead
    dsimp only at result
    split_ifs at result with empty large
    · cases result
      exact headerFuel
    · split at result
      · cases result
      · cases result
      · cases result
      · rename_i body last bodyRead
        cases result
        have bodyFuel := readStreamExactOrEof_fuel (by simp only [List.length_take]; omega) bodyRead
        exact bodyFuel.trans headerFuel

/-- The packets a receiving pump has handed to its device, and how it stands. -/
structure ReceiveRun where
  handed : List Packet
  exit : PumpExit
deriving DecidableEq, Repr

/-- The loop of `pump_stream_to_tun`. `send` is the device: how much of a packet
it writes, or nothing when it fails. -/
def pumpStreamLoop (send : Packet → Option Nat) (stream : RecvStream) (buf : Bytes) :
    ReceiveRun :=
  match _read : readStreamPacket stream buf with
  | .failed error => ⟨[], .failed error⟩
  | .blocked => ⟨[], .waiting⟩
  | .done (none, _, _) => ⟨[], .ok⟩
  | .done (some packetLen, filled, next) =>
      if packetLen = 0 then pumpStreamLoop send next filled
      else
        let packet := filled.take packetLen
        match send packet with
        | none => ⟨[packet], .failed .tunSend⟩
        | some written =>
            if written ≠ packetLen then
              ⟨[packet], .failed (.partialTunWrite written packetLen)⟩
            else
              let later := pumpStreamLoop send next filled
              ⟨packet :: later.handed, later.exit⟩
termination_by stream.fuel
decreasing_by
  all_goals exact readStreamPacket_fuel _read

/-- `pump_stream_to_tun`. -/
def pumpStreamToTun (send : Packet → Option Nat) (stream : RecvStream) (maxPacketBytes : Nat) :
    ReceiveRun :=
  pumpStreamLoop send stream (List.replicate maxPacketBytes 0)

end LiteVpn.Core
