import LiteVpn.Bench.DatagramSend
import LiteVpn.Core.AuthAgreement
import LiteVpn.Core.StreamDelivery

/-!
# The stream bench

The four loops of `run_stream_upload_bench` and `run_stream_download_bench`, two
in the client and two in the server, each with and without frames. A sender
without frames counts the bytes that each write took, one with frames the
payload of each frame; a receiver counts what each read returned. A stream that
the sender finished is read to its end with the sender's bytes, and with its
packets too if they were framed. The pacer delays a sender and changes nothing
in it.
-/

namespace LiteVpn.Bench

open LiteVpn.Strings
open LiteVpn.Semantics
open LiteVpn.Core

/-- What `write` under the deadline comes to. -/
inductive RawWrite where
  | accepted (bytes : Nat)
  | failed (reason : String)
  | timedOut
deriving DecidableEq, Repr

/-- What `write_stream_packet` beside the end of the connection comes to. QUIC
takes the frame in pieces; a write that fails or loses to the end of the
connection leaves the pieces taken so far on the stream. -/
inductive FrameWrite where
  | completed (pieces : List Nat)
  | failed (pieces : List Nat) (reason : String)
  | closed (pieces : List Nat) (reason : String)
deriving DecidableEq, Repr

/-- What a sender meets in one turn: its clock, and whichever write it makes. -/
structure StreamTurn where
  expired : Bool
  raw : RawWrite
  framed : FrameWrite
deriving DecidableEq, Repr

/-- Why a sender is not at the head of its loop. -/
inductive StreamSendEnd where
  | deadline
  | zeroWrite
  | connectionClosed (reason : String)
  | closedDuringUpload (reason : String)
  | writeFailed (reason : String)
  | refused (error : StreamError)
  | writing
deriving DecidableEq, Repr

/-- The text of each error that the program itself words. -/
def StreamSendEnd.message : StreamSendEnd → Option String
  | .closedDuringUpload reason =>
      s!"connection closed during stream packet upload bench: {reason}"
  | .refused error => error.message "stream bench"
  | _ => none

/-- The sender goes on to finish its stream on a connection that still stands. -/
def StreamSendEnd.normal : StreamSendEnd → Bool
  | .deadline | .zeroWrite => true
  | _ => false

/-- `write_all_chunks`: what is on the stream after the given pieces, and whether
that is everything. -/
def writeAllChunks (chunks : Bytes) : List Nat → Bytes × Bool
  | [] => ([], chunks.isEmpty)
  | accepted :: rest =>
      let later := writeAllChunks (chunks.drop accepted) rest
      (chunks.take accepted ++ later.1, later.2)

/-- A turn without frames. -/
def rawTurn (payloadBytes : UInt64) (counters : BenchCounters) :
    RawWrite → Bytes × TurnEnd BenchCounters (BenchCounters × StreamSendEnd)
  | .accepted bytes =>
      let taken := (datagram payloadBytes).take bytes
      if taken.length = 0 then ([], .exit (counters, .zeroWrite))
      else (taken, .next (counters.add (UInt64.ofNat taken.length)))
  | .failed reason => ([], .exit (counters, .writeFailed reason))
  | .timedOut => ([], .exit (counters, .deadline))

/-- A turn with frames. `closed` says what the loop makes of the end of the
connection. -/
def framedTurn (closed : String → StreamSendEnd) (payloadBytes : UInt64)
    (counters : BenchCounters) (write : FrameWrite) :
    Bytes × TurnEnd BenchCounters (BenchCounters × StreamSendEnd) :=
  match writeStreamPacket [0, 0] (datagram payloadBytes), write with
  | .error _, .closed _ reason => ([], .exit (counters, closed reason))
  | .error error, _ => ([], .exit (counters, .refused error))
  | .ok frame, .closed pieces reason =>
      ((writeAllChunks frame pieces).1, .exit (counters, closed reason))
  | .ok frame, .failed pieces reason =>
      ((writeAllChunks frame pieces).1, .exit (counters, .writeFailed reason))
  | .ok frame, .completed pieces =>
      match writeAllChunks frame pieces with
      | (written, true) => (written, .next (counters.add payloadBytes))
      | (written, false) => (written, .exit (counters, .writing))

def streamSendTurn (framed : Bool) (closed : String → StreamSendEnd) (payloadBytes : UInt64)
    (counters : BenchCounters) (turn : StreamTurn) :
    Bytes × TurnEnd BenchCounters (BenchCounters × StreamSendEnd) :=
  if turn.expired then ([], .exit (counters, .deadline))
  else if framed then framedTurn closed payloadBytes counters turn.framed
  else rawTurn payloadBytes counters turn.raw

/-- The bytes a send loop puts on its stream, and how it stands. -/
def streamSendLoop (framed : Bool) (closed : String → StreamSendEnd) (payloadBytes : UInt64)
    (turns : List StreamTurn) : Bytes × TurnEnd BenchCounters (BenchCounters × StreamSendEnd) :=
  runLoop (streamSendTurn framed closed payloadBytes) (.ofTotals 0 0) turns

/-- What a receiver meets in one turn: its timer, a broken stream, or a read that
returns before either. -/
inductive ReceiveTurn where
  | quiet
  | deadline
  | broken (reason : String)
deriving DecidableEq, Repr

/-- Why a receiver is not at the head of its loop. -/
inductive ReceiveEnd where
  | ended
  | drained
  | lateDownload (framed : Bool)
  | failed (error : StreamError)
  | readFailed (reason : String)
deriving DecidableEq, Repr

/-- The text of each error that the program itself words. -/
def ReceiveEnd.message : ReceiveEnd → Option String
  | .lateDownload true => "timed out waiting for stream packet download"
  | .lateDownload false => "timed out waiting for stream download"
  | .failed error => error.message "stream bench"
  | .ended | .drained | .readFailed _ => none

structure Receiver where
  stream : RecvStream
  buf : Bytes
  counters : BenchCounters
deriving DecidableEq, Repr

/-- A read without frames. The log holds the sizes that were counted. `late` says
what the loop makes of its timer. -/
def rawRead (late : ReceiveEnd) (receiver : Receiver) :
    List Nat × TurnEnd Receiver (BenchCounters × ReceiveEnd) :=
  match receiver.stream.read receiver.buf.length with
  | (.data chunk, next) =>
      ([chunk.length], .next ⟨next, writeAt receiver.buf 0 chunk,
        receiver.counters.add (UInt64.ofNat chunk.length)⟩)
  | (.eof, _) => ([], .exit (receiver.counters, .ended))
  | (.blocked, _) => ([], .exit (receiver.counters, late))

/-- A read with frames; an empty frame is skipped. -/
def framedRead (late : ReceiveEnd) (receiver : Receiver) :
    List Nat × TurnEnd Receiver (BenchCounters × ReceiveEnd) :=
  match readStreamPacket receiver.stream receiver.buf with
  | .done (some 0, buf, next) => ([], .next ⟨next, buf, receiver.counters⟩)
  | .done (some packetLen, buf, next) =>
      ([packetLen], .next ⟨next, buf, receiver.counters.add (UInt64.ofNat packetLen)⟩)
  | .done (none, _, _) => ([], .exit (receiver.counters, .ended))
  | .failed error => ([], .exit (receiver.counters, .failed error))
  | .blocked => ([], .exit (receiver.counters, late))

def receiveTurn (framed : Bool) (late : ReceiveEnd) (receiver : Receiver) :
    ReceiveTurn → List Nat × TurnEnd Receiver (BenchCounters × ReceiveEnd)
  | .deadline => ([], .exit (receiver.counters, late))
  | .broken reason => ([], .exit (receiver.counters, .readFailed reason))
  | .quiet => if framed then framedRead late receiver else rawRead late receiver

def receiveLoop (framed : Bool) (late : ReceiveEnd) (payloadBytes : UInt64)
    (stream : RecvStream) (turns : List ReceiveTurn) :
    List Nat × TurnEnd Receiver (BenchCounters × ReceiveEnd) :=
  runLoop (receiveTurn framed late) ⟨stream, datagram payloadBytes, .ofTotals 0 0⟩ turns

/-- The client's `run_stream_upload_bench`: the end of the connection is an error. -/
def Client.runStreamUploadBench (payloadBytes : UInt64) (framed : Bool)
    (turns : List StreamTurn) : Bytes × TurnEnd BenchCounters (BenchCounters × StreamSendEnd) :=
  streamSendLoop framed .closedDuringUpload payloadBytes turns

/-- The server's `run_stream_download_bench`: the end of the connection ends the
loop. -/
def Server.runStreamDownloadBench (payloadBytes : UInt64) (framed : Bool)
    (turns : List StreamTurn) : Bytes × TurnEnd BenchCounters (BenchCounters × StreamSendEnd) :=
  streamSendLoop framed .connectionClosed payloadBytes turns

/-- The server's `run_stream_upload_bench`: the timer ends the loop. -/
def Server.runStreamUploadBench (payloadBytes : UInt64) (framed : Bool) (stream : RecvStream)
    (turns : List ReceiveTurn) : List Nat × TurnEnd Receiver (BenchCounters × ReceiveEnd) :=
  receiveLoop framed .drained payloadBytes stream turns

/-- The client's `run_stream_download_bench`: the timer is an error. -/
def Client.runStreamDownloadBench (payloadBytes : UInt64) (framed : Bool) (stream : RecvStream)
    (turns : List ReceiveTurn) : List Nat × TurnEnd Receiver (BenchCounters × ReceiveEnd) :=
  receiveLoop framed (.lateDownload framed) payloadBytes stream turns

/-- Everything a sender counted is counted by the receiver of its finished
stream: whenever the sender's loop ended normally, and however the stream is cut
into reads, a receiver that sees the end has the same bytes and, with frames, the
same packets; with frames it meets no framing error; and it does see the end if
nothing cuts it short. -/
structure Conserves (framed : Bool)
    (sender : List StreamTurn → Bytes × TurnEnd BenchCounters (BenchCounters × StreamSendEnd))
    (receiver : RecvStream → List ReceiveTurn →
      List Nat × TurnEnd Receiver (BenchCounters × ReceiveEnd)) : Prop where
  same : ∀ turns sent reason, (sender turns).2 = .exit (sent, reason) → reason.normal = true →
    ∀ sizes reads received,
      (receiver ⟨(sender turns).1, true, sizes⟩ reads).2 = .exit (received, .ended) →
        received.bytes = sent.bytes ∧ (framed = true → received.packets = sent.packets)
  clean : framed = true →
    ∀ turns sent reason, (sender turns).2 = .exit (sent, reason) → reason.normal = true →
    ∀ sizes reads received error,
      (receiver ⟨(sender turns).1, true, sizes⟩ reads).2 ≠ .exit (received, .failed error)
  ends : ∀ turns sent reason, (sender turns).2 = .exit (sent, reason) → reason.normal = true →
    ∀ sizes, ∃ reads received,
      (receiver ⟨(sender turns).1, true, sizes⟩ reads).2 = .exit (received, .ended)

@[simp] theorem length_datagram (payloadBytes : UInt64) :
    (datagram payloadBytes).length = payloadBytes.toNat := List.length_replicate

/-- A write of everything leaves exactly that on the stream, in whatever pieces. -/
theorem writeAllChunks_whole {chunks written : Bytes} {pieces : List Nat}
    (whole : writeAllChunks chunks pieces = (written, true)) : written = chunks := by
  induction pieces generalizing chunks written with
  | nil =>
      simp only [writeAllChunks, Prod.mk.injEq, List.isEmpty_iff] at whole
      rw [← whole.1, whole.2]
  | cons accepted rest inductionHypothesis =>
      simp only [writeAllChunks, Prod.mk.injEq] at whole
      obtain ⟨rfl, everything⟩ := whole
      have later := inductionHypothesis (Prod.ext rfl everything)
      exact (congrArg (chunks.take accepted ++ ·) later).trans (List.take_append_drop _ _)

theorem writeStreamPacket_datagram {payloadBytes : UInt64} (small : payloadBytes.toNat < 65536) :
    writeStreamPacket [0, 0] (datagram payloadBytes) = .ok (frame (datagram payloadBytes)) := by
  rw [writeStreamPacket, if_neg (by rw [length_datagram]; omega), if_neg (by simp)]
  rfl

/-- The stream of a number of frames. -/
def frames (payloadBytes : UInt64) (count : Nat) : Bytes :=
  (List.replicate count (datagram payloadBytes)).flatMap frame

theorem frames_succ (payloadBytes : UInt64) (count : Nat) :
    frames payloadBytes (count + 1) =
      frame (datagram payloadBytes) ++ frames payloadBytes count := by
  simp [frames, List.replicate_succ]

theorem frames_succ' (payloadBytes : UInt64) (count : Nat) :
    frames payloadBytes (count + 1) =
      frames payloadBytes count ++ frame (datagram payloadBytes) := by
  simp [frames, List.replicate_succ']

/-- A sender without frames has counted every byte on the stream. -/
def CountsBytes (sent : Bytes) (counters : BenchCounters) : Prop :=
  ∃ count, counters = .ofTotals count sent.length

/-- A sender with frames has put whole frames on the stream and counted each. -/
def CountsFrames (payloadBytes : UInt64) (sent : Bytes) (counters : BenchCounters) : Prop :=
  ∃ count, sent = frames payloadBytes count ∧
    counters = .ofTotals count (count * payloadBytes.toNat)

section Sender

variable {closed : String → StreamSendEnd} {payloadBytes : UInt64}

theorem CountsBytes.take {sent taken : Bytes} {counters : BenchCounters}
    (counted : CountsBytes sent counters) (short : taken.length < 2 ^ 64) :
    CountsBytes (sent ++ taken) (counters.add (UInt64.ofNat taken.length)) := by
  obtain ⟨count, rfl⟩ := counted
  refine ⟨count + 1, ?_⟩
  rw [BenchCounters.add_ofTotals, UInt64.toNat_ofNat_of_lt' short, List.length_append]

theorem CountsFrames.frame {sent : Bytes} {counters : BenchCounters}
    (counted : CountsFrames payloadBytes sent counters) :
    CountsFrames payloadBytes (sent ++ Core.frame (datagram payloadBytes))
      (counters.add payloadBytes) := by
  obtain ⟨count, rfl, rfl⟩ := counted
  refine ⟨count + 1, (frames_succ' payloadBytes count).symm, ?_⟩
  rw [BenchCounters.add_ofTotals, Nat.succ_mul]

/-- What a turn without frames can do: leave with nothing written, or write some
bytes and count them. -/
theorem streamSendTurn_raw (counters : BenchCounters) (turn : StreamTurn) :
    (∃ reason, streamSendTurn false closed payloadBytes counters turn =
        ([], .exit (counters, reason))) ∨
      ∃ taken : Bytes, taken.length < 2 ^ 64 ∧
        streamSendTurn false closed payloadBytes counters turn =
          (taken, .next (counters.add (UInt64.ofNat taken.length))) := by
  by_cases expired : turn.expired = true
  · exact .inl ⟨.deadline, by simp [streamSendTurn, expired]⟩
  · simp only [streamSendTurn, expired, Bool.false_eq_true, if_false]
    cases turn.raw with
    | accepted bytes =>
        simp only [rawTurn]
        split
        · exact .inl ⟨.zeroWrite, rfl⟩
        · refine .inr ⟨_, ?_, rfl⟩
          have bound := payloadBytes.toNat_lt
          simp only [List.length_take, length_datagram]
          omega
    | failed reason => exact .inl ⟨.writeFailed reason, rfl⟩
    | timedOut => exact .inl ⟨.deadline, rfl⟩

/-- What a turn with frames can do: leave, with nothing written if that is a
normal end, or write one frame and count it. -/
theorem streamSendTurn_framed (small : payloadBytes.toNat < 65536)
    (abrupt : ∀ reason, (closed reason).normal = false) (counters : BenchCounters)
    (turn : StreamTurn) :
    (∃ written reason, (reason.normal = true → written = []) ∧
        streamSendTurn true closed payloadBytes counters turn =
          (written, .exit (counters, reason))) ∨
      streamSendTurn true closed payloadBytes counters turn =
        (frame (datagram payloadBytes), .next (counters.add payloadBytes)) := by
  by_cases expired : turn.expired = true
  · exact .inl ⟨[], .deadline, fun _ => rfl, by simp [streamSendTurn, expired]⟩
  · simp only [streamSendTurn, expired, Bool.false_eq_true, if_false, if_true, framedTurn,
      writeStreamPacket_datagram small]
    cases turn.framed with
    | completed pieces =>
        cases sent : writeAllChunks (frame (datagram payloadBytes)) pieces with
        | mk written whole =>
            cases whole with
            | true => exact .inr (by simp only [sent, writeAllChunks_whole sent])
            | false =>
                exact .inl ⟨written, .writing, by simp [StreamSendEnd.normal], by simp only [sent]⟩
    | failed pieces reason =>
        exact .inl ⟨_, .writeFailed reason, by simp [StreamSendEnd.normal], rfl⟩
    | closed pieces reason => exact .inl ⟨_, closed reason, by simp [abrupt reason], rfl⟩

theorem loopInvariant_raw :
    LoopInvariant (streamSendTurn false closed payloadBytes)
      (fun _ sent counters => CountsBytes sent counters)
      (fun _ sent left => CountsBytes sent left.1) := by
  apply LoopInvariant.of_turns
  intro before log counters turn counted
  rcases streamSendTurn_raw counters turn with ⟨reason, left⟩ | ⟨taken, short, stayed⟩
  · rw [left]
    intro rest
    simpa using counted
  · rw [stayed]
    exact counted.take short

theorem loopInvariant_framed (small : payloadBytes.toNat < 65536)
    (abrupt : ∀ reason, (closed reason).normal = false) :
    LoopInvariant (streamSendTurn true closed payloadBytes)
      (fun _ sent counters => CountsFrames payloadBytes sent counters)
      (fun _ sent left => left.2.normal = true → CountsFrames payloadBytes sent left.1) := by
  apply LoopInvariant.of_turns
  intro before log counters turn counted
  rcases streamSendTurn_framed small abrupt counters turn with
    ⟨written, reason, nothing, left⟩ | stayed
  · rw [left]
    intro rest normal
    simpa [nothing normal] using counted
  · rw [stayed]
    exact counted.frame

end Sender

/-- A receiver without frames at the head of its loop: what it has counted and
what is left add up to the whole stream. -/
structure ReadsBytes (payloadBytes : UInt64) (total : Nat) (log : List Nat)
    (receiver : Receiver) : Prop where
  buf : receiver.buf.length = payloadBytes.toNat
  finished : receiver.stream.finished = true
  counters : receiver.counters = .ofTotals log.length log.sum
  rest : log.sum + receiver.stream.unread.length = total

/-- A receiver with frames at the head of its loop: the frames it has counted and
those that are left add up to all of them. -/
structure ReadsFrames (payloadBytes : UInt64) (total : Nat) (log : List Nat)
    (receiver : Receiver) : Prop where
  buf : receiver.buf.length = payloadBytes.toNat
  finished : receiver.stream.finished = true
  counters : receiver.counters = .ofTotals log.length (log.length * payloadBytes.toNat)
  rest : ∃ remaining, log.length + remaining = total ∧
    receiver.stream.unread = frames payloadBytes remaining

section Receiver

variable {late : ReceiveEnd} {payloadBytes : UInt64}

/-- What a read without frames can do on a finished stream. -/
theorem rawRead_finished {receiver : Receiver} (room : 0 < receiver.buf.length)
    (finished : receiver.stream.finished = true) :
    (receiver.stream.unread = [] ∧
        rawRead late receiver = ([], .exit (receiver.counters, .ended))) ∨
      ∃ chunk next, receiver.stream.unread = chunk ++ next.unread ∧ next.finished = true ∧
        chunk.length ≤ receiver.buf.length ∧ next.fuel < receiver.stream.fuel ∧
        rawRead late receiver = ([chunk.length], .next ⟨next, writeAt receiver.buf 0 chunk,
          receiver.counters.add (UInt64.ofNat chunk.length)⟩) := by
  unfold rawRead
  cases returned : receiver.stream.read receiver.buf.length with
  | mk result next =>
      cases result with
      | data chunk =>
          obtain ⟨split, same, bounded, less⟩ := RecvStream.read_data room returned
          exact .inr ⟨chunk, next, split, same.trans finished, bounded, less, rfl⟩
      | eof => exact .inl ⟨(RecvStream.read_eof room returned).1, rfl⟩
      | blocked =>
          rw [(RecvStream.read_blocked room returned).2] at finished
          cases finished

/-- What a read with frames can do on a finished stream of whole frames. -/
theorem framedRead_finished {receiver : Receiver} {remaining : Nat}
    (positive : 0 < payloadBytes.toNat) (small : payloadBytes.toNat < 65536)
    (buf : receiver.buf.length = payloadBytes.toNat)
    (finished : receiver.stream.finished = true)
    (unread : receiver.stream.unread = frames payloadBytes remaining) :
    (remaining = 0 ∧ framedRead late receiver = ([], .exit (receiver.counters, .ended))) ∨
      ∃ fewer next filled, remaining = fewer + 1 ∧ next.unread = frames payloadBytes fewer ∧
        next.finished = true ∧ filled.length = payloadBytes.toNat ∧
        framedRead late receiver = ([payloadBytes.toNat],
          .next ⟨next, filled, receiver.counters.add payloadBytes⟩) := by
  unfold framedRead
  cases remaining with
  | zero =>
      obtain ⟨next, clean⟩ := (readStreamPacket_end receiver.buf unread).2 finished
      exact .inl ⟨rfl, by simp only [clean]⟩
  | succ fewer =>
      rw [frames_succ] at unread
      have fits : (datagram payloadBytes).length ≤ receiver.buf.length := by
        rw [length_datagram, buf]
      obtain ⟨sizes, read⟩ := readStreamPacket_frame receiver.stream (frames payloadBytes fewer)
        (List.ne_nil_of_length_pos (by rw [length_datagram]; exact positive)) fits
        (by rw [length_datagram]; exact small) unread
      refine .inr ⟨fewer, ⟨frames payloadBytes fewer, receiver.stream.finished, sizes⟩,
        datagram payloadBytes ++ receiver.buf.drop payloadBytes.toNat, rfl, rfl, finished, ?_, ?_⟩
      · simp [buf]
      · rw [length_datagram] at read
        rw [read]
        split
        · rename_i zero
          simp only [Outcome.done.injEq, Prod.mk.injEq, Option.some.injEq] at zero
          omega
        · rename_i same
          cases same
          rw [UInt64.ofNat_toNat]
        all_goals
          rename_i other
          cases other

theorem ReadsBytes.room {total : Nat} {log : List Nat} {receiver : Receiver}
    (reads : ReadsBytes payloadBytes total log receiver) (positive : 0 < payloadBytes.toNat) :
    0 < receiver.buf.length := by
  rw [reads.buf]
  exact positive

/-- Counting a chunk keeps the account. -/
theorem ReadsBytes.chunk {total : Nat} {log : List Nat} {receiver : Receiver}
    (reads : ReadsBytes payloadBytes total log receiver) {chunk : Bytes} {next : RecvStream}
    (split : receiver.stream.unread = chunk ++ next.unread) (finished : next.finished = true)
    (bounded : chunk.length ≤ receiver.buf.length) :
    ReadsBytes payloadBytes total (log ++ [chunk.length])
      ⟨next, writeAt receiver.buf 0 chunk,
        receiver.counters.add (UInt64.ofNat chunk.length)⟩ where
  buf := by
    rw [length_writeAt (by omega)]
    exact reads.buf
  finished := finished
  counters := by
    have bound := payloadBytes.toNat_lt
    have short : chunk.length < 2 ^ 64 := by
      rw [reads.buf] at bounded
      omega
    rw [reads.counters, BenchCounters.add_ofTotals, UInt64.toNat_ofNat_of_lt' short]
    simp
  rest := by
    have rest := reads.rest
    rw [split, List.length_append] at rest
    rw [List.sum_append, List.sum_singleton]
    change log.sum + chunk.length + next.unread.length = total
    omega

theorem loopInvariant_rawRead (positive : 0 < payloadBytes.toNat) (timer : late ≠ .ended)
    (total : Nat) :
    LoopInvariant (receiveTurn false late)
      (fun _ log receiver => ReadsBytes payloadBytes total log receiver)
      (fun _ log left => left.2 = .ended → left.1 = .ofTotals log.length total) := by
  apply LoopInvariant.of_turns
  intro before log receiver turn reads
  cases turn with
  | deadline =>
      intro rest ended
      exact absurd ended timer
  | broken reason =>
      intro rest ended
      cases ended
  | quiet =>
      rw [receiveTurn, if_neg (by simp)]
      rcases rawRead_finished (reads.room positive) reads.finished with
        ⟨empty, left⟩ | ⟨chunk, next, split, finished, bounded, _, stayed⟩
      · rw [left]
        intro rest _
        have counted := reads.rest
        rw [empty, List.length_nil, Nat.add_zero] at counted
        rw [reads.counters, counted, List.append_nil]
      · rw [stayed]
        exact reads.chunk split finished bounded

/-- Counting a frame keeps the account. -/
theorem ReadsFrames.frame {total fewer : Nat} {log : List Nat} {receiver : Receiver}
    (reads : ReadsFrames payloadBytes total log receiver) (sum : log.length + (fewer + 1) = total)
    {next : RecvStream} {filled : Bytes} (unread : next.unread = frames payloadBytes fewer)
    (finished : next.finished = true) (buf : filled.length = payloadBytes.toNat) :
    ReadsFrames payloadBytes total (log ++ [payloadBytes.toNat])
      ⟨next, filled, receiver.counters.add payloadBytes⟩ where
  buf := buf
  finished := finished
  counters := by
    rw [reads.counters, BenchCounters.add_ofTotals, List.length_append, List.length_singleton,
      Nat.succ_mul]
  rest := by
    refine ⟨fewer, ?_, unread⟩
    rw [List.length_append, List.length_singleton]
    omega

theorem loopInvariant_framedRead (positive : 0 < payloadBytes.toNat)
    (small : payloadBytes.toNat < 65536) (timer : late ≠ .ended)
    (tame : ∀ error, late ≠ .failed error) (total : Nat) :
    LoopInvariant (receiveTurn true late)
      (fun _ log receiver => ReadsFrames payloadBytes total log receiver)
      (fun _ _ left => (left.2 = .ended → left.1 = .ofTotals total (total * payloadBytes.toNat)) ∧
        ∀ error, left.2 ≠ .failed error) := by
  apply LoopInvariant.of_turns
  intro before log receiver turn reads
  cases turn with
  | deadline =>
      intro rest
      exact ⟨fun ended => absurd ended timer, tame⟩
  | broken reason =>
      intro rest
      exact ⟨by simp, by simp⟩
  | quiet =>
      rw [receiveTurn, if_pos rfl]
      obtain ⟨remaining, sum, unread⟩ := reads.rest
      rcases framedRead_finished positive small reads.buf reads.finished unread with
        ⟨rfl, left⟩ | ⟨fewer, next, filled, rfl, unread', finished, buf, stayed⟩
      · rw [left]
        intro rest
        rw [Nat.add_zero] at sum
        exact ⟨fun _ => by rw [reads.counters, sum], by simp⟩
      · rw [stayed]
        exact reads.frame sum unread' finished buf

/-- Without a timer in the way, a receiver without frames sees the end. -/
theorem exists_rawRead_ended (positive : 0 < payloadBytes.toNat) (timer : late ≠ .ended)
    {total : Nat} {log : List Nat} {receiver : Receiver}
    (reads : ReadsBytes payloadBytes total log receiver) :
    ∃ turns left, (runLoop (receiveTurn false late) receiver turns).2 = .exit left ∧
      left.2 = .ended := by
  apply (loopInvariant_rawRead positive timer total).exists_exit_from
    (fun receiver => receiver.stream.fuel) .quiet ?_ [] reads
  intro _ log receiver reads
  rw [receiveTurn, if_neg (by simp)]
  rcases rawRead_finished (reads.room positive) reads.finished with
    ⟨_, left⟩ | ⟨chunk, next, _, _, _, less, stayed⟩
  · exact .inl ⟨_, _, left, rfl⟩
  · exact .inr ⟨_, _, stayed, less⟩

/-- Without a timer in the way, a receiver with frames sees the end of a stream of
whole frames. -/
theorem exists_framedRead_ended (positive : 0 < payloadBytes.toNat)
    (small : payloadBytes.toNat < 65536) (timer : late ≠ .ended)
    (tame : ∀ error, late ≠ .failed error) {total : Nat} {log : List Nat} {receiver : Receiver}
    (reads : ReadsFrames payloadBytes total log receiver) :
    ∃ turns left, (runLoop (receiveTurn true late) receiver turns).2 = .exit left ∧
      left.2 = .ended := by
  apply (loopInvariant_framedRead positive small timer tame total).exists_exit_from
    (fun receiver => receiver.stream.unread.length) .quiet ?_ [] reads
  intro _ log receiver reads
  obtain ⟨remaining, _, unread⟩ := reads.rest
  rw [receiveTurn, if_pos rfl]
  rcases framedRead_finished positive small reads.buf reads.finished unread with
    ⟨_, left⟩ | ⟨fewer, next, filled, rfl, unread', _, _, stayed⟩
  · exact .inl ⟨_, _, left, rfl⟩
  · refine .inr ⟨_, _, stayed, ?_⟩
    rw [unread, unread', frames_succ, List.length_append, frame, List.length_append,
      length_toBeBytes]
    omega

end Receiver

section Pair

variable {closed : String → StreamSendEnd} {late : ReceiveEnd} {payloadBytes : UInt64}

/-- The receiver of a finished stream before its first turn. -/
theorem readsBytes_start (sent : Bytes) (sizes : List Nat) :
    ReadsBytes payloadBytes sent.length []
      ⟨⟨sent, true, sizes⟩, datagram payloadBytes, .ofTotals 0 0⟩ :=
  ⟨length_datagram payloadBytes, rfl, rfl, Nat.zero_add _⟩

theorem readsFrames_start (count : Nat) (sizes : List Nat) :
    ReadsFrames payloadBytes count []
      ⟨⟨frames payloadBytes count, true, sizes⟩, datagram payloadBytes, .ofTotals 0 0⟩ :=
  ⟨length_datagram payloadBytes, rfl, by simp, count, Nat.zero_add _, rfl⟩

/-- What a sender without frames counted is what its stream holds. -/
theorem streamSendLoop_raw {turns : List StreamTurn} {sent : BenchCounters}
    {reason : StreamSendEnd}
    (ended : (streamSendLoop false closed payloadBytes turns).2 = .exit (sent, reason)) :
    CountsBytes (streamSendLoop false closed payloadBytes turns).1 sent :=
  loopInvariant_raw.left ⟨0, rfl⟩ ended

/-- The stream of a sender with frames that ended normally holds the frames it
counted. -/
theorem streamSendLoop_framed (small : payloadBytes.toNat < 65536)
    (abrupt : ∀ reason, (closed reason).normal = false) {turns : List StreamTurn}
    {sent : BenchCounters} {reason : StreamSendEnd}
    (ended : (streamSendLoop true closed payloadBytes turns).2 = .exit (sent, reason))
    (normal : reason.normal = true) :
    CountsFrames payloadBytes (streamSendLoop true closed payloadBytes turns).1 sent :=
  (loopInvariant_framed small abrupt).left ⟨0, rfl, by simp⟩ ended normal

theorem conserves_raw (positive : 0 < payloadBytes.toNat) (timer : late ≠ .ended) :
    Conserves false (streamSendLoop false closed payloadBytes)
      (receiveLoop false late payloadBytes) where
  same := by
    intro turns sent reason ended _ sizes reads received seen
    obtain ⟨count, rfl⟩ := streamSendLoop_raw ended
    have total := (loopInvariant_rawRead positive timer _).left (readsBytes_start _ sizes) seen rfl
    refine ⟨?_, by simp⟩
    rw [show received = _ from total]
    rfl
  clean := by
    intro framed
    cases framed
  ends := by
    intro turns sent reason _ _ sizes
    obtain ⟨reads, ⟨received, ending⟩, left, rfl⟩ :=
      exists_rawRead_ended positive timer (readsBytes_start _ sizes)
    exact ⟨reads, received, left⟩

theorem conserves_framed (positive : 0 < payloadBytes.toNat) (small : payloadBytes.toNat < 65536)
    (abrupt : ∀ reason, (closed reason).normal = false) (timer : late ≠ .ended)
    (tame : ∀ error, late ≠ .failed error) :
    Conserves true (streamSendLoop true closed payloadBytes)
      (receiveLoop true late payloadBytes) where
  same := by
    intro turns sent reason ended normal sizes reads received seen
    obtain ⟨count, stream, rfl⟩ := streamSendLoop_framed small abrupt ended normal
    rw [stream] at seen
    have total := ((loopInvariant_framedRead positive small timer tame _).left
      (readsFrames_start count sizes) seen).1 rfl
    rw [show received = _ from total]
    exact ⟨rfl, fun _ => rfl⟩
  clean := by
    intro _ turns sent reason ended normal sizes reads received error failed
    obtain ⟨count, stream, _⟩ := streamSendLoop_framed small abrupt ended normal
    rw [stream] at failed
    exact ((loopInvariant_framedRead positive small timer tame _).left
      (readsFrames_start count sizes) failed).2 error rfl
  ends := by
    intro turns sent reason ended normal sizes
    obtain ⟨count, stream, _⟩ := streamSendLoop_framed small abrupt ended normal
    rw [stream]
    obtain ⟨reads, ⟨received, ending⟩, left, rfl⟩ :=
      exists_framedRead_ended positive small timer tame (readsFrames_start count sizes)
    exact ⟨reads, received, left⟩

end Pair

/-- All four stream benches conserve what was sent, in both directions and with
and without frames, for every payload size of the client that the server's parser
accepts: either side sizes its payload or its buffer from its own copy of it. -/
theorem streamBench_conserves {direction direction' : BenchDirection}
    {durationSecs durationSecs' payloadBytes payloadBytes' : UInt64}
    {targetMbps targetMbps' : Option UInt64}
    (parsed : parseMode (benchText direction durationSecs payloadBytes (targetMbps.getD 0)) =
      .ok (.bench direction' durationSecs' payloadBytes' targetMbps')) (framed : Bool) :
    Conserves framed (Client.runStreamUploadBench payloadBytes framed)
        (Server.runStreamUploadBench payloadBytes' framed) ∧
      Conserves framed (Server.runStreamDownloadBench payloadBytes' framed)
        (Client.runStreamDownloadBench payloadBytes framed) := by
  obtain ⟨_, _, _, _, same, fields⟩ := parseMode_eq_ok.mp parsed
  cases same
  have lower := fields.payloadLower
  have upper := fields.payloadUpper
  have copied := mode_of_benchText fields
  simp only [AuthMode.normalized, AuthMode.bench.injEq] at copied
  obtain ⟨_, _, rfl, _⟩ := copied
  cases framed with
  | false =>
      exact ⟨conserves_raw (by omega) (by simp), conserves_raw (by omega) (by simp)⟩
  | true =>
      exact ⟨conserves_framed (by omega) (by omega) (fun _ => rfl) (by simp) (by simp),
        conserves_framed (by omega) (by omega) (fun _ => rfl) (by simp) (by simp)⟩

/-- Two frames, the first in three pieces, and then the deadline. -/
def twoFrames : List StreamTurn :=
  [⟨false, .timedOut, .completed [1, 3, 62]⟩, ⟨false, .timedOut, .completed [66]⟩,
    ⟨true, .timedOut, .completed []⟩]

/-- Two frames of 64 bytes are counted as such, with reads that cut the first
header and the second frame. -/
theorem streamBench_conserves_twoFrames :
    (Client.runStreamUploadBench 64 true twoFrames).2 = .exit (.ofTotals 2 128, .deadline) ∧
      ∃ reads received,
        (Server.runStreamUploadBench 64 true
          ⟨(Client.runStreamUploadBench 64 true twoFrames).1, true, [1, 0, 70]⟩ reads).2 =
            .exit (received, .ended) ∧ received.bytes = 128 ∧ received.packets = 2 := by
  have parsed : parseMode (benchText .streamPacketUpload 5 64 ((none : Option UInt64).getD 0)) =
      .ok (.bench .streamPacketUpload 5 64 none) := by decide +kernel
  have sent : (Client.runStreamUploadBench 64 true twoFrames).2 =
      .exit (.ofTotals 2 128, .deadline) := by decide +kernel
  have upload := (streamBench_conserves parsed true).1
  obtain ⟨reads, received, seen⟩ := upload.ends twoFrames _ _ sent rfl [1, 0, 70]
  obtain ⟨bytes, packets⟩ := upload.same twoFrames _ _ sent rfl [1, 0, 70] reads received seen
  exact ⟨sent, reads, received, seen, bytes, packets rfl⟩

end LiteVpn.Bench
