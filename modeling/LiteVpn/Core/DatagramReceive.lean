import LiteVpn.Core.Stream
import LiteVpn.Semantics.Loop

/-!
# The receiving datagram pump

`pump_quic_to_tun`. Every datagram that QUIC returns goes to the device as it is,
whatever its size. The pump ends with the first read that fails and with the
first datagram that the device does not take whole.
-/

namespace LiteVpn.Core

open LiteVpn.Strings
open LiteVpn.Semantics

/-- What `pump_quic_to_tun` meets in one turn of its loop. -/
inductive DeliveryTurn where
  | readFailed (reason : String)
  /-- A datagram, and how much of it the device writes, or nothing when it fails. -/
  | datagram (packet : Packet) (written : Option Nat)
deriving DecidableEq, Repr

/-- Why the receiving pump has left its loop. -/
inductive DeliveryEnd where
  | readDatagram (reason : String)
  | tunSend
  | partialTunWrite (written bytes : Nat)
deriving DecidableEq, Repr

/-- The text of the error that the program itself words. -/
def DeliveryEnd.message (label : String) : DeliveryEnd → Option String
  | .partialTunWrite written bytes =>
      s!"{label}: partial tun write: wrote {written} of {bytes} bytes"
  | .readDatagram _ | .tunSend => none

/-- One turn of the loop, with the packet that it gives to the device. -/
def deliveryTurn (_ : Unit) : DeliveryTurn → List Packet × TurnEnd Unit DeliveryEnd
  | .readFailed reason => ([], .exit (.readDatagram reason))
  | .datagram packet none => ([packet], .exit .tunSend)
  | .datagram packet (some written) =>
      if written ≠ packet.length then
        ([packet], .exit (.partialTunWrite written packet.length))
      else ([packet], .next ())

/-- `pump_quic_to_tun`: what the device was given, and where the pump stands. -/
def pumpQuicToTun (turns : List DeliveryTurn) : List Packet × TurnEnd Unit DeliveryEnd :=
  runLoop deliveryTurn () turns

/-- The datagram that a turn reads. -/
def DeliveryTurn.packet : DeliveryTurn → Option Packet
  | .readFailed _ => none
  | .datagram packet _ => some packet

/-- A turn gives the device exactly what it reads. -/
theorem deliveryTurn_fst (state : Unit) (turn : DeliveryTurn) :
    (deliveryTurn state turn).1 = turn.packet.toList := by
  cases turn with
  | readFailed reason => rfl
  | datagram packet written =>
      cases written with
      | none => rfl
      | some written =>
          simp only [deliveryTurn]
          split <;> rfl

end LiteVpn.Core
