import Etr.Forward.UdpFrame

/-!
Contract: the way of a UDP reply back to the peer whose datagram it answers.

Owns `datagram_peer_addr` of `src/forward.rs`, the reply of the forwarding side
in `src/bin/etrs.rs` and `src/bin/etr.rs`, and the exact peers that get their
replies.

Does not own the sockets. The text of an IP address is written and read by the
standard library, which stands here as `display` and `parse`.
-/

namespace Etr.Forward

open Etr.Library Etr.Protocol Etr.Wire

/-- Size of every buffer that `recv_from` fills. -/
def receiveBuffer : Nat := 65535

def datagramPeerAddr (parse : String → Option IpAddr) (peerAddr : String) (peerPort : UInt32) :
    Option SocketAddr :=
  if peerPort.toNat < 2 ^ 16 then
    if peerPort.toUInt16 = 0 then
      none
    else
      (parse peerAddr).map fun ip => SocketAddr.new ip peerPort.toUInt16
  else
    none

/-- The datagram in the next message, if that is what it carries. -/
def readDatagram (framed : List UInt8) : Option UdpDatagram :=
  match RecvStream.readMsg Envelope.decode ⟨framed, .finished⟩ with
  | .ok (some (⟨some (.udpDatagram dgram)⟩, _)) => some dgram
  | _ => none

/-- What the forwarding side sends back for `data` from its target: the key of
the sender the datagram came from. A datagram without a peer has no sender. -/
def replyTo (received : UdpDatagram) (data : List UInt8) : Option UdpDatagram :=
  if received.peerAddr.isEmpty then
    none
  else
    some { peerAddr := received.peerAddr, peerPort := received.peerPort, data := data }

/-- The encoder behind a sequence of calls. -/
def UdpFrameEncoder.afterCalls (display : IpAddr → String) (order : MapOrder)
    (calls : List (SocketAddr × List UInt8)) : UdpFrameEncoder :=
  calls.foldl (fun encoder call => encoder.frame display order call.1 call.2) new

section ReturnPath

variable (display : IpAddr → String) (parse : String → Option IpAddr) (order replyOrder : MapOrder)

/-- Where the reply to a datagram of `peer` is sent, and what is in it: the
datagram is framed, read by the forwarding side and answered with `data`, and
the answer is written, read and addressed. -/
def returnPath (encoder : UdpFrameEncoder) (peer : SocketAddr) (payload data : List UInt8) :
    Option (SocketAddr × List UInt8) :=
  (readDatagram (encoder.frame display order peer payload).out).bind fun received =>
    (replyTo received data).bind fun reply =>
      (readDatagram (writeMsg (Envelope.encode replyOrder) ⟨some (.udpDatagram reply)⟩)).bind
        fun answer =>
          (datagramPeerAddr parse answer.peerAddr answer.peerPort).map fun dest =>
            (dest, answer.data)

/-- What the standard library promises about the text of an address: it can be
read back, it is never empty, and it has at most 45 bytes. -/
structure ReadsBack (ip : IpAddr) : Prop where
  parse_display : parse (display ip) = some ip
  nonempty : (display ip).isEmpty = false
  short : (FieldCodec.utf8 (display ip)).length ≤ 45

end ReturnPath

/-- Nothing but an IP and a port. -/
def SocketAddr.IsIpAndPort : SocketAddr → Prop
  | .v4 _ _ => True
  | .v6 _ _ flowinfo scopeId => flowinfo = 0 ∧ scopeId = 0

theorem SocketAddr.new_eq_self_iff (peer : SocketAddr) :
    SocketAddr.new peer.ip peer.port = peer ↔ peer.IsIpAndPort := by
  cases peer with
  | v4 ip port => exact iff_of_true rfl trivial
  | v6 ip port flowinfo scopeId =>
      simp [SocketAddr.new, SocketAddr.ip, SocketAddr.port, IsIpAndPort, eq_comm]

/-! ## The size of a framed datagram -/

theorem length_encode_datagram_le (order : MapOrder) (dgram : UdpDatagram) :
    (UdpDatagram.schema.encode order dgram).length ≤
      (FieldCodec.utf8 dgram.peerAddr).length + dgram.data.length + 60 := by
  have whole : UdpDatagram.schema.encode order dgram =
      encodeRecords ((FieldCodec.string.write order dgram.peerAddr).map (Record.mk 1)) ++
        (encodeRecords ((FieldCodec.uint32.write order dgram.peerPort).map (Record.mk 2)) ++
          encodeRecords ((FieldCodec.bytes.write order dgram.data).map (Record.mk 3))) := by
    simp [MessageSchema.encode, MessageSchema.records, UdpDatagram.schema, Field.records,
      encodeRecords]
  have address : (encodeRecords
      ((FieldCodec.string.write order dgram.peerAddr).map (Record.mk 1))).length ≤
        (FieldCodec.utf8 dgram.peerAddr).length + 20 :=
    Nat.le_trans (length_encode_optional_le (ite_eq_or_eq _ _ _) 1)
      (length_encode_delimited_le 1 _)
  have port : (encodeRecords
      ((FieldCodec.uint32.write order dgram.peerPort).map (Record.mk 2))).length ≤ 20 :=
    Nat.le_trans (length_encode_optional_le (ite_eq_or_eq _ _ _) 2)
      (length_encode_varint_record_le _ rfl)
  have data : (encodeRecords
      ((FieldCodec.bytes.write order dgram.data).map (Record.mk 3))).length ≤
        dgram.data.length + 20 :=
    Nat.le_trans (length_encode_optional_le (ite_eq_or_eq _ _ _) 3)
      (length_encode_delimited_le 3 _)
  rw [whole, List.length_append, List.length_append]
  omega

/-- A datagram with the text of an address is far below the reader's limit. -/
theorem readDatagram_writeMsg (order : MapOrder) {dgram : UdpDatagram}
    (address : (FieldCodec.utf8 dgram.peerAddr).length ≤ 45)
    (data : dgram.data.length ≤ receiveBuffer) :
    readDatagram (writeMsg (Envelope.encode order) ⟨some (.udpDatagram dgram)⟩) = some dgram := by
  have fits : ((envelopeCodec order).encode ⟨some (.udpDatagram dgram)⟩).length ≤
      maxMessageBytes := by
    have inner := length_encode_datagram_le order dgram
    have outer := length_encode_delimited_le 12 (UdpDatagram.schema.encode order dgram)
    have limit : receiveBuffer + 200 ≤ maxMessageBytes := by decide
    show (Envelope.encode order ⟨some (.udpDatagram dgram)⟩).length ≤ maxMessageBytes
    rw [UdpFrameEncoder.encode_udpDatagram, embeddedEncode]
    omega
  have read := readMsg_writeMsg (envelopeCodec order) fits [] .finished
  rw [List.append_nil] at read
  have sent : RecvStream.readMsg Envelope.decode
      ⟨writeMsg (Envelope.encode order) ⟨some (.udpDatagram dgram)⟩, .finished⟩ =
        .ok (some (⟨some (.udpDatagram dgram)⟩, ⟨[], .finished⟩)) := read
  rw [readDatagram, sent]

/-! ## The way back -/

theorem cached_afterCalls (display : IpAddr → String) (order : MapOrder)
    (calls : List (SocketAddr × List UInt8)) :
    UdpFrameEncoder.Cached display (UdpFrameEncoder.afterCalls display order calls) := by
  have run : ∀ encoder, UdpFrameEncoder.Cached display encoder →
      UdpFrameEncoder.Cached display
        (calls.foldl (fun encoder call => encoder.frame display order call.1 call.2) encoder) := by
    induction calls with
    | nil => exact fun _ cached => cached
    | cons call rest inductionHypothesis =>
        intro encoder cached
        exact inductionHypothesis _ (cached.frame order call.1 call.2)
  exact run _ (UdpFrameEncoder.cached_new display)

/-- A port that was widened on the wire is narrowed back. -/
theorem datagramPeerAddr_display {display : IpAddr → String} {parse : String → Option IpAddr}
    {peer : SocketAddr} (readsBack : ReadsBack display parse peer.ip) (usable : peer.port ≠ 0) :
    datagramPeerAddr parse (display peer.ip) peer.port.toUInt32 =
      some (SocketAddr.new peer.ip peer.port) := by
  have narrow : peer.port.toUInt32.toNat < 2 ^ 16 := by
    rw [UInt16.toNat_toUInt32]
    exact peer.port.toNat_lt
  rw [datagramPeerAddr, if_pos narrow, UInt16.toUInt16_toUInt32, if_neg usable,
    readsBack.parse_display, Option.map_some]

section ReturnPath

variable {display : IpAddr → String} {parse : String → Option IpAddr} {order replyOrder : MapOrder}
variable {peer : SocketAddr} (readsBack : ReadsBack display parse peer.ip) (usable : peer.port ≠ 0)
variable {payload data : List UInt8} (received : payload.length ≤ receiveBuffer)
  (replied : data.length ≤ receiveBuffer)

include readsBack usable received replied

/-- The reply is sent to the IP and the port of the peer. -/
theorem returnPath_eq (calls : List (SocketAddr × List UInt8)) :
    returnPath display parse order replyOrder
        (UdpFrameEncoder.afterCalls display order calls) peer payload data =
      some (SocketAddr.new peer.ip peer.port, data) := by
  have framed :=
    UdpFrameEncoder.out_frame order (cached_afterCalls display order calls) peer payload
  have forwarded : readDatagram
      (writeMsg (Envelope.encode order) (UdpFrameEncoder.plainEnvelope display peer payload)) =
        some ⟨display peer.ip, peer.port.toUInt32, payload⟩ :=
    readDatagram_writeMsg order readsBack.short received
  have answered : readDatagram (writeMsg (Envelope.encode replyOrder)
      ⟨some (.udpDatagram ⟨display peer.ip, peer.port.toUInt32, data⟩)⟩) =
        some ⟨display peer.ip, peer.port.toUInt32, data⟩ :=
    readDatagram_writeMsg replyOrder readsBack.short replied
  rw [returnPath, framed, forwarded, Option.bind_some, replyTo,
    if_neg (by simp [readsBack.nonempty]), Option.bind_some, answered, Option.bind_some,
    datagramPeerAddr_display readsBack usable, Option.map_some]

/-- **A reply is sent to the address its datagram came from exactly if that
address is nothing but an IP and a port, whatever was framed before it.** -/
theorem reply_returns_iff (calls : List (SocketAddr × List UInt8)) :
    (returnPath display parse order replyOrder
        (UdpFrameEncoder.afterCalls display order calls) peer payload data).map Prod.fst =
      some peer ↔ peer.IsIpAndPort := by
  rw [returnPath_eq readsBack usable received replied calls, Option.map_some, Option.some.injEq,
    SocketAddr.new_eq_self_iff]

end ReturnPath

/-- A peer with a global address. -/
def globalPeer : SocketAddr :=
  .v6 #v[0x2001, 0xDB8, 0, 0, 0, 0, 0, 1] 4433 0 0

/-- A link-local peer on the second interface. -/
def linkLocalPeer : SocketAddr :=
  .v6 #v[0xFE80, 0, 0, 0, 0, 0, 0, 1] 5000 0 2

/-- The texts of the two addresses. -/
def sampleDisplay (ip : IpAddr) : String :=
  if ip = linkLocalPeer.ip then "fe80::1" else "2001:db8::1"

def sampleParse (text : String) : Option IpAddr :=
  if text = "fe80::1" then some linkLocalPeer.ip
  else if text = "2001:db8::1" then some globalPeer.ip
  else none

theorem readsBack_globalPeer : ReadsBack sampleDisplay sampleParse globalPeer.ip where
  parse_display := by decide
  nonempty := by decide
  short := by decide

theorem readsBack_linkLocalPeer : ReadsBack sampleDisplay sampleParse linkLocalPeer.ip where
  parse_display := by decide
  nonempty := by decide
  short := by decide

/-- The global peer gets its reply, also behind a datagram of another peer. -/
theorem globalPeer_gets_reply :
    (returnPath sampleDisplay sampleParse (.ascending UInt32 UInt64) (.ascending UInt32 UInt64)
        (UdpFrameEncoder.afterCalls sampleDisplay (.ascending UInt32 UInt64) [(linkLocalPeer, [7])])
        globalPeer [1] [2]).map Prod.fst = some globalPeer :=
  (reply_returns_iff readsBack_globalPeer (by decide) (by decide) (by decide) _).mpr ⟨rfl, rfl⟩

/-- The reply to the link-local peer is sent to its address without the
interface, which is another socket address. -/
theorem linkLocalPeer_loses_interface :
    (returnPath sampleDisplay sampleParse (.ascending UInt32 UInt64) (.ascending UInt32 UInt64)
        (UdpFrameEncoder.afterCalls sampleDisplay (.ascending UInt32 UInt64) [])
        linkLocalPeer [1] [2]).map Prod.fst =
          some (.v6 #v[0xFE80, 0, 0, 0, 0, 0, 0, 1] 5000 0 0) ∧
      SocketAddr.v6 #v[0xFE80, 0, 0, 0, 0, 0, 0, 1] 5000 0 0 ≠ linkLocalPeer := by
  rw [returnPath_eq readsBack_linkLocalPeer (by decide) (by decide) (by decide)]
  exact ⟨rfl, by decide⟩

end Etr.Forward
