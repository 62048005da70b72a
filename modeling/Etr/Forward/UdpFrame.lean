import Etr.Wire.StreamFraming

/-!
Contract: `UdpFrameEncoder` of `src/forward.rs`.

Owns the encoder with its cached address, reused message and reused buffer,
and its equality with the plain path over any sequence of calls.

Does not own how an address is displayed: `display` stands for the text of an
address, and both paths use the same one.
-/

namespace Etr.Forward

open Etr.Library Etr.Protocol Etr.Wire

/-- `std::net::IpAddr`. -/
inductive IpAddr where
  | v4 (octets : Vector UInt8 4)
  | v6 (segments : Vector UInt16 8)
deriving DecidableEq, Repr

/-- `std::net::SocketAddr`. -/
inductive SocketAddr where
  | v4 (ip : Vector UInt8 4) (port : UInt16)
  | v6 (ip : Vector UInt16 8) (port : UInt16) (flowinfo scopeId : UInt32)
deriving DecidableEq, Repr

/-- `ip()`. -/
def SocketAddr.ip : SocketAddr → IpAddr
  | .v4 ip _ => .v4 ip
  | .v6 ip _ _ _ => .v6 ip

/-- `port()`. -/
def SocketAddr.port : SocketAddr → UInt16
  | .v4 _ port => port
  | .v6 _ port _ _ => port

/-- `SocketAddr::new`: no flow information and no scope. -/
def SocketAddr.new (ip : IpAddr) (port : UInt16) : SocketAddr :=
  match ip with
  | .v4 octets => .v4 octets port
  | .v6 segments => .v6 segments port 0 0

/-- `prost::encoding::message::encoded_len`. -/
def embeddedEncodedLen (order : MapOrder) (tag : Nat) (dgram : UdpDatagram) : Nat :=
  let length := (UdpDatagram.schema.encode order dgram).length
  (Varint.encode (UInt64.ofNat (tag * 8))).length +
    (Varint.encode (UInt64.ofNat length)).length + length

/-- `prost::encoding::message::encode`. -/
def embeddedEncode (order : MapOrder) (tag : Nat) (dgram : UdpDatagram) : List UInt8 :=
  (Record.mk tag (.delimited (UdpDatagram.schema.encode order dgram))).encode

structure UdpFrameEncoder where
  /-- Reused message. -/
  dgram : UdpDatagram
  /-- The address `dgram.peerAddr` holds the text for. -/
  cachedIp : Option IpAddr
  /-- Framed output of the last call. -/
  out : List UInt8
deriving DecidableEq, Repr

namespace UdpFrameEncoder

variable (display : IpAddr → String) (order : MapOrder)

def new : UdpFrameEncoder where
  dgram := ⟨"", 0, []⟩
  cachedIp := none
  out := []

/-- Rewrite the text unless it is that of `ip` already. -/
def cacheIp (encoder : UdpFrameEncoder) (ip : IpAddr) : UdpFrameEncoder :=
  if encoder.cachedIp ≠ some ip then
    { encoder with
      dgram := { encoder.dgram with peerAddr := display ip }
      cachedIp := some ip }
  else
    encoder

/-- Frame one datagram; the returned slice is `out`. -/
def frame (encoder : UdpFrameEncoder) (peer : SocketAddr) (payload : List UInt8) :
    UdpFrameEncoder :=
  let cached := encoder.cacheIp display peer.ip
  let dgram := { cached.dgram with peerPort := peer.port.toUInt32, data := payload }
  { dgram := dgram
    cachedIp := cached.cachedIp
    out := toBeBytes 4 (embeddedEncodedLen order 12 dgram) ++ embeddedEncode order 12 dgram }

/-- The slices that a sequence of calls returns. -/
def frames (encoder : UdpFrameEncoder) : List (SocketAddr × List UInt8) → List (List UInt8)
  | [] => []
  | call :: rest =>
      let next := encoder.frame display order call.1 call.2
      next.out :: next.frames rest

/-- The envelope the plain path builds for one datagram. -/
def plainEnvelope (peer : SocketAddr) (payload : List UInt8) : Envelope :=
  ⟨some (.udpDatagram ⟨display peer.ip, peer.port.toUInt32, payload⟩)⟩

/-! ## The hand-encoded envelope -/

theorem length_embeddedEncode (dgram : UdpDatagram) :
    (embeddedEncode order 12 dgram).length = embeddedEncodedLen order 12 dgram := by
  have key : (encodeKey 12 2).length = (Varint.encode (UInt64.ofNat (12 * 8))).length := by
    decide
  simp only [embeddedEncode, embeddedEncodedLen, Record.encode, WireValue.wireType,
    WireValue.payload, List.length_append, key]
  omega

/-- An envelope around a datagram is the oneof field alone. -/
theorem encode_udpDatagram (dgram : UdpDatagram) :
    Envelope.encode order ⟨some (.udpDatagram dgram)⟩ = embeddedEncode order 12 dgram := by
  have written : Payload.schema.recordOf? order (.udpDatagram dgram) =
      some ⟨12, .delimited (UdpDatagram.schema.encode order dgram)⟩ := rfl
  rw [Envelope.encode, OneofSchema.encode, Option.bind_some, written, Option.toList_some,
    encodeRecords, List.flatMap_singleton, embeddedEncode]

/-- The length the encoder asserts at the end of `frame`. -/
theorem length_out_frame (encoder : UdpFrameEncoder) (peer : SocketAddr)
    (payload : List UInt8) :
    (encoder.frame display order peer payload).out.length =
      4 + embeddedEncodedLen order 12 (encoder.frame display order peer payload).dgram := by
  simp only [frame, List.length_append, length_toBeBytes, length_embeddedEncode]

/-! ## The cache -/

/-- The reused text is that of the cached address. -/
def Cached (encoder : UdpFrameEncoder) : Prop :=
  ∀ ip, encoder.cachedIp = some ip → encoder.dgram.peerAddr = display ip

theorem cached_new : Cached display new := by
  intro ip holds
  contradiction

variable {display}

theorem cacheIp_cases {encoder : UdpFrameEncoder} (cached : Cached display encoder)
    (ip : IpAddr) :
    (encoder.cacheIp display ip).cachedIp = some ip ∧
      (encoder.cacheIp display ip).dgram.peerAddr = display ip := by
  unfold cacheIp
  by_cases same : encoder.cachedIp = some ip
  · rw [if_neg (not_not_intro same)]
    exact ⟨same, cached ip same⟩
  · rw [if_pos same]
    exact ⟨rfl, rfl⟩

theorem Cached.frame {encoder : UdpFrameEncoder} (cached : Cached display encoder)
    (peer : SocketAddr) (payload : List UInt8) :
    Cached display (encoder.frame display order peer payload) := by
  have current := cacheIp_cases cached peer.ip
  intro ip holds
  rw [UdpFrameEncoder.frame, current.1, Option.some.injEq] at holds
  subst holds
  exact current.2

/-- One call returns what the plain path sends. -/
theorem out_frame {encoder : UdpFrameEncoder} (cached : Cached display encoder)
    (peer : SocketAddr) (payload : List UInt8) :
    (encoder.frame display order peer payload).out =
      writeMsg (Envelope.encode order) (plainEnvelope display peer payload) := by
  have current := cacheIp_cases cached peer.ip
  rw [writeMsg, writeFramed, plainEnvelope, encode_udpDatagram, length_embeddedEncode]
  simp only [UdpFrameEncoder.frame, current.2]

theorem frames_eq_of_cached {encoder : UdpFrameEncoder} (cached : Cached display encoder)
    (calls : List (SocketAddr × List UInt8)) :
    encoder.frames display order calls =
      calls.map fun call =>
        writeMsg (Envelope.encode order) (plainEnvelope display call.1 call.2) := by
  induction calls generalizing encoder with
  | nil => rfl
  | cons call rest inductionHypothesis =>
      have first := out_frame order cached call.1 call.2
      have others := inductionHypothesis (cached.frame order call.1 call.2)
      rw [frames, List.map_cons, first, others]

variable (display)

/-- **Over any sequence of calls on one encoder, each call returns the bytes
the plain path sends for its own arguments.** -/
theorem frames_eq_plain (calls : List (SocketAddr × List UInt8)) :
    new.frames display order calls =
      calls.map fun call =>
        writeMsg (Envelope.encode order) (plainEnvelope display call.1 call.2) :=
  frames_eq_of_cached order (cached_new display) calls

end UdpFrameEncoder

end Etr.Forward
