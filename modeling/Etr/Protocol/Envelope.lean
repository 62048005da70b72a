import Etr.Protocol.Messages

/-!
Contract: the envelope of `src/protocol/mod.rs` and its protobuf encoding.

Owns the payload variants with their tags, the separately declared oneof tag
list of `Envelope`, encoding, decoding, and the round trip of every envelope.

Does not own the length prefix around an encoded envelope.
-/

namespace Etr.Protocol

open Etr.Library

/-- All message types that travel inside an `Envelope`. -/
inductive Payload where
  | streamOpen (body : StreamOpen)
  | streamClose (body : StreamClose)
  | terminalResize (body : TerminalResize)
  | heartbeat (body : Heartbeat)
  | disconnect (body : Disconnect)
  | sessionOpen (body : SessionOpen)
  | sessionAccept (body : SessionAccept)
  | udpDatagram (body : UdpDatagram)

/-- Top-level envelope. -/
structure Envelope where
  payload : Option Payload

def Payload.streamOpenVariant : Variant MapOrder Payload where
  Body := StreamOpen
  tag := 3
  schema := StreamOpen.schema
  inject := .streamOpen
  project
    | .streamOpen body => some body
    | _ => none

def Payload.streamCloseVariant : Variant MapOrder Payload where
  Body := StreamClose
  tag := 4
  schema := StreamClose.schema
  inject := .streamClose
  project
    | .streamClose body => some body
    | _ => none

def Payload.terminalResizeVariant : Variant MapOrder Payload where
  Body := TerminalResize
  tag := 7
  schema := TerminalResize.schema
  inject := .terminalResize
  project
    | .terminalResize body => some body
    | _ => none

def Payload.heartbeatVariant : Variant MapOrder Payload where
  Body := Heartbeat
  tag := 8
  schema := Heartbeat.schema
  inject := .heartbeat
  project
    | .heartbeat body => some body
    | _ => none

def Payload.disconnectVariant : Variant MapOrder Payload where
  Body := Disconnect
  tag := 9
  schema := Disconnect.schema
  inject := .disconnect
  project
    | .disconnect body => some body
    | _ => none

def Payload.sessionOpenVariant : Variant MapOrder Payload where
  Body := SessionOpen
  tag := 10
  schema := SessionOpen.schema
  inject := .sessionOpen
  project
    | .sessionOpen body => some body
    | _ => none

def Payload.sessionAcceptVariant : Variant MapOrder Payload where
  Body := SessionAccept
  tag := 11
  schema := SessionAccept.schema
  inject := .sessionAccept
  project
    | .sessionAccept body => some body
    | _ => none

def Payload.udpDatagramVariant : Variant MapOrder Payload where
  Body := UdpDatagram
  tag := 12
  schema := UdpDatagram.schema
  inject := .udpDatagram
  project
    | .udpDatagram body => some body
    | _ => none

/-- `Payload` with the tags on its variants. -/
def Payload.schema : OneofSchema MapOrder Payload where
  variants :=
    [streamOpenVariant, streamCloseVariant, terminalResizeVariant, heartbeatVariant,
      disconnectVariant, sessionOpenVariant, sessionAcceptVariant, udpDatagramVariant]
  tagsInRange := by
    simp [streamOpenVariant, streamCloseVariant, terminalResizeVariant, heartbeatVariant,
      disconnectVariant, sessionOpenVariant, sessionAcceptVariant, udpDatagramVariant, TagInRange]
  tagsDistinct := by
    simp [streamOpenVariant, streamCloseVariant, terminalResizeVariant, heartbeatVariant,
      disconnectVariant, sessionOpenVariant, sessionAcceptVariant, udpDatagramVariant]
  shallow := by decide
  exclusive := by
    simp [streamOpenVariant, streamCloseVariant, terminalResizeVariant, heartbeatVariant,
      disconnectVariant, sessionOpenVariant, sessionAcceptVariant, udpDatagramVariant]
  covered := by
    intro payload
    cases payload with
    | streamOpen body => exact ⟨streamOpenVariant, by simp, body, rfl⟩
    | streamClose body => exact ⟨streamCloseVariant, by simp, body, rfl⟩
    | terminalResize body => exact ⟨terminalResizeVariant, by simp, body, rfl⟩
    | heartbeat body => exact ⟨heartbeatVariant, by simp, body, rfl⟩
    | disconnect body => exact ⟨disconnectVariant, by simp, body, rfl⟩
    | sessionOpen body => exact ⟨sessionOpenVariant, by simp, body, rfl⟩
    | sessionAccept body => exact ⟨sessionAcceptVariant, by simp, body, rfl⟩
    | udpDatagram body => exact ⟨udpDatagramVariant, by simp, body, rfl⟩

namespace Envelope

/-- `oneof = "Payload", tags = "3, 4, 7, 8, 9, 10, 11, 12"`. -/
def payloadTags : List Nat := [3, 4, 7, 8, 9, 10, 11, 12]

def encode (order : MapOrder) (envelope : Envelope) : List UInt8 :=
  Payload.schema.encode order envelope.payload

/-- `Envelope::decode`. -/
def decode (bytes : List UInt8) : Option Envelope :=
  (Payload.schema.decode payloadTags bytes).map Envelope.mk

/-- The group of a field that no message has is skipped. -/
example : decode [11, 12] = some ⟨none⟩ := rfl

theorem payloadTags_eq : payloadTags = Payload.schema.variants.map Variant.tag := rfl

theorem decode_encode {order : MapOrder} {envelope : Envelope}
    (bounded : (encode order envelope).length < 2 ^ 64) :
    decode (encode order envelope) = some envelope := by
  rw [decode, encode, Payload.schema.decode_encode payloadTags_eq order envelope.payload bounded,
    Option.map_some]

/-- A truncated encoding decodes to nothing, or is empty and decodes to the empty
envelope. -/
theorem decode_front {order : MapOrder} {envelope : Envelope}
    (bounded : (encode order envelope).length < 2 ^ 64) {count : Nat}
    (short : count < (encode order envelope).length) :
    decode ((encode order envelope).take count) = if count = 0 then some ⟨none⟩ else none := by
  by_cases empty : count = 0
  · rw [if_pos empty, empty]
    rfl
  · rw [if_neg empty, decode, encode, Payload.schema.decode_front payloadTags_eq order
      envelope.payload bounded (Nat.pos_of_ne_zero empty) short, Option.map_none]

/-- **Every envelope survives the wire, in whatever order the writer's maps are
iterated: the tags of each message and of the payload are distinct, and the
oneof tag list is that of the variants.** The encoding is a byte vector, so its
length fits 64 bits. -/
theorem envelope_survives_wire (order : MapOrder) (envelope : Envelope)
    (fits : (encode order envelope).length < 2 ^ 64) :
    decode (encode order envelope) = some envelope ∧
      payloadTags = Payload.schema.variants.map Variant.tag ∧ payloadTags.Nodup ∧
      ∀ variant ∈ Payload.schema.variants, (variant.schema.fields.map Field.tag).Nodup :=
  ⟨decode_encode fits, payloadTags_eq, by decide,
    fun variant _ => variant.schema.tagsDistinct⟩

/-- A header with an unknown negative enumeration and a port of zero. -/
theorem streamOpen_survives_wire :
    decode (encode (.ascending UInt32 UInt64)
        ⟨some (.streamOpen ⟨7, -3, "localhost", 0, 9⟩)⟩) =
      some ⟨some (.streamOpen ⟨7, -3, "localhost", 0, 9⟩)⟩ := by
  have fits : (encode (.ascending UInt32 UInt64)
      ⟨some (.streamOpen ⟨7, -3, "localhost", 0, 9⟩)⟩).length < 2 ^ 64 := by
    decide
  exact (envelope_survives_wire _ _ fits).1

end Envelope

end Etr.Protocol
