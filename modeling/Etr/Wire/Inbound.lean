import Etr.Wire.Framing

/-!
Contract: reading from a QUIC stream whose peer may still be writing.

Owns the stream as it stands when a task polls it, the stream tags, and the
polled forms of `read_tag` and `read_msg`: a read that needs bytes which have
not arrived, on a stream that has not ended, is pending.

Does not own waiting; a pending read is `none`.
-/

namespace Etr.Wire

def tagControl : UInt8 := 0x01

def tagPty : UInt8 := 0x02

def tagForward : UInt8 := 0x03

/-- The unread bytes that have arrived. -/
structure InboundStream where
  bytes : List UInt8
  /-- `none` while the peer has not ended the stream. -/
  ending : Option StreamEnd
deriving DecidableEq, Repr

namespace InboundStream

/-- The stream for a read that stays within the arrived bytes or meets the end. -/
def settled (stream : InboundStream) : RecvStream :=
  ⟨stream.bytes, stream.ending.getD .lost⟩

/-- `read_tag`. -/
def pollTag (stream : InboundStream) : Option (Except ErrorKind (UInt8 × InboundStream)) :=
  match stream.bytes, stream.ending with
  | tag :: rest, ending => some (.ok (tag, ⟨rest, ending⟩))
  | [], some _ => some (.error .brokenPipe)
  | [], none => none

/-- `read_msg` waits for its length prefix, or for a body it accepts. -/
def MessagePending (stream : InboundStream) : Prop :=
  stream.ending = none ∧
    (stream.bytes.length < 4 ∨
      fromBeBytes (stream.bytes.take 4) ≤ maxMessageBytes ∧
        stream.bytes.length < 4 + fromBeBytes (stream.bytes.take 4))

instance (stream : InboundStream) : Decidable stream.MessagePending :=
  inferInstanceAs (Decidable (_ ∧ _))

/-- `read_msg`. -/
def pollMsg {Envelope : Type} (decode : List UInt8 → Option Envelope)
    (stream : InboundStream) : Option (Except ErrorKind (Option (Envelope × InboundStream))) :=
  if stream.MessagePending then
    none
  else
    some <| (stream.settled.readMsg decode).map fun message =>
      message.map fun read => (read.1, ⟨read.2.bytes, stream.ending⟩)

/-- The front of the stream is a whole frame that `read_msg` accepts. -/
def CompleteMessage {Envelope : Type} (decode : List UInt8 → Option Envelope)
    (stream : InboundStream) : Prop :=
  4 ≤ stream.bytes.length ∧
    fromBeBytes (stream.bytes.take 4) ≤ maxMessageBytes ∧
    fromBeBytes (stream.bytes.take 4) ≤ (stream.bytes.drop 4).length ∧
    (decode ((stream.bytes.drop 4).take (fromBeBytes (stream.bytes.take 4)))).isSome

instance {Envelope : Type} (decode : List UInt8 → Option Envelope) (stream : InboundStream) :
    Decidable (stream.CompleteMessage decode) :=
  inferInstanceAs (Decidable (_ ∧ _ ∧ _ ∧ _))

section Messages

variable {Envelope : Type} {decode : List UInt8 → Option Envelope} {stream : InboundStream}

/-- A complete frame is returned, whatever lies behind it. -/
theorem pollMsg_of_complete (complete : stream.CompleteMessage decode) :
    ∃ envelope rest,
      decode ((stream.bytes.drop 4).take (fromBeBytes (stream.bytes.take 4))) = some envelope ∧
        stream.pollMsg decode = some (.ok (some (envelope, rest))) := by
  rcases complete with ⟨prefixArrived, accepted, bodyArrived, decodes⟩
  rcases Option.isSome_iff_exists.mp decodes with ⟨envelope, decoded⟩
  have ready : ¬ stream.MessagePending := by
    rintro ⟨-, short | ⟨-, short⟩⟩
    · omega
    · rw [List.length_drop] at bodyArrived
      omega
  have prefixRead : stream.settled.readExact 4 =
      .ok (stream.bytes.take 4, ⟨stream.bytes.drop 4, stream.settled.ending⟩) :=
    if_pos prefixArrived
  have bodyRead : RecvStream.readExact ⟨stream.bytes.drop 4, stream.settled.ending⟩
      (fromBeBytes (stream.bytes.take 4)) =
      .ok ((stream.bytes.drop 4).take (fromBeBytes (stream.bytes.take 4)),
        ⟨(stream.bytes.drop 4).drop (fromBeBytes (stream.bytes.take 4)),
          stream.settled.ending⟩) :=
    if_pos bodyArrived
  have message : ∃ rest, stream.settled.readMsg decode = .ok (some (envelope, rest)) := by
    simp only [RecvStream.readMsg, prefixRead, if_neg (Nat.not_lt.mpr accepted), bodyRead,
      decoded]
    exact ⟨_, rfl⟩
  rcases message with ⟨rest, message⟩
  refine ⟨envelope, ⟨rest.bytes, stream.ending⟩, decoded, ?_⟩
  rw [pollMsg, if_neg ready, message]
  rfl

/-- Only a complete frame is returned. -/
theorem complete_of_pollMsg {envelope : Envelope} {rest : InboundStream}
    (read : stream.pollMsg decode = some (.ok (some (envelope, rest)))) :
    stream.CompleteMessage decode := by
  unfold pollMsg at read
  split at read
  · contradiction
  · unfold RecvStream.readMsg RecvStream.readExact settled at read
    split at read
    · cases read
    · cases read
    · rename_i prefixBytes body prefixRead
      split at prefixRead
      · rename_i prefixArrived
        cases prefixRead
        split at read
        · cases read
        · rename_i accepted
          split at read
          · cases read
          · rename_i message remaining bodyRead
            split at bodyRead
            · rename_i bodyArrived
              cases bodyRead
              split at read
              · rename_i decoded
                refine ⟨prefixArrived, Nat.not_lt.mp accepted, bodyArrived, ?_⟩
                rw [decoded]
                rfl
              · cases read
            · split at bodyRead <;> cases bodyRead
      · split at prefixRead <;> cases prefixRead

end Messages

end InboundStream

end Etr.Wire
