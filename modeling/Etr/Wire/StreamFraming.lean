import Etr.Protocol.Envelope
import Etr.Wire.Framing
import Mathlib.Tactic.Ring

/-!
Contract: writing frames to a QUIC stream, as `src/quic.rs` does it, and
reading a whole stream of frames back.

Owns the two frame writers, big-endian numbers, the repeated read until
`Ok(None)`, and the inversion of both framings over streams of any length.

Does not own stream failures. A codec of message bodies carries its round trip
for every body a reader accepts.
-/

namespace Etr.Wire

open Etr.Session

/-! ## Writers -/

/-- `to_be_bytes` of a number cast to `width` bytes. -/
def toBeBytes : Nat → Nat → List UInt8
  | 0, _ => []
  | width + 1, value => UInt8.ofNat (value / 256 ^ width) :: toBeBytes width value

/-- How message bodies are encoded and decoded. -/
structure BodyCodec (Message : Type) where
  encode : Message → List UInt8
  decode : List UInt8 → Option Message
  decode_encode : ∀ message, (encode message).length ≤ maxMessageBytes →
    decode (encode message) = some message

/-- `write_framed`: bytes that carry their length prefix already. -/
def writeFramed (framed : List UInt8) : List UInt8 :=
  framed

/-- The bytes `write_msg` puts on the stream. -/
def writeMsg {Message : Type} (encode : Message → List UInt8) (message : Message) :
    List UInt8 :=
  writeFramed (toBeBytes 4 (encode message).length ++ encode message)

/-- The bytes `write_pty_chunk` puts on the stream. -/
def writePtyChunk (chunk : Chunk) : List UInt8 :=
  toBeBytes 8 chunk.1 ++ toBeBytes 4 chunk.2.length ++ chunk.2

/-- Envelopes in protobuf, with the writer's map order. -/
def envelopeCodec (order : Protocol.MapOrder) : BodyCodec Protocol.Envelope where
  encode := Protocol.Envelope.encode order
  decode := Protocol.Envelope.decode
  decode_encode := by
    intro envelope accepted
    apply Protocol.Envelope.decode_encode
    exact Nat.lt_of_le_of_lt accepted (by decide)

/-! ## Big-endian numbers -/

@[simp] theorem length_toBeBytes (width value : Nat) : (toBeBytes width value).length = width := by
  induction width with
  | zero => rfl
  | succ width inductionHypothesis => rw [toBeBytes, List.length_cons, inductionHypothesis]

/-- The accumulator of `fromBeBytes` peels out. -/
theorem foldl_be_eq (bytes : List UInt8) (high : Nat) :
    bytes.foldl (fun value byte => value * 256 + byte.toNat) high =
      high * 256 ^ bytes.length + fromBeBytes bytes := by
  unfold fromBeBytes
  induction bytes generalizing high with
  | nil => simp
  | cons byte rest inductionHypothesis =>
      rw [List.foldl_cons, List.foldl_cons, inductionHypothesis, inductionHypothesis (0 * 256 + _),
        List.length_cons, Nat.pow_succ]
      ring

theorem fromBeBytes_cons (byte : UInt8) (rest : List UInt8) :
    fromBeBytes (byte :: rest) = byte.toNat * 256 ^ rest.length + fromBeBytes rest := by
  have peeled := foldl_be_eq rest byte.toNat
  simpa [fromBeBytes] using peeled

theorem fromBeBytes_lt (bytes : List UInt8) : fromBeBytes bytes < 256 ^ bytes.length := by
  induction bytes with
  | nil => decide
  | cons byte rest inductionHypothesis =>
      have digit := byte.toNat_lt
      have product : (byte.toNat + 1) * 256 ^ rest.length ≤ 256 * 256 ^ rest.length :=
        Nat.mul_le_mul_right _ digit
      rw [fromBeBytes_cons, List.length_cons, Nat.pow_succ, Nat.mul_comm (256 ^ rest.length)]
      rw [Nat.add_mul, Nat.one_mul] at product
      omega

theorem fromBeBytes_toBeBytes (width value : Nat) :
    fromBeBytes (toBeBytes width value) = value % 256 ^ width := by
  induction width with
  | zero => simp [toBeBytes, fromBeBytes, Nat.mod_one]
  | succ width inductionHypothesis =>
      have digits : value % 256 ^ (width + 1) =
          value % 256 ^ width + 256 ^ width * (value / 256 ^ width % 256) := Nat.mod_pow_succ
      have byte : (UInt8.ofNat (value / 256 ^ width)).toNat = value / 256 ^ width % 256 :=
        UInt8.toNat_ofNat'
      rw [toBeBytes, fromBeBytes_cons, length_toBeBytes, inductionHypothesis, byte, digits]
      ring

theorem fromBeBytes_toBeBytes_of_lt {width value : Nat} (fits : value < 256 ^ width) :
    fromBeBytes (toBeBytes width value) = value := by
  rw [fromBeBytes_toBeBytes, Nat.mod_eq_of_lt fits]

/-- Only the low digits are written. -/
theorem toBeBytes_add_mul (width value high : Nat) :
    toBeBytes width (high * 256 ^ width + value) = toBeBytes width value := by
  induction width generalizing high with
  | zero => rfl
  | succ width inductionHypothesis =>
      have split : high * 256 ^ (width + 1) + value = high * 256 * 256 ^ width + value := by
        rw [Nat.pow_succ]
        ring
      have digit : UInt8.ofNat ((high * 256 * 256 ^ width + value) / 256 ^ width) =
          UInt8.ofNat (value / 256 ^ width) := by
        rw [Nat.add_comm, Nat.add_mul_div_right value (high * 256) (Nat.pow_pos (by decide))]
        apply UInt8.toNat_inj.mp
        rw [UInt8.toNat_ofNat', UInt8.toNat_ofNat']
        omega
      rw [split, toBeBytes, toBeBytes, inductionHypothesis, digit]

theorem toBeBytes_fromBeBytes (bytes : List UInt8) :
    toBeBytes bytes.length (fromBeBytes bytes) = bytes := by
  induction bytes with
  | nil => rfl
  | cons byte rest inductionHypothesis =>
      have below := fromBeBytes_lt rest
      rw [List.length_cons, fromBeBytes_cons, toBeBytes, toBeBytes_add_mul, inductionHypothesis,
        Nat.add_comm, Nat.add_mul_div_right _ _ (Nat.pow_pos (by decide)),
        Nat.div_eq_of_lt below, Nat.zero_add, UInt8.ofNat_toNat]

theorem toBeBytes_fromBeBytes_of_length {width : Nat} {bytes : List UInt8}
    (sized : bytes.length = width) : toBeBytes width (fromBeBytes bytes) = bytes := by
  rw [← sized]
  exact toBeBytes_fromBeBytes bytes

/-! ## One frame -/

theorem readExact_append {count : Nat} {taken rest : List UInt8} {ending : StreamEnd}
    (sized : taken.length = count) :
    RecvStream.readExact ⟨taken ++ rest, ending⟩ count = .ok (taken, ⟨rest, ending⟩) := by
  subst sized
  simp [RecvStream.readExact]

/-- What an exact read returns is the front of the stream. -/
theorem readExact_eq_ok {stream rest : RecvStream} {count : Nat} {taken : List UInt8}
    (read : stream.readExact count = .ok (taken, rest)) :
    stream.bytes = taken ++ rest.bytes ∧ taken.length = count ∧ rest.ending = stream.ending := by
  unfold RecvStream.readExact at read
  split at read
  · rename_i enough
    cases read
    exact ⟨(List.take_append_drop count stream.bytes).symm, List.length_take_of_le enough, rfl⟩
  · split at read <;> contradiction

theorem readMsg_writeMsg {Message : Type} (codec : BodyCodec Message) {message : Message}
    (fits : (codec.encode message).length ≤ maxMessageBytes) (rest : List UInt8)
    (ending : StreamEnd) :
    RecvStream.readMsg codec.decode ⟨writeMsg codec.encode message ++ rest, ending⟩ =
      .ok (some (message, ⟨rest, ending⟩)) := by
  have prefixRead : RecvStream.readExact ⟨writeMsg codec.encode message ++ rest, ending⟩ 4 =
      .ok (toBeBytes 4 (codec.encode message).length,
        ⟨codec.encode message ++ rest, ending⟩) := by
    rw [writeMsg, writeFramed, List.append_assoc]
    exact readExact_append (length_toBeBytes 4 _)
  have length : fromBeBytes (toBeBytes 4 (codec.encode message).length) =
      (codec.encode message).length :=
    fromBeBytes_toBeBytes_of_lt (Nat.lt_of_le_of_lt fits (by decide))
  have body : RecvStream.readExact ⟨codec.encode message ++ rest, ending⟩
      (codec.encode message).length = .ok (codec.encode message, ⟨rest, ending⟩) :=
    readExact_append rfl
  simp only [RecvStream.readMsg, prefixRead, length, if_neg (Nat.not_lt.mpr fits), body,
    codec.decode_encode message fits]

theorem readPtyChunk_writePtyChunk {chunk : Chunk} (representable : chunk.1 < 2 ^ 64)
    (fits : chunk.2.length ≤ maxChunkBytes) (rest : List UInt8) (ending : StreamEnd) :
    RecvStream.readPtyChunk ⟨writePtyChunk chunk ++ rest, ending⟩ =
      .ok (some (chunk, ⟨rest, ending⟩)) := by
  have sequence := length_toBeBytes 8 chunk.1
  have header : RecvStream.readExact ⟨writePtyChunk chunk ++ rest, ending⟩ 12 =
      .ok (toBeBytes 8 chunk.1 ++ toBeBytes 4 chunk.2.length, ⟨chunk.2 ++ rest, ending⟩) := by
    rw [writePtyChunk, List.append_assoc]
    exact readExact_append (by simp)
  have seq : fromBeBytes (toBeBytes 8 chunk.1) = chunk.1 :=
    fromBeBytes_toBeBytes_of_lt (Nat.lt_of_lt_of_eq representable (by decide))
  have length : fromBeBytes (toBeBytes 4 chunk.2.length) = chunk.2.length :=
    fromBeBytes_toBeBytes_of_lt (Nat.lt_of_le_of_lt fits (by decide))
  have body : RecvStream.readExact ⟨chunk.2 ++ rest, ending⟩ chunk.2.length =
      .ok (chunk.2, ⟨rest, ending⟩) :=
    readExact_append rfl
  simp only [RecvStream.readPtyChunk, header, List.drop_left' sequence, List.take_left' sequence,
    seq, length, if_neg (Nat.not_lt.mpr fits), body]

/-- A chunk that was read is the front of the stream, as the writer writes it. -/
theorem writePtyChunk_of_readPtyChunk {stream rest : RecvStream} {chunk : Chunk}
    (read : stream.readPtyChunk = .ok (some (chunk, rest))) :
    stream.bytes = writePtyChunk chunk ++ rest.bytes := by
  unfold RecvStream.readPtyChunk at read
  split at read
  · cases read
  · cases read
  · rename_i header body headerRead
    split at read
    · contradiction
    · split at read
      · contradiction
      · rename_i data remaining dataRead
        cases read
        rcases readExact_eq_ok headerRead with ⟨front, headerLength, -⟩
        rcases readExact_eq_ok dataRead with ⟨content, dataLength, -⟩
        have sequence := toBeBytes_fromBeBytes_of_length
          (show (header.take 8).length = 8 by simp [headerLength])
        have length := toBeBytes_fromBeBytes_of_length
          (show (header.drop 8).length = 4 by simp [headerLength])
        rw [front, content, writePtyChunk, dataLength, sequence, length, List.take_append_drop,
          List.append_assoc]

/-! ## Whole streams -/

/-- Reading again and again yields these items, and `Ok(None)` at `last`. -/
inductive ReadsAll {Item : Type}
    (read : RecvStream → Except ErrorKind (Option (Item × RecvStream))) :
    RecvStream → List Item → RecvStream → Prop where
  | ended {last : RecvStream} (closed : read last = .ok none) : ReadsAll read last [] last
  | item {stream rest last : RecvStream} {item : Item} {items : List Item}
      (first : read stream = .ok (some (item, rest))) (others : ReadsAll read rest items last) :
      ReadsAll read stream (item :: items) last

theorem readsAll_flatMap {Item : Type}
    {read : RecvStream → Except ErrorKind (Option (Item × RecvStream))}
    {write : Item → List UInt8} {ending : StreamEnd} {items : List Item}
    (inverse : ∀ item ∈ items, ∀ rest,
      read ⟨write item ++ rest, ending⟩ = .ok (some (item, ⟨rest, ending⟩)))
    (closed : read ⟨[], ending⟩ = .ok none) :
    ReadsAll read ⟨items.flatMap write, ending⟩ items ⟨[], ending⟩ := by
  induction items with
  | nil => exact .ended closed
  | cons item rest inductionHypothesis =>
      have parts := List.forall_mem_cons.mp inverse
      rw [List.flatMap_cons]
      exact .item (parts.1 (rest.flatMap write)) (inductionHypothesis parts.2)

/-- A read stream is the frames of its items and what the last read left. -/
theorem bytes_eq_of_readsAll {Item : Type}
    {read : RecvStream → Except ErrorKind (Option (Item × RecvStream))}
    {write : Item → List UInt8} {stream last : RecvStream} {items : List Item}
    (inverse : ∀ {stream rest : RecvStream} {item : Item},
      read stream = .ok (some (item, rest)) → stream.bytes = write item ++ rest.bytes)
    (reads : ReadsAll read stream items last) :
    stream.bytes = items.flatMap write ++ last.bytes := by
  induction reads with
  | ended closed => rfl
  | item first others inductionHypothesis =>
      rw [inverse first, inductionHypothesis, List.flatMap_cons, List.append_assoc]

/-- **Both framings are inverted by their readers over whole streams, and a
byte string the PTY reader reads up to a boundary is the frames of what it
returned.** -/
theorem stream_framings_inverted {Message : Type} (codec : BodyCodec Message)
    (messages : List Message) (chunks : List Chunk)
    (messagesFit : ∀ message ∈ messages, (codec.encode message).length ≤ maxMessageBytes)
    (chunksFit : ∀ chunk ∈ chunks, chunk.1 < 2 ^ 64 ∧ chunk.2.length ≤ maxChunkBytes) :
    ReadsAll (RecvStream.readMsg codec.decode)
        ⟨messages.flatMap (writeMsg codec.encode), .finished⟩ messages ⟨[], .finished⟩ ∧
      ReadsAll RecvStream.readPtyChunk
        ⟨chunks.flatMap writePtyChunk, .finished⟩ chunks ⟨[], .finished⟩ ∧
      ∀ bytes read, ReadsAll RecvStream.readPtyChunk ⟨bytes, .finished⟩ read ⟨[], .finished⟩ →
        bytes = read.flatMap writePtyChunk := by
  refine ⟨readsAll_flatMap ?_ rfl, readsAll_flatMap ?_ rfl, ?_⟩
  · intro message member rest
    exact readMsg_writeMsg codec (messagesFit message member) rest .finished
  · intro chunk member rest
    have fits := chunksFit chunk member
    exact readPtyChunk_writePtyChunk fits.1 fits.2 rest .finished
  · intro bytes read reads
    have same := bytes_eq_of_readsAll writePtyChunk_of_readPtyChunk reads
    simpa using same

/-- Two envelopes and two chunks, one of them empty. -/
theorem disconnect_and_chunks_inverted :
    ReadsAll (RecvStream.readMsg Protocol.Envelope.decode)
      ⟨[⟨none⟩, ⟨some (.disconnect ⟨⟩)⟩].flatMap
        (writeMsg (envelopeCodec (.ascending UInt32 UInt64)).encode), .finished⟩
      [⟨none⟩, ⟨some (.disconnect ⟨⟩)⟩] ⟨[], .finished⟩ ∧
    ReadsAll RecvStream.readPtyChunk
      ⟨[(1, [104, 105]), (2 ^ 64 - 1, [])].flatMap writePtyChunk, .finished⟩
      [(1, [104, 105]), (2 ^ 64 - 1, [])] ⟨[], .finished⟩ := by
  have inverted := stream_framings_inverted (envelopeCodec (.ascending UInt32 UInt64))
    [⟨none⟩, ⟨some (.disconnect ⟨⟩)⟩] [(1, [104, 105]), (2 ^ 64 - 1, [])]
    (by decide) (by decide)
  exact ⟨inverted.1, inverted.2.1⟩

end Etr.Wire
