import Etr.Wire.StreamFraming

/-!
Contract: streams of frames that end anywhere.

Owns:
- the frames in front of a cut, the frame a cut falls into, and what a reader
  that recognizes truncation makes of them;
- one framing with its laws, of which control messages and PTY chunks are two;
- the exact cuts at which the readers recognize a truncation.

Does not own what the callers do at the end of a stream.
-/

namespace Etr.Wire

open Etr.Session

/-! ## A stream that ends at a cut -/

section Cuts

variable {Item : Type}

/-- Reading again and again yields these items, and then the end: `none` for
`Ok(None)`, or an error. -/
inductive ReadsUntil (read : RecvStream → Except ErrorKind (Option (Item × RecvStream))) :
    RecvStream → List Item → Option ErrorKind → Prop where
  | closed {stream : RecvStream} (ended : read stream = .ok none) :
      ReadsUntil read stream [] none
  | failed {stream : RecvStream} {kind : ErrorKind} (error : read stream = .error kind) :
      ReadsUntil read stream [] (some kind)
  | item {stream rest : RecvStream} {item : Item} {items : List Item}
      {outcome : Option ErrorKind} (first : read stream = .ok (some (item, rest)))
      (others : ReadsUntil read rest items outcome) :
      ReadsUntil read stream (item :: items) outcome

/-- The items whose frames are complete in front of the cut. -/
def wholeFrames (write : Item → List UInt8) : List Item → Nat → List Item
  | [], _ => []
  | item :: rest, cut =>
      if (write item).length ≤ cut then
        item :: wholeFrames write rest (cut - (write item).length)
      else
        []

/-- The item inside whose frame the cut falls, with the number of bytes in front
of the cut; `none` if the cut is a frame boundary. -/
def cutFrame (write : Item → List UInt8) : List Item → Nat → Option (Item × Nat)
  | [], _ => none
  | item :: rest, cut =>
      if (write item).length ≤ cut then
        cutFrame write rest (cut - (write item).length)
      else if cut = 0 then
        none
      else
        some (item, cut)

/-- The reader returns exactly the complete frames, then `Ok(None)` at a frame
boundary and an error anywhere else. -/
def TruncationSound (read : RecvStream → Except ErrorKind (Option (Item × RecvStream)))
    (write : Item → List UInt8) (items : List Item) (cut : Nat) : Prop :=
  ∃ outcome,
    ReadsUntil read ⟨(items.flatMap write).take cut, .finished⟩ (wholeFrames write items cut)
      outcome ∧
    (outcome = none ↔ cutFrame write items cut = none)

section Cons

variable {write : Item → List UInt8} {item : Item} {rest : List Item} {cut : Nat}

theorem wholeFrames_cons_of_le (whole : (write item).length ≤ cut) :
    wholeFrames write (item :: rest) cut =
      item :: wholeFrames write rest (cut - (write item).length) :=
  if_pos whole

theorem wholeFrames_cons_of_lt (short : cut < (write item).length) :
    wholeFrames write (item :: rest) cut = [] :=
  if_neg (Nat.not_le.mpr short)

theorem cutFrame_cons_of_le (whole : (write item).length ≤ cut) :
    cutFrame write (item :: rest) cut = cutFrame write rest (cut - (write item).length) :=
  if_pos whole

theorem cutFrame_cons_of_lt (short : cut < (write item).length) :
    cutFrame write (item :: rest) cut = if cut = 0 then none else some (item, cut) :=
  if_neg (Nat.not_le.mpr short)

end Cons

end Cuts

/-! ## Framings -/

/-- What `read_msg` and `read_pty_chunk` share: a header of fixed width, the
length it declares, the limit, and the body. -/
def RecvStream.readFrame {Item : Type} (width limit : Nat) (declared : List UInt8 → Nat)
    (decode : List UInt8 → List UInt8 → Option Item) (stream : RecvStream) :
    Except ErrorKind (Option (Item × RecvStream)) :=
  match stream.readExact width with
  | .error (.finishedEarly _) => .ok none
  | .error .readError => .error .brokenPipe
  | .ok (header, rest) =>
      if limit < declared header then
        .error .invalidData
      else
        match rest.readExact (declared header) with
        | .error _ => .error .brokenPipe
        | .ok (body, rest) =>
            match decode header body with
            | some item => .ok (some (item, rest))
            | none => .error .invalidData

/-- A writer and a reader of frames whose headers declare the length of the body
in 32 bits. -/
structure Framing (Item : Type) where
  width : Nat
  limit : Nat
  header : Item → List UInt8
  body : Item → List UInt8
  /-- Values the program can hold. -/
  Valid : Item → Prop
  declared : List UInt8 → Nat
  decode : List UInt8 → List UInt8 → Option Item
  width_pos : 0 < width
  limit_lt : limit < 2 ^ 32
  header_length : ∀ item, (header item).length = width
  declared_header : ∀ item, declared (header item) = (body item).length % 2 ^ 32
  decode_body : ∀ item, Valid item → (body item).length ≤ limit →
    decode (header item) (body item) = some item
  decode_front : ∀ item, Valid item → ∀ count < (body item).length,
    decode (header item) ((body item).take count) ≠ some item

namespace Framing

variable {Item : Type} (framing : Framing Item)

def write (item : Item) : List UInt8 :=
  framing.header item ++ framing.body item

def read (stream : RecvStream) : Except ErrorKind (Option (Item × RecvStream)) :=
  stream.readFrame framing.width framing.limit framing.declared framing.decode

/-- The body length as its 32-bit header field has it. -/
def wrapped (item : Item) : Nat :=
  (framing.body item).length % 2 ^ 32

/-- With `arrived` bytes of its body, the frame passes for a complete one. Only a
body of 4 GiB or more can, whose declared length has wrapped. -/
def PassesForWhole (item : Item) (arrived : Nat) : Prop :=
  framing.wrapped item ≤ framing.limit ∧
    framing.wrapped item ≤ arrived ∧
    (framing.decode (framing.header item)
      ((framing.body item).take (framing.wrapped item))).isSome

/-- The cut leaves only frames that the reader accepts in front of it and does
not fall into a header. -/
structure Recognizable (items : List Item) (cut : Nat) : Prop where
  accepted : ∀ item ∈ wholeFrames framing.write items cut,
    (framing.body item).length ≤ framing.limit
  behindHeader : ∀ item arrived, cutFrame framing.write items cut = some (item, arrived) →
    framing.width ≤ arrived ∧ ¬ framing.PassesForWhole item (arrived - framing.width)

variable {framing}

theorem length_write (item : Item) :
    (framing.write item).length = framing.width + (framing.body item).length := by
  rw [write, List.length_append, framing.header_length]

theorem wrapped_eq_length {item : Item} (unwrapped : (framing.body item).length < 2 ^ 32) :
    framing.wrapped item = (framing.body item).length :=
  Nat.mod_eq_of_lt unwrapped

theorem not_passesForWhole {item : Item} {arrived : Nat}
    (short : arrived < (framing.body item).length)
    (unwrapped : (framing.body item).length < 2 ^ 32) :
    ¬ framing.PassesForWhole item arrived := by
  rintro ⟨-, complete, -⟩
  rw [wrapped_eq_length unwrapped] at complete
  omega

/-! ### One read -/

/-- A stream that ends inside a header reads like one that ends in front of
it. -/
theorem read_short {bytes : List UInt8} (short : bytes.length < framing.width) :
    framing.read ⟨bytes, .finished⟩ = .ok none := by
  rw [read, RecvStream.readFrame, RecvStream.readExact, if_neg (Nat.not_le.mpr short)]

/-- A read with the whole header there. -/
theorem read_header (item : Item) (rest : List UInt8) :
    framing.read ⟨framing.header item ++ rest, .finished⟩ =
      if framing.limit < framing.wrapped item then
        .error .invalidData
      else if framing.wrapped item ≤ rest.length then
        match framing.decode (framing.header item)
            (rest.take (framing.wrapped item)) with
        | some found =>
            .ok (some (found, ⟨rest.drop (framing.wrapped item), .finished⟩))
        | none => .error .invalidData
      else
        .error .brokenPipe := by
  have front : RecvStream.readExact ⟨framing.header item ++ rest, .finished⟩ framing.width =
      .ok (framing.header item, ⟨rest, .finished⟩) :=
    readExact_append (framing.header_length item)
  have declared : framing.declared (framing.header item) = framing.wrapped item :=
    framing.declared_header item
  simp only [read, RecvStream.readFrame, front, declared]
  by_cases tooLong : framing.limit < framing.wrapped item
  · rw [if_pos tooLong, if_pos tooLong]
  · rw [if_neg tooLong, if_neg tooLong, RecvStream.readExact]
    by_cases arrived : framing.wrapped item ≤ rest.length
    · rw [if_pos arrived, if_pos arrived]
    · rw [if_neg arrived, if_neg arrived]

theorem read_whole {item : Item} (valid : framing.Valid item)
    (accepted : (framing.body item).length ≤ framing.limit) (rest : List UInt8) :
    framing.read ⟨framing.write item ++ rest, .finished⟩ =
      .ok (some (item, ⟨rest, .finished⟩)) := by
  have unwrapped := wrapped_eq_length (Nat.lt_of_le_of_lt accepted framing.limit_lt)
  have arrived : (framing.body item).length ≤ (framing.body item ++ rest).length := by
    rw [List.length_append]
    omega
  rw [write, List.append_assoc, read_header, unwrapped, if_neg (Nat.not_lt.mpr accepted),
    if_pos arrived, List.take_left, List.drop_left, framing.decode_body item valid accepted]

/-- A complete frame above the limit is never returned as it was written. -/
theorem read_over {item : Item} (valid : framing.Valid item)
    (tooLong : framing.limit < (framing.body item).length) (rest : List UInt8)
    (last : RecvStream) :
    framing.read ⟨framing.write item ++ rest, .finished⟩ ≠ .ok (some (item, last)) := by
  rw [write, List.append_assoc, read_header]
  split
  · simp
  · rename_i accepted
    split
    · rename_i arrived
      have shorter : framing.wrapped item < (framing.body item).length := by omega
      rw [List.take_append_of_le_length (Nat.le_of_lt shorter)]
      split
      · rename_i found decoded
        intro same
        cases same
        exact framing.decode_front item valid _ shorter decoded
      · simp
    · simp

/-- A frame that is cut is refused, if its header is there and it does not pass
for a complete one. -/
theorem read_cut_error_iff {item : Item} {cut : Nat}
    (short : cut < (framing.write item).length) :
    (∃ kind, framing.read ⟨(framing.write item).take cut, .finished⟩ = .error kind) ↔
      framing.width ≤ cut ∧ ¬ framing.PassesForWhole item (cut - framing.width) := by
  by_cases header : framing.width ≤ cut
  · have split : (framing.write item).take cut =
        framing.header item ++ (framing.body item).take (cut - framing.width) := by
      rw [write, List.take_append, framing.header_length,
        List.take_of_length_le (Nat.le_trans (Nat.le_of_eq (framing.header_length item)) header)]
    rw [length_write] at short
    have arrivedLength : ((framing.body item).take (cut - framing.width)).length =
        cut - framing.width := List.length_take_of_le (by omega)
    rw [split, read_header, arrivedLength]
    simp only [header, true_and, PassesForWhole]
    by_cases tooLong : framing.limit < framing.wrapped item
    · simp [tooLong]
    · rw [if_neg tooLong]
      by_cases arrived : framing.wrapped item ≤ cut - framing.width
      · rw [if_pos arrived, List.take_take, Nat.min_eq_left arrived]
        cases framing.decode (framing.header item)
            ((framing.body item).take (framing.wrapped item)) with
        | none => simp
        | some found => simp [arrived, Nat.not_lt.mp tooLong]
      · simp [arrived]
  · have missing : ((framing.write item).take cut).length < framing.width := by
      rw [List.length_take_of_le (Nat.le_of_lt short)]
      omega
    rw [read_short missing]
    simp [header]

/-! ### Whole streams -/

/-- Reading on behind the first item. -/
theorem readsUntil_cons_iff {read : RecvStream → Except ErrorKind (Option (Item × RecvStream))}
    {stream rest : RecvStream} {item : Item} {items : List Item} {outcome : Option ErrorKind}
    (first : read stream = .ok (some (item, rest))) :
    ReadsUntil read stream (item :: items) outcome ↔ ReadsUntil read rest items outcome := by
  constructor
  · intro reads
    cases reads with
    | item again others =>
        rw [first] at again
        cases again
        exact others
  · intro others
    exact .item first others

section Cons

variable {item : Item} {rest : List Item} {cut : Nat}

/-- A complete frame must be accepted, and the rest recognizable. -/
theorem recognizable_cons_of_le (whole : (framing.write item).length ≤ cut) :
    framing.Recognizable (item :: rest) cut ↔
      (framing.body item).length ≤ framing.limit ∧
        framing.Recognizable rest (cut - (framing.write item).length) := by
  constructor
  · rintro ⟨accepted, behindHeader⟩
    rw [wholeFrames_cons_of_le whole] at accepted
    rw [cutFrame_cons_of_le whole] at behindHeader
    have parts := List.forall_mem_cons.mp accepted
    exact ⟨parts.1, parts.2, behindHeader⟩
  · rintro ⟨first, accepted, behindHeader⟩
    refine ⟨?_, by rwa [cutFrame_cons_of_le whole]⟩
    rw [wholeFrames_cons_of_le whole]
    exact List.forall_mem_cons.mpr ⟨first, accepted⟩

/-- A frame that is cut must be cut behind its header and not pass for a complete
one. -/
theorem recognizable_cons_of_lt (short : cut < (framing.write item).length) :
    framing.Recognizable (item :: rest) cut ↔
      (cut ≠ 0 →
        framing.width ≤ cut ∧ ¬ framing.PassesForWhole item (cut - framing.width)) := by
  constructor
  · rintro ⟨-, behindHeader⟩ inside
    rw [cutFrame_cons_of_lt short, if_neg inside] at behindHeader
    exact behindHeader item cut rfl
  · intro refused
    refine ⟨by simp [wholeFrames_cons_of_lt short], ?_⟩
    intro found arrived same
    rw [cutFrame_cons_of_lt short] at same
    split at same
    · contradiction
    · rename_i inside
      cases same
      exact refused inside

/-- A complete frame is returned exactly if it is accepted. -/
theorem truncationSound_cons_of_le (valid : framing.Valid item)
    (whole : (framing.write item).length ≤ cut) :
    TruncationSound framing.read framing.write (item :: rest) cut ↔
      (framing.body item).length ≤ framing.limit ∧
        TruncationSound framing.read framing.write rest (cut - (framing.write item).length) := by
  have bytes : ((item :: rest).flatMap framing.write).take cut =
      framing.write item ++
        (rest.flatMap framing.write).take (cut - (framing.write item).length) := by
    rw [List.flatMap_cons, List.take_append, List.take_of_length_le whole]
  rw [TruncationSound, bytes, wholeFrames_cons_of_le whole, cutFrame_cons_of_le whole]
  by_cases accepted : (framing.body item).length ≤ framing.limit
  · have first := read_whole valid accepted
      ((rest.flatMap framing.write).take (cut - (framing.write item).length))
    simp only [readsUntil_cons_iff first]
    rw [← TruncationSound, and_iff_right accepted]
  · refine iff_of_false ?_ (fun both => accepted both.1)
    rintro ⟨outcome, reads, -⟩
    cases reads with
    | item first others => exact read_over valid (Nat.not_le.mp accepted) _ _ first

/-- A frame that is cut ends the reading: well at its start, and elsewhere exactly
if its part is refused. -/
theorem truncationSound_cons_of_lt (short : cut < (framing.write item).length) :
    TruncationSound framing.read framing.write (item :: rest) cut ↔
      (cut ≠ 0 →
        framing.width ≤ cut ∧ ¬ framing.PassesForWhole item (cut - framing.width)) := by
  have bytes : ((item :: rest).flatMap framing.write).take cut =
      (framing.write item).take cut := by
    rw [List.flatMap_cons, List.take_append_of_le_length (Nat.le_of_lt short)]
  rw [TruncationSound, bytes, wholeFrames_cons_of_lt short, cutFrame_cons_of_lt short]
  have refused := read_cut_error_iff short
  by_cases boundary : cut = 0
  · have ended : framing.read ⟨(framing.write item).take cut, .finished⟩ = .ok none := by
      rw [boundary, List.take_zero]
      exact read_short framing.width_pos
    exact iff_of_true ⟨none, .closed ended, by simp [boundary]⟩
      fun inside => absurd boundary inside
  · rw [if_neg boundary]
    constructor
    · rintro ⟨outcome, reads, ends⟩ -
      cases reads with
      | closed ended => simp at ends
      | failed error => exact refused.mp ⟨_, error⟩
    · intro behindHeader
      rcases refused.mpr (behindHeader boundary) with ⟨kind, error⟩
      exact ⟨some kind, .failed error, by simp⟩

end Cons

variable (framing) in
/-- The reader recognizes every truncation exactly if the frames in front of the
cut are within its limit and the cut is not inside a header. -/
theorem truncationSound_iff {items : List Item} (valid : ∀ item ∈ items, framing.Valid item)
    (cut : Nat) :
    TruncationSound framing.read framing.write items cut ↔ framing.Recognizable items cut := by
  induction items generalizing cut with
  | nil =>
      have ended : framing.read ⟨(List.flatMap framing.write []).take cut, .finished⟩ =
          .ok none := by
        rw [List.flatMap_nil, List.take_nil]
        exact read_short framing.width_pos
      refine iff_of_true ⟨none, .closed ended, by simp [cutFrame]⟩ ⟨List.forall_mem_nil _, ?_⟩
      intro item arrived inside
      cases inside
  | cons item rest inductionHypothesis =>
      have parts := List.forall_mem_cons.mp valid
      by_cases whole : (framing.write item).length ≤ cut
      · rw [truncationSound_cons_of_le parts.1 whole, recognizable_cons_of_le whole,
          inductionHypothesis parts.2]
      · have short := Nat.not_le.mp whole
        rw [truncationSound_cons_of_lt short, recognizable_cons_of_lt short]

end Framing

/-! ## The two framings -/

/-- Control messages; a message is in memory, so its length fits 64 bits. -/
def messageFraming (order : Protocol.MapOrder) : Framing Protocol.Envelope where
  width := 4
  limit := maxMessageBytes
  header := fun envelope => toBeBytes 4 (envelope.encode order).length
  body := Protocol.Envelope.encode order
  Valid := fun envelope => (envelope.encode order).length < 2 ^ 64
  declared := fromBeBytes
  decode := fun _ body => Protocol.Envelope.decode body
  width_pos := by decide
  limit_lt := by decide
  header_length := fun envelope => length_toBeBytes 4 _
  declared_header := fun envelope => fromBeBytes_toBeBytes 4 _
  decode_body := fun envelope valid _ => Protocol.Envelope.decode_encode valid
  decode_front := by
    intro envelope valid count short
    rw [Protocol.Envelope.decode_front valid short]
    split
    · intro same
      -- An envelope that encodes to something is not the empty one.
      cases same
      exact absurd short (Nat.not_lt_zero count)
    · simp

/-- PTY chunks, numbered with 64 bits. -/
def chunkFraming : Framing Chunk where
  width := 12
  limit := maxChunkBytes
  header := fun chunk => toBeBytes 8 chunk.1 ++ toBeBytes 4 chunk.2.length
  body := Prod.snd
  Valid := fun chunk => chunk.1 < 2 ^ 64
  declared := fun header => fromBeBytes (header.drop 8)
  decode := fun header data => some (fromBeBytes (header.take 8), data)
  width_pos := by decide
  limit_lt := by decide
  header_length := by simp
  declared_header := by
    intro chunk
    rw [List.drop_left' (length_toBeBytes 8 chunk.1)]
    exact fromBeBytes_toBeBytes 4 _
  decode_body := by
    intro chunk valid _
    rw [List.take_left' (length_toBeBytes 8 chunk.1),
      fromBeBytes_toBeBytes_of_lt (Nat.lt_of_lt_of_eq valid (by decide))]
  decode_front := by
    intro chunk _ count short same
    have lengths := congrArg (fun found => found.map fun part => part.2.length) same
    simp only [Option.map_some, Option.some.injEq] at lengths
    rw [List.length_take_of_le (Nat.le_of_lt short)] at lengths
    omega

theorem messageFraming_read (order : Protocol.MapOrder) :
    (messageFraming order).read = RecvStream.readMsg Protocol.Envelope.decode := rfl

theorem messageFraming_write (order : Protocol.MapOrder) :
    (messageFraming order).write = writeMsg (Protocol.Envelope.encode order) := rfl

theorem chunkFraming_read : chunkFraming.read = RecvStream.readPtyChunk := rfl

theorem chunkFraming_write : chunkFraming.write = writePtyChunk := rfl

/-- **Both readers tell a truncated stream from a clean close exactly if the
stream does not end inside a length prefix or chunk header**, for streams of
frames of any size: complete frames must be within the limit of the reader, and
a cut frame must not pass for a complete one, which only a frame of 4 GiB or
more can. -/
theorem truncation_recognized_iff (order : Protocol.MapOrder) (messages : List Protocol.Envelope)
    (chunks : List Chunk) (cut : Nat)
    (messagesInMemory : ∀ envelope ∈ messages, (envelope.encode order).length < 2 ^ 64)
    (numbersFit : ∀ chunk ∈ chunks, chunk.1 < 2 ^ 64) :
    (TruncationSound (RecvStream.readMsg Protocol.Envelope.decode)
        (writeMsg (Protocol.Envelope.encode order)) messages cut ↔
      (messageFraming order).Recognizable messages cut) ∧
    (TruncationSound RecvStream.readPtyChunk writePtyChunk chunks cut ↔
      chunkFraming.Recognizable chunks cut) := by
  have messagesIff := (messageFraming order).truncationSound_iff messagesInMemory cut
  have chunksIff := chunkFraming.truncationSound_iff numbersFit cut
  rw [messageFraming_read, messageFraming_write] at messagesIff
  rw [chunkFraming_read, chunkFraming_write] at chunksIff
  exact ⟨messagesIff, chunksIff⟩

/-- A `Disconnect` and a chunk, cut behind their headers. -/
theorem cut_bodies_recognized :
    TruncationSound (RecvStream.readMsg Protocol.Envelope.decode)
        (writeMsg (Protocol.Envelope.encode (.ascending UInt32 UInt64)))
        [⟨some (.disconnect ⟨⟩)⟩] 5 ∧
      TruncationSound RecvStream.readPtyChunk writePtyChunk [(1, [104, 105]), (2, [106])] 14 := by
  have recognized := truncation_recognized_iff (.ascending UInt32 UInt64)
    [⟨some (.disconnect ⟨⟩)⟩] [(1, [104, 105]), (2, [106])]
  refine ⟨(recognized 5 (by decide) (by decide)).1.mpr ⟨by decide, ?_⟩,
    (recognized 14 (by decide) (by decide)).2.mpr ⟨by decide, ?_⟩⟩
  · intro envelope arrived inside
    cases inside
    exact ⟨by decide, Framing.not_passesForWhole (by decide) (by decide)⟩
  · intro chunk arrived inside
    cases inside

/-- A stream that ends two bytes into the length prefix of a `Disconnect`, or
five bytes into the header of a chunk, reads as closed. -/
theorem cut_header_reads_closed :
    RecvStream.readMsg Protocol.Envelope.decode
        ⟨(writeMsg (Protocol.Envelope.encode (.ascending UInt32 UInt64))
          ⟨some (.disconnect ⟨⟩)⟩).take 2, .finished⟩ = .ok none ∧
      RecvStream.readPtyChunk ⟨(writePtyChunk (1, [104, 105])).take 5, .finished⟩ = .ok none ∧
      ¬ TruncationSound RecvStream.readPtyChunk writePtyChunk [(1, [104, 105])] 5 ∧
      ¬ TruncationSound (RecvStream.readMsg Protocol.Envelope.decode)
        (writeMsg (Protocol.Envelope.encode (.ascending UInt32 UInt64)))
        [⟨some (.disconnect ⟨⟩)⟩] 2 := by
  refine ⟨rfl, rfl, ?_, ?_⟩
  · rintro ⟨outcome, reads, ends⟩
    cases reads with
    | closed ended => exact absurd (ends.mp rfl) (by decide)
    | failed error => cases error
  · rintro ⟨outcome, reads, ends⟩
    cases reads with
    | closed ended => exact absurd (ends.mp rfl) (by decide)
    | failed error => cases error

end Etr.Wire
