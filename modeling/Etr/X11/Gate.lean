import Etr.X11.Setup

/-!
Contract: what the server's X11 gate lets through, and what the X server is
sent in its place.

Owns `process_x11_setup` with the indices and slices of the source, each of
which may panic, the request as the gate reads it, in any byte order, and the
bytes that go to the client.

Does not own the stream's relay, or where the cookies come from.
-/

namespace Etr.X11

open Etr.Library Etr.Protocol Etr.Wire Etr.Server

/-! ## Indices and slices -/

inductive BufferPanic where
  | indexOutOfRange
  | lengthMismatch
deriving DecidableEq, Repr

/-- `buffer[position]`. -/
def byteAt (buffer : List UInt8) (position : Nat) : Except BufferPanic UInt8 :=
  match buffer[position]? with
  | some byte => .ok byte
  | none => .error .indexOutOfRange

/-- `buffer[position] = byte`. -/
def setByte (buffer : List UInt8) (position : Nat) (byte : UInt8) :
    Except BufferPanic (List UInt8) :=
  if position < buffer.length then .ok (buffer.set position byte) else .error .indexOutOfRange

/-- `&buffer[..stop]`. -/
def sliceTo (buffer : List UInt8) (stop : Nat) : Except BufferPanic (List UInt8) :=
  if stop ≤ buffer.length then .ok (buffer.take stop) else .error .indexOutOfRange

/-- `buffer[start..stop].copy_from_slice(source)`. -/
def copyInto (buffer : List UInt8) (start stop : Nat) (source : List UInt8) :
    Except BufferPanic (List UInt8) :=
  if ¬ (start ≤ stop ∧ stop ≤ buffer.length) then
    .error .indexOutOfRange
  else if source.length ≠ stop - start then
    .error .lengthMismatch
  else
    .ok (buffer.take start ++ source ++ buffer.drop stop)

theorem byteAt_eq_ok {buffer : List UInt8} {position : Nat} (inside : position < buffer.length) :
    byteAt buffer position = .ok buffer[position] := by
  rw [byteAt, List.getElem?_eq_getElem inside]

theorem sliceTo_eq_ok {buffer : List UInt8} {stop : Nat} (inside : stop ≤ buffer.length) :
    sliceTo buffer stop = .ok (buffer.take stop) :=
  if_pos inside

theorem copyInto_eq_ok {buffer source : List UInt8} {start stop : Nat} (ordered : start ≤ stop)
    (inside : stop ≤ buffer.length) (sized : source.length = stop - start) :
    copyInto buffer start stop source =
      .ok (buffer.take start ++ source ++ buffer.drop stop) := by
  rw [copyInto, if_neg (not_not.mpr ⟨ordered, inside⟩), if_neg (not_not.mpr sized)]

/-! ## The gate, slice by slice -/

/-- How `process_x11_setup` ends without a block. -/
inductive SetupFault where
  | panicked (panic : BufferPanic)
  | refused (error : SetupError)
deriving DecidableEq, Repr

/-- A length of the header, at `position`. -/
def headerLength (order : ByteOrder) (header : List UInt8) (position : Nat) :
    Except BufferPanic Nat := do
  let first ← byteAt header position
  let second ← byteAt header (position + 1)
  return order.read16 [first, second]

/-- `vec![0u8; padded]`, and the copy of `content` to its front. -/
def paddedBuffer (content : List UInt8) : Except BufferPanic (List UInt8) :=
  copyInto (List.replicate (padded content.length) 0) 0 content.length content

/-- The rewriting part of `process_x11_setup`. -/
def slicedSetupBlock (order : ByteOrder) (header realCookie : List UInt8) :
    Except BufferPanic (List UInt8) :=
  if realCookie.isEmpty then do
    let newHeader ← setByte header 6 0
    let newHeader ← setByte newHeader 7 0
    let newHeader ← setByte newHeader 8 0
    setByte newHeader 9 0
  else do
    let newNameBuf ← paddedBuffer protoName
    let newDataBuf ← paddedBuffer realCookie
    let newHeader ← copyInto header 6 8 (order.write16 protoName.length)
    let newHeader ← copyInto newHeader 8 10 (order.write16 realCookie.length)
    return newHeader ++ newNameBuf ++ newDataBuf

/-- `process_x11_setup`, with every index and slice that may panic. -/
def slicedX11Setup (stream : RecvStream) (fakeCookie realCookie : List UInt8) :
    Except SetupFault (RecvStream × List UInt8) := do
  let (header, behindHeader) ← (stream.readExact 12).mapError (.refused ∘ .read)
  let byteOrder ← (byteAt header 0).mapError .panicked
  let order := if byteOrder = 0x6C then ByteOrder.little else .big
  let nameLen ← (headerLength order header 6).mapError .panicked
  let dataLen ← (headerLength order header 8).mapError .panicked
  let (_, behindName) ← (behindHeader.readExact (padded nameLen)).mapError (.refused ∘ .read)
  let (dataBuf, rest) ← (behindName.readExact (padded dataLen)).mapError (.refused ∘ .read)
  if fakeCookie.isEmpty then
    throw (.refused .emptyServerCookie)
  if dataLen < fakeCookie.length then
    throw (.refused .cookieTooShort)
  let clientCookie ← (sliceTo dataBuf fakeCookie.length).mapError .panicked
  if constantTimeEq clientCookie fakeCookie = false then
    throw (.refused .cookieMismatch)
  let setupBlock ← (slicedSetupBlock order header realCookie).mapError .panicked
  return (rest, setupBlock)

/-! ## No slice panics -/

/-- The two bytes of a length, by their indices. -/
theorem headerLength_eq_ok (order : ByteOrder) {header : List UInt8} {position : Nat}
    (inside : position + 1 < header.length) :
    headerLength order header position = .ok (order.read16 ((header.drop position).take 2)) := by
  have slice : (header.drop position).take 2 = [header[position], header[position + 1]] := by
    rw [List.drop_eq_getElem_cons (Nat.lt_of_succ_lt inside), List.drop_eq_getElem_cons inside]
    rfl
  rw [headerLength, byteAt_eq_ok (Nat.lt_of_succ_lt inside), byteAt_eq_ok inside, slice]
  rfl

theorem paddedBuffer_eq_ok (content : List UInt8) :
    paddedBuffer content = .ok (content ++ zeroPadding content) := by
  have room := length_zeroPadding content
  have fits : content.length ≤ (List.replicate (padded content.length) (0 : UInt8)).length := by
    rw [List.length_replicate]
    omega
  rw [paddedBuffer, copyInto_eq_ok (Nat.zero_le _) fits (Nat.sub_zero _).symm, List.take_zero,
    List.nil_append, List.drop_replicate, zeroPadding]

/-- The slices of the rewriting part are those of `setupBlock`. -/
theorem slicedSetupBlock_eq_ok (order : ByteOrder) {header : List UInt8}
    (sized : header.length = 12) (realCookie : List UInt8) :
    slicedSetupBlock order header realCookie = .ok (setupBlock order header realCookie) := by
  match header, sized with
  | [_, _, _, _, _, _, _, _, _, _, _, _], _ =>
      unfold slicedSetupBlock setupBlock
      split
      · rfl
      · have nameLength := order.length_write16 protoName.length
        have dataLength := order.length_write16 realCookie.length
        match order.write16 protoName.length, nameLength,
          order.write16 realCookie.length, dataLength with
        | [_, _], _, [_, _], _ =>
            rw [paddedBuffer_eq_ok, paddedBuffer_eq_ok]
            rfl

/-- No index and no slice of the gate is out of range. -/
theorem slicedX11Setup_eq (stream : RecvStream) (fakeCookie realCookie : List UInt8) :
    slicedX11Setup stream fakeCookie realCookie =
      (processX11Setup stream fakeCookie realCookie).mapError .refused := by
  unfold slicedX11Setup processX11Setup
  cases headerRead : stream.readExact 12 with
  | error error => rfl
  | ok split =>
      obtain ⟨header, behindHeader⟩ := split
      have sized := (readExact_eq_ok headerRead).2.1
      have order : (if header[0] = 0x6C then ByteOrder.little else .big) =
          ByteOrder.ofHeader header := by
        rw [ByteOrder.ofHeader, List.headD_eq_head?_getD, List.head?_eq_getElem?,
          List.getElem?_eq_getElem, Option.getD_some]
      have ok_bind : ∀ {Result Next : Type} (result : Result)
          (next : Result → Except SetupFault Next),
          (Except.ok result >>= next) = next result := fun _ _ => rfl
      simp only [Except.mapError, ok_bind, byteAt_eq_ok (show 0 < header.length by omega), order,
        headerLength_eq_ok _ (show 6 + 1 < header.length by omega),
        headerLength_eq_ok _ (show 8 + 1 < header.length by omega)]
      cases behindHeader.readExact
          (padded ((ByteOrder.ofHeader header).read16 ((header.drop 6).take 2))) with
      | error error => rfl
      | ok split =>
          obtain ⟨nameBuf, behindName⟩ := split
          simp only [ok_bind]
          cases dataRead : behindName.readExact
              (padded ((ByteOrder.ofHeader header).read16 ((header.drop 8).take 2))) with
          | error error => rfl
          | ok split =>
              obtain ⟨dataBuf, rest⟩ := split
              have dataSized := (readExact_eq_ok dataRead).2.1
              simp only [ok_bind]
              split
              · rfl
              · split
                · rfl
                · rename_i long
                  have inside : fakeCookie.length ≤ dataBuf.length := by
                    rw [dataSized, padded]
                    omega
                  simp only [sliceTo_eq_ok inside, ok_bind]
                  split
                  · rfl
                  · rw [slicedSetupBlock_eq_ok _ sized]
                    rfl

/-! ## Requests as the gate reads them -/

/-- The two lengths in a header, in the byte order `process_x11_setup` goes by. -/
def nameLengthOf (header : List UInt8) : Nat :=
  (ByteOrder.ofHeader header).read16 ((header.drop 6).take 2)

def dataLengthOf (header : List UInt8) : Nat :=
  (ByteOrder.ofHeader header).read16 ((header.drop 8).take 2)

/-- A header and what its lengths announce, padding included. -/
structure ReceivedRequest where
  header : List UInt8
  nameField : List UInt8
  dataField : List UInt8
  headerSized : header.length = 12
  nameSized : nameField.length = padded (nameLengthOf header)
  dataSized : dataField.length = padded (dataLengthOf header)

namespace ReceivedRequest

def bytes (request : ReceivedRequest) : List UInt8 :=
  request.header ++ (request.nameField ++ request.dataField)

def nameLength (request : ReceivedRequest) : Nat :=
  nameLengthOf request.header

def dataLength (request : ReceivedRequest) : Nat :=
  dataLengthOf request.header

/-- The authorization, without the padding. -/
def authorization (request : ReceivedRequest) : Authorization :=
  ⟨request.nameField.take request.nameLength, request.dataField.take request.dataLength⟩

/-- The request in front of some bytes, and what follows it. -/
def read (bytes : List UInt8) : Option (ReceivedRequest × List UInt8) :=
  (takeExact 12 bytes).bind fun (header, behindHeader) =>
    (takeExact (padded (nameLengthOf header.1)) behindHeader).bind fun (nameField, behindName) =>
      (takeExact (padded (dataLengthOf header.1)) behindName).map fun (dataField, rest) =>
        (⟨header.1, nameField.1, dataField.1, header.2, nameField.2, dataField.2⟩, rest)

theorem length_bytes (request : ReceivedRequest) :
    request.bytes.length = 12 + padded request.nameLength + padded request.dataLength := by
  rw [bytes, List.length_append, List.length_append, request.headerSized, request.nameSized,
    request.dataSized, Nat.add_assoc, nameLength, dataLength]

theorem read_bytes (request : ReceivedRequest) (rest : List UInt8) :
    read (request.bytes ++ rest) = some (request, rest) := by
  rw [read, bytes, List.append_assoc, List.append_assoc]
  simp only [takeExact_append_of_length request.headerSized, Option.bind_some,
    takeExact_append_of_length request.nameSized, takeExact_append_of_length request.dataSized,
    Option.map_some]

/-- A stream holds one request in front at most. -/
theorem bytes_append_inj {request other : ReceivedRequest} {rest otherRest : List UInt8}
    (same : request.bytes ++ rest = other.bytes ++ otherRest) :
    request = other ∧ rest = otherRest := by
  have readBack := request.read_bytes rest
  rw [same, other.read_bytes, Option.some.injEq, Prod.mk.injEq] at readBack
  exact ⟨readBack.1.symm, readBack.2.symm⟩

/-- What is shown to the client's X server in place of the request. -/
def rewritten (request : ReceivedRequest) (realCookie : List UInt8) : List UInt8 :=
  setupBlock (ByteOrder.ofHeader request.header) request.header realCookie

/-- The request is from a holder of the spoofed cookie. -/
def Holds (request : ReceivedRequest) (fakeCookie : List UInt8) : Prop :=
  fakeCookie ≠ [] ∧ fakeCookie.length ≤ request.dataLength ∧
    fakeCookie <+: request.authorization.data

theorem take_dataField (request : ReceivedRequest) {count : Nat}
    (short : count ≤ request.dataLength) :
    request.dataField.take count = request.authorization.data.take count := by
  rw [authorization, List.take_take, Nat.min_eq_left short]

/-- The decision, once the request has been read. -/
theorem processX11Setup_of_reads {stream behindHeader behindName rest : RecvStream}
    {header nameField dataField : List UInt8}
    (headerRead : stream.readExact 12 = .ok (header, behindHeader))
    (nameRead : behindHeader.readExact (padded (nameLengthOf header)) = .ok (nameField, behindName))
    (dataRead : behindName.readExact (padded (dataLengthOf header)) = .ok (dataField, rest))
    (fakeCookie realCookie : List UInt8) :
    processX11Setup stream fakeCookie realCookie =
      if fakeCookie.isEmpty then
        .error .emptyServerCookie
      else if dataLengthOf header < fakeCookie.length then
        .error .cookieTooShort
      else if constantTimeEq (dataField.take fakeCookie.length) fakeCookie = false then
        .error .cookieMismatch
      else
        .ok (rest, setupBlock (ByteOrder.ofHeader header) header realCookie) := by
  unfold nameLengthOf at nameRead
  unfold dataLengthOf at dataRead
  simp only [processX11Setup, headerRead, nameRead, dataRead]
  rfl

theorem reads_of_processX11Setup {stream rest : RecvStream} {fakeCookie realCookie : List UInt8}
    {block : List UInt8}
    (accepted : processX11Setup stream fakeCookie realCookie = .ok (rest, block)) :
    ∃ header behindHeader nameField behindName dataField behindData,
      stream.readExact 12 = .ok (header, behindHeader) ∧
        behindHeader.readExact (padded (nameLengthOf header)) = .ok (nameField, behindName) ∧
        behindName.readExact (padded (dataLengthOf header)) = .ok (dataField, behindData) := by
  unfold processX11Setup at accepted
  split at accepted
  · contradiction
  · rename_i header behindHeader headerRead
    dsimp only at accepted
    split at accepted
    · contradiction
    · rename_i nameField behindName nameRead
      split at accepted
      · contradiction
      · rename_i dataField behindData dataRead
        exact ⟨_, _, _, _, _, _, headerRead, nameRead, dataRead⟩

/-- A holder is let through, and everything behind the request is left. -/
theorem processX11Setup_of_holds {request : ReceivedRequest} {fakeCookie : List UInt8}
    (holds : request.Holds fakeCookie) (realCookie rest : List UInt8) (ending : StreamEnd) :
    processX11Setup ⟨request.bytes ++ rest, ending⟩ fakeCookie realCookie =
      .ok (⟨rest, ending⟩, request.rewritten realCookie) := by
  obtain ⟨nonempty, long, begins⟩ := holds
  have shown : request.dataField.take fakeCookie.length = fakeCookie := by
    rw [request.take_dataField long]
    exact (List.prefix_iff_eq_take.mp begins).symm
  have equal : constantTimeEq fakeCookie fakeCookie = true := constantTimeEq_eq_true.mpr rfl
  have notShort : ¬ dataLengthOf request.header < fakeCookie.length := Nat.not_lt.mpr long
  have decided := processX11Setup_of_reads
    (@readExact_append 12 request.header (request.nameField ++ (request.dataField ++ rest)) ending
      request.headerSized)
    (readExact_append request.nameSized) (readExact_append request.dataSized)
    fakeCookie realCookie
  rw [bytes, List.append_assoc, List.append_assoc, decided, if_neg (by simpa using nonempty),
    if_neg notShort, shown, equal]
  rfl

/-- Whoever is let through sent a holder's request. -/
theorem holds_of_processX11Setup {stream rest : RecvStream} {fakeCookie realCookie : List UInt8}
    {block : List UInt8}
    (accepted : processX11Setup stream fakeCookie realCookie = .ok (rest, block)) :
    ∃ request : ReceivedRequest, stream.bytes = request.bytes ++ rest.bytes ∧
      rest.ending = stream.ending ∧ request.Holds fakeCookie ∧
      block = request.rewritten realCookie := by
  obtain ⟨header, behindHeader, nameField, behindName, dataField, behindData, headerRead, nameRead,
    dataRead⟩ := reads_of_processX11Setup accepted
  have headerTaken := readExact_eq_ok headerRead
  have nameTaken := readExact_eq_ok nameRead
  have dataTaken := readExact_eq_ok dataRead
  let request : ReceivedRequest :=
    ⟨header, nameField, dataField, headerTaken.2.1, nameTaken.2.1, dataTaken.2.1⟩
  rw [processX11Setup_of_reads headerRead nameRead dataRead] at accepted
  split at accepted
  · contradiction
  · rename_i nonempty
    split at accepted
    · contradiction
    · rename_i long
      split at accepted
      · contradiction
      · rename_i equal
        cases accepted
        refine ⟨request, ?_, ?_, ⟨by simpa using nonempty, Nat.not_lt.mp long, ?_⟩, rfl⟩
        · rw [headerTaken.1, nameTaken.1, dataTaken.1, bytes, List.append_assoc,
            List.append_assoc]
        · rw [dataTaken.2.2, nameTaken.2.2, headerTaken.2.2]
        · rw [Bool.not_eq_false, constantTimeEq_eq_true] at equal
          rw [List.prefix_iff_eq_take, ← request.take_dataField (Nat.not_lt.mp long)]
          exact equal.symm

end ReceivedRequest

/-- What the connection's task sends behind its `StreamOpen`: the block and then
the rest of the stream, or nothing. -/
def sentToClient : Except SetupFault (RecvStream × List UInt8) → List UInt8
  | .error _ => []
  | .ok (rest, block) => block ++ rest.bytes

/-- **The gate never panics, lets through exactly the holders of the spoofed
cookie, takes exactly their request off the stream, and sends nothing else.** -/
theorem gate_admits_only_holders (stream : RecvStream) (fakeCookie realCookie : List UInt8) :
    (∀ panic, slicedX11Setup stream fakeCookie realCookie ≠ .error (.panicked panic)) ∧
      (∀ rest block, slicedX11Setup stream fakeCookie realCookie = .ok (rest, block) ↔
        ∃ request : ReceivedRequest, stream.bytes = request.bytes ++ rest.bytes ∧
          rest.ending = stream.ending ∧
          request.bytes.length = 12 + padded request.nameLength + padded request.dataLength ∧
          request.Holds fakeCookie ∧ block = request.rewritten realCookie) ∧
      ((∀ (request : ReceivedRequest) rest, stream.bytes = request.bytes ++ rest →
          ¬ request.Holds fakeCookie) →
        (∃ error, slicedX11Setup stream fakeCookie realCookie = .error (.refused error)) ∧
          sentToClient (slicedX11Setup stream fakeCookie realCookie) = []) := by
  rw [slicedX11Setup_eq]
  cases decided : processX11Setup stream fakeCookie realCookie with
  | error error =>
      refine ⟨?_, ?_, fun _ => ⟨⟨error, rfl⟩, rfl⟩⟩
      · intro panic panicked
        cases panicked
      · intro rest block
        apply iff_of_false
        · intro admitted
          cases admitted
        · rintro ⟨request, sent, -, -, holds, -⟩
          have admitted := ReceivedRequest.processX11Setup_of_holds holds realCookie rest.bytes
            stream.ending
          rw [← sent, decided] at admitted
          cases admitted
  | ok admitted =>
      obtain ⟨rest, block⟩ := admitted
      obtain ⟨request, sent, ending, holds, rewritten⟩ :=
        ReceivedRequest.holds_of_processX11Setup decided
      refine ⟨?_, ?_, fun nobody => absurd holds (nobody request rest.bytes sent)⟩
      · intro panic panicked
        cases panicked
      · intro otherRest otherBlock
        constructor
        · intro same
          cases same
          exact ⟨request, sent, ending, request.length_bytes, holds, rewritten⟩
        · rintro ⟨other, otherSent, otherEnding, -, -, otherRewritten⟩
          obtain ⟨rfl, sameRest⟩ := ReceivedRequest.bytes_append_inj (sent.symm.trans otherSent)
          have same : rest = otherRest := by
            change RecvStream.mk rest.bytes rest.ending =
              RecvStream.mk otherRest.bytes otherRest.ending
            rw [sameRest, ending, otherEnding]
          rw [same, rewritten, otherRewritten]
          rfl

/-! ## The rewritten request -/

/-- Read again by the rules of the gate, `block` is one request with the real
authorization, and the rest of the header is as it was. -/
def WellRewritten (request : ReceivedRequest) (realCookie block : List UInt8) : Prop :=
  ∃ shown : ReceivedRequest, ReceivedRequest.read block = some (shown, []) ∧
    shown.authorization = shownAuthorization realCookie ∧
    shown.header.take 6 = request.header.take 6 ∧
    shown.header.drop 10 = request.header.drop 10 ∧
    (realCookie = [] → block.length = 12)

theorem ByteOrder.read16_lt (order : ByteOrder) {bytes : List UInt8} (sized : bytes.length = 2) :
    order.read16 bytes < 2 ^ 16 := by
  cases order with
  | little =>
      have bounded := fromBeBytes_lt bytes.reverse
      rwa [List.length_reverse, sized] at bounded
  | big =>
      have bounded := fromBeBytes_lt bytes
      rwa [sized] at bounded

/-- Only the low 16 bits of a length are written. -/
theorem ByteOrder.read16_write16_mod (order : ByteOrder) (number : Nat) :
    order.read16 (order.write16 number) = number % 2 ^ 16 := by
  cases order with
  | little => rw [read16, write16, List.reverse_reverse, fromBeBytes_toBeBytes]; rfl
  | big => exact fromBeBytes_toBeBytes 2 number

section Header

variable {header : List UInt8} (sized : header.length = 12) (name data : List UInt8)

/-- The header with other lengths. -/
def headerWith (header name data : List UInt8) : List UInt8 :=
  header.take 6 ++ ((ByteOrder.ofHeader header).write16 name.length ++
    ((ByteOrder.ofHeader header).write16 data.length ++ header.drop 10))

include sized

theorem length_headerWith : (headerWith header name data).length = 12 := by
  simp [headerWith, sized]

theorem take_headerWith : (headerWith header name data).take 6 = header.take 6 :=
  List.take_left' (by simp [sized])

theorem drop_headerWith : (headerWith header name data).drop 10 = header.drop 10 := by
  rw [headerWith, ← List.append_assoc, ← List.append_assoc, List.drop_left' (by simp [sized])]

theorem ofHeader_headerWith :
    ByteOrder.ofHeader (headerWith header name data) = ByteOrder.ofHeader header := by
  obtain ⟨byte, rest, rfl⟩ := List.exists_cons_of_length_pos (show 0 < header.length by omega)
  rfl

theorem nameLengthOf_headerWith :
    nameLengthOf (headerWith header name data) = name.length % 2 ^ 16 := by
  rw [nameLengthOf, ofHeader_headerWith sized, headerWith, List.drop_left' (by simp [sized]),
    List.take_left' (by simp), ByteOrder.read16_write16_mod]

theorem dataLengthOf_headerWith :
    dataLengthOf (headerWith header name data) = data.length % 2 ^ 16 := by
  rw [dataLengthOf, ofHeader_headerWith sized, headerWith, ← List.append_assoc,
    List.drop_left' (by simp [sized]), List.take_left' (by simp), ByteOrder.read16_write16_mod]

end Header

theorem shownAuthorization_data (realCookie : List UInt8) :
    (shownAuthorization realCookie).data = realCookie := by
  unfold shownAuthorization
  split
  · rename_i empty
    exact (List.isEmpty_iff.mp empty).symm
  · rfl

theorem length_shownName (realCookie : List UInt8) :
    (shownAuthorization realCookie).name.length < 2 ^ 16 := by
  unfold shownAuthorization
  split
  · exact Nat.pow_pos (by decide)
  · show protoName.length < 2 ^ 16
    decide

namespace ReceivedRequest

/-- The rewritten request is a header with the new lengths, and two padded
fields. -/
theorem rewritten_eq (request : ReceivedRequest) (realCookie : List UInt8) :
    request.rewritten realCookie =
      headerWith request.header (shownAuthorization realCookie).name realCookie ++
        (((shownAuthorization realCookie).name ++
            zeroPadding (shownAuthorization realCookie).name) ++
          (realCookie ++ zeroPadding realCookie)) := by
  unfold rewritten setupBlock shownAuthorization headerWith
  split
  · rename_i empty
    have zeroLengths : ∀ order : ByteOrder, order.write16 0 = [0, 0] := by
      intro order
      cases order with
      | little => rfl
      | big => rfl
    rw [List.isEmpty_iff.mp empty]
    simp [zeroLengths, zeroPadding, padded]
  · simp only [List.append_assoc]

/-- The request with another authorization. -/
def authorizedBy (request : ReceivedRequest) (name data : List UInt8)
    (nameFits : name.length < 2 ^ 16) (dataFits : data.length < 2 ^ 16) : ReceivedRequest where
  header := headerWith request.header name data
  nameField := name ++ zeroPadding name
  dataField := data ++ zeroPadding data
  headerSized := length_headerWith request.headerSized name data
  nameSized := by
    rw [nameLengthOf_headerWith request.headerSized, Nat.mod_eq_of_lt nameFits,
      List.length_append, length_zeroPadding]
  dataSized := by
    rw [dataLengthOf_headerWith request.headerSized, Nat.mod_eq_of_lt dataFits,
      List.length_append, length_zeroPadding]

theorem authorization_authorizedBy (request : ReceivedRequest) {name data : List UInt8}
    (nameFits : name.length < 2 ^ 16) (dataFits : data.length < 2 ^ 16) :
    (request.authorizedBy name data nameFits dataFits).authorization = ⟨name, data⟩ := by
  have nameLength : (request.authorizedBy name data nameFits dataFits).nameLength =
      name.length := by
    rw [ReceivedRequest.nameLength, authorizedBy, nameLengthOf_headerWith request.headerSized,
      Nat.mod_eq_of_lt nameFits]
  have dataLength : (request.authorizedBy name data nameFits dataFits).dataLength =
      data.length := by
    rw [ReceivedRequest.dataLength, authorizedBy, dataLengthOf_headerWith request.headerSized,
      Nat.mod_eq_of_lt dataFits]
  rw [authorization, nameLength, dataLength, authorizedBy, List.take_left' rfl,
    List.take_left' rfl]

/-- The data in a request is shorter than 65536 bytes. -/
theorem length_data_lt (request : ReceivedRequest) :
    request.authorization.data.length < 2 ^ 16 := by
  have bounded : request.dataLength < 2 ^ 16 := by
    apply ByteOrder.read16_lt
    rw [List.length_take, List.length_drop, request.headerSized]
    rfl
  rw [authorization, List.length_take]
  exact lt_of_le_of_lt (Nat.min_le_left _ _) bounded

theorem wellRewritten_rewritten (request : ReceivedRequest) {realCookie : List UInt8}
    (fits : realCookie.length < 2 ^ 16) :
    WellRewritten request realCookie (request.rewritten realCookie) := by
  have nameFits := length_shownName realCookie
  refine ⟨request.authorizedBy _ realCookie nameFits fits, ?_, ?_, ?_, ?_, ?_⟩
  · have readBack := (request.authorizedBy _ realCookie nameFits fits).read_bytes []
    rw [List.append_nil] at readBack
    rw [rewritten_eq]
    exact readBack
  · rw [authorization_authorizedBy]
    exact congrArg (Authorization.mk _) (shownAuthorization_data realCookie).symm
  · exact take_headerWith request.headerSized _ _
  · exact drop_headerWith request.headerSized _ _
  · rintro rfl
    rw [rewritten_eq, List.length_append, length_headerWith request.headerSized]
    rfl

theorem not_wellRewritten {request : ReceivedRequest} {realCookie block : List UInt8}
    (long : 2 ^ 16 ≤ realCookie.length) : ¬ WellRewritten request realCookie block := by
  rintro ⟨shown, -, authorized, -⟩
  have short := shown.length_data_lt
  rw [authorized, shownAuthorization_data] at short
  omega

end ReceivedRequest

/-- **What the gate sends on is one well-formed request with the real cookie
exactly if the cookie is shorter than 65536 bytes.** -/
theorem rewritten_wellFormed_iff {stream rest : RecvStream} {fakeCookie realCookie : List UInt8}
    {block : List UInt8}
    (accepted : processX11Setup stream fakeCookie realCookie = .ok (rest, block)) :
    ∃ request : ReceivedRequest, stream.bytes = request.bytes ++ rest.bytes ∧
      (WellRewritten request realCookie block ↔ realCookie.length < 2 ^ 16) := by
  obtain ⟨request, sent, -, -, rfl⟩ := ReceivedRequest.holds_of_processX11Setup accepted
  refine ⟨request, sent, ?_, request.wellRewritten_rewritten⟩
  intro wellRewritten
  exact Nat.not_le.mp fun long => ReceivedRequest.not_wellRewritten long wellRewritten

/-! ## A cookie whose length is lost -/

/-- A little-endian request with an empty name and the cookie `7 7 7 7`. -/
def sampleRequest : ReceivedRequest where
  header := [0x6C, 0, 11, 0, 0, 0, 0, 0, 4, 0, 0, 0]
  nameField := []
  dataField := [7, 7, 7, 7]
  headerSized := rfl
  nameSized := rfl
  dataSized := rfl

theorem sampleRequest_holds : sampleRequest.Holds [7, 7, 7, 7] :=
  ⟨by decide, by decide, by decide⟩

theorem shortCookie_wellFormed :
    processX11Setup ⟨sampleRequest.bytes ++ [98], .finished⟩ [7, 7, 7, 7] [0x30, 0xFF] =
        .ok (⟨[98], .finished⟩, sampleRequest.rewritten [0x30, 0xFF]) ∧
      ∃ request : ReceivedRequest, sampleRequest.bytes ++ [98] = request.bytes ++ [98] ∧
        WellRewritten request [0x30, 0xFF] (sampleRequest.rewritten [0x30, 0xFF]) := by
  have accepted := ReceivedRequest.processX11Setup_of_holds sampleRequest_holds [0x30, 0xFF] [98]
    .finished
  obtain ⟨request, sent, wellRewritten_iff⟩ := rewritten_wellFormed_iff accepted
  exact ⟨accepted, request, sent, wellRewritten_iff.mpr (by decide)⟩

/-- A session with X11 forwarding and no other options. -/
def sessionWithCookie (cookie : List UInt8) : SessionOpen :=
  ⟨[], "", ∅, [], false, true, "", cookie⟩

theorem length_encode_sessionWithCookie_le (order : MapOrder) (cookie : List UInt8) :
    (Envelope.encode order ⟨some (.sessionOpen (sessionWithCookie cookie))⟩).length ≤
      cookie.length + 60 := by
  have written : Payload.schema.recordOf? order (.sessionOpen (sessionWithCookie cookie)) =
      some ⟨10, .delimited (SessionOpen.schema.encode order (sessionWithCookie cookie))⟩ := rfl
  have noEntries : order.entries (∅ : WatermarkTable) = [] := by
    have same := order.permutation (∅ : WatermarkTable)
    rw [Std.ExtTreeMap.toList_eq_nil_iff.mpr rfl] at same
    exact same.eq_nil
  have inner : SessionOpen.schema.encode order (sessionWithCookie cookie) =
      (Record.mk 6 (.varint 1)).encode ++
        encodeRecords ((FieldCodec.bytes.write order cookie).map (Record.mk 8)) := by
    simp [MessageSchema.encode, MessageSchema.records, SessionOpen.schema, Field.records,
      encodeRecords, FieldCodec.bytes, FieldCodec.string, FieldCodec.bool,
      FieldCodec.repeatedString, FieldCodec.scalar, watermarkCodec, FieldCodec.map, noEntries,
      sessionWithCookie]
  have flag := length_encode_varint_record_le (Record.mk 6 (.varint 1)) rfl
  have data : (encodeRecords
      ((FieldCodec.bytes.write order cookie).map (Record.mk 8))).length ≤ cookie.length + 20 :=
    Nat.le_trans (length_encode_optional_le (ite_eq_or_eq _ _ _) 8)
      (length_encode_delimited_le 8 _)
  have outer := length_encode_delimited_le 10
    (SessionOpen.schema.encode order (sessionWithCookie cookie))
  have body := congrArg List.length inner
  rw [List.length_append] at body
  rw [Envelope.encode, OneofSchema.encode, Option.bind_some, written, Option.toList_some,
    encodeRecords, List.flatMap_singleton]
  omega

/-- A cookie whose announced length is 0 is left behind the request. -/
theorem ReceivedRequest.read_rewritten_of_wrapped (request : ReceivedRequest)
    {realCookie : List UInt8} (wrapped : realCookie.length % 2 ^ 16 = 0) :
    ∃ shown : ReceivedRequest, ReceivedRequest.read (request.rewritten realCookie) =
        some (shown, realCookie ++ zeroPadding realCookie) ∧ shown.authorization.data = [] := by
  have announced := dataLengthOf_headerWith request.headerSized
    (shownAuthorization realCookie).name realCookie
  rw [wrapped] at announced
  let shown : ReceivedRequest :=
    { header := headerWith request.header (shownAuthorization realCookie).name realCookie
      nameField := (shownAuthorization realCookie).name ++
        zeroPadding (shownAuthorization realCookie).name
      dataField := []
      headerSized := length_headerWith request.headerSized _ _
      nameSized := by
        rw [nameLengthOf_headerWith request.headerSized,
          Nat.mod_eq_of_lt (length_shownName realCookie), List.length_append, length_zeroPadding]
      dataSized := by
        rw [announced]
        rfl }
  refine ⟨shown, ?_, List.take_nil⟩
  have block : request.rewritten realCookie =
      shown.bytes ++ (realCookie ++ zeroPadding realCookie) := by
    rw [rewritten_eq, bytes, List.append_nil]
    simp only [shown, List.append_assoc]
  rw [block, read_bytes]

/-- The announced length of 65536 bytes is 0: the X server finds no cookie in
the request, and the cookie's bytes behind it. Such a cookie is far from the
limit of a control message. -/
theorem longCookie_unread :
    (∀ order, (Envelope.encode order
        ⟨some (.sessionOpen (sessionWithCookie (List.replicate 65536 0)))⟩).length ≤
          maxMessageBytes) ∧
      ∃ block, processX11Setup ⟨sampleRequest.bytes, .finished⟩ [7, 7, 7, 7]
            (List.replicate 65536 0) = .ok (⟨[], .finished⟩, block) ∧
        (∃ shown, ReceivedRequest.read block = some (shown, List.replicate 65536 0) ∧
          shown.authorization.data = []) ∧
        ∀ request, ¬ WellRewritten request (List.replicate 65536 0) block := by
  generalize cookieIs : List.replicate 65536 (0 : UInt8) = cookie
  have length : cookie.length = 65536 := by
    rw [← cookieIs, List.length_replicate]
  refine ⟨?_, sampleRequest.rewritten cookie, ?_, ?_, ?_⟩
  · intro order
    have bounded := length_encode_sessionWithCookie_le order cookie
    rw [length] at bounded
    exact Nat.le_trans bounded (by decide)
  · have accepted := ReceivedRequest.processX11Setup_of_holds sampleRequest_holds cookie []
      .finished
    rwa [List.append_nil] at accepted
  · have padding : zeroPadding cookie = [] := by
      rw [zeroPadding, length]
      rfl
    have wrapped : cookie.length % 2 ^ 16 = 0 := by
      rw [length]
      rfl
    have unread := sampleRequest.read_rewritten_of_wrapped wrapped
    rwa [padding, List.append_nil] at unread
  · intro request
    exact ReceivedRequest.not_wellRewritten (Nat.le_of_eq length.symm)

end Etr.X11
