import Etr.Server.Authentication
import Etr.Wire.StreamFraming

/-!
Contract: the setup request of an X client and its rewriting.

Owns the request with the lengths in its own byte order and its padding, its
reader by the X11 rules, and `process_x11_setup` of `src/bin/etrs.rs` with its
error texts.

Does not own where the cookies come from.
-/

namespace Etr.X11

open Etr.Library Etr.Wire Etr.Server
open FieldCodec (utf8)

/-! ## Byte order and padding -/

inductive ByteOrder where
  | little
  | big
deriving DecidableEq, Repr

/-- First byte of a request. -/
def ByteOrder.mark : ByteOrder → UInt8
  | .little => 0x6C
  | .big => 0x42

/-- The byte order, by the X11 rules. -/
def ByteOrder.ofMark? (byte : UInt8) : Option ByteOrder :=
  if byte = 0x6C then some .little else if byte = 0x42 then some .big else none

/-- The byte order `process_x11_setup` goes by: anything but `l` is big-endian. -/
def ByteOrder.ofHeader (header : List UInt8) : ByteOrder :=
  if header.headD 0 = 0x6C then .little else .big

/-- A 16-bit number in this order. -/
def ByteOrder.write16 : ByteOrder → Nat → List UInt8
  | .little, number => (toBeBytes 2 number).reverse
  | .big, number => toBeBytes 2 number

def ByteOrder.read16 : ByteOrder → List UInt8 → Nat
  | .little, bytes => fromBeBytes bytes.reverse
  | .big, bytes => fromBeBytes bytes

/-- `(len + 3) & !3`. -/
def padded (length : Nat) : Nat :=
  (length + 3) / 4 * 4

/-- Zeros up to the next multiple of four. -/
def zeroPadding (bytes : List UInt8) : List UInt8 :=
  List.replicate (padded bytes.length - bytes.length) 0

theorem ByteOrder.ofMark?_mark (order : ByteOrder) : ofMark? order.mark = some order := by
  cases order with
  | little => rfl
  | big => rfl

@[simp] theorem ByteOrder.length_write16 (order : ByteOrder) (number : Nat) :
    (order.write16 number).length = 2 := by
  cases order with
  | little => exact List.length_reverse
  | big => rfl

theorem ByteOrder.read16_write16 (order : ByteOrder) {number : Nat} (fits : number < 2 ^ 16) :
    order.read16 (order.write16 number) = number := by
  have bounded : number < 256 ^ 2 := fits
  cases order with
  | little =>
      rw [read16, write16, List.reverse_reverse, fromBeBytes_toBeBytes_of_lt bounded]
  | big => exact fromBeBytes_toBeBytes_of_lt bounded

theorem length_zeroPadding (bytes : List UInt8) :
    bytes.length + (zeroPadding bytes).length = padded bytes.length := by
  rw [zeroPadding, List.length_replicate, padded]
  omega

/-! ## Setup requests -/

/-- What an X client sends first. -/
structure SetupRequest where
  order : ByteOrder
  /-- An unused byte and the protocol version. -/
  version : Vector UInt8 5
  name : List UInt8
  namePadding : List UInt8
  data : List UInt8
  dataPadding : List UInt8
  unused : Vector UInt8 2
  nameFits : name.length < 2 ^ 16
  dataFits : data.length < 2 ^ 16
  namePadded : name.length + namePadding.length = padded name.length
  dataPadded : data.length + dataPadding.length = padded data.length

/-- The authorization in a setup request. -/
structure Authorization where
  name : List UInt8
  data : List UInt8
deriving DecidableEq, Repr

/-- Exactly `count` bytes, and the rest. -/
def takeBytes (count : Nat) (bytes : List UInt8) : Option (List UInt8 × List UInt8) :=
  (takeExact count bytes).map fun split => (split.1.1, split.2)

theorem takeBytes_append {count : Nat} {bytes : List UInt8} (sized : bytes.length = count)
    (rest : List UInt8) : takeBytes count (bytes ++ rest) = some (bytes, rest) := by
  rw [takeBytes, takeExact_append_of_length sized, Option.map_some]

/-- The reader of an X server, and what follows the request. -/
def readSetup (bytes : List UInt8) : Option (Authorization × List UInt8) :=
  (takeBytes 12 bytes).bind fun (header, behindHeader) =>
    (ByteOrder.ofMark? (header.headD 0)).bind fun order =>
      let nameLength := order.read16 ((header.drop 6).take 2)
      let dataLength := order.read16 ((header.drop 8).take 2)
      (takeBytes (padded nameLength) behindHeader).bind fun (name, behindName) =>
        (takeBytes (padded dataLength) behindName).map fun (data, rest) =>
          (⟨name.take nameLength, data.take dataLength⟩, rest)

namespace SetupRequest

/-- The 12 bytes in front, with the two lengths. -/
def header (request : SetupRequest) (nameLength dataLength : Nat) : List UInt8 :=
  (request.order.mark :: request.version.toList) ++
    (request.order.write16 nameLength ++
      (request.order.write16 dataLength ++ request.unused.toList))

/-- The request on the wire. -/
def bytes (request : SetupRequest) : List UInt8 :=
  request.header request.name.length request.data.length ++
    ((request.name ++ request.namePadding) ++ (request.data ++ request.dataPadding))

def authorization (request : SetupRequest) : Authorization :=
  ⟨request.name, request.data⟩

/-- The same request with another authorization. -/
def authorizedBy (request : SetupRequest) (name data : List UInt8) (nameFits : name.length < 2 ^ 16)
    (dataFits : data.length < 2 ^ 16) : SetupRequest :=
  { request with
    name := name
    namePadding := zeroPadding name
    data := data
    dataPadding := zeroPadding data
    nameFits := nameFits
    dataFits := dataFits
    namePadded := length_zeroPadding name
    dataPadded := length_zeroPadding data }

section Header

variable (request : SetupRequest) (nameLength dataLength : Nat)

@[simp] theorem length_header : (request.header nameLength dataLength).length = 12 := by
  simp [header]

theorem header_nameLength :
    ((request.header nameLength dataLength).drop 6).take 2 = request.order.write16 nameLength := by
  rw [header, List.drop_left' (by simp), List.take_left' (by simp)]

theorem header_dataLength :
    ((request.header nameLength dataLength).drop 8).take 2 = request.order.write16 dataLength := by
  rw [header, ← List.append_assoc, List.drop_left' (by simp), List.take_left' (by simp)]

theorem header_front :
    (request.header nameLength dataLength).take 6 =
      request.order.mark :: request.version.toList := by
  rw [header, List.take_left' (by simp)]

theorem header_back :
    (request.header nameLength dataLength).drop 10 = request.unused.toList := by
  rw [header, ← List.append_assoc, ← List.append_assoc, List.drop_left' (by simp)]

theorem header_mark :
    (request.header nameLength dataLength).headD 0 = request.order.mark := rfl

theorem ofHeader_header :
    ByteOrder.ofHeader (request.header nameLength dataLength) = request.order := by
  rw [ByteOrder.ofHeader, header_mark]
  cases request.order with
  | little => rfl
  | big => rfl

end Header

theorem length_paddedName (request : SetupRequest) :
    (request.name ++ request.namePadding).length = padded request.name.length := by
  rw [List.length_append, request.namePadded]

theorem length_paddedData (request : SetupRequest) :
    (request.data ++ request.dataPadding).length = padded request.data.length := by
  rw [List.length_append, request.dataPadded]

/-- An X server reads back the authorization of a request. -/
theorem readSetup_bytes (request : SetupRequest) (rest : List UInt8) :
    readSetup (request.bytes ++ rest) = some (request.authorization, rest) := by
  have header := request.length_header request.name.length request.data.length
  rw [readSetup, bytes, List.append_assoc, List.append_assoc, takeBytes_append header,
    Option.bind_some]
  simp only [header_mark, ByteOrder.ofMark?_mark, Option.bind_some, header_nameLength,
    header_dataLength, ByteOrder.read16_write16 _ request.nameFits,
    ByteOrder.read16_write16 _ request.dataFits, takeBytes_append request.length_paddedName,
    takeBytes_append request.length_paddedData, Option.map_some, List.take_left, authorization]

end SetupRequest

/-! ## The server's rewriting -/

/-- Why `process_x11_setup` refuses a connection. -/
inductive SetupError where
  | read (error : ReadExactError)
  | emptyServerCookie
  | cookieTooShort
  | cookieMismatch
deriving DecidableEq, Repr

/-- The texts of the errors that are not of the stream. -/
def SetupError.message? : SetupError → Option String
  | .read _ => none
  | .emptyServerCookie => some "X11 forwarding requires a non-empty server auth cookie"
  | .cookieTooShort => some "X11 auth cookie too short"
  | .cookieMismatch => some "X11 auth cookie mismatch"

/-- The protocol name that is written. -/
def protoName : List UInt8 :=
  utf8 "MIT-MAGIC-COOKIE-1"

/-- The rewritten request, from the header that was read. -/
def setupBlock (order : ByteOrder) (header realCookie : List UInt8) : List UInt8 :=
  if realCookie.isEmpty then
    header.take 6 ++ [0, 0, 0, 0] ++ header.drop 10
  else
    header.take 6 ++ order.write16 protoName.length ++ order.write16 realCookie.length ++
      header.drop 10 ++ (protoName ++ zeroPadding protoName) ++
      (realCookie ++ zeroPadding realCookie)

/-- `process_x11_setup`: the rest of the stream, and the rewritten request. -/
def processX11Setup (stream : RecvStream) (fakeCookie realCookie : List UInt8) :
    Except SetupError (RecvStream × List UInt8) :=
  match stream.readExact 12 with
  | .error error => .error (.read error)
  | .ok (header, behindHeader) =>
      let order := ByteOrder.ofHeader header
      let nameLen := order.read16 ((header.drop 6).take 2)
      let dataLen := order.read16 ((header.drop 8).take 2)
      match behindHeader.readExact (padded nameLen) with
      | .error error => .error (.read error)
      | .ok (_, behindName) =>
          match behindName.readExact (padded dataLen) with
          | .error error => .error (.read error)
          | .ok (data, rest) =>
              if fakeCookie.isEmpty then
                .error .emptyServerCookie
              else if dataLen < fakeCookie.length then
                .error .cookieTooShort
              else if constantTimeEq (data.take fakeCookie.length) fakeCookie = false then
                .error .cookieMismatch
              else
                .ok (rest, setupBlock order header realCookie)

/-- The authorization is replaced, or taken out if there is no cookie to show. -/
def shownAuthorization (realCookie : List UInt8) : Authorization :=
  if realCookie.isEmpty then ⟨[], []⟩ else ⟨protoName, realCookie⟩

namespace SetupRequest

/-- The rewritten request is a request again. -/
theorem exists_rewritten (request : SetupRequest) (nameLength dataLength : Nat)
    {realCookie : List UInt8} (fits : realCookie.length < 2 ^ 16) :
    ∃ rewritten : SetupRequest,
      setupBlock request.order (request.header nameLength dataLength) realCookie =
        rewritten.bytes ∧ rewritten.authorization = shownAuthorization realCookie := by
  unfold setupBlock shownAuthorization
  rw [header_front, header_back]
  split
  · refine ⟨request.authorizedBy [] [] (by decide) (by decide), ?_, rfl⟩
    have zeroLengths : request.order.write16 0 = [0, 0] := by
      cases request.order with
      | little => rfl
      | big => rfl
    simp [bytes, header, authorizedBy, zeroLengths, zeroPadding, padded]
  · refine ⟨request.authorizedBy protoName realCookie (by decide) fits, ?_, rfl⟩
    simp [bytes, header, authorizedBy]

/-- A request with the server's own cookie is rewritten. -/
theorem processX11Setup_bytes (request : SetupRequest) {fakeCookie : List UInt8}
    (spoofed : fakeCookie ≠ []) (carried : fakeCookie <+: request.data) (realCookie : List UInt8)
    (rest : List UInt8) (ending : StreamEnd) :
    processX11Setup ⟨request.bytes ++ rest, ending⟩ fakeCookie realCookie =
      .ok (⟨rest, ending⟩, setupBlock request.order
        (request.header request.name.length request.data.length) realCookie) := by
  have header := request.length_header request.name.length request.data.length
  have long : ¬ request.data.length < fakeCookie.length := Nat.not_lt.mpr carried.length_le
  have shown : ((request.data ++ request.dataPadding).take fakeCookie.length) = fakeCookie := by
    rw [List.take_append_of_le_length carried.length_le]
    exact (List.prefix_iff_eq_take.mp carried).symm
  have equal : constantTimeEq fakeCookie fakeCookie = true := constantTimeEq_eq_true.mpr rfl
  rw [processX11Setup, bytes, List.append_assoc, List.append_assoc, readExact_append header]
  simp only [ofHeader_header, header_nameLength, header_dataLength,
    ByteOrder.read16_write16 _ request.nameFits, ByteOrder.read16_write16 _ request.dataFits,
    readExact_append request.length_paddedName, readExact_append request.length_paddedData,
    List.isEmpty_iff, if_neg spoofed, if_neg long, shown, equal, Bool.true_eq_false, if_false]

end SetupRequest

end Etr.X11
