import Etr.Session.Stream

/-!
Contract: reading one frame from a QUIC stream, as `src/quic.rs` does it.

Owns the stream as its reader sees it, exact reads, and the two frame readers
with the kinds of the errors they return. The protobuf decoder is a parameter.

Does not own the frame writers.
-/

namespace Etr.Wire

open Etr.Session

/-- How a stream ends behind its last byte. -/
inductive StreamEnd where
  /-- The peer finished it. -/
  | finished
  /-- It was reset, or the connection was lost. -/
  | lost
deriving DecidableEq, Repr

/-- The bytes a reader will get, and what it sees behind them. -/
structure RecvStream where
  bytes : List UInt8
  ending : StreamEnd
deriving DecidableEq, Repr

/-- `quinn::ReadExactError`. -/
inductive ReadExactError where
  | finishedEarly (read : Nat)
  | readError
deriving DecidableEq, Repr

/-- The `io::ErrorKind`s the data plane produces. -/
inductive ErrorKind where
  | brokenPipe
  | invalidData
  | unexpectedEof
  | connectionAborted
  | other
deriving DecidableEq, Repr

/-- `recv.read_exact`. -/
def RecvStream.readExact (stream : RecvStream) (count : Nat) :
    Except ReadExactError (List UInt8 × RecvStream) :=
  if count ≤ stream.bytes.length then
    .ok (stream.bytes.take count, { stream with bytes := stream.bytes.drop count })
  else
    match stream.ending with
    | .finished => .error (.finishedEarly stream.bytes.length)
    | .lost => .error .readError

def fromBeBytes (bytes : List UInt8) : Nat :=
  bytes.foldl (fun value byte => value * 256 + byte.toNat) 0

/-- Longest control message body a reader accepts. -/
def maxMessageBytes : Nat := 4 * 1024 * 1024

/-- Longest PTY chunk a reader accepts. -/
def maxChunkBytes : Nat := 1024 * 1024

/-- `read_msg`; `none` when the stream ends in front of a complete length
prefix. -/
def RecvStream.readMsg {Envelope : Type} (decode : List UInt8 → Option Envelope)
    (stream : RecvStream) : Except ErrorKind (Option (Envelope × RecvStream)) :=
  match stream.readExact 4 with
  | .error (.finishedEarly _) => .ok none
  | .error .readError => .error .brokenPipe
  | .ok (prefixBytes, body) =>
      if maxMessageBytes < fromBeBytes prefixBytes then
        .error .invalidData
      else
        match body.readExact (fromBeBytes prefixBytes) with
        | .error _ => .error .brokenPipe
        | .ok (message, rest) =>
            match decode message with
            | some envelope => .ok (some (envelope, rest))
            | none => .error .invalidData

/-- `read_pty_chunk`; `none` when the stream ends in front of a complete
header. -/
def RecvStream.readPtyChunk (stream : RecvStream) :
    Except ErrorKind (Option (Chunk × RecvStream)) :=
  match stream.readExact 12 with
  | .error (.finishedEarly _) => .ok none
  | .error .readError => .error .brokenPipe
  | .ok (header, body) =>
      if maxChunkBytes < fromBeBytes (header.drop 8) then
        .error .invalidData
      else
        match body.readExact (fromBeBytes (header.drop 8)) with
        | .error _ => .error .brokenPipe
        | .ok (data, rest) => .ok (some ((fromBeBytes (header.take 8), data), rest))

/-- No read fails the way a clean disconnect is reported. -/
theorem readMsg_error_kind {Envelope : Type} {decode : List UInt8 → Option Envelope}
    {stream : RecvStream} {kind : ErrorKind} (failed : stream.readMsg decode = .error kind) :
    kind ≠ .connectionAborted := by
  unfold RecvStream.readMsg at failed
  split at failed
  · contradiction
  · cases failed
    decide
  · split at failed
    · cases failed
      decide
    · split at failed
      · cases failed
        decide
      · split at failed
        · contradiction
        · cases failed
          decide

end Etr.Wire
