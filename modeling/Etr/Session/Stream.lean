import Mathlib.Algebra.Ring.Nat

/-!
Contract: per-stream session state, as `src/session/stream.rs` keeps it.

Owns sequence-number counters, the send history and its byte count, and the
three operations on them: recording a send with eviction, trimming by an
acknowledgement, and selecting what to replay.

Counters are natural numbers. The one place where a peer chooses the operand
of an addition, `next_in_seq = seq + 1`, keeps the 64-bit wrap-around of the
release profile.
-/

namespace Etr.Session

/-- Bytes carried by one chunk. -/
abbrev Payload := List UInt8

/-- One PTY chunk under its sequence number. -/
abbrev Chunk := Nat × Payload

/-- Stream type carried in `StreamOpen`. -/
inductive StreamType where
  | terminal
  | portForward
  | x11
deriving DecidableEq, Repr

/-- Lifecycle of a single multiplexed stream. -/
inductive StreamLifecycle where
  | opening
  | open
  | closing
  | closed
deriving DecidableEq, Repr

/-- Maximum bytes of send history retained per stream. -/
def maxHistoryBytes : Nat := 4 * 1024 * 1024

/-- State for one logical stream within a session. -/
structure StreamState where
  streamId : Nat
  streamType : StreamType
  nextOutSeq : Nat
  nextInSeq : Nat
  sendHistory : List (Nat × Payload)
  historyBytes : Nat
  lifecycle : StreamLifecycle
deriving DecidableEq, Repr

namespace StreamState

/-- An open stream; sequence number 0 is reserved as "nothing received yet". -/
def new (streamId : Nat) (streamType : StreamType) : StreamState where
  streamId := streamId
  streamType := streamType
  nextOutSeq := 1
  nextInSeq := 1
  sendHistory := []
  historyBytes := 0
  lifecycle := .open

/-- The `while` loop of `record_send`: pop the oldest entry while the byte
total exceeds the cap. -/
def evict : List (Nat × Payload) → Nat → List (Nat × Payload) × Nat
  | [], bytes => ([], bytes)
  | (seq, payload) :: rest, bytes =>
      if maxHistoryBytes < bytes then
        evict rest (bytes - payload.length)
      else
        ((seq, payload) :: rest, bytes)

/-- Record a sent payload, evicting the oldest entries over the cap. -/
def recordSend (stream : StreamState) (seqNum : Nat) (payload : Payload) : StreamState :=
  let kept := evict (stream.sendHistory ++ [(seqNum, payload)])
    (stream.historyBytes + payload.length)
  { stream with sendHistory := kept.1, historyBytes := kept.2 }

/-- The `while let` loop of `acknowledge_up_to`. -/
def trim (ackSeq : Nat) : List (Nat × Payload) → Nat → List (Nat × Payload) × Nat
  | [], bytes => ([], bytes)
  | (seq, data) :: rest, bytes =>
      if seq ≤ ackSeq then
        trim ackSeq rest (bytes - data.length)
      else
        ((seq, data) :: rest, bytes)

/-- Discard history entries the peer has acknowledged. -/
def acknowledgeUpTo (stream : StreamState) (ackSeq : Nat) : StreamState :=
  let kept := trim ackSeq stream.sendHistory stream.historyBytes
  { stream with sendHistory := kept.1, historyBytes := kept.2 }

/-- All history entries above the peer's watermark, for replay. -/
def replayFrom (stream : StreamState) (peerLastReceived : Nat) : List (Nat × Payload) :=
  stream.sendHistory.filter fun entry => decide (peerLastReceived < entry.1)

/-- The numbering block of both senders: take `next_out_seq`, increment it and
record the payload under it. -/
def numberAndRecord (stream : StreamState) (payload : Payload) : StreamState :=
  recordSend { stream with nextOutSeq := stream.nextOutSeq + 1 } stream.nextOutSeq payload

/-- The watermark update of both receivers: `next_in_seq = seq + 1`. -/
def markReceived (stream : StreamState) (seq : Nat) : StreamState :=
  { stream with nextInSeq := (seq + 1) % 2 ^ 64 }

/-- `next_in_seq.checked_sub(1)`. -/
def lastReceived (stream : StreamState) : Option Nat :=
  if stream.nextInSeq = 0 then none else some (stream.nextInSeq - 1)

/-! ## Effect of each operation on the fields -/

section Fields

variable (stream : StreamState) (seq ackSeq : Nat) (payload : Payload)

@[simp] theorem nextOutSeq_numberAndRecord :
    (stream.numberAndRecord payload).nextOutSeq = stream.nextOutSeq + 1 := rfl

@[simp] theorem nextInSeq_acknowledgeUpTo :
    (stream.acknowledgeUpTo ackSeq).nextInSeq = stream.nextInSeq := rfl

end Fields

/-- The acknowledgement loop pops the entries at or below the watermark. -/
theorem trim_eq_dropWhile (ackSeq : Nat) (history : List (Nat × Payload)) (bytes : Nat) :
    (trim ackSeq history bytes).1 =
      history.dropWhile fun entry => decide (entry.1 ≤ ackSeq) := by
  induction history generalizing bytes with
  | nil => rfl
  | cons entry rest inductionHypothesis =>
      unfold trim
      by_cases covered : entry.1 ≤ ackSeq
      · simp [covered, inductionHypothesis]
      · simp [covered]

end StreamState

end Etr.Session
