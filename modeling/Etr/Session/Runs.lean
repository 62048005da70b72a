import Etr.Library.Transition
import Etr.Session.History

/-!
Contract: everything that happens to a session's state, in any order.

Owns the operations both programs perform on it, over any number of
connections, as one step function.

Does not own who performs them or when.
-/

namespace Etr.Session

open Etr.Library

attribute [ext] SessionState

/-- One critical section on the session state. -/
inductive SessionOp where
  | openStream (streamId : Nat) (streamType : StreamType)
  | closeStream (streamId : Nat)
  /-- A sender numbers and records a payload. -/
  | send (streamId : Nat) (payload : Payload)
  /-- `apply_server_acks`, from a handshake or a heartbeat. -/
  | acknowledge (acks : WatermarkMap)
  /-- A PTY reader got a chunk with this number. -/
  | chunk (seq : UInt64)

namespace SessionState

/-- Mutation through `stream_mut`; nothing if the stream does not exist. -/
def updateStream (session : SessionState) (streamId : Nat)
    (update : StreamState → StreamState) : SessionState :=
  { session with
    streams := fun id =>
      if id = streamId then (session.streams id).map update else session.streams id
    terminalExists := by
      by_cases isTerminal : 0 = streamId
      · simpa [← isTerminal] using session.terminalExists
      · simp [isTerminal, session.terminalExists] }

def apply (session : SessionState) : SessionOp → SessionState
  | .openStream streamId streamType => session.openStream streamId streamType
  | .closeStream streamId => session.closeStream streamId
  | .send streamId payload =>
      session.updateStream streamId fun stream => stream.numberAndRecord payload
  | .acknowledge acks => session.applyServerAcks acks
  | .chunk seq => session.updateTerminal fun stream => stream.markReceived seq.toNat

/-- The session after the operations. -/
def afterOps (session : SessionState) (ops : List SessionOp) : SessionState :=
  ops.foldl apply session

/-- `apply` as a step of a run. -/
def step (session : SessionState) (op : SessionOp) : Option SessionState :=
  some (session.apply op)

theorem run_step (session : SessionState) (ops : List SessionOp) :
    run step session ops = some (session.afterOps ops) := by
  induction ops generalizing session with
  | nil => rfl
  | cons op rest inductionHypothesis =>
      exact run_cons_eq_some.mpr ⟨session.apply op, rfl, inductionHypothesis (session.apply op)⟩

theorem afterOps_append (session : SessionState) (first second : List SessionOp) :
    session.afterOps (first ++ second) = (session.afterOps first).afterOps second :=
  List.foldl_append

end SessionState

/-- What an operation does to the stream with an id. -/
def SessionOp.onStream (streamId : Nat) (held : Option StreamState) :
    SessionOp → Option StreamState
  | .openStream opened streamType =>
      if streamId = opened then some (held.getD (StreamState.new opened streamType)) else held
  | .closeStream closed =>
      if streamId = closed then
        held.map fun stream => { stream with lifecycle := .closed }
      else
        held
  | .send sender payload =>
      if streamId = sender then held.map fun stream => stream.numberAndRecord payload else held
  | .acknowledge acks =>
      match acks streamId with
      | some ackSeq => held.map fun stream => stream.acknowledgeUpTo ackSeq
      | none => held
  | .chunk seq =>
      if streamId = 0 then held.map fun stream => stream.markReceived seq.toNat else held

namespace SessionState

/-- An operation treats each stream for itself. -/
theorem streams_apply (session : SessionState) (op : SessionOp) (streamId : Nat) :
    (session.apply op).streams streamId = op.onStream streamId (session.streams streamId) := by
  cases op with
  | openStream opened streamType => rfl
  | closeStream closed => rfl
  | send sender payload => rfl
  | acknowledge acks => rfl
  | chunk seq =>
      by_cases isTerminal : streamId = 0
      · subst isTerminal
        rw [SessionOp.onStream, streams_zero session]
        rfl
      · simp only [apply, updateTerminal, SessionOp.onStream, if_neg isTerminal]

/-- Only a chunk moves the receive cursor. -/
theorem nextInSeq_apply (session : SessionState) (op : SessionOp) :
    (session.apply op).terminal.nextInSeq =
      match op with
      | .chunk seq => (seq.toNat + 1) % 2 ^ 64
      | _ => session.terminal.nextInSeq := by
  have effect := streams_apply session op 0
  rw [streams_zero, streams_zero] at effect
  cases op with
  | openStream opened streamType =>
      rw [SessionOp.onStream, Option.getD_some, ite_self] at effect
      rw [Option.some.inj effect]
  | closeStream closed =>
      simp only [SessionOp.onStream, Option.map_some] at effect
      split at effect
      · rw [Option.some.inj effect]
      · rw [Option.some.inj effect]
  | send sender payload =>
      simp only [SessionOp.onStream, Option.map_some] at effect
      split at effect
      · rw [Option.some.inj effect]
        rfl
      · rw [Option.some.inj effect]
  | acknowledge acks => exact nextInSeq_applyServerAcks session acks
  | chunk seq => rfl

end SessionState

end Etr.Session
