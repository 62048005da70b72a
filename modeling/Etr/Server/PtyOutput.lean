import Etr.Library.Channel
import Etr.Library.Transition
import Etr.Session.History
import Etr.Session.State

/-!
Contract: the server's PTY output, from the PTY reader to the PTY stream of
the current connection.

Owns the transition system of the PTY reader task of `run_session` and of the
part of `handle_connection` that resumes a client: collecting replays under
the session lock, publishing the new sender, queueing the replays and draining
the queue. Each action is one critical section or one channel operation, so a
list of actions is one interleaving of the two tasks.

Does not own the control stream or the client.
-/

namespace Etr.Server

open Etr.Library Etr.Session

/-- Entries the per-connection PTY output channel holds. -/
def ptyOutputCapacity : Nat := 1000

/-- How far `handle_connection` is with resuming the current client. -/
inductive Resume where
  /-- No connection is being handled. -/
  | waiting
  /-- Replays were collected under the session lock. -/
  | collected (replays : List Chunk)
  /-- The new sender is published; `rest` is still to be queued. -/
  | queueing (rest : List Chunk)
  /-- The PTY writer task runs. -/
  | serving
deriving DecidableEq, Repr

/-- The sender slot is set from publishing until the connection ends. -/
def Resume.published : Resume → Bool
  | .waiting | .collected _ => false
  | .queueing _ | .serving => true

/-- Server state the PTY output passes through. -/
structure OutputState where
  session : SessionState
  /-- Chunk the PTY reader has recorded and not yet handed to the connection. -/
  reader : Option Chunk
  /-- `outbound_pty_tx`, with the queue behind the sender. -/
  outboundPtyTx : Option (Channel Chunk ptyOutputCapacity)
  resume : Resume
  /-- Chunks the current connection's PTY writer has taken from the queue. -/
  written : List Chunk
  /-- History variable: every payload read from the PTY. -/
  produced : List Payload

namespace OutputState

/-- State of `run_session` before its first connection. -/
def init (sessionId : List UInt8) (passkey : String) : OutputState where
  session := SessionState.new sessionId passkey
  reader := none
  outboundPtyTx := none
  resume := .waiting
  written := []
  produced := []

/-- Everything enqueued on the current connection so far, oldest first. -/
def enqueued (state : OutputState) : List Chunk :=
  state.written ++ (state.outboundPtyTx.map Channel.items).getD []

/-! ## Steps -/

/-- PTY reader: number and record the bytes just read, under the session lock. -/
def record (state : OutputState) (data : Payload) : Option OutputState :=
  match state.reader with
  | some _ => none
  | none =>
      some { state with
        session := state.session.updateTerminal fun stream => stream.numberAndRecord data
        reader := some (state.session.terminal.nextOutSeq, data)
        produced := state.produced ++ [data] }

/-- PTY reader: read the sender slot and enqueue if it is set. The send blocks
while the queue is full. -/
def forward (state : OutputState) : Option OutputState :=
  match state.reader, state.outboundPtyTx with
  | none, _ => none
  | some _, none => some { state with reader := none }
  | some chunk, some channel =>
      (channel.trySend chunk).map fun sent =>
        { state with reader := none, outboundPtyTx := some sent }

/-- Control reader: a heartbeat trims the send history. -/
def heartbeat (state : OutputState) (acks : WatermarkMap) : Option OutputState :=
  match state.resume with
  | .serving => some { state with session := state.session.applyServerAcks acks }
  | _ => none

/-- Apply the client's acknowledgements and collect its replays, under one
session lock. -/
def collect (state : OutputState) (lastReceivedSeq : WatermarkMap) : Option OutputState :=
  match state.resume with
  | .waiting =>
      let session := state.session.applyServerAcks lastReceivedSeq
      some { state with
        session := session
        resume := .collected ((session.collectReplays lastReceivedSeq 0).getD [])
        written := [] }
  | _ => none

/-- Create the connection's channel and publish its sender. -/
def publish (state : OutputState) : Option OutputState :=
  match state.resume with
  | .collected replays =>
      some { state with
        outboundPtyTx := some Channel.empty
        resume := .queueing replays }
  | _ => none

/-- Queue one replay. The result of `try_send` is ignored. -/
def queueReplay (state : OutputState) : Option OutputState :=
  match state.resume, state.outboundPtyTx with
  | .queueing (entry :: rest), some channel =>
      some { state with
        outboundPtyTx := some (channel.offer entry)
        resume := .queueing rest }
  | _, _ => none

/-- The replay loop is over and the PTY stream arrived: spawn the writer. -/
def startWriter (state : OutputState) : Option OutputState :=
  match state.resume with
  | .queueing [] => some { state with resume := .serving }
  | _ => none

/-- PTY writer: take the oldest queued chunk to write it to the stream. -/
def write (state : OutputState) : Option OutputState :=
  match state.resume, state.outboundPtyTx with
  | .serving, some channel =>
      channel.recv.map fun taken =>
        { state with outboundPtyTx := some taken.2, written := state.written ++ [taken.1] }
  | _, _ => none

/-- The connection ended and the accept loop cleared the slots. -/
def close (state : OutputState) : Option OutputState :=
  match state.resume with
  | .waiting => none
  | _ => some { state with outboundPtyTx := none, resume := .waiting, written := [] }

end OutputState

/-- One atomic step of the PTY reader or of `handle_connection`. -/
inductive OutputAction where
  | record (data : Payload)
  | forward
  | heartbeat (acks : WatermarkMap)
  | collect (lastReceivedSeq : WatermarkMap)
  | publish
  | queueReplay
  | startWriter
  | write
  | close

/-- Take one step, if it is enabled. -/
def OutputState.step (state : OutputState) : OutputAction → Option OutputState
  | .record data => state.record data
  | .forward => state.forward
  | .heartbeat acks => state.heartbeat acks
  | .collect lastReceivedSeq => state.collect lastReceivedSeq
  | .publish => state.publish
  | .queueReplay => state.queueReplay
  | .startWriter => state.startWriter
  | .write => state.write
  | .close => state.close

/-! ## What each step can do -/

namespace OutputState

variable {state next : OutputState}

theorem record_eq_some {data : Payload} :
    state.record data = some next ↔ state.reader = none ∧
      next = { state with
        session := state.session.updateTerminal fun stream => stream.numberAndRecord data
        reader := some (state.session.terminal.nextOutSeq, data)
        produced := state.produced ++ [data] } := by
  unfold record
  cases state.reader with
  | none => simp [eq_comm]
  | some _ => simp

theorem forward_eq_some :
    state.forward = some next ↔ ∃ chunk, state.reader = some chunk ∧
      ((state.outboundPtyTx = none ∧ next = { state with reader := none }) ∨
        ∃ channel sent, state.outboundPtyTx = some channel ∧
          channel.trySend chunk = some sent ∧
          next = { state with reader := none, outboundPtyTx := some sent }) := by
  unfold forward
  cases state.reader with
  | none => simp
  | some chunk =>
      cases state.outboundPtyTx with
      | none => simp [eq_comm]
      | some channel =>
          simp only [Option.map_eq_some_iff, Option.some.injEq, reduceCtorEq, false_and,
            false_or, exists_eq_left', exists_and_left]
          exact exists_congr fun _ => and_congr_right fun _ => eq_comm

theorem heartbeat_eq_some {acks : WatermarkMap} :
    state.heartbeat acks = some next ↔ state.resume = .serving ∧
      next = { state with session := state.session.applyServerAcks acks } := by
  unfold heartbeat
  cases state.resume <;> simp [eq_comm]

theorem collect_eq_some {lastReceivedSeq : WatermarkMap} :
    state.collect lastReceivedSeq = some next ↔ state.resume = .waiting ∧
      next = { state with
        session := state.session.applyServerAcks lastReceivedSeq
        resume := .collected ((state.session.applyServerAcks lastReceivedSeq).terminal.replayFrom
          ((lastReceivedSeq 0).getD 0))
        written := [] } := by
  unfold collect
  cases state.resume <;> simp [eq_comm]

theorem publish_eq_some :
    state.publish = some next ↔ ∃ replays, state.resume = .collected replays ∧
      next = { state with
        outboundPtyTx := some Channel.empty
        resume := .queueing replays } := by
  unfold publish
  cases state.resume <;> simp [eq_comm]

theorem queueReplay_eq_some :
    state.queueReplay = some next ↔ ∃ entry rest channel,
      state.resume = .queueing (entry :: rest) ∧ state.outboundPtyTx = some channel ∧
      next = { state with
        outboundPtyTx := some (channel.offer entry)
        resume := .queueing rest } := by
  unfold queueReplay
  cases state.resume with
  | queueing rest =>
      cases rest with
      | nil => simp
      | cons entry rest =>
          cases state.outboundPtyTx with
          | none => simp
          | some channel => simp [eq_comm]
  | _ => simp

theorem startWriter_eq_some :
    state.startWriter = some next ↔ state.resume = .queueing [] ∧
      next = { state with resume := .serving } := by
  unfold startWriter
  cases state.resume with
  | queueing rest => cases rest <;> simp [eq_comm]
  | _ => simp

theorem write_eq_some :
    state.write = some next ↔ ∃ channel chunk rest,
      state.resume = .serving ∧ state.outboundPtyTx = some channel ∧
      channel.items = chunk :: rest.items ∧
      next = { state with outboundPtyTx := some rest, written := state.written ++ [chunk] } := by
  unfold write
  cases state.resume with
  | serving =>
      cases state.outboundPtyTx with
      | none => simp
      | some channel =>
          simp only [Option.map_eq_some_iff, Prod.exists, Channel.recv_eq_some,
            Option.some.injEq, true_and, exists_eq_left', exists_and_left]
          constructor
          · rintro ⟨seq, data, rest, oldest, rfl⟩
            exact ⟨seq, data, rest, oldest, rfl⟩
          · rintro ⟨seq, data, rest, oldest, rfl⟩
            exact ⟨seq, data, rest, oldest, rfl⟩
  | _ => simp

theorem close_eq_some :
    state.close = some next ↔ state.resume ≠ .waiting ∧
      next = { state with outboundPtyTx := none, resume := .waiting, written := [] } := by
  unfold close
  cases state.resume <;> simp [eq_comm]

/-- Only recording extends what was read from the PTY. -/
theorem produced_of_step {action : OutputAction} (notRecord : ∀ data, action ≠ .record data)
    (stepped : state.step action = some next) : next.produced = state.produced := by
  cases action with
  | record data => exact absurd rfl (notRecord data)
  | forward =>
      rcases forward_eq_some.mp stepped with ⟨chunk, -, ⟨-, rfl⟩ | ⟨channel, sent, -, -, rfl⟩⟩
      · rfl
      · rfl
  | heartbeat acks =>
      rcases heartbeat_eq_some.mp stepped with ⟨-, rfl⟩
      rfl
  | collect lastReceivedSeq =>
      rcases collect_eq_some.mp stepped with ⟨-, rfl⟩
      rfl
  | publish =>
      rcases publish_eq_some.mp stepped with ⟨replays, -, rfl⟩
      rfl
  | queueReplay =>
      rcases queueReplay_eq_some.mp stepped with ⟨entry, rest, channel, -, -, rfl⟩
      rfl
  | startWriter =>
      rcases startWriter_eq_some.mp stepped with ⟨-, rfl⟩
      rfl
  | write =>
      rcases write_eq_some.mp stepped with ⟨channel, chunk, rest, -, -, -, rfl⟩
      rfl
  | close =>
      rcases close_eq_some.mp stepped with ⟨-, rfl⟩
      rfl

/-! ## The invariant of every reachable state -/

/-- The history is a suffix of what was read, the reader holds the last chunk
it recorded, and the slot and the stream follow the connection's progress. -/
structure Consistent (state : OutputState) : Prop where
  window : ∃ dropped, Window state.produced dropped state.session.terminal
  inHand : ∀ chunk, state.reader = some chunk →
    ∃ earlier, state.produced = earlier ++ [chunk.2] ∧ chunk.1 = earlier.length + 1
  slot : state.outboundPtyTx.isSome = state.resume.published
  unwritten : state.resume ≠ .serving → state.written = []

theorem consistent_init (sessionId : List UInt8) (passkey : String) :
    (init sessionId passkey).Consistent where
  window := ⟨0, window_new 0 .terminal⟩
  inHand := by simp [init]
  slot := rfl
  unwritten := fun _ => rfl

theorem Consistent.step {action : OutputAction} (consistent : state.Consistent)
    (stepped : state.step action = some next) : next.Consistent := by
  cases action with
  | record data =>
      obtain ⟨-, rfl⟩ := record_eq_some.mp stepped
      obtain ⟨dropped, held⟩ := consistent.window
      obtain ⟨kept, -, recorded, -⟩ := held.numberAndRecord data
      refine ⟨⟨kept, recorded⟩, ?_, consistent.slot, consistent.unwritten⟩
      intro chunk taken
      simp only [Option.some.injEq] at taken
      subst taken
      exact ⟨state.produced, rfl, held.next⟩
  | forward =>
      obtain ⟨chunk, -, ⟨-, rfl⟩ | ⟨channel, sent, occupied, -, rfl⟩⟩ := forward_eq_some.mp stepped
      · exact ⟨consistent.window, by simp, consistent.slot, consistent.unwritten⟩
      · refine ⟨consistent.window, by simp, ?_, consistent.unwritten⟩
        simpa [occupied] using consistent.slot
  | heartbeat acks =>
      obtain ⟨-, rfl⟩ := heartbeat_eq_some.mp stepped
      exact ⟨window_applyServerAcks consistent.window acks, consistent.inHand, consistent.slot,
        consistent.unwritten⟩
  | collect lastReceivedSeq =>
      obtain ⟨idle, rfl⟩ := collect_eq_some.mp stepped
      refine ⟨window_applyServerAcks consistent.window lastReceivedSeq, consistent.inHand, ?_,
        fun _ => rfl⟩
      simpa [idle, Resume.published] using consistent.slot
  | publish =>
      obtain ⟨replays, collected, rfl⟩ := publish_eq_some.mp stepped
      exact ⟨consistent.window, consistent.inHand, rfl,
        fun _ => consistent.unwritten (by simp [collected])⟩
  | queueReplay =>
      obtain ⟨entry, rest, channel, queueing, -, rfl⟩ := queueReplay_eq_some.mp stepped
      exact ⟨consistent.window, consistent.inHand, rfl,
        fun _ => consistent.unwritten (by simp [queueing])⟩
  | startWriter =>
      obtain ⟨queued, rfl⟩ := startWriter_eq_some.mp stepped
      refine ⟨consistent.window, consistent.inHand, ?_, by simp⟩
      simpa [queued, Resume.published] using consistent.slot
  | write =>
      obtain ⟨channel, chunk, rest, serving, -, -, rfl⟩ := write_eq_some.mp stepped
      refine ⟨consistent.window, consistent.inHand, ?_, fun idle => absurd serving idle⟩
      simp [serving, Resume.published]
  | close =>
      obtain ⟨-, rfl⟩ := close_eq_some.mp stepped
      exact ⟨consistent.window, consistent.inHand, rfl, fun _ => rfl⟩

/-- Every state the server reaches is consistent. -/
theorem consistent_of_run {sessionId : List UInt8} {passkey : String}
    {actions : List OutputAction}
    (executed : run OutputState.step (init sessionId passkey) actions = some state) :
    state.Consistent :=
  run_invariant (fun held stepped => Consistent.step held stepped)
    (consistent_init sessionId passkey) executed

end OutputState

end Etr.Server
