import Etr.Client.StdinRelay
import Etr.Server.PtyInput

/-!
Contract: keystrokes from the client's stdin to the server's PTY input queue,
across any number of reconnections.

Owns the composition of the client's stdin relay with the server's PTY input:
the PTY stream and the control stream between them, connection setup with its
acknowledgement and replay, heartbeats, and the loss of a connection at either
end. Every step of a component is that component's own step.

Does not own the output direction, whose counters share the session states but
no field with these.
-/

namespace Etr.System

open Etr.Library Etr.Session Etr.Client Etr.Server

/-- How far the client's `run_session` is. -/
inductive ConnectPhase where
  | offline
  /-- `SessionAccept` was read. -/
  | accepted (serverAcks : WatermarkMap)
  /-- The history was trimmed by it; the PTY stream is being opened. -/
  | applied (serverAcks : WatermarkMap)
  /-- Replays are written, with the session lock held. -/
  | replaying (rest : List Chunk)
  /-- The per-connection tasks run. -/
  | running

/-- The watermarks the connection was accepted with, until they are used. -/
def ConnectPhase.serverAcks? : ConnectPhase → Option WatermarkMap
  | .accepted serverAcks | .applied serverAcks => some serverAcks
  | .offline | .replaying _ | .running => none

structure KeystrokeState where
  client : StdinState
  phase : ConnectPhase
  server : InputState
  /-- `handle_connection` runs on the server. -/
  attached : Bool
  /-- Chunks written to the PTY stream and not yet read, oldest first. -/
  inflight : List Chunk
  /-- Heartbeats sent by the server and not yet read, oldest first. -/
  heartbeats : List WatermarkMap

namespace KeystrokeState

/-- Both programs before their first connection. -/
def init (sessionId : List UInt8) (passkey : String) (hasRemoteCommand : Bool) :
    KeystrokeState where
  client := StdinState.init sessionId passkey hasRemoteCommand
  phase := .offline
  server := InputState.init sessionId passkey
  attached := false
  inflight := []
  heartbeats := []

/-! ## Steps -/

/-- The server accepts a connection and answers with its watermarks. -/
def connect (state : KeystrokeState) : Option KeystrokeState :=
  match state.phase, state.attached with
  | .offline, false =>
      some { state with
        phase := .accepted state.server.session.lastReceivedMap
        attached := true
        inflight := []
        heartbeats := [] }
  | _, _ => none

/-- Client: trim the send history by the accepted watermarks. -/
def applyAccept (state : KeystrokeState) : Option KeystrokeState :=
  match state.phase with
  | .accepted serverAcks =>
      (state.client.acknowledge serverAcks).map fun client =>
        { state with client := client, phase := .applied serverAcks }
  | _ => none

/-- Client: the PTY stream is open; select what to replay. -/
def collectReplays (state : KeystrokeState) : Option KeystrokeState :=
  match state.phase with
  | .applied serverAcks =>
      some { state with
        phase := .replaying ((state.client.session.collectReplays serverAcks 0).getD []) }
  | _ => none

/-- Client: write one replay to the PTY stream. -/
def writeReplay (state : KeystrokeState) : Option KeystrokeState :=
  match state.phase with
  | .replaying (chunk :: rest) =>
      some { state with phase := .replaying rest, inflight := state.inflight ++ [chunk] }
  | _ => none

/-- Client: everything is replayed; spawn the per-connection tasks. -/
def spawnTasks (state : KeystrokeState) : Option KeystrokeState :=
  match state.phase with
  | .replaying [] =>
      state.client.spawn.map fun client => { state with client := client, phase := .running }
  | _ => none

/-- Client: the stdin task's write of a chunk completes. -/
def writeChunk (state : KeystrokeState) : Option KeystrokeState :=
  match state.client.task with
  | .writing chunk =>
      (state.client.written true).map fun client =>
        { state with client := client, inflight := state.inflight ++ [chunk] }
  | _ => none

/-- Client: the connection is lost, during setup or by a task that ends. Of the
unread chunks only the first `arrived` reach the server. -/
def clientLost (state : KeystrokeState) (arrived : Nat) : Option KeystrokeState :=
  match state.phase with
  | .offline => none
  | .running =>
      state.client.abort.map fun client =>
        { state with
          client := client
          phase := .offline
          inflight := state.inflight.take arrived
          heartbeats := [] }
  | _ =>
      some { state with
        phase := .offline
        inflight := state.inflight.take arrived
        heartbeats := [] }

/-- Server: the PTY reader reads the oldest chunk of the stream. -/
def serverRead (state : KeystrokeState) : Option KeystrokeState :=
  match state.attached, state.inflight with
  | true, chunk :: rest =>
      (state.server.read chunk).map fun server =>
        { state with server := server, inflight := rest }
  | _, _ => none

/-- Server: the connection is lost or ends, with its PTY reader. -/
def serverLost (state : KeystrokeState) : Option KeystrokeState :=
  match state.attached with
  | true =>
      some { state with
        server := state.server.abort.getD state.server
        attached := false
        inflight := [] }
  | false => none

/-- Server: the heartbeat task sends the current watermarks. -/
def sendHeartbeat (state : KeystrokeState) : Option KeystrokeState :=
  match state.attached with
  | true =>
      some { state with
        heartbeats := state.heartbeats ++ [state.server.session.lastReceivedMap] }
  | false => none

/-- Client: the control reader trims the history by the oldest heartbeat. -/
def applyHeartbeat (state : KeystrokeState) : Option KeystrokeState :=
  match state.phase, state.heartbeats with
  | .running, acks :: rest =>
      (state.client.acknowledge acks).map fun client =>
        { state with client := client, heartbeats := rest }
  | _, _ => none

end KeystrokeState

/-- One atomic step of the client, of the server or of the network. -/
inductive KeystrokeAction where
  | readStdin (payload : Payload)
  | closeStdin
  | connect
  | applyAccept
  | collectReplays
  | writeReplay
  | spawnTasks
  | take
  | record
  | writeChunk
  | writeFails
  | clientLost (arrived : Nat)
  | serverSpawn
  | serverRead
  | serverMark
  | serverEnqueue
  | serverConsume
  | serverLost
  | sendHeartbeat
  | applyHeartbeat

/-- Take one step, if it is enabled. -/
def KeystrokeState.step (state : KeystrokeState) : KeystrokeAction → Option KeystrokeState
  | .readStdin payload =>
      (state.client.readStdin payload).map fun client => { state with client := client }
  | .closeStdin => state.client.closeStdin.map fun client => { state with client := client }
  | .connect => state.connect
  | .applyAccept => state.applyAccept
  | .collectReplays => state.collectReplays
  | .writeReplay => state.writeReplay
  | .spawnTasks => state.spawnTasks
  | .take => state.client.take.map fun client => { state with client := client }
  | .record => state.client.record.map fun client => { state with client := client }
  | .writeChunk => state.writeChunk
  | .writeFails =>
      (state.client.written false).map fun client => { state with client := client }
  | .clientLost arrived => state.clientLost arrived
  | .serverSpawn =>
      if state.attached then
        state.server.spawn.map fun server => { state with server := server }
      else
        none
  | .serverRead => state.serverRead
  | .serverMark => state.server.mark.map fun server => { state with server := server }
  | .serverEnqueue => state.server.enqueue.map fun server => { state with server := server }
  | .serverConsume => state.server.consume.map fun server => { state with server := server }
  | .serverLost => state.serverLost
  | .sendHeartbeat => state.sendHeartbeat
  | .applyHeartbeat => state.applyHeartbeat

namespace KeystrokeState

/-! ## What the parties hold -/

/-- Every payload numbered so far; the chunk numbered `n` is the `n`-th. -/
def log (state : KeystrokeState) : List Payload := state.client.numbered.map Input.payload

/-- Every payload taken from stdin. -/
def taken (state : KeystrokeState) : List Payload := state.client.taken.map Input.payload

/-- Every payload enqueued to the PTY. -/
def delivered (state : KeystrokeState) : List Payload := state.server.queued.map Prod.snd

/-- The connection is up on both ends and nothing is on its way. -/
def Drained (state : KeystrokeState) : Prop :=
  state.phase = .running ∧ state.attached = true ∧ state.inflight = [] ∧
    (state.client.task = .receiving ∨ state.client.task = .parked) ∧
    state.server.reader = .reading

/-- The preconditions: what the server has not seen fits in the history,
sequence numbers fit in 64 bits, and tasks are cancelled neither while a payload
waits for the client's session lock nor while a chunk waits for the PTY queue. -/
def Admissible (state : KeystrokeState) : KeystrokeAction → Prop
  | .record =>
      ∀ input, state.client.task = .locking input →
        totalBytes ((numberFrom 1 (state.log ++ [input.payload])).drop
            (state.server.nextInSeq - 1)) ≤ maxHistoryBytes ∧
          state.log.length + 2 < 2 ^ 64
  | .clientLost _ => ∀ input, state.client.task ≠ .locking input
  | .serverLost => ∀ chunk, state.server.reader ≠ .sending chunk
  | _ => True

end KeystrokeState

end Etr.System
