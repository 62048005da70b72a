import Etr.Client.StdoutRelay
import Etr.Server.Handoff

/-!
Contract: shell output from the server's PTY to the client's stdout, across any
number of reconnections.

Owns the composition of the server's PTY output with the client's stdout relay:
the session requests on their way, the PTY stream and the heartbeats between
them, and the loss of a connection at either end. Every step of a component is
that component's own step.

Does not own the input direction, whose counters share the session states but
no field with these.
-/

namespace Etr.System

open Etr.Library Etr.Session Etr.Client Etr.Server

/-- How far the client's `run_session` is. -/
inductive LinkPhase where
  | offline
  /-- `SessionOpen` is sent; `answered` once the server has handled it. -/
  | opening (answered : Bool)
  /-- The per-connection tasks run. -/
  | running
deriving DecidableEq, Repr

/-- A `SessionOpen` on its way: the connection it was sent on and the client's
watermarks. -/
structure SessionRequest where
  attempt : Nat
  lastReceivedSeq : WatermarkMap

structure ScreenState where
  server : OutputState
  client : StdoutState
  phase : LinkPhase
  /-- Number of the client's latest connection. -/
  attempt : Nat
  /-- Requests the server has not handled, also those of connections that the
  client has given up. -/
  requests : List SessionRequest
  /-- The connection the server handles is the client's latest. -/
  linked : Bool
  /-- Chunks written to the PTY stream of the client's connection and not yet
  read, oldest first. -/
  inflight : List Chunk
  /-- Heartbeats sent on the connection the server handles and not yet read,
  oldest first. -/
  heartbeats : List WatermarkMap
  /-- History variable: how much was read from the PTY when the replays for the
  connection were collected. -/
  collected : Nat

namespace ScreenState

/-- Both programs before their first connection. -/
def init (sessionId : List UInt8) (passkey : String) : ScreenState where
  server := OutputState.init sessionId passkey
  client := StdoutState.init sessionId passkey
  phase := .offline
  attempt := 0
  requests := []
  linked := false
  inflight := []
  heartbeats := []
  collected := 0

/-! ## Steps of the connection -/

/-- Client: open a connection and send `SessionOpen` with its watermarks. -/
def connect (state : ScreenState) : Option ScreenState :=
  match state.phase with
  | .offline =>
      some { state with
        phase := .opening false
        attempt := state.attempt + 1
        requests := state.requests ++
          [⟨state.attempt + 1, state.client.session.lastReceivedMap⟩]
        linked := false
        inflight := [] }
  | _ => none

/-- A connection fails before the server has handled its request. -/
def requestLost (state : ScreenState) (index : Nat) : Option ScreenState :=
  some { state with requests := state.requests.eraseIdx index }

/-- Server: handle one of the requests; the client only waits for the answer to
its latest. -/
def accept (state : ScreenState) (index : Nat) : Option ScreenState :=
  match state.requests[index]? with
  | none => none
  | some request =>
      (state.server.collect request.lastReceivedSeq).map fun server =>
        let live := decide (state.phase = .opening false ∧ request.attempt = state.attempt)
        { state with
          server := server
          phase := if live then .opening true else state.phase
          requests := state.requests.eraseIdx index
          linked := live
          heartbeats := []
          collected := state.server.produced.length }

/-- Client: `SessionAccept` was read; spawn the per-connection tasks. -/
def spawnTasks (state : ScreenState) : Option ScreenState :=
  match state.phase with
  | .opening true =>
      state.client.spawn.map fun client => { state with client := client, phase := .running }
  | _ => none

/-- Client: the connection is lost, during setup or by a task that ends. -/
def clientLost (state : ScreenState) : Option ScreenState :=
  match state.phase with
  | .offline => none
  | .opening _ => some { state with phase := .offline, linked := false, inflight := [] }
  | .running =>
      state.client.abort.map fun client =>
        { state with client := client, phase := .offline, linked := false, inflight := [] }

/-- Server: the connection it handles is lost or ends. If it is the client's, only
the first `arrived` of the unread chunks reach the client. -/
def serverLost (state : ScreenState) (arrived : Nat) : Option ScreenState :=
  state.server.close.map fun server =>
    { state with
      server := server
      linked := false
      inflight := if state.linked then state.inflight.take arrived else state.inflight
      heartbeats := [] }

/-! ## Steps that use the connection -/

/-- Server: the PTY writer writes the oldest queued chunk to the PTY stream. -/
def serverWrite (state : ScreenState) : Option ScreenState :=
  state.server.write.map fun server =>
    { state with
      server := server
      inflight :=
        if state.linked then
          state.inflight ++ server.written.drop state.server.written.length
        else
          state.inflight }

/-- Client: the PTY receiver reads the oldest chunk of the stream. -/
def clientRead (state : ScreenState) : Option ScreenState :=
  match state.phase, state.inflight with
  | .running, chunk :: rest =>
      (state.client.read chunk).map fun client =>
        { state with client := client, inflight := rest }
  | _, _ => none

/-- Client: a heartbeat with the current watermarks. -/
def sendHeartbeat (state : ScreenState) : Option ScreenState :=
  match state.phase with
  | .running =>
      some { state with
        heartbeats :=
          if state.linked then
            state.heartbeats ++ [state.client.session.lastReceivedMap]
          else
            state.heartbeats }
  | _ => none

/-- Server: the control reader trims the history by the oldest heartbeat. -/
def applyHeartbeat (state : ScreenState) : Option ScreenState :=
  match state.heartbeats with
  | acks :: rest =>
      (state.server.heartbeat acks).map fun server =>
        { state with server := server, heartbeats := rest }
  | [] => none

end ScreenState

/-- One atomic step of the client, of the server or of the network. -/
inductive ScreenAction where
  | connect
  | requestLost (index : Nat)
  | accept (index : Nat)
  | spawnTasks
  | clientLost
  | serverLost (arrived : Nat)
  | record (data : Payload)
  | forward
  | publish
  | queueReplay
  | startWriter
  | serverWrite
  | clientRead
  | clientMark
  | clientForward
  | takeStdout
  | writeStdout
  | flushed
  /-- A stdout task that was aborted in the middle of a write goes on. -/
  | writeLingering (index : Nat)
  | sendHeartbeat
  | applyHeartbeat
  /-- The input direction trims or extends its own history. -/
  | acknowledgeInput (acks : WatermarkMap)
  | recordInput (data : Payload)

/-- Take one step, if it is enabled. -/
def ScreenState.step (state : ScreenState) : ScreenAction → Option ScreenState
  | .connect => state.connect
  | .requestLost index => state.requestLost index
  | .accept index => state.accept index
  | .spawnTasks => state.spawnTasks
  | .clientLost => state.clientLost
  | .serverLost arrived => state.serverLost arrived
  | .record data => (state.server.record data).map fun server => { state with server := server }
  | .forward => state.server.forward.map fun server => { state with server := server }
  | .publish => state.server.publish.map fun server => { state with server := server }
  | .queueReplay => state.server.queueReplay.map fun server => { state with server := server }
  | .startWriter => state.server.startWriter.map fun server => { state with server := server }
  | .serverWrite => state.serverWrite
  | .clientRead => state.clientRead
  | .clientMark => state.client.mark.map fun client => { state with client := client }
  | .clientForward => state.client.forward.map fun client => { state with client := client }
  | .takeStdout => state.client.takeStdout.map fun client => { state with client := client }
  | .writeStdout => state.client.writeStdout.map fun client => { state with client := client }
  | .flushed => state.client.flushed.map fun client => { state with client := client }
  | .writeLingering index =>
      (state.client.writeLingering index).map fun client => { state with client := client }
  | .sendHeartbeat => state.sendHeartbeat
  | .applyHeartbeat => state.applyHeartbeat
  | .acknowledgeInput acks =>
      (state.client.acknowledge acks).map fun client => { state with client := client }
  | .recordInput data =>
      (state.client.recordInput data).map fun client => { state with client := client }

namespace ScreenState

/-! ## What each step can do -/

/-- The client's own step within a step of the whole. -/
def clientTurn (state : ScreenState) : ScreenAction → Option StdoutAction
  | .spawnTasks => some .spawn
  | .clientLost => if state.phase = .running then some .abort else none
  | .clientRead => state.inflight.head?.map .read
  | .clientMark => some .mark
  | .clientForward => some .forward
  | .takeStdout => some .takeStdout
  | .writeStdout => some .writeStdout
  | .flushed => some .flushed
  | .writeLingering index => some (.writeLingering index)
  | .acknowledgeInput acks => some (.acknowledge acks)
  | .recordInput data => some (.recordInput data)
  | _ => none

/-- The server's own step within a step of the whole. -/
def serverTurn (state : ScreenState) : ScreenAction → Option OutputAction
  | .accept index => state.requests[index]?.map fun request => .collect request.lastReceivedSeq
  | .serverLost _ => some .close
  | .record data => some (.record data)
  | .forward => some .forward
  | .publish => some .publish
  | .queueReplay => some .queueReplay
  | .startWriter => some .startWriter
  | .serverWrite => some .write
  | .applyHeartbeat => state.heartbeats.head?.map .heartbeat
  | _ => none

variable {state next : ScreenState} {action : ScreenAction}

theorem record_of_serverTurn {data : Payload}
    (turn : state.serverTurn action = some (.record data)) : action = .record data := by
  cases action <;> simp_all [serverTurn]

theorem writeStdout_of_clientTurn (turn : state.clientTurn action = some .writeStdout) :
    action = .writeStdout := by
  cases action <;> simp_all [clientTurn]

theorem writeLingering_of_clientTurn {index : Nat}
    (turn : state.clientTurn action = some (.writeLingering index)) :
    action = .writeLingering index := by
  cases action <;> simp_all [clientTurn]

theorem clientLost_of_clientTurn (turn : state.clientTurn action = some .abort) :
    action = .clientLost := by
  cases action <;> simp_all [clientTurn]

/-- Each component takes its turn or stays as it is, and only the server puts
chunks on the stream. -/
theorem turns_of_step (stepped : state.step action = some next) :
    TakesTurn StdoutState.step state.client (state.clientTurn action) next.client ∧
      TakesTurn OutputState.step state.server (state.serverTurn action) next.server ∧
      ∀ chunk ∈ next.inflight, chunk ∈ state.inflight ∨ chunk ∈ next.server.written := by
  cases action with
  | connect =>
      simp only [ScreenState.step, ScreenState.connect] at stepped
      split at stepped
      · cases stepped
        exact ⟨rfl, rfl, nofun⟩
      · contradiction
  | requestLost index =>
      cases stepped
      exact ⟨rfl, rfl, fun _ => Or.inl⟩
  | accept index =>
      simp only [ScreenState.step, ScreenState.accept] at stepped
      split at stepped
      · contradiction
      · rename_i request found
        rcases Option.map_eq_some_iff.mp stepped with ⟨server, collected, rfl⟩
        refine ⟨rfl, ?_, fun _ => Or.inl⟩
        rw [serverTurn, found]
        exact collected
  | spawnTasks =>
      simp only [ScreenState.step, ScreenState.spawnTasks] at stepped
      split at stepped
      · rcases Option.map_eq_some_iff.mp stepped with ⟨client, spawned, rfl⟩
        exact ⟨spawned, rfl, fun _ => Or.inl⟩
      · contradiction
  | clientLost =>
      simp only [ScreenState.step, ScreenState.clientLost] at stepped
      split at stepped
      · contradiction
      · rename_i opening
        cases stepped
        refine ⟨?_, rfl, nofun⟩
        rw [clientTurn, opening]
        rfl
      · rename_i running
        rcases Option.map_eq_some_iff.mp stepped with ⟨client, aborted, rfl⟩
        refine ⟨?_, rfl, nofun⟩
        rw [clientTurn, if_pos running]
        exact aborted
  | serverLost arrived =>
      rcases Option.map_eq_some_iff.mp stepped with ⟨server, closed, rfl⟩
      refine ⟨rfl, closed, fun chunk member => Or.inl ?_⟩
      dsimp only at member
      split at member
      · exact List.mem_of_mem_take member
      · exact member
  | serverWrite =>
      rcases Option.map_eq_some_iff.mp stepped with ⟨server, written, rfl⟩
      refine ⟨rfl, written, fun chunk member => ?_⟩
      dsimp only at member
      split at member
      · exact (List.mem_append.mp member).imp_right List.mem_of_mem_drop
      · exact Or.inl member
  | clientRead =>
      simp only [ScreenState.step, ScreenState.clientRead] at stepped
      split at stepped
      · rename_i chunk rest running arrived
        rcases Option.map_eq_some_iff.mp stepped with ⟨client, read, rfl⟩
        rw [clientTurn, arrived]
        exact ⟨read, rfl, fun _ member => Or.inl (List.mem_cons_of_mem chunk member)⟩
      · contradiction
  | sendHeartbeat =>
      simp only [ScreenState.step, ScreenState.sendHeartbeat] at stepped
      split at stepped
      · cases stepped
        exact ⟨rfl, rfl, fun _ => Or.inl⟩
      · contradiction
  | applyHeartbeat =>
      simp only [ScreenState.step, ScreenState.applyHeartbeat] at stepped
      split at stepped
      · rename_i acks rest oldest
        rcases Option.map_eq_some_iff.mp stepped with ⟨server, applied, rfl⟩
        refine ⟨rfl, ?_, fun _ => Or.inl⟩
        rw [serverTurn, oldest]
        exact applied
      · contradiction
  | record _ | forward | publish | queueReplay | startWriter =>
      rcases Option.map_eq_some_iff.mp stepped with ⟨server, turned, rfl⟩
      exact ⟨rfl, turned, fun _ => Or.inl⟩
  | acknowledgeInput _ | recordInput _ =>
      cases stepped
      exact ⟨rfl, rfl, fun _ => Or.inl⟩
  | clientMark | clientForward | takeStdout | writeStdout | flushed | writeLingering _ =>
      rcases Option.map_eq_some_iff.mp stepped with ⟨client, turned, rfl⟩
      exact ⟨turned, rfl, fun _ => Or.inl⟩

/-! ## What the parties hold -/

/-- Every payload read from the PTY; the chunk numbered `n` is the `n`-th. -/
def log (state : ScreenState) : List Payload := state.server.produced

/-- Every payload written to stdout. -/
def shown (state : ScreenState) : List Payload := state.client.stdout

/-- The connection is up on both ends and nothing is on its way. -/
def Drained (state : ScreenState) : Prop :=
  state.linked = true ∧ state.server.Settled ∧
    (∀ channel, state.server.outboundPtyTx = some channel → channel.items = []) ∧
    state.inflight = [] ∧ state.client.receiver = .reading ∧ state.client.Flushed

/-- The preconditions: what the client has not received fits in the history and
sequence numbers fit in 64 bits; on the client's connection the PTY reader hands
its chunks over in their turn and the replays find room; and the stdout queue
has room for each chunk, and the stdout task has written everything when the
client loses its connection. -/
def Admissible (state : ScreenState) : ScreenAction → Prop
  | .record data =>
      totalBytes ((numberFrom 1 (state.log ++ [data])).drop
          (state.client.session.terminal.nextInSeq - 1)) ≤ maxHistoryBytes ∧
        state.log.length + 2 < 2 ^ 64
  | .forward => state.linked = true → state.server.InTurn state.collected .forward
  | .queueReplay => state.linked = true → state.server.StaysConnected .queueReplay
  | .clientForward => state.client.stdoutTx.items.length < stdoutCapacity
  | .clientLost => state.client.Flushed
  | _ => True

end ScreenState

end Etr.System
