import Etr.Client.StdoutRelay
import Etr.Server.OutputHolding
import Etr.Server.ShellExit

/-!
Contract: a session over one connection that stays up, from the start of the
shell to the moment the client leaves because of the `Disconnect`.

Owns the composition of the server's PTY output and exit notification with the
client's stdout relay: the PTY in front of them, the set-up of the connection,
the two streams between them, the control writer, and the aborts at both ends.
Every step of a component is that component's own step.

Does not own the loss of the connection, the input direction, or what reaches
stdout.
-/

namespace Etr.System

open Etr.Library Etr.Session Etr.Client Etr.Server

/-- The size of the PTY reader's buffer. -/
def ptyReadSize : Nat := 4096

/-- Where `ctrl_writer_task` is. -/
inductive CtrlWriter where
  | waiting
  | writing (envelope : CtrlEnvelope)
  /-- It has written `Disconnect` and ended. -/
  | done

/-- How far the set-up of the connection is. -/
inductive LinkSetup where
  /-- The server has not handled the client's `SessionOpen`. -/
  | offline
  | accepted
  /-- The client has opened the PTY stream. -/
  | opened
deriving DecidableEq

structure TeardownState where
  /-- History variable: everything the shell wrote. -/
  shellOutput : List UInt8
  /-- Written by the shell and not yet read from the PTY. -/
  ptyBuffer : List UInt8
  shellExited : Bool
  link : LinkSetup
  server : OutputState
  /-- Chunk the PTY writer is writing to the stream. -/
  ptyWriter : Option Chunk
  /-- Chunks on the PTY stream the client has not read, oldest first. -/
  ptyStream : List Chunk
  exitNotice : ExitState
  ctrlWriter : CtrlWriter
  /-- Envelopes on the control stream the client has not read, oldest first. -/
  ctrlStream : List CtrlEnvelope
  client : StdoutState
  /-- The client's control reader has read `Disconnect` and ended. -/
  disconnected : Bool
  /-- The client left `run_session` because of it. -/
  left : Bool

namespace TeardownState

/-- The shell has just started, and the client has not connected yet. -/
def init (sessionId : List UInt8) (passkey : String) : TeardownState where
  shellOutput := []
  ptyBuffer := []
  shellExited := false
  link := .offline
  server := OutputState.init sessionId passkey
  ptyWriter := none
  ptyStream := []
  exitNotice := ExitState.init
  ctrlWriter := .waiting
  ctrlStream := []
  client := StdoutState.init sessionId passkey
  disconnected := false
  left := false

/-! ## Steps of the shell and of the PTY -/

/-- The shell writes to the PTY. -/
def shellWrite (state : TeardownState) (data : List UInt8) : Option TeardownState :=
  match state.shellExited with
  | false =>
      some { state with
        shellOutput := state.shellOutput ++ data
        ptyBuffer := state.ptyBuffer ++ data }
  | true => none

def shellExit (state : TeardownState) : Option TeardownState :=
  match state.shellExited with
  | false => some { state with shellExited := true }
  | true => none

/-- PTY reader: read up to a buffer full, number and record it. -/
def ptyRead (state : TeardownState) (count : Nat) : Option TeardownState :=
  if 0 < count ∧ count ≤ ptyReadSize ∧ count ≤ state.ptyBuffer.length then
    (state.server.record (state.ptyBuffer.take count)).map fun server =>
      { state with server := server, ptyBuffer := state.ptyBuffer.drop count }
  else
    none

/-- PTY reader: hand the chunk to the connection. -/
def ptyForward (state : TeardownState) : Option TeardownState :=
  state.server.forward.map fun server => { state with server := server }

/-! ## Steps of the set-up -/

/-- Server: `SessionOpen` with the client's watermarks was read; collect the
replays and accept. -/
def accept (state : TeardownState) : Option TeardownState :=
  match state.link, state.server.collect state.client.session.lastReceivedMap,
      state.exitNotice.accept with
  | .offline, some server, some notice =>
      some { state with link := .accepted, server := server, exitNotice := notice }
  | _, _, _ => none

/-- Server: publish the PTY sender. -/
def publishPty (state : TeardownState) : Option TeardownState :=
  state.server.publish.map fun server => { state with server := server }

/-- Server: publish the control sender, behind the PTY sender. -/
def publishCtrl (state : TeardownState) : Option TeardownState :=
  match state.server.resume with
  | .queueing _ =>
      state.exitNotice.publishCtrl.map fun notice => { state with exitNotice := notice }
  | _ => none

/-- Server: enqueue `Disconnect` if the shell-exit flag is set. -/
def checkFlag (state : TeardownState) : Option TeardownState :=
  state.exitNotice.checkFlag.map fun notice => { state with exitNotice := notice }

/-- Server: queue one replay, behind the check of the flag. -/
def queueReplay (state : TeardownState) : Option TeardownState :=
  match state.exitNotice.setup with
  | .checked => state.server.queueReplay.map fun server => { state with server := server }
  | _ => none

/-- Client: `SessionAccept` was read; open the PTY stream. -/
def openPtyStream (state : TeardownState) : Option TeardownState :=
  match state.link with
  | .accepted => some { state with link := .opened }
  | _ => none

/-- Client: spawn the per-connection tasks. -/
def spawnTasks (state : TeardownState) : Option TeardownState :=
  match state.link with
  | .opened => state.client.spawn.map fun client => { state with client := client }
  | _ => none

/-- Server: the PTY stream arrived; spawn the per-connection tasks. -/
def startWriter (state : TeardownState) : Option TeardownState :=
  match state.link, state.exitNotice.setup with
  | .opened, .checked =>
      state.server.startWriter.map fun server => { state with server := server }
  | _, _ => none

/-! ## Steps of the server's tasks -/

/-- PTY writer: take the oldest queued chunk. -/
def ptyTake (state : TeardownState) : Option TeardownState :=
  match state.ptyWriter, state.server.oldestQueued with
  | none, some chunk =>
      state.server.write.map fun server =>
        { state with server := server, ptyWriter := some chunk }
  | _, _ => none

/-- PTY writer: the write to the stream completes. -/
def ptyWritten (state : TeardownState) : Option TeardownState :=
  match state.ptyWriter with
  | some chunk =>
      some { state with ptyWriter := none, ptyStream := state.ptyStream ++ [chunk] }
  | none => none

/-- Control reader: a heartbeat of the client trims the send history. -/
def heartbeat (state : TeardownState) (acks : WatermarkMap) : Option TeardownState :=
  (state.server.heartbeat acks).map fun server => { state with server := server }

/-- Shell-exit watcher: `child.wait()` returned; enqueue `Disconnect`. -/
def notify (state : TeardownState) : Option TeardownState :=
  match state.shellExited with
  | true => state.exitNotice.notify.map fun notice => { state with exitNotice := notice }
  | false => none

/-- Shell-exit watcher: set the shell-exit flag. -/
def raiseFlag (state : TeardownState) : Option TeardownState :=
  state.exitNotice.raiseFlag.map fun notice => { state with exitNotice := notice }

/-- Heartbeat task. -/
def sendHeartbeat (state : TeardownState) (lastReceivedSeq : WatermarkMap) :
    Option TeardownState :=
  match state.server.resume with
  | .serving =>
      (state.exitNotice.sendHeartbeat lastReceivedSeq).map fun notice =>
        { state with exitNotice := notice }
  | _ => none

/-- Control writer: take the oldest queued envelope. -/
def ctrlTake (state : TeardownState) : Option TeardownState :=
  match state.server.resume, state.ctrlWriter,
      state.exitNotice.outboundCtrlTx.bind fun channel => channel.items.head? with
  | .serving, .waiting, some envelope =>
      state.exitNotice.writeCtrl.map fun notice =>
        { state with exitNotice := notice, ctrlWriter := .writing envelope }
  | _, _, _ => none

/-- Control writer: the write to the stream completes; `Disconnect` is the last. -/
def ctrlWritten (state : TeardownState) : Option TeardownState :=
  match state.ctrlWriter with
  | .writing .disconnect =>
      some { state with
        ctrlWriter := .done, ctrlStream := state.ctrlStream ++ [.disconnect] }
  | .writing (.heartbeat acks) =>
      some { state with
        ctrlWriter := .waiting, ctrlStream := state.ctrlStream ++ [.heartbeat acks] }
  | .waiting | .done => none

/-- The server's `select!` takes the control writer's end: all tasks of the
connection are aborted and the slots are cleared. -/
def serverEnds (state : TeardownState) : Option TeardownState :=
  match state.ctrlWriter, state.server.close, state.exitNotice.finish with
  | .done, some server, some notice =>
      some { state with server := server, ptyWriter := none, exitNotice := notice }
  | _, _, _ => none

/-- The server drops its last handle of the connection, which closes it. Of the
unread stream contents only the first parts still reach the client. -/
def serverCloses (state : TeardownState) (chunks envelopes : Nat) : Option TeardownState :=
  match state.ctrlWriter, state.server.resume with
  | .done, .waiting =>
      some { state with
        ptyStream := state.ptyStream.take chunks
        ctrlStream := state.ctrlStream.take envelopes }
  | _, _ => none

/-! ## Steps of the client's tasks -/

/-- Control reader: read one envelope. -/
def ctrlRead (state : TeardownState) : Option TeardownState :=
  if state.disconnected = false ∧ state.client.receiver ≠ .absent then
    match state.ctrlStream with
    | .disconnect :: rest => some { state with disconnected := true, ctrlStream := rest }
    | .heartbeat acks :: rest =>
        (state.client.acknowledge acks).map fun client =>
          { state with client := client, ctrlStream := rest }
    | [] => none
  else
    none

/-- PTY receiver: read one chunk. -/
def clientRead (state : TeardownState) : Option TeardownState :=
  match state.ptyStream with
  | chunk :: rest =>
      (state.client.read chunk).map fun client =>
        { state with client := client, ptyStream := rest }
  | [] => none

/-- A step of the PTY receiver or of the stdout task that touches no stream. -/
def clientTurn (state : TeardownState) (turn : StdoutAction) : Option TeardownState :=
  (state.client.step turn).map fun client => { state with client := client }

/-- The client's `select!` takes the control reader's end: all tasks of the
session are aborted and `run_session` returns. -/
def leave (state : TeardownState) : Option TeardownState :=
  match state.disconnected with
  | true => state.client.abort.map fun client => { state with client := client, left := true }
  | false => none

end TeardownState

/-- One atomic step of the shell or of a task on either side. -/
inductive TeardownAction where
  | shellWrite (data : List UInt8)
  | shellExit
  | ptyRead (count : Nat)
  | ptyForward
  | accept
  | publishPty
  | publishCtrl
  | checkFlag
  | queueReplay
  | openPtyStream
  | spawnTasks
  | startWriter
  | ptyTake
  | ptyWritten
  | heartbeat (acks : WatermarkMap)
  | notify
  | raiseFlag
  | sendHeartbeat (lastReceivedSeq : WatermarkMap)
  | ctrlTake
  | ctrlWritten
  | serverEnds
  | serverCloses (chunks envelopes : Nat)
  | ctrlRead
  | clientRead
  | clientMark
  | clientForward
  | takeStdout
  | writeStdout
  | flushed
  | leave

namespace TeardownState

/-- Take one step, if it is enabled. -/
def act (state : TeardownState) : TeardownAction → Option TeardownState
  | .shellWrite data => state.shellWrite data
  | .shellExit => state.shellExit
  | .ptyRead count => state.ptyRead count
  | .ptyForward => state.ptyForward
  | .accept => state.accept
  | .publishPty => state.publishPty
  | .publishCtrl => state.publishCtrl
  | .checkFlag => state.checkFlag
  | .queueReplay => state.queueReplay
  | .openPtyStream => state.openPtyStream
  | .spawnTasks => state.spawnTasks
  | .startWriter => state.startWriter
  | .ptyTake => state.ptyTake
  | .ptyWritten => state.ptyWritten
  | .heartbeat acks => state.heartbeat acks
  | .notify => state.notify
  | .raiseFlag => state.raiseFlag
  | .sendHeartbeat lastReceivedSeq => state.sendHeartbeat lastReceivedSeq
  | .ctrlTake => state.ctrlTake
  | .ctrlWritten => state.ctrlWritten
  | .serverEnds => state.serverEnds
  | .serverCloses chunks envelopes => state.serverCloses chunks envelopes
  | .ctrlRead => state.ctrlRead
  | .clientRead => state.clientRead
  | .clientMark => state.clientTurn .mark
  | .clientForward => state.clientTurn .forward
  | .takeStdout => state.clientTurn .takeStdout
  | .writeStdout => state.clientTurn .writeStdout
  | .flushed => state.clientTurn .flushed
  | .leave => state.leave

/-- A run ends when the client leaves. -/
def step (state : TeardownState) (action : TeardownAction) : Option TeardownState :=
  match state.left with
  | true => none
  | false => state.act action

/-! ## What each step can do -/

variable {state next : TeardownState}

theorem shellWrite_cases {data : List UInt8} (stepped : state.shellWrite data = some next) :
    state.shellExited = false ∧ next = { state with
      shellOutput := state.shellOutput ++ data
      ptyBuffer := state.ptyBuffer ++ data } := by
  unfold shellWrite at stepped
  split at stepped
  · rename_i running
    cases stepped
    exact ⟨running, rfl⟩
  · contradiction

theorem shellExit_cases (stepped : state.shellExit = some next) :
    next = { state with shellExited := true } := by
  unfold shellExit at stepped
  split at stepped
  · cases stepped
    rfl
  · contradiction

theorem ptyRead_cases {count : Nat} (stepped : state.ptyRead count = some next) :
    0 < count ∧ count ≤ state.ptyBuffer.length ∧
      ∃ server, state.server.record (state.ptyBuffer.take count) = some server ∧
        next = { state with server := server, ptyBuffer := state.ptyBuffer.drop count } := by
  unfold ptyRead at stepped
  split at stepped
  · rename_i sized
    rcases Option.map_eq_some_iff.mp stepped with ⟨server, recorded, rfl⟩
    exact ⟨sized.1, sized.2.2, server, recorded, rfl⟩
  · contradiction

theorem accept_cases (stepped : state.accept = some next) :
    state.link = .offline ∧ ∃ server notice,
      state.server.collect state.client.session.lastReceivedMap = some server ∧
      state.exitNotice.accept = some notice ∧
      next = { state with link := .accepted, server := server, exitNotice := notice } := by
  unfold accept at stepped
  split at stepped
  · rename_i server notice offline collected accepted
    cases stepped
    exact ⟨offline, server, notice, collected, accepted, rfl⟩
  · contradiction

theorem publishCtrl_cases (stepped : state.publishCtrl = some next) :
    ∃ notice, state.exitNotice.publishCtrl = some notice ∧
      next = { state with exitNotice := notice } := by
  unfold publishCtrl at stepped
  split at stepped
  · rcases Option.map_eq_some_iff.mp stepped with ⟨notice, published, rfl⟩
    exact ⟨notice, published, rfl⟩
  · contradiction

theorem queueReplay_cases (stepped : state.queueReplay = some next) :
    ∃ server, state.server.queueReplay = some server ∧ next = { state with server := server } := by
  unfold queueReplay at stepped
  split at stepped
  · rcases Option.map_eq_some_iff.mp stepped with ⟨server, queued, rfl⟩
    exact ⟨server, queued, rfl⟩
  · contradiction

theorem openPtyStream_cases (stepped : state.openPtyStream = some next) :
    state.link = .accepted ∧ next = { state with link := .opened } := by
  unfold openPtyStream at stepped
  split at stepped
  · rename_i accepted
    cases stepped
    exact ⟨accepted, rfl⟩
  · contradiction

theorem spawnTasks_cases (stepped : state.spawnTasks = some next) :
    state.link = .opened ∧ ∃ client, state.client.spawn = some client ∧
      next = { state with client := client } := by
  unfold spawnTasks at stepped
  split at stepped
  · rename_i opened
    rcases Option.map_eq_some_iff.mp stepped with ⟨client, spawned, rfl⟩
    exact ⟨opened, client, spawned, rfl⟩
  · contradiction

theorem startWriter_cases (stepped : state.startWriter = some next) :
    ∃ server, state.server.startWriter = some server ∧ next = { state with server := server } := by
  unfold startWriter at stepped
  split at stepped
  · rcases Option.map_eq_some_iff.mp stepped with ⟨server, started, rfl⟩
    exact ⟨server, started, rfl⟩
  · contradiction

theorem ptyTake_cases (stepped : state.ptyTake = some next) :
    ∃ chunk server, state.ptyWriter = none ∧ state.server.oldestQueued = some chunk ∧
      state.server.write = some server ∧
      next = { state with server := server, ptyWriter := some chunk } := by
  unfold ptyTake at stepped
  split at stepped
  · rename_i chunk idle oldest
    rcases Option.map_eq_some_iff.mp stepped with ⟨server, taken, rfl⟩
    exact ⟨chunk, server, idle, oldest, taken, rfl⟩
  · contradiction

theorem ptyWritten_cases (stepped : state.ptyWritten = some next) :
    ∃ chunk, state.ptyWriter = some chunk ∧
      next = { state with ptyWriter := none, ptyStream := state.ptyStream ++ [chunk] } := by
  unfold ptyWritten at stepped
  split at stepped
  · rename_i chunk writing
    cases stepped
    exact ⟨chunk, writing, rfl⟩
  · contradiction

theorem notify_cases (stepped : state.notify = some next) :
    state.shellExited = true ∧ ∃ notice, state.exitNotice.notify = some notice ∧
      next = { state with exitNotice := notice } := by
  unfold notify at stepped
  split at stepped
  · rename_i exited
    rcases Option.map_eq_some_iff.mp stepped with ⟨notice, notified, rfl⟩
    exact ⟨exited, notice, notified, rfl⟩
  · contradiction

theorem sendHeartbeat_cases {lastReceivedSeq : WatermarkMap}
    (stepped : state.sendHeartbeat lastReceivedSeq = some next) :
    ∃ notice, state.exitNotice.sendHeartbeat lastReceivedSeq = some notice ∧
      next = { state with exitNotice := notice } := by
  unfold sendHeartbeat at stepped
  split at stepped
  · rcases Option.map_eq_some_iff.mp stepped with ⟨notice, sent, rfl⟩
    exact ⟨notice, sent, rfl⟩
  · contradiction

theorem ctrlTake_cases (stepped : state.ctrlTake = some next) :
    ∃ envelope notice, state.server.resume = .serving ∧ state.ctrlWriter = .waiting ∧
      (∃ channel rest, state.exitNotice.outboundCtrlTx = some channel ∧
        channel.items = envelope :: rest ∧ state.exitNotice.writeCtrl = some notice) ∧
      next = { state with exitNotice := notice, ctrlWriter := .writing envelope } := by
  unfold ctrlTake at stepped
  split at stepped
  · rename_i envelope serving waiting oldest
    rcases Option.map_eq_some_iff.mp stepped with ⟨notice, taken, rfl⟩
    rcases Option.bind_eq_some_iff.mp oldest with ⟨channel, occupied, head⟩
    rcases List.head?_eq_some_iff.mp head with ⟨rest, items⟩
    exact ⟨envelope, notice, serving, waiting, ⟨channel, rest, occupied, items, taken⟩, rfl⟩
  · contradiction

theorem ctrlWritten_cases (stepped : state.ctrlWritten = some next) :
    (state.ctrlWriter = .writing .disconnect ∧ next = { state with
        ctrlWriter := .done, ctrlStream := state.ctrlStream ++ [.disconnect] }) ∨
      ∃ acks, state.ctrlWriter = .writing (.heartbeat acks) ∧ next = { state with
        ctrlWriter := .waiting, ctrlStream := state.ctrlStream ++ [.heartbeat acks] } := by
  unfold ctrlWritten at stepped
  split at stepped
  · rename_i writing
    cases stepped
    exact Or.inl ⟨writing, rfl⟩
  · rename_i acks writing
    cases stepped
    exact Or.inr ⟨acks, writing, rfl⟩
  · contradiction
  · contradiction

theorem serverEnds_cases (stepped : state.serverEnds = some next) :
    ∃ server notice, state.ctrlWriter = .done ∧ state.server.close = some server ∧
      state.exitNotice.finish = some notice ∧
      next = { state with server := server, ptyWriter := none, exitNotice := notice } := by
  unfold serverEnds at stepped
  split at stepped
  · rename_i server notice ended closed finished
    cases stepped
    exact ⟨server, notice, ended, closed, finished, rfl⟩
  · contradiction

theorem serverCloses_cases {chunks envelopes : Nat}
    (stepped : state.serverCloses chunks envelopes = some next) :
    next = { state with
      ptyStream := state.ptyStream.take chunks
      ctrlStream := state.ctrlStream.take envelopes } := by
  unfold serverCloses at stepped
  split at stepped
  · cases stepped
    rfl
  · contradiction

theorem ctrlRead_cases (stepped : state.ctrlRead = some next) :
    ∃ envelope rest, state.ctrlStream = envelope :: rest ∧
      ((envelope = .disconnect ∧
          next = { state with disconnected := true, ctrlStream := rest }) ∨
        ∃ acks client, envelope = .heartbeat acks ∧ state.client.acknowledge acks = some client ∧
          state.client.receiver ≠ .absent ∧
          next = { state with client := client, ctrlStream := rest }) := by
  unfold ctrlRead at stepped
  split at stepped
  · rename_i listening
    split at stepped
    · rename_i rest stream
      cases stepped
      exact ⟨_, rest, stream, Or.inl ⟨rfl, rfl⟩⟩
    · rename_i acks rest stream
      rcases Option.map_eq_some_iff.mp stepped with ⟨client, acknowledged, rfl⟩
      exact ⟨_, rest, stream, Or.inr ⟨acks, client, rfl, acknowledged, listening.2, rfl⟩⟩
    · contradiction
  · contradiction

theorem clientRead_cases (stepped : state.clientRead = some next) :
    ∃ chunk rest client, state.ptyStream = chunk :: rest ∧
      state.client.read chunk = some client ∧
      next = { state with client := client, ptyStream := rest } := by
  unfold clientRead at stepped
  split at stepped
  · rename_i chunk rest stream
    rcases Option.map_eq_some_iff.mp stepped with ⟨client, taken, rfl⟩
    exact ⟨chunk, rest, client, stream, taken, rfl⟩
  · contradiction

theorem leave_cases (stepped : state.leave = some next) :
    state.disconnected = true ∧ ∃ client, state.client.abort = some client ∧
      next = { state with client := client, left := true } := by
  unfold leave at stepped
  split at stepped
  · rename_i disconnected
    rcases Option.map_eq_some_iff.mp stepped with ⟨client, aborted, rfl⟩
    exact ⟨disconnected, client, aborted, rfl⟩
  · contradiction

theorem step_cases {action : TeardownAction} (stepped : state.step action = some next) :
    state.left = false ∧ state.act action = some next := by
  unfold step at stepped
  split at stepped
  · contradiction
  · rename_i staying
    exact ⟨staying, stepped⟩

/-! ## Disconnect follows the exit -/

/-- The envelopes between the control channel and the client, oldest first. -/
def notices (state : TeardownState) : List CtrlEnvelope :=
  state.ctrlStream ++
    (match state.ctrlWriter with
      | .writing envelope => [envelope]
      | .waiting | .done => []) ++
    (state.exitNotice.outboundCtrlTx.map Channel.items).getD []

/-- Nothing announces the exit of a running shell, and the client hears nothing
that the control writer has not written. -/
structure Announced (state : TeardownState) : Prop where
  watched : state.exitNotice.watcher ≠ .waiting → state.shellExited = true
  announced : CtrlEnvelope.disconnect ∈ state.notices → state.shellExited = true
  ended : state.ctrlWriter = .done → state.shellExited = true
  streamed : CtrlEnvelope.disconnect ∈ state.ctrlStream → state.ctrlWriter = .done
  heard : state.disconnected = true → state.ctrlWriter = .done

theorem announced_init (sessionId : List UInt8) (passkey : String) :
    (init sessionId passkey).Announced where
  watched := by simp [init, ExitState.init]
  announced := by simp [init, ExitState.init, notices]
  ended := nofun
  streamed := nofun
  heard := nofun

/-- A step that leaves the announcement alone. -/
theorem Announced.same (announced : state.Announced)
    (sameNotice : next.exitNotice = state.exitNotice)
    (sameWriter : next.ctrlWriter = state.ctrlWriter)
    (fewer : next.ctrlStream ⊆ state.ctrlStream)
    (sameHeard : next.disconnected = state.disconnected)
    (sameExit : state.shellExited = true → next.shellExited = true) : next.Announced where
  watched waiting := sameExit (announced.watched (sameNotice ▸ waiting))
  announced member := by
    apply sameExit
    apply announced.announced
    simp only [notices, sameNotice, sameWriter, List.mem_append] at member ⊢
    exact member.imp_left (Or.imp_left fun early => fewer early)
  ended done := sameExit (announced.ended (sameWriter ▸ done))
  streamed member := sameWriter.trans (announced.streamed (fewer member))
  heard disconnected := sameWriter.trans (announced.heard (sameHeard ▸ disconnected))

/-- A step of the exit notification with nothing new for a running shell. -/
theorem Announced.notice (announced : state.Announced) {notice : ExitState}
    (watched : notice.watcher ≠ .waiting → state.shellExited = true)
    (queued : CtrlEnvelope.disconnect ∈ (notice.outboundCtrlTx.map Channel.items).getD [] →
      state.shellExited = true) :
    Announced { state with exitNotice := notice } where
  watched := watched
  announced member := by
    rcases List.mem_append.mp member with early | late
    · exact announced.announced (List.mem_append_left _ early)
    · exact queued late
  ended := announced.ended
  streamed := announced.streamed
  heard := announced.heard

/-- What the channel holds announces the exit. -/
theorem Announced.queued (announced : state.Announced)
    (member : CtrlEnvelope.disconnect ∈
      (state.exitNotice.outboundCtrlTx.map Channel.items).getD []) : state.shellExited = true :=
  announced.announced (List.mem_append_right _ member)

theorem Announced.accept (announced : state.Announced) (stepped : state.accept = some next) :
    next.Announced := by
  rcases accept_cases stepped with ⟨-, server, notice, -, accepted, rfl⟩
  rcases ExitState.accept_cases accepted with ⟨-, rfl⟩
  exact ⟨announced.watched, announced.announced, announced.ended, announced.streamed,
    announced.heard⟩

theorem Announced.publishCtrl (announced : state.Announced)
    (stepped : state.publishCtrl = some next) : next.Announced := by
  rcases publishCtrl_cases stepped with ⟨notice, published, rfl⟩
  rcases ExitState.publishCtrl_cases published with ⟨-, rfl⟩
  exact announced.notice announced.watched nofun

theorem Announced.checkFlag (announced : state.Announced)
    (stepped : state.checkFlag = some next) : next.Announced := by
  rcases Option.map_eq_some_iff.mp stepped with ⟨notice, checked, rfl⟩
  rcases ExitState.checkFlag_cases checked with ⟨-, channel, occupied,
    ⟨flagged, sent, rfl⟩ | ⟨flagged, -, rfl⟩ | ⟨-, rfl⟩⟩
  · have exited := announced.watched (by simp [flagged])
    exact announced.notice (fun _ => exited) fun _ => exited
  · exact announced.notice announced.watched announced.queued
  · exact announced.notice announced.watched announced.queued

theorem Announced.notify (announced : state.Announced) (stepped : state.notify = some next) :
    next.Announced := by
  rcases notify_cases stepped with ⟨exited, notice, -, rfl⟩
  exact announced.notice (fun _ => exited) fun _ => exited

theorem Announced.raiseFlag (announced : state.Announced)
    (stepped : state.raiseFlag = some next) : next.Announced := by
  rcases Option.map_eq_some_iff.mp stepped with ⟨notice, raised, rfl⟩
  rcases ExitState.raiseFlag_cases raised with ⟨notified, rfl⟩
  have exited := announced.watched (by simp [notified])
  exact announced.notice (fun _ => exited) fun _ => exited

theorem Announced.sendHeartbeat {lastReceivedSeq : WatermarkMap} (announced : state.Announced)
    (stepped : state.sendHeartbeat lastReceivedSeq = some next) : next.Announced := by
  rcases sendHeartbeat_cases stepped with ⟨notice, sent, rfl⟩
  rcases ExitState.sendHeartbeat_cases sent with ⟨-, channel, queue, occupied, items, rfl⟩
  refine announced.notice announced.watched fun member => announced.queued ?_
  simpa [occupied, items] using member

/-- An envelope the control writer takes moves from the channel into its hand. -/
theorem Announced.ctrlTake (announced : state.Announced)
    (stepped : state.ctrlTake = some next) : next.Announced := by
  rcases ctrlTake_cases stepped with
    ⟨envelope, notice, -, waiting, ⟨channel, rest, occupied, items, taken⟩, rfl⟩
  rcases ExitState.writeCtrl_cases taken with ⟨-, other, head, queue, same, oldest, rfl⟩
  rw [occupied, Option.some.injEq] at same
  subst same
  rw [items, List.cons.injEq] at oldest
  refine ⟨announced.watched, ?_, nofun, ?_, ?_⟩
  · intro member
    apply announced.announced
    simpa [notices, occupied, items, waiting, oldest.2] using member
  · intro member
    have ended := announced.streamed member
    rw [waiting] at ended
    cases ended
  · intro disconnected
    have ended := announced.heard disconnected
    rw [waiting] at ended
    cases ended

theorem Announced.ctrlWritten (announced : state.Announced)
    (stepped : state.ctrlWritten = some next) : next.Announced := by
  rcases ctrlWritten_cases stepped with ⟨writing, rfl⟩ | ⟨acks, writing, rfl⟩
  · have exited := announced.announced (by simp [notices, writing])
    exact ⟨fun _ => exited, fun _ => exited, fun _ => exited, fun _ => rfl, fun _ => rfl⟩
  · refine ⟨announced.watched, ?_, nofun, ?_, ?_⟩
    · intro member
      apply announced.announced
      simpa [notices, writing] using member
    · intro member
      have ended := announced.streamed (by simpa using member)
      rw [writing] at ended
      cases ended
    · intro disconnected
      have ended := announced.heard disconnected
      rw [writing] at ended
      cases ended

theorem Announced.serverEnds (announced : state.Announced)
    (stepped : state.serverEnds = some next) : next.Announced := by
  rcases serverEnds_cases stepped with ⟨server, notice, ended, -, finished, rfl⟩
  have result := ExitState.finish_cases finished
  subst result
  refine ⟨announced.watched, ?_, announced.ended, announced.streamed, announced.heard⟩
  intro member
  apply announced.announced
  simp only [notices, ended, Option.map_none, Option.getD_none, List.append_nil] at member
  simp [notices, member]

theorem Announced.ctrlRead (announced : state.Announced)
    (stepped : state.ctrlRead = some next) : next.Announced := by
  rcases ctrlRead_cases stepped with ⟨envelope, rest, stream, outcome⟩
  have fewer : rest ⊆ state.ctrlStream := by
    rw [stream]
    exact List.subset_cons_self _ _
  rcases outcome with ⟨disconnect, rfl⟩ | ⟨acks, client, -, -, -, rfl⟩
  · have inStream : CtrlEnvelope.disconnect ∈ state.ctrlStream := by simp [stream, disconnect]
    have ended := announced.streamed inStream
    have exited := announced.ended ended
    exact ⟨announced.watched, fun _ => exited, fun _ => exited, fun _ => ended, fun _ => ended⟩
  · exact announced.same rfl rfl fewer rfl id

theorem Announced.step {action : TeardownAction} (announced : state.Announced)
    (stepped : state.step action = some next) : next.Announced := by
  rcases step_cases stepped with ⟨-, acted⟩
  have sameStream := List.Subset.refl state.ctrlStream
  cases action with
  | shellWrite data =>
      rcases shellWrite_cases acted with ⟨-, rfl⟩
      exact announced.same rfl rfl sameStream rfl id
  | shellExit =>
      have result := shellExit_cases acted
      subst result
      exact announced.same rfl rfl sameStream rfl fun _ => rfl
  | ptyRead count =>
      rcases ptyRead_cases acted with ⟨-, -, server, -, rfl⟩
      exact announced.same rfl rfl sameStream rfl id
  | accept => exact announced.accept acted
  | publishCtrl => exact announced.publishCtrl acted
  | checkFlag => exact announced.checkFlag acted
  | queueReplay =>
      rcases queueReplay_cases acted with ⟨server, -, rfl⟩
      exact announced.same rfl rfl sameStream rfl id
  | openPtyStream =>
      rcases openPtyStream_cases acted with ⟨-, rfl⟩
      exact announced.same rfl rfl sameStream rfl id
  | spawnTasks =>
      rcases spawnTasks_cases acted with ⟨-, client, -, rfl⟩
      exact announced.same rfl rfl sameStream rfl id
  | startWriter =>
      rcases startWriter_cases acted with ⟨server, -, rfl⟩
      exact announced.same rfl rfl sameStream rfl id
  | ptyTake =>
      rcases ptyTake_cases acted with ⟨chunk, server, -, -, -, rfl⟩
      exact announced.same rfl rfl sameStream rfl id
  | ptyWritten =>
      rcases ptyWritten_cases acted with ⟨chunk, -, rfl⟩
      exact announced.same rfl rfl sameStream rfl id
  | notify => exact announced.notify acted
  | raiseFlag => exact announced.raiseFlag acted
  | sendHeartbeat lastReceivedSeq => exact announced.sendHeartbeat acted
  | ctrlTake => exact announced.ctrlTake acted
  | ctrlWritten => exact announced.ctrlWritten acted
  | serverEnds => exact announced.serverEnds acted
  | serverCloses chunks envelopes =>
      have result := serverCloses_cases acted
      subst result
      exact announced.same rfl rfl (List.take_subset envelopes state.ctrlStream) rfl id
  | ctrlRead => exact announced.ctrlRead acted
  | clientRead =>
      rcases clientRead_cases acted with ⟨chunk, rest, client, -, -, rfl⟩
      exact announced.same rfl rfl sameStream rfl id
  | ptyForward | publishPty | heartbeat _ | clientMark | clientForward | takeStdout | writeStdout
  | flushed =>
      rcases Option.map_eq_some_iff.mp acted with ⟨component, -, rfl⟩
      exact announced.same rfl rfl sameStream rfl id
  | leave =>
      rcases leave_cases acted with ⟨-, client, -, rfl⟩
      exact announced.same rfl rfl sameStream rfl id

end TeardownState

end Etr.System
