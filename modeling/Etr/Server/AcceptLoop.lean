import Etr.Library.Transition
import Etr.Forward.Spec
import Etr.Server.Authentication
import Etr.Server.PtyInput
import Etr.Server.PtyOutput
import Etr.Server.ShellExit
import Etr.Wire.StreamFraming

/-!
Contract: the reconnect loop of the server's `run_session`.

Owns the transition system of the accept loop with everything a connection can
touch: the loop itself, the stages of `handle_connection` from the control
handshake to the end of its tasks, and the tasks that run beside the loop,
which are the PTY reader, the PTY input consumer, the shell-exit watcher and
the blocking login and logout calls. Each action is one critical section, one
channel operation or one wait that completes, so a list of actions is one
interleaving.

Does not own time, relays behind forward streams, or `hangup_child`.
-/

namespace Etr.Server

open Etr.Library Etr.Session Etr.Wire
open Etr.Protocol (SessionOpen)

/-! ## State -/

/-- A connection as the endpoint tells it apart, with the address of its peer
and the content that decides its control handshake. -/
structure Peer where
  id : Nat
  ip : String
  opening : Opening
deriving DecidableEq, Repr

/-- An `Option<mpsc::Sender>` behind its lock, with the queue of the sender. -/
inductive SenderSlot (α : Type) (capacity : Nat) where
  | vacant
  | live (channel : Channel α capacity)
  /-- The receiver was dropped: a send fails at once. -/
  | closed

namespace SenderSlot

variable {α : Type} {capacity : Nat}

/-- Send on a clone of the sender, waiting while the queue is full. The result
of the send is ignored. -/
def send (slot : SenderSlot α capacity) (item : α) : Option (SenderSlot α capacity) :=
  match slot with
  | .vacant => some .vacant
  | .live channel => (channel.trySend item).map .live
  | .closed => some .closed

/-- `try_send`, with its result ignored. -/
def offer (slot : SenderSlot α capacity) (item : α) : SenderSlot α capacity :=
  match slot with
  | .vacant => .vacant
  | .live channel => .live (channel.offer item)
  | .closed => .closed

/-- The receiver takes the oldest item. -/
def recv (slot : SenderSlot α capacity) : Option (α × SenderSlot α capacity) :=
  match slot with
  | .live channel => channel.recv.map fun taken => (taken.1, .live taken.2)
  | .vacant | .closed => none

/-- The receiver is dropped. -/
def close : SenderSlot α capacity → SenderSlot α capacity
  | .vacant => .vacant
  | .live _ | .closed => .closed

end SenderSlot

/-- A call into the login record. -/
inductive UtmpCall where
  | recordLogin (masterFd : Nat) (remoteAddr : String)
  | recordLogout (masterFd : Nat)
deriving DecidableEq, Repr

/-- Where the shell-exit watcher is. -/
inductive WatcherStage where
  /-- In `child.wait()`. -/
  | waiting
  /-- It has sent `Disconnect` to the connection it found. -/
  | notified
  /-- It has set the shell-exit flag. -/
  | flagged
  /-- It has recorded the logout and returned. -/
  | finished
deriving DecidableEq, Repr

/-- The shell-exit flag. -/
def WatcherStage.shellExited : WatcherStage → Bool
  | .waiting | .notified => false
  | .flagged | .finished => true

/-- A reverse listener task, with the text it was requested by. -/
structure ReverseListener where
  text : String
  spec : Forward.ForwardSpec
  gateway : Bool

/-- What the server writes on a control stream. -/
inductive ServerMessage where
  | sessionAccept (lastReceivedSeq : WatermarkMap)
  | ctrl (envelope : CtrlEnvelope)

/-- Bytes written to an authenticated client. -/
inductive SentBytes where
  | control (bytes : List UInt8)
  | pty (bytes : List UInt8)
deriving DecidableEq, Repr

structure ServerConfig where
  credentials : Credentials
  /-- `master.as_raw_fd()`. -/
  masterFd : Option Nat
  processId : Nat
  /-- The Protobuf encoding of a control message, in the order its map is
  iterated. -/
  messageBody : ServerMessage → List UInt8

/-- Everything `run_session` shares between its tasks. -/
structure SharedState where
  session : SessionState
  /-- Chunk the PTY reader has recorded and not yet handed to the connection. -/
  reader : Option Chunk
  ptyIn : Channel Payload ptyInputCapacity
  /-- The PTY input consumer still holds the receiver. -/
  ptyInOpen : Bool
  /-- Payloads the consumer has written to the PTY. -/
  ptyWritten : List Payload
  /-- Rows and columns of the PTY. -/
  ptySize : UInt16 × UInt16
  outboundPtyTx : SenderSlot Chunk ptyOutputCapacity
  outboundCtrlTx : SenderSlot CtrlEnvelope ctrlOutputCapacity
  x11RealCookie : Option (List UInt8)
  activeConn : Option Peer
  activeReverseListeners : List ReverseListener
  watcher : WatcherStage
  /-- `SIGTERM` or `SIGHUP` was delivered. -/
  signalled : Bool
  /-- Address a spawned `record_login` was not called with yet. -/
  blockingLogin : Option String
  /-- Calls into the login record so far. -/
  utmp : List UtmpCall
  /-- What was written to authenticated clients, with the connection. -/
  sent : List (Nat × SentBytes)

/-- How far `handle_connection` is behind the credential checks. -/
inductive ConnStage where
  | recordingLogin
  | storingCookie
  | collecting
  | writingAccept (serverLast : WatermarkMap) (replays : List Chunk)
  | activating (replays : List Chunk)
  | listening (rest : List String) (replays : List Chunk)
  | publishingPty (replays : List Chunk)
  | publishingCtrl (replays : List Chunk)
  | checkingFlag (replays : List Chunk)
  | queueing (rest : List Chunk)
  | awaitingPty
  | serving (input : InputReader)

/-- Where the loop of `run_session` is. -/
inductive LoopPhase where
  /-- In the `select!` at its head. -/
  | selecting
  /-- Waiting for the QUIC handshake. -/
  | handshaking (peer : Peer)
  /-- `handle_connection` waits for the control handshake. -/
  | opening (peer : Peer)
  | connected (peer : Peer) (so : SessionOpen) (stage : ConnStage)
  /-- `handle_connection` returned, after closing the connection if it had a
  reason. -/
  | returned (peer : Peer) (clean : Bool) (closeReason : Option String)
  /-- Waiting for its own blocking `record_logout`. -/
  | loggingOut
  /-- The loop was left. -/
  | done

/-- The connection the loop is busy with. -/
def LoopPhase.peer? : LoopPhase → Option Peer
  | .handshaking peer | .opening peer | .connected peer _ _ | .returned peer _ _ => some peer
  | .selecting | .loggingOut | .done => none

structure ServerState where
  shared : SharedState
  phase : LoopPhase

/-- State of `run_session` at the head of its loop. -/
def ServerState.init (config : ServerConfig) : ServerState where
  phase := .selecting
  shared :=
    { session := SessionState.new config.credentials.sessionId config.credentials.passkey
      reader := none
      ptyIn := Channel.empty
      ptyInOpen := true
      ptyWritten := []
      ptySize := (24, 80)
      outboundPtyTx := .vacant
      outboundCtrlTx := .vacant
      x11RealCookie := none
      activeConn := none
      activeReverseListeners := []
      watcher := .waiting
      signalled := false
      blockingLogin := none
      utmp := []
      sent := [] }

/-- Session 1 with pass key `k`, on descriptor 5. -/
def ServerConfig.sample : ServerConfig where
  credentials := ⟨[1], "k"⟩
  masterFd := some 5
  processId := 42
  messageBody := fun _ => []

/-! ## Tasks beside the loop -/

namespace SharedState

/-- `record_logout`, if the PTY has a descriptor. -/
def recordLogout (config : ServerConfig) (shared : SharedState) : SharedState :=
  match config.masterFd with
  | some fd => { shared with utmp := shared.utmp ++ [.recordLogout fd] }
  | none => shared

/-- Blocking task: call `record_login`. -/
def recordLogin (config : ServerConfig) (shared : SharedState) : Option SharedState :=
  match config.masterFd, shared.blockingLogin with
  | some fd, some remoteAddr =>
      some { shared with
        blockingLogin := none
        utmp := shared.utmp ++ [.recordLogin fd remoteAddr] }
  | _, _ => none

/-- PTY reader: number and record the bytes just read, under the session lock. -/
def readPty (shared : SharedState) (data : Payload) : Option SharedState :=
  match shared.reader with
  | some _ => none
  | none =>
      some { shared with
        session := shared.session.updateTerminal fun stream => stream.numberAndRecord data
        reader := some (shared.session.terminal.nextOutSeq, data) }

/-- PTY reader: hand the chunk to the connection in the slot. -/
def forwardPty (shared : SharedState) : Option SharedState :=
  match shared.reader with
  | none => none
  | some chunk =>
      (shared.outboundPtyTx.send chunk).map fun slot =>
        { shared with reader := none, outboundPtyTx := slot }

/-- PTY input consumer: write the oldest payload to the PTY. -/
def writePtyInput (shared : SharedState) : Option SharedState :=
  shared.ptyIn.recv.map fun taken =>
    { shared with ptyIn := taken.2, ptyWritten := shared.ptyWritten ++ [taken.1] }

/-- PTY input consumer: a failed write drops the receiver with what it holds. -/
def endPtyInput (shared : SharedState) : Option SharedState :=
  some { shared with ptyIn := Channel.empty, ptyInOpen := false }

/-- Watcher: the shell exited; send `Disconnect` to the connection in the slot. -/
def notify (shared : SharedState) : Option SharedState :=
  match shared.watcher with
  | .waiting =>
      (shared.outboundCtrlTx.send .disconnect).map fun slot =>
        { shared with watcher := .notified, outboundCtrlTx := slot }
  | _ => none

/-- Watcher: set the shell-exit flag. -/
def raiseFlag (shared : SharedState) : Option SharedState :=
  match shared.watcher with
  | .notified => some { shared with watcher := .flagged }
  | _ => none

/-- Watcher: record the logout. -/
def watcherLogout (config : ServerConfig) (shared : SharedState) : Option SharedState :=
  match shared.watcher with
  | .flagged => some { shared.recordLogout config with watcher := .finished }
  | _ => none

/-- A signal is delivered. -/
def raiseSignal (shared : SharedState) : Option SharedState :=
  some { shared with signalled := true }

end SharedState

inductive BackgroundAction where
  | readPty (data : Payload)
  | forwardPty
  | writePtyInput
  | endPtyInput
  | notify
  | raiseFlag
  | watcherLogout
  | recordLogin
  | raiseSignal

def SharedState.step (config : ServerConfig) (shared : SharedState) :
    BackgroundAction → Option SharedState
  | .readPty data => shared.readPty data
  | .forwardPty => shared.forwardPty
  | .writePtyInput => shared.writePtyInput
  | .endPtyInput => shared.endPtyInput
  | .notify => shared.notify
  | .raiseFlag => shared.raiseFlag
  | .watcherLogout => shared.watcherLogout config
  | .recordLogin => shared.recordLogin config
  | .raiseSignal => shared.raiseSignal

/-! ## An authenticated connection -/

/-- What the client sends on an established control stream. -/
inductive ClientEnvelope where
  | terminalResize (rows cols : UInt32)
  | heartbeat (lastReceivedSeq : WatermarkMap)
  | disconnect
  | other

/-- What `handle_connection` does next. -/
inductive Progress where
  | proceed (stage : ConnStage)
  | finish (clean : Bool)

namespace ConnStage

/-- Address `record_login` stores. -/
def loginAddr (config : ServerConfig) (peer : Peer) : String :=
  peer.ip ++ " via etr [" ++ toString config.processId ++ "]"

/-- The first stage behind the credential checks spawns `record_login`. -/
def enter (config : ServerConfig) (peer : Peer) (shared : SharedState) :
    SharedState × ConnStage :=
  match config.masterFd with
  | some _ =>
      ({ shared with blockingLogin := some (loginAddr config peer) }, .recordingLogin)
  | none => (shared, .storingCookie)

/-- The blocking `record_login` returned. -/
def loginRecorded (shared : SharedState) (stage : ConnStage) :
    Option (SharedState × Progress) :=
  match stage, shared.blockingLogin with
  | .recordingLogin, none => some (shared, .proceed .storingCookie)
  | _, _ => none

def storeCookie (shared : SharedState) (so : SessionOpen) (stage : ConnStage) :
    Option (SharedState × Progress) :=
  match stage with
  | .storingCookie =>
      if so.x11Enabled then
        some ({ shared with x11RealCookie := some so.x11AuthCookie }, .proceed .collecting)
      else
        some (shared, .proceed .collecting)
  | _ => none

/-- Apply the client's acknowledgements and collect its replays, under one
session lock. -/
def collectReplays (shared : SharedState) (so : SessionOpen) (stage : ConnStage) :
    Option (SharedState × Progress) :=
  match stage with
  | .collecting =>
      let lastReceivedSeq := so.lastReceivedSeq.toWatermarkMap
      let session := shared.session.applyServerAcks lastReceivedSeq
      some ({ shared with session := session },
        .proceed (.writingAccept session.lastReceivedMap
          ((session.collectReplays lastReceivedSeq 0).getD [])))
  | _ => none

/-- Write `SessionAccept`; a failed write ends the connection. -/
def writeAccept (config : ServerConfig) (peer : Peer) (shared : SharedState)
    (stage : ConnStage) (succeeded : Bool) : Option (SharedState × Progress) :=
  match stage with
  | .writingAccept serverLast replays =>
      if succeeded then
        let framed := writeMsg config.messageBody (.sessionAccept serverLast)
        some ({ shared with sent := shared.sent ++ [(peer.id, .control framed)] },
          .proceed (.activating replays))
      else
        some (shared, .finish false)
  | _ => none

def activate (peer : Peer) (shared : SharedState) (so : SessionOpen) (stage : ConnStage) :
    Option (SharedState × Progress) :=
  match stage with
  | .activating replays =>
      some ({ shared with activeConn := some peer },
        .proceed (.listening so.reverseForwards replays))
  | _ => none

/-- One turn of the loop over the requested reverse forwards. -/
def startListener (shared : SharedState) (so : SessionOpen) (stage : ConnStage) :
    Option (SharedState × Progress) :=
  match stage with
  | .listening (text :: rest) replays =>
      if shared.activeReverseListeners.any fun listener => decide (listener.text = text) then
        some (shared, .proceed (.listening rest replays))
      else
        match Forward.ForwardSpec.parse text with
        | .ok spec =>
            some ({ shared with
              activeReverseListeners :=
                shared.activeReverseListeners ++ [⟨text, spec, so.gatewayPorts⟩] },
              .proceed (.listening rest replays))
        | .error _ => some (shared, .proceed (.listening rest replays))
  | .listening [] replays => some (shared, .proceed (.publishingPty replays))
  | _ => none

def publishPty (shared : SharedState) (stage : ConnStage) :
    Option (SharedState × Progress) :=
  match stage with
  | .publishingPty replays =>
      some ({ shared with outboundPtyTx := .live Channel.empty },
        .proceed (.publishingCtrl replays))
  | _ => none

def publishCtrl (shared : SharedState) (stage : ConnStage) :
    Option (SharedState × Progress) :=
  match stage with
  | .publishingCtrl replays =>
      some ({ shared with outboundCtrlTx := .live Channel.empty },
        .proceed (.checkingFlag replays))
  | _ => none

/-- If the shell has exited, queue `Disconnect`. -/
def checkFlag (shared : SharedState) (stage : ConnStage) :
    Option (SharedState × Progress) :=
  match stage with
  | .checkingFlag replays =>
      if shared.watcher.shellExited then
        some ({ shared with outboundCtrlTx := shared.outboundCtrlTx.offer .disconnect },
          .proceed (.queueing replays))
      else
        some (shared, .proceed (.queueing replays))
  | _ => none

/-- Queue one replay. -/
def queueReplay (shared : SharedState) (stage : ConnStage) :
    Option (SharedState × Progress) :=
  match stage with
  | .queueing (entry :: rest) =>
      some ({ shared with outboundPtyTx := shared.outboundPtyTx.offer entry },
        .proceed (.queueing rest))
  | .queueing [] => some (shared, .proceed .awaitingPty)
  | _ => none

/-- The dispatcher hands over the PTY stream: spawn the connection's tasks. -/
def startServing (shared : SharedState) (stage : ConnStage) :
    Option (SharedState × Progress) :=
  match stage with
  | .awaitingPty => some (shared, .proceed (.serving .reading))
  | _ => none

/-- PTY writer: take the oldest chunk and write it to the PTY stream. -/
def writePty (peer : Peer) (shared : SharedState) (stage : ConnStage) :
    Option (SharedState × Progress) :=
  match stage with
  | .serving input =>
      shared.outboundPtyTx.recv.map fun taken =>
        ({ shared with
          outboundPtyTx := taken.2
          sent := shared.sent ++ [(peer.id, .pty (writePtyChunk taken.1))] },
          .proceed (.serving input))
  | _ => none

/-- PTY input reader: `read_pty_chunk` returns a chunk. -/
def readInput (shared : SharedState) (stage : ConnStage) (chunk : Chunk) :
    Option (SharedState × Progress) :=
  match stage with
  | .serving .reading => some (shared, .proceed (.serving (.locking chunk)))
  | _ => none

/-- PTY input reader: the session lock is granted. -/
def markInput (shared : SharedState) (stage : ConnStage) :
    Option (SharedState × Progress) :=
  match stage with
  | .serving (.locking chunk) =>
      some ({ shared with
        session := shared.session.updateTerminal fun stream => stream.markReceived chunk.1 },
        .proceed (.serving (.sending chunk)))
  | _ => none

/-- PTY input reader: `pty_in_tx2.send(data)` returns. It waits while the queue
is full and fails once the consumer is gone. -/
def enqueueInput (shared : SharedState) (stage : ConnStage) :
    Option (SharedState × Progress) :=
  match stage with
  | .serving (.sending chunk) =>
      if shared.ptyInOpen then
        (shared.ptyIn.trySend chunk.2).map fun queue =>
          ({ shared with ptyIn := queue }, .proceed (.serving .reading))
      else
        some (shared, .proceed (.serving .reading))
  | _ => none

/-- Control reader: one envelope. -/
def readCtrl (shared : SharedState) (stage : ConnStage) (envelope : ClientEnvelope) :
    Option (SharedState × Progress) :=
  match stage with
  | .serving input =>
      match envelope with
      | .terminalResize rows cols =>
          some ({ shared with ptySize := (rows.toUInt16, cols.toUInt16) },
            .proceed (.serving input))
      | .disconnect => some (shared, .finish true)
      | .heartbeat lastReceivedSeq =>
          some ({ shared with session := shared.session.applyServerAcks lastReceivedSeq },
            .proceed (.serving input))
      | .other => some (shared, .proceed (.serving input))
  | _ => none

/-- Heartbeat task: enqueue a heartbeat. -/
def sendHeartbeat (shared : SharedState) (stage : ConnStage) :
    Option (SharedState × Progress) :=
  match stage with
  | .serving input =>
      (shared.outboundCtrlTx.send (.heartbeat shared.session.lastReceivedMap)).map fun slot =>
        ({ shared with outboundCtrlTx := slot }, .proceed (.serving input))
  | _ => none

/-- Control writer: take the oldest envelope and write it to the control
stream. Behind a `Disconnect` the task ends and drops its receiver. -/
def writeCtrl (config : ServerConfig) (peer : Peer) (shared : SharedState)
    (stage : ConnStage) : Option (SharedState × Progress) :=
  match stage with
  | .serving input =>
      shared.outboundCtrlTx.recv.map fun taken =>
        let framed := writeMsg config.messageBody (.ctrl taken.1)
        let sent := shared.sent ++ [(peer.id, .control framed)]
        match taken.1 with
        | .disconnect =>
            ({ shared with outboundCtrlTx := taken.2.close, sent := sent },
              .proceed (.serving input))
        | .heartbeat _ =>
            ({ shared with outboundCtrlTx := taken.2, sent := sent },
              .proceed (.serving input))
  | _ => none

/-- The connection is lost, or a task ends by itself: the dispatcher before the
PTY stream arrived, or any arm of the last `select!` but a `Disconnect`. -/
def endTask (shared : SharedState) (stage : ConnStage) :
    Option (SharedState × Progress) :=
  match stage with
  | .awaitingPty | .serving _ => some (shared, .finish false)
  | _ => none

end ConnStage

inductive ConnAction where
  | loginRecorded
  | storeCookie
  | collectReplays
  | writeAccept (succeeded : Bool)
  | activate
  | startListener
  | publishPty
  | publishCtrl
  | checkFlag
  | queueReplay
  | startServing
  | writePty
  | readInput (chunk : Chunk)
  | markInput
  | enqueueInput
  | readCtrl (envelope : ClientEnvelope)
  | sendHeartbeat
  | writeCtrl
  | endTask

def ConnStage.step (config : ServerConfig) (peer : Peer) (so : SessionOpen)
    (shared : SharedState) (stage : ConnStage) :
    ConnAction → Option (SharedState × Progress)
  | .loginRecorded => loginRecorded shared stage
  | .storeCookie => storeCookie shared so stage
  | .collectReplays => collectReplays shared so stage
  | .writeAccept succeeded => writeAccept config peer shared stage succeeded
  | .activate => activate peer shared so stage
  | .startListener => startListener shared so stage
  | .publishPty => publishPty shared stage
  | .publishCtrl => publishCtrl shared stage
  | .checkFlag => checkFlag shared stage
  | .queueReplay => queueReplay shared stage
  | .startServing => startServing shared stage
  | .writePty => writePty peer shared stage
  | .readInput chunk => readInput shared stage chunk
  | .markInput => markInput shared stage
  | .enqueueInput => enqueueInput shared stage
  | .readCtrl envelope => readCtrl shared stage envelope
  | .sendHeartbeat => sendHeartbeat shared stage
  | .writeCtrl => writeCtrl config peer shared stage
  | .endTask => endTask shared stage

/-! ## What each step of a connection can do -/

namespace ConnStage

variable {config : ServerConfig} {peer : Peer} {so : SessionOpen} {shared : SharedState}
  {stage : ConnStage} {advanced : SharedState × Progress}

theorem loginRecorded_cases (stepped : loginRecorded shared stage = some advanced) :
    stage = .recordingLogin ∧ shared.blockingLogin = none ∧
      advanced = (shared, .proceed .storingCookie) := by
  unfold loginRecorded at stepped
  split at stepped
  · rename_i recorded
    cases stepped
    exact ⟨rfl, recorded, rfl⟩
  · contradiction

theorem storeCookie_cases (stepped : storeCookie shared so stage = some advanced) :
    stage = .storingCookie ∧
      ((so.x11Enabled = true ∧ advanced =
          ({ shared with x11RealCookie := some so.x11AuthCookie }, .proceed .collecting)) ∨
        (so.x11Enabled = false ∧ advanced = (shared, .proceed .collecting))) := by
  unfold storeCookie at stepped
  split at stepped
  · split at stepped
    · rename_i enabled
      cases stepped
      exact ⟨rfl, Or.inl ⟨enabled, rfl⟩⟩
    · rename_i disabled
      cases stepped
      exact ⟨rfl, Or.inr ⟨Bool.eq_false_iff.mpr disabled, rfl⟩⟩
  · contradiction

theorem collectReplays_cases (stepped : collectReplays shared so stage = some advanced) :
    stage = .collecting ∧ ∃ session,
      session = shared.session.applyServerAcks so.lastReceivedSeq.toWatermarkMap ∧
      advanced = ({ shared with session := session },
        .proceed (.writingAccept session.lastReceivedMap
          ((session.collectReplays so.lastReceivedSeq.toWatermarkMap 0).getD []))) := by
  unfold collectReplays at stepped
  split at stepped
  · cases stepped
    exact ⟨rfl, _, rfl, rfl⟩
  · contradiction

theorem writeAccept_cases {succeeded : Bool}
    (stepped : writeAccept config peer shared stage succeeded = some advanced) :
    ∃ serverLast replays, stage = .writingAccept serverLast replays ∧
      ((succeeded = true ∧ advanced =
          ({ shared with
            sent := shared.sent ++ [(peer.id, .control
              (writeMsg config.messageBody (.sessionAccept serverLast)))] },
            .proceed (.activating replays))) ∨
        (succeeded = false ∧ advanced = (shared, .finish false))) := by
  unfold writeAccept at stepped
  split at stepped
  · rename_i serverLast replays
    split at stepped
    · rename_i written
      cases stepped
      exact ⟨serverLast, replays, rfl, Or.inl ⟨written, rfl⟩⟩
    · rename_i failed
      cases stepped
      exact ⟨serverLast, replays, rfl, Or.inr ⟨Bool.eq_false_iff.mpr failed, rfl⟩⟩
  · contradiction

theorem activate_cases (stepped : activate peer shared so stage = some advanced) :
    ∃ replays, stage = .activating replays ∧ advanced =
      ({ shared with activeConn := some peer },
        .proceed (.listening so.reverseForwards replays)) := by
  unfold activate at stepped
  split at stepped
  · rename_i replays
    cases stepped
    exact ⟨replays, rfl, rfl⟩
  · contradiction

theorem startListener_cases (stepped : startListener shared so stage = some advanced) :
    (∃ text rest replays, stage = .listening (text :: rest) replays ∧
        ((((∃ listener ∈ shared.activeReverseListeners, listener.text = text) ∨
              ∃ message, Forward.ForwardSpec.parse text = .error message) ∧
            advanced = (shared, .proceed (.listening rest replays))) ∨
          ∃ spec, (∀ listener ∈ shared.activeReverseListeners, listener.text ≠ text) ∧
            Forward.ForwardSpec.parse text = .ok spec ∧ advanced =
              ({ shared with
                activeReverseListeners :=
                  shared.activeReverseListeners ++ [⟨text, spec, so.gatewayPorts⟩] },
                .proceed (.listening rest replays)))) ∨
      ∃ replays, stage = .listening [] replays ∧
        advanced = (shared, .proceed (.publishingPty replays)) := by
  unfold startListener at stepped
  split at stepped
  · rename_i text rest replays
    refine Or.inl ⟨text, rest, replays, rfl, ?_⟩
    split at stepped
    · rename_i listed
      cases stepped
      exact Or.inl ⟨Or.inl (by simpa using listed), rfl⟩
    · rename_i unlisted
      split at stepped
      · rename_i spec parsed
        cases stepped
        exact Or.inr ⟨spec, by simpa using unlisted, parsed, rfl⟩
      · rename_i message refused
        cases stepped
        exact Or.inl ⟨Or.inr ⟨message, refused⟩, rfl⟩
  · rename_i replays
    cases stepped
    exact Or.inr ⟨replays, rfl, rfl⟩
  · contradiction

theorem publishPty_cases (stepped : publishPty shared stage = some advanced) :
    ∃ replays, stage = .publishingPty replays ∧ advanced =
      ({ shared with outboundPtyTx := .live Channel.empty },
        .proceed (.publishingCtrl replays)) := by
  unfold publishPty at stepped
  split at stepped
  · rename_i replays
    cases stepped
    exact ⟨replays, rfl, rfl⟩
  · contradiction

theorem publishCtrl_cases (stepped : publishCtrl shared stage = some advanced) :
    ∃ replays, stage = .publishingCtrl replays ∧ advanced =
      ({ shared with outboundCtrlTx := .live Channel.empty },
        .proceed (.checkingFlag replays)) := by
  unfold publishCtrl at stepped
  split at stepped
  · rename_i replays
    cases stepped
    exact ⟨replays, rfl, rfl⟩
  · contradiction

theorem checkFlag_cases (stepped : checkFlag shared stage = some advanced) :
    ∃ replays, stage = .checkingFlag replays ∧
      ((shared.watcher.shellExited = true ∧ advanced =
          ({ shared with outboundCtrlTx := shared.outboundCtrlTx.offer .disconnect },
            .proceed (.queueing replays))) ∨
        (shared.watcher.shellExited = false ∧
          advanced = (shared, .proceed (.queueing replays)))) := by
  unfold checkFlag at stepped
  split at stepped
  · rename_i replays
    split at stepped
    · rename_i exited
      cases stepped
      exact ⟨replays, rfl, Or.inl ⟨exited, rfl⟩⟩
    · rename_i running
      cases stepped
      exact ⟨replays, rfl, Or.inr ⟨Bool.eq_false_iff.mpr running, rfl⟩⟩
  · contradiction

theorem queueReplay_cases (stepped : queueReplay shared stage = some advanced) :
    (∃ entry rest, stage = .queueing (entry :: rest) ∧ advanced =
        ({ shared with outboundPtyTx := shared.outboundPtyTx.offer entry },
          .proceed (.queueing rest))) ∨
      (stage = .queueing [] ∧ advanced = (shared, .proceed .awaitingPty)) := by
  unfold queueReplay at stepped
  split at stepped
  · rename_i entry rest
    cases stepped
    exact Or.inl ⟨entry, rest, rfl, rfl⟩
  · cases stepped
    exact Or.inr ⟨rfl, rfl⟩
  · contradiction

theorem startServing_cases (stepped : startServing shared stage = some advanced) :
    stage = .awaitingPty ∧ advanced = (shared, .proceed (.serving .reading)) := by
  unfold startServing at stepped
  split at stepped
  · cases stepped
    exact ⟨rfl, rfl⟩
  · contradiction

theorem writePty_cases (stepped : writePty peer shared stage = some advanced) :
    ∃ input chunk slot, stage = .serving input ∧
      shared.outboundPtyTx.recv = some (chunk, slot) ∧ advanced =
        ({ shared with
          outboundPtyTx := slot
          sent := shared.sent ++ [(peer.id, .pty (writePtyChunk chunk))] },
          .proceed (.serving input)) := by
  unfold writePty at stepped
  split at stepped
  · rename_i input
    rcases Option.map_eq_some_iff.mp stepped with ⟨⟨chunk, slot⟩, received, rfl⟩
    exact ⟨input, chunk, slot, rfl, received, rfl⟩
  · contradiction

theorem readInput_cases {chunk : Chunk} (stepped : readInput shared stage chunk = some advanced) :
    stage = .serving .reading ∧ advanced = (shared, .proceed (.serving (.locking chunk))) := by
  unfold readInput at stepped
  split at stepped
  · cases stepped
    exact ⟨rfl, rfl⟩
  · contradiction

theorem markInput_cases (stepped : markInput shared stage = some advanced) :
    ∃ chunk, stage = .serving (.locking chunk) ∧ advanced =
      ({ shared with
        session := shared.session.updateTerminal fun stream => stream.markReceived chunk.1 },
        .proceed (.serving (.sending chunk))) := by
  unfold markInput at stepped
  split at stepped
  · rename_i chunk
    cases stepped
    exact ⟨chunk, rfl, rfl⟩
  · contradiction

theorem enqueueInput_cases (stepped : enqueueInput shared stage = some advanced) :
    ∃ chunk, stage = .serving (.sending chunk) ∧
      ((shared.ptyInOpen = true ∧ ∃ queue, shared.ptyIn.trySend chunk.2 = some queue ∧
          advanced = ({ shared with ptyIn := queue }, .proceed (.serving .reading))) ∨
        (shared.ptyInOpen = false ∧ advanced = (shared, .proceed (.serving .reading)))) := by
  unfold enqueueInput at stepped
  split at stepped
  · rename_i chunk
    split at stepped
    · rename_i consumed
      rcases Option.map_eq_some_iff.mp stepped with ⟨queue, room, rfl⟩
      exact ⟨chunk, rfl, Or.inl ⟨consumed, queue, room, rfl⟩⟩
    · rename_i gone
      cases stepped
      exact ⟨chunk, rfl, Or.inr ⟨Bool.eq_false_iff.mpr gone, rfl⟩⟩
  · contradiction

theorem readCtrl_cases {envelope : ClientEnvelope}
    (stepped : readCtrl shared stage envelope = some advanced) :
    ∃ input, stage = .serving input ∧
      ((envelope = .disconnect ∧ advanced = (shared, .finish true)) ∨
        (envelope = .other ∧ advanced = (shared, .proceed (.serving input))) ∨
        (∃ rows cols, envelope = .terminalResize rows cols ∧ advanced =
          ({ shared with ptySize := (rows.toUInt16, cols.toUInt16) },
            .proceed (.serving input))) ∨
        ∃ lastReceivedSeq, envelope = .heartbeat lastReceivedSeq ∧ advanced =
          ({ shared with session := shared.session.applyServerAcks lastReceivedSeq },
            .proceed (.serving input))) := by
  unfold readCtrl at stepped
  split at stepped
  · rename_i input
    refine ⟨input, rfl, ?_⟩
    cases envelope with
    | disconnect =>
        cases stepped
        exact Or.inl ⟨rfl, rfl⟩
    | other =>
        cases stepped
        exact Or.inr (Or.inl ⟨rfl, rfl⟩)
    | terminalResize rows cols =>
        cases stepped
        exact Or.inr (Or.inr (Or.inl ⟨rows, cols, rfl, rfl⟩))
    | heartbeat lastReceivedSeq =>
        cases stepped
        exact Or.inr (Or.inr (Or.inr ⟨lastReceivedSeq, rfl, rfl⟩))
  · contradiction

theorem sendHeartbeat_cases (stepped : sendHeartbeat shared stage = some advanced) :
    ∃ input slot, stage = .serving input ∧
      shared.outboundCtrlTx.send (.heartbeat shared.session.lastReceivedMap) = some slot ∧
      advanced = ({ shared with outboundCtrlTx := slot }, .proceed (.serving input)) := by
  unfold sendHeartbeat at stepped
  split at stepped
  · rename_i input
    rcases Option.map_eq_some_iff.mp stepped with ⟨slot, accepted, rfl⟩
    exact ⟨input, slot, rfl, accepted, rfl⟩
  · contradiction

/-- Only a `Disconnect` closes the queue. -/
theorem writeCtrl_cases (stepped : writeCtrl config peer shared stage = some advanced) :
    ∃ input envelope slot, stage = .serving input ∧
      shared.outboundCtrlTx.recv = some (envelope, slot) ∧
      ∃ left, ((envelope = .disconnect ∧ left = slot.close) ∨
          (∃ beat, envelope = .heartbeat beat ∧ left = slot)) ∧
        advanced =
          ({ shared with
            outboundCtrlTx := left
            sent := shared.sent ++ [(peer.id, .control
              (writeMsg config.messageBody (.ctrl envelope)))] },
            .proceed (.serving input)) := by
  unfold writeCtrl at stepped
  split at stepped
  · rename_i input
    rcases Option.map_eq_some_iff.mp stepped with ⟨⟨envelope, slot⟩, received, rfl⟩
    refine ⟨input, envelope, slot, rfl, received, ?_⟩
    cases envelope with
    | disconnect => exact ⟨slot.close, Or.inl ⟨rfl, rfl⟩, rfl⟩
    | heartbeat beat => exact ⟨slot, Or.inr ⟨beat, rfl, rfl⟩, rfl⟩
  · contradiction

theorem endTask_cases (stepped : endTask shared stage = some advanced) :
    (stage = .awaitingPty ∨ ∃ input, stage = .serving input) ∧
      advanced = (shared, .finish false) := by
  unfold endTask at stepped
  split at stepped
  · cases stepped
    exact ⟨Or.inl rfl, rfl⟩
  · rename_i input
    cases stepped
    exact ⟨Or.inr ⟨input, rfl⟩, rfl⟩
  · contradiction

end ConnStage

/-! ## The loop -/

namespace ServerState

/-- The `select!` takes a connection; once the shell has exited, within its
second of grace. -/
def accept (state : ServerState) (peer : Peer) : Option ServerState :=
  match state.phase with
  | .selecting => some { state with phase := .handshaking peer }
  | _ => none

/-- `incoming.accept()` or the QUIC handshake fails, or it takes longer than
`HANDSHAKE_TIMEOUT`: `continue`. -/
def refuse (state : ServerState) (id : Nat) : Option ServerState :=
  match state.phase with
  | .handshaking peer => if peer.id = id then some { state with phase := .selecting } else none
  | _ => none

/-- The QUIC handshake succeeds: call `handle_connection`. -/
def establish (state : ServerState) (id : Nat) : Option ServerState :=
  match state.phase with
  | .handshaking peer =>
      if peer.id = id then some { state with phase := .opening peer } else none
  | _ => none

/-- `handle_connection` returns and its tasks are aborted with the receivers
they hold. -/
def leave (shared : SharedState) (peer : Peer) (clean : Bool) (closeReason : Option String) :
    ServerState where
  shared :=
    { shared with
      outboundPtyTx := shared.outboundPtyTx.close
      outboundCtrlTx := shared.outboundCtrlTx.close }
  phase := .returned peer clean closeReason

/-- The control handshake is decided. -/
def conclude (config : ServerConfig) (state : ServerState) (id : Nat) : Option ServerState :=
  match state.phase with
  | .opening peer =>
      if peer.id = id then
        match authenticate config.credentials peer.opening with
        | .error reason => some (leave state.shared peer false (some reason.closeReason))
        | .ok so =>
            let entered := ConnStage.enter config peer state.shared
            some ⟨entered.1, .connected peer so entered.2⟩
      else
        none
  | _ => none

/-- Enter the next stage, or return. -/
def follow (peer : Peer) (so : SessionOpen) (shared : SharedState) : Progress → ServerState
  | .proceed next => ⟨shared, .connected peer so next⟩
  | .finish clean => leave shared peer clean none

/-- One step of `handle_connection` behind the credential checks. -/
def advance (config : ServerConfig) (state : ServerState) (action : ConnAction) :
    Option ServerState :=
  match state.phase with
  | .connected peer so stage =>
      (stage.step config peer so state.shared action).map fun advanced =>
        follow peer so advanced.1 advanced.2
  | _ => none

/-- The loop clears the slots of the connection. -/
def clearSlots (shared : SharedState) : SharedState :=
  { shared with
    outboundPtyTx := .vacant
    outboundCtrlTx := .vacant
    activeConn := none }

/-- Behind `handle_connection`: leave the loop if it reported a clean
disconnect. -/
def afterConnection (state : ServerState) (id : Nat) : Option ServerState :=
  match state.phase with
  | .returned peer clean _ =>
      if peer.id = id then
        some ⟨clearSlots state.shared, if clean then .done else .selecting⟩
      else
        none
  | _ => none

/-- A delivered signal is polled: at the head of the loop unless the shell has
exited, or beside `handle_connection`, which is dropped. -/
def handleSignal (state : ServerState) : Option ServerState :=
  if state.shared.signalled then
    match state.phase with
    | .selecting =>
        if state.shared.watcher.shellExited then
          none
        else
          some { state with phase := .loggingOut }
    | .opening _ | .connected _ _ _ => some ⟨clearSlots state.shared, .loggingOut⟩
    | _ => none
  else
    none

/-- The reconnect window expires, or the endpoint is closed. -/
def stopAccepting (state : ServerState) : Option ServerState :=
  match state.phase with
  | .selecting =>
      if state.shared.watcher.shellExited then
        none
      else
        some { state with phase := .loggingOut }
  | _ => none

/-- The shell has exited and nobody connects within the second of grace. -/
def graceEnds (state : ServerState) : Option ServerState :=
  match state.phase with
  | .selecting =>
      if state.shared.watcher.shellExited then
        some { state with phase := .done }
      else
        none
  | _ => none

/-- The loop's own `record_logout` is called, and the loop is left. -/
def loopLogout (config : ServerConfig) (state : ServerState) : Option ServerState :=
  match state.phase with
  | .loggingOut => some ⟨state.shared.recordLogout config, .done⟩
  | _ => none

end ServerState

inductive LoopAction where
  | accept (peer : Peer)
  | refuse (id : Nat)
  | establish (id : Nat)
  | conclude (id : Nat)
  | advance (action : ConnAction)
  | afterConnection (id : Nat)
  | handleSignal
  | windowExpired
  | endpointClosed
  | graceEnds
  | loopLogout

def ServerState.loopStep (config : ServerConfig) (state : ServerState) :
    LoopAction → Option ServerState
  | .accept peer => state.accept peer
  | .refuse id => state.refuse id
  | .establish id => state.establish id
  | .conclude id => state.conclude config id
  | .advance action => state.advance config action
  | .afterConnection id => state.afterConnection id
  | .handleSignal => state.handleSignal
  | .windowExpired => state.stopAccepting
  | .endpointClosed => state.stopAccepting
  | .graceEnds => state.graceEnds
  | .loopLogout => state.loopLogout config

inductive ServerAction where
  | background (action : BackgroundAction)
  | loop (action : LoopAction)

def ServerState.step (config : ServerConfig) (state : ServerState) :
    ServerAction → Option ServerState
  | .background action =>
      (state.shared.step config action).map fun shared => { state with shared := shared }
  | .loop action => state.loopStep config action

/-! ## What each step of the loop can do -/

namespace ServerState

variable {config : ServerConfig} {state next : ServerState}

theorem accept_eq_some {peer : Peer} : state.accept peer = some next ↔
    state.phase = .selecting ∧ next = { state with phase := .handshaking peer } := by
  unfold accept
  split
  · rename_i selecting
    simp [selecting, @eq_comm _ next]
  · rename_i busy
    simpa using fun selecting => absurd selecting busy

theorem refuse_eq_some {id : Nat} : state.refuse id = some next ↔
    ∃ peer, state.phase = .handshaking peer ∧ peer.id = id ∧
      next = { state with phase := .selecting } := by
  unfold refuse
  split
  · rename_i peer handshaking
    simp [handshaking, @eq_comm _ next]
  · rename_i other
    simpa using fun peer handshaking => absurd handshaking (other peer)

theorem establish_eq_some {id : Nat} : state.establish id = some next ↔
    ∃ peer, state.phase = .handshaking peer ∧ peer.id = id ∧
      next = { state with phase := .opening peer } := by
  unfold establish
  split
  · rename_i peer handshaking
    simp [handshaking, @eq_comm _ next]
  · rename_i other
    simpa using fun peer handshaking => absurd handshaking (other peer)

theorem conclude_eq_some {id : Nat} : state.conclude config id = some next ↔
      ∃ peer, state.phase = .opening peer ∧ peer.id = id ∧
        ((∃ reason, authenticate config.credentials peer.opening = .error reason ∧
            next = leave state.shared peer false (some reason.closeReason)) ∨
          ∃ so, authenticate config.credentials peer.opening = .ok so ∧
            next = ⟨(ConnStage.enter config peer state.shared).1,
              .connected peer so (ConnStage.enter config peer state.shared).2⟩) := by
  unfold conclude
  split
  · rename_i peer waiting
    cases outcome : authenticate config.credentials peer.opening with
    | error reason => simp [waiting, outcome, @eq_comm _ next]
    | ok so => simp [waiting, outcome, @eq_comm _ next]
  · rename_i other
    simpa using fun peer waiting => absurd waiting (other peer)

theorem advance_eq_some {action : ConnAction} : state.advance config action = some next ↔
    ∃ peer so stage advanced, state.phase = .connected peer so stage ∧
      stage.step config peer so state.shared action = some advanced ∧
      next = follow peer so advanced.1 advanced.2 := by
  unfold advance
  split
  · rename_i peer so stage connected
    simp only [connected, LoopPhase.connected.injEq, Option.map_eq_some_iff]
    constructor
    · rintro ⟨advanced, stepped, rfl⟩
      exact ⟨peer, so, stage, advanced, ⟨rfl, rfl, rfl⟩, stepped, rfl⟩
    · rintro ⟨_, _, _, advanced, ⟨rfl, rfl, rfl⟩, stepped, rfl⟩
      exact ⟨advanced, stepped, rfl⟩
  · rename_i other
    apply iff_of_false (by simp)
    rintro ⟨peer, so, stage, advanced, connected, -⟩
    exact other peer so stage connected

theorem afterConnection_eq_some {id : Nat} : state.afterConnection id = some next ↔
    ∃ peer clean closeReason, state.phase = .returned peer clean closeReason ∧ peer.id = id ∧
      next = ⟨clearSlots state.shared, if clean then .done else .selecting⟩ := by
  unfold afterConnection
  split
  · rename_i peer clean closeReason returned
    simp only [returned, LoopPhase.returned.injEq, Option.ite_none_right_eq_some,
      Option.some.injEq]
    constructor
    · rintro ⟨same, rfl⟩
      exact ⟨peer, clean, closeReason, ⟨rfl, rfl, rfl⟩, same, rfl⟩
    · rintro ⟨_, _, _, ⟨rfl, rfl, rfl⟩, same, rfl⟩
      exact ⟨same, rfl⟩
  · rename_i other
    apply iff_of_false (by simp)
    rintro ⟨peer, clean, closeReason, returned, -⟩
    exact other peer clean closeReason returned

theorem handleSignal_eq_some : state.handleSignal = some next ↔
    state.shared.signalled = true ∧
      ((state.phase = .selecting ∧ state.shared.watcher.shellExited = false ∧
          next = { state with phase := .loggingOut }) ∨
        ((∃ peer, state.phase = .opening peer) ∨
            ∃ peer so stage, state.phase = .connected peer so stage) ∧
          next = ⟨clearSlots state.shared, .loggingOut⟩) := by
  unfold handleSignal
  cases phase : state.phase with
  | selecting =>
      cases state.shared.watcher.shellExited <;> simp [@eq_comm _ next]
  | opening peer => simp [@eq_comm _ next]
  | connected peer so stage => simp [@eq_comm _ next]
  | handshaking peer => simp
  | returned peer clean closeReason => simp
  | loggingOut => simp
  | done => simp

theorem stopAccepting_eq_some : state.stopAccepting = some next ↔
    state.phase = .selecting ∧ state.shared.watcher.shellExited = false ∧
      next = { state with phase := .loggingOut } := by
  unfold stopAccepting
  split
  · rename_i selecting
    simp [selecting, @eq_comm _ next]
  · rename_i busy
    simpa using fun selecting => absurd selecting busy

theorem graceEnds_eq_some : state.graceEnds = some next ↔
    state.phase = .selecting ∧ state.shared.watcher.shellExited = true ∧
      next = { state with phase := .done } := by
  unfold graceEnds
  split
  · rename_i selecting
    simp [selecting, @eq_comm _ next]
  · rename_i busy
    simpa using fun selecting => absurd selecting busy

theorem loopLogout_eq_some : state.loopLogout config = some next ↔
    state.phase = .loggingOut ∧ next = ⟨state.shared.recordLogout config, .done⟩ := by
  unfold loopLogout
  split
  · rename_i leaving
    simp [leaving, @eq_comm _ next]
  · rename_i other
    simpa using fun leaving => absurd leaving other

/-- A task beside the loop leaves the loop where it is. -/
theorem background_eq_some {action : BackgroundAction} :
    state.step config (.background action) = some next ↔
      ∃ shared, state.shared.step config action = some shared ∧
        next = { state with shared := shared } := by
  simp [step, @eq_comm _ next]

end ServerState

/-! ## What a step does to the login record -/

/-- The watcher and the login record are where they were. -/
structure SharedState.SameRecord (shared next : SharedState) : Prop where
  watcher : next.watcher = shared.watcher
  blockingLogin : next.blockingLogin = shared.blockingLogin
  utmp : next.utmp = shared.utmp

namespace SharedState

variable {config : ServerConfig} {shared next : SharedState}

theorem readPty_sameRecord {data : Payload} (stepped : shared.readPty data = some next) :
    shared.SameRecord next := by
  unfold readPty at stepped
  split at stepped
  · contradiction
  · cases stepped
    exact ⟨rfl, rfl, rfl⟩

theorem forwardPty_sameRecord (stepped : shared.forwardPty = some next) :
    shared.SameRecord next := by
  unfold forwardPty at stepped
  split at stepped
  · contradiction
  · rcases Option.map_eq_some_iff.mp stepped with ⟨slot, -, rfl⟩
    exact ⟨rfl, rfl, rfl⟩

theorem writePtyInput_sameRecord (stepped : shared.writePtyInput = some next) :
    shared.SameRecord next := by
  rcases Option.map_eq_some_iff.mp stepped with ⟨taken, -, rfl⟩
  exact ⟨rfl, rfl, rfl⟩

theorem notify_eq_some : shared.notify = some next ↔ shared.watcher = .waiting ∧
    ∃ slot, shared.outboundCtrlTx.send .disconnect = some slot ∧
      next = { shared with watcher := .notified, outboundCtrlTx := slot } := by
  unfold notify
  split
  · rename_i waiting
    simp [waiting, @eq_comm _ next]
  · rename_i other
    exact iff_of_false (by simp) fun notified => other notified.1

theorem raiseFlag_eq_some : shared.raiseFlag = some next ↔
    shared.watcher = .notified ∧ next = { shared with watcher := .flagged } := by
  unfold raiseFlag
  split
  · rename_i notified
    simp [notified, @eq_comm _ next]
  · rename_i other
    exact iff_of_false (by simp) fun flagged => other flagged.1

theorem watcherLogout_eq_some : shared.watcherLogout config = some next ↔
    shared.watcher = .flagged ∧
      next = { shared.recordLogout config with watcher := .finished } := by
  unfold watcherLogout
  split
  · rename_i flagged
    simp [flagged, @eq_comm _ next]
  · rename_i other
    exact iff_of_false (by simp) fun finished => other finished.1

theorem recordLogin_eq_some : shared.recordLogin config = some next ↔
    ∃ fd remoteAddr, config.masterFd = some fd ∧ shared.blockingLogin = some remoteAddr ∧
      next = { shared with
        blockingLogin := none
        utmp := shared.utmp ++ [.recordLogin fd remoteAddr] } := by
  unfold recordLogin
  split
  · rename_i fd remoteAddr available spawned
    simp [available, spawned, @eq_comm _ next]
  · rename_i other
    apply iff_of_false (by simp)
    rintro ⟨fd, remoteAddr, available, spawned, -⟩
    exact other fd remoteAddr available spawned

end SharedState

/-- Behind its login, `handle_connection` leaves the login record alone, and it
reports a clean disconnect only for a `Disconnect` of the client. -/
structure ConnStage.Frame (shared : SharedState) (action : ConnAction)
    (advanced : SharedState × Progress) : Prop where
  record : shared.SameRecord advanced.1
  clean : advanced.2 = .finish true → action = .readCtrl .disconnect

theorem ConnStage.frame_of_step {config : ServerConfig} {peer : Peer} {so : SessionOpen}
    {shared : SharedState} {stage : ConnStage} {action : ConnAction}
    {advanced : SharedState × Progress}
    (stepped : stage.step config peer so shared action = some advanced) :
    Frame shared action advanced := by
  cases action with
  | loginRecorded =>
      rcases loginRecorded_cases stepped with ⟨-, -, rfl⟩
      exact ⟨⟨rfl, rfl, rfl⟩, nofun⟩
  | storeCookie =>
      rcases storeCookie_cases stepped with ⟨-, ⟨-, rfl⟩ | ⟨-, rfl⟩⟩
      · exact ⟨⟨rfl, rfl, rfl⟩, nofun⟩
      · exact ⟨⟨rfl, rfl, rfl⟩, nofun⟩
  | collectReplays =>
      rcases collectReplays_cases stepped with ⟨-, session, -, rfl⟩
      exact ⟨⟨rfl, rfl, rfl⟩, nofun⟩
  | writeAccept succeeded =>
      rcases writeAccept_cases stepped with ⟨serverLast, replays, -, ⟨-, rfl⟩ | ⟨-, rfl⟩⟩
      · exact ⟨⟨rfl, rfl, rfl⟩, nofun⟩
      · exact ⟨⟨rfl, rfl, rfl⟩, nofun⟩
  | activate =>
      rcases activate_cases stepped with ⟨replays, -, rfl⟩
      exact ⟨⟨rfl, rfl, rfl⟩, nofun⟩
  | startListener =>
      rcases startListener_cases stepped with
        ⟨text, rest, replays, -, ⟨-, rfl⟩ | ⟨spec, -, -, rfl⟩⟩ | ⟨replays, -, rfl⟩
      · exact ⟨⟨rfl, rfl, rfl⟩, nofun⟩
      · exact ⟨⟨rfl, rfl, rfl⟩, nofun⟩
      · exact ⟨⟨rfl, rfl, rfl⟩, nofun⟩
  | publishPty =>
      rcases publishPty_cases stepped with ⟨replays, -, rfl⟩
      exact ⟨⟨rfl, rfl, rfl⟩, nofun⟩
  | publishCtrl =>
      rcases publishCtrl_cases stepped with ⟨replays, -, rfl⟩
      exact ⟨⟨rfl, rfl, rfl⟩, nofun⟩
  | checkFlag =>
      rcases checkFlag_cases stepped with ⟨replays, -, ⟨-, rfl⟩ | ⟨-, rfl⟩⟩
      · exact ⟨⟨rfl, rfl, rfl⟩, nofun⟩
      · exact ⟨⟨rfl, rfl, rfl⟩, nofun⟩
  | queueReplay =>
      rcases queueReplay_cases stepped with ⟨entry, rest, -, rfl⟩ | ⟨-, rfl⟩
      · exact ⟨⟨rfl, rfl, rfl⟩, nofun⟩
      · exact ⟨⟨rfl, rfl, rfl⟩, nofun⟩
  | startServing =>
      rcases startServing_cases stepped with ⟨-, rfl⟩
      exact ⟨⟨rfl, rfl, rfl⟩, nofun⟩
  | writePty =>
      rcases writePty_cases stepped with ⟨input, chunk, slot, -, -, rfl⟩
      exact ⟨⟨rfl, rfl, rfl⟩, nofun⟩
  | readInput chunk =>
      rcases readInput_cases stepped with ⟨-, rfl⟩
      exact ⟨⟨rfl, rfl, rfl⟩, nofun⟩
  | markInput =>
      rcases markInput_cases stepped with ⟨chunk, -, rfl⟩
      exact ⟨⟨rfl, rfl, rfl⟩, nofun⟩
  | enqueueInput =>
      rcases enqueueInput_cases stepped with ⟨chunk, -, ⟨-, queue, -, rfl⟩ | ⟨-, rfl⟩⟩
      · exact ⟨⟨rfl, rfl, rfl⟩, nofun⟩
      · exact ⟨⟨rfl, rfl, rfl⟩, nofun⟩
  | readCtrl envelope =>
      rcases readCtrl_cases stepped with
        ⟨input, -, ⟨rfl, rfl⟩ | ⟨-, rfl⟩ | ⟨rows, cols, -, rfl⟩ | ⟨lastReceivedSeq, -, rfl⟩⟩
      · exact ⟨⟨rfl, rfl, rfl⟩, fun _ => rfl⟩
      · exact ⟨⟨rfl, rfl, rfl⟩, nofun⟩
      · exact ⟨⟨rfl, rfl, rfl⟩, nofun⟩
      · exact ⟨⟨rfl, rfl, rfl⟩, nofun⟩
  | sendHeartbeat =>
      rcases sendHeartbeat_cases stepped with ⟨input, slot, -, -, rfl⟩
      exact ⟨⟨rfl, rfl, rfl⟩, nofun⟩
  | writeCtrl =>
      rcases writeCtrl_cases stepped with ⟨input, envelope, slot, -, -, left, -, rfl⟩
      exact ⟨⟨rfl, rfl, rfl⟩, nofun⟩
  | endTask =>
      rcases endTask_cases stepped with ⟨-, rfl⟩
      exact ⟨⟨rfl, rfl, rfl⟩, nofun⟩

/-! ## A client and a stray peer -/

namespace ServerState

/-- A client with the session's credentials. -/
def clientPeer : Peer :=
  ⟨1, "192.0.2.1", .opened ⟨[1, 0, 0, 0, 8, 82, 6, 10, 1, 1, 18, 1, 107], none⟩⟩

/-- The client connects and is logged in. -/
def connect : List ServerAction :=
  [.loop (.accept clientPeer), .loop (.establish 1), .loop (.conclude 1),
    .background .recordLogin, .loop (.advance .loginRecorded), .loop (.advance .storeCookie),
    .loop (.advance .collectReplays), .loop (.advance (.writeAccept true)),
    .loop (.advance .activate), .loop (.advance .startListener), .loop (.advance .publishPty),
    .loop (.advance .publishCtrl), .loop (.advance .checkFlag), .loop (.advance .queueReplay),
    .loop (.advance .startServing)]

/-- A peer whose first stream is tagged as a PTY stream. -/
def strayPeer : Peer := ⟨7, "192.0.2.7", .opened ⟨[tagPty], none⟩⟩

theorem strayPeer_fails : strayPeer.opening.Fails ServerConfig.sample.credentials := by
  rintro so ⟨body, tagged, -⟩
  cases tagged

end ServerState

end Etr.Server
