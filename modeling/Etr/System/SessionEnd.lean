import Etr.Client.ConnectionLoop
import Etr.Server.AcceptLoop

/-!
Contract: how a client that gives its session up and the server agree that the
session is over.

Owns the composition of `run_connection_loop`, with every way it ends, with the
control streams of its connections and the server's reconnect loop. Each step
of a session is a step of the client's own system, each step of the server one
of the accept loop's.

Does not own what the server sends; a run says what the client reads.
-/

namespace Etr.System

open Etr.Library Etr.Session Etr.Client Etr.Server

/-- What makes the heartbeat and resize writer of a session write. -/
inductive CtrlSendEvent where
  /-- The size at the start of the session, or a window change. -/
  | size (rows cols : UInt32)
  | heartbeatTick
deriving DecidableEq, Repr

/-- The envelope `ctrl_send_task` writes. -/
def ctrlSendEnvelope (session : SessionState) : CtrlSendEvent → ClientEnvelope
  | .size rows cols => .terminalResize rows cols
  | .heartbeatTick => .heartbeat session.lastReceivedMap

/-- How the client process ended. -/
inductive ClientEnding where
  /-- `~.` while it waited to reconnect or for a connection. -/
  | escapedOffline
  /-- `~.` during a session. -/
  | escapedInSession
  /-- A remote command's connection could not be made. -/
  | connectFailed
  /-- An interactive session without a terminal. -/
  | noTerminal
  /-- `run_session` returned, through the completion its `select!` took. -/
  | sessionOver (taken : Option (SessionTask × Sighting))
deriving DecidableEq, Repr

/-- Where `run_connection_loop` is. -/
inductive ClientLoop where
  /-- In the delay before it reconnects. -/
  | delaying
  | connecting
  | inSession (connection : Nat) (session : SessionRun)
      (taken : Option (SessionTask × Sighting))
  | exited (ending : ClientEnding) (code : Nat) (connectionUp : Bool)

structure EndState where
  hasRemoteCommand : Bool
  /-- The session state between connections. -/
  session : SessionState
  client : ClientLoop
  /-- The QUIC connection of the client is up. -/
  connectionUp : Bool
  /-- Envelopes on the control streams the server has not read, with their
  connection, oldest first. -/
  controlStream : List (Nat × ClientEnvelope)
  /-- History variable: every envelope the client wrote behind a `SessionOpen`. -/
  clientSent : List ClientEnvelope
  server : ServerState

namespace EndState

/-- The client makes its first connection attempt. -/
def init (config : ServerConfig) (session : SessionState) (hasRemoteCommand : Bool) :
    EndState where
  hasRemoteCommand := hasRemoteCommand
  session := session
  client := .connecting
  connectionUp := false
  controlStream := []
  clientSent := []
  server := ServerState.init config

/-! ## Steps of the client -/

/-- The delay of two seconds is over. -/
def delayOver (state : EndState) : Option EndState :=
  match state.client with
  | .delaying => some { state with client := .connecting }
  | _ => none

/-- The connection cannot be made: a remote command gives up, an interactive
session tries again. -/
def connectFails (state : EndState) : Option EndState :=
  match state.client with
  | .connecting =>
      if state.hasRemoteCommand then
        some { state with client := .exited .connectFailed 1 false }
      else
        some { state with client := .delaying }
  | _ => none

/-- The connection is made and, if there is a terminal, raw mode entered. -/
def connected (state : EndState) (connection : Nat) (hasTerminal : Bool) : Option EndState :=
  match state.client with
  | .connecting =>
      if hasTerminal || state.hasRemoteCommand then
        some { state with
          client := .inSession connection
            (SessionRun.init state.session state.hasRemoteCommand) none
          connectionUp := true }
      else
        some { state with client := .exited .noTerminal 1 true }
  | _ => none

/-- A step of `run_session` other than a control write or its `select!`. -/
def sessionStep (decode : List UInt8 → Option ServerEnvelope) (state : EndState)
    (action : SessionAction) : Option EndState :=
  match state.client, action with
  | .inSession _ _ _, .ctrlWrite _ | .inSession _ _ _, .select _ => none
  | .inSession connection session taken, action =>
      (session.step decode action).map fun session =>
        { state with client := .inSession connection session taken }
  | _, _ => none

/-- `ctrl_send_task` writes an envelope. -/
def sendCtrl (state : EndState) (event : CtrlSendEvent) (succeeded : Bool) : Option EndState :=
  match state.client with
  | .inSession connection session taken =>
      (session.ctrlWrite succeeded).map fun next =>
        if succeeded then
          let envelope := ctrlSendEnvelope session.session event
          { state with
            client := .inSession connection next taken
            controlStream := state.controlStream ++ [(connection, envelope)]
            clientSent := state.clientSent ++ [envelope] }
        else
          { state with client := .inSession connection next taken }
  | _ => none

/-- The `select!` of `run_session` takes a completed task. -/
def select (state : EndState) (task : SessionTask) : Option EndState :=
  match state.client with
  | .inSession connection session _ =>
      match session.saw task with
      | some sighting =>
          (session.select task).map fun next =>
            { state with client := .inSession connection next (some (task, sighting)) }
      | none => none
  | _ => none

/-- `run_session` has returned: exit, or reconnect. -/
def leaveSession (state : EndState) : Option EndState :=
  match state.client with
  | .inSession _ session taken =>
      match session.stage with
      | .returned result =>
          match afterSession state.hasRemoteCommand result with
          | .exit code =>
              some { state with
                client := .exited (.sessionOver taken) code state.connectionUp }
          | .reconnect =>
              some { state with
                session := session.session
                client := .delaying
                connectionUp := false }
      | _ => none
  | _ => none

/-- The user types `~.`: all three places that poll the escape leave for good. -/
def escape (state : EndState) : Option EndState :=
  match state.client with
  | .delaying | .connecting => some { state with client := .exited .escapedOffline 0 false }
  | .inSession _ _ _ =>
      some { state with client := .exited .escapedInSession 0 state.connectionUp }
  | .exited _ _ _ => none

/-- The network loses the connection. -/
def loseConnection (state : EndState) : Option EndState :=
  some { state with connectionUp := false }

/-! ## Steps of the server -/

/-- The control reader of the server takes the oldest envelope of its
connection. -/
def readCtrl (config : ServerConfig) (state : EndState) : Option EndState :=
  match state.server.phase with
  | .connected peer _ _ =>
      match state.controlStream.find? fun sent => sent.1 == peer.id with
      | some (_, envelope) =>
          (state.server.step config (.loop (.advance (.readCtrl envelope)))).map fun server =>
            { state with
              controlStream := state.controlStream.eraseP fun sent => sent.1 == peer.id
              server := server }
      | none => none
  | _ => none

/-- Any other step of the server. -/
def serverStep (config : ServerConfig) (state : EndState) (action : ServerAction) :
    Option EndState :=
  match action with
  | .loop (.advance (.readCtrl _)) => none
  | action => (state.server.step config action).map fun server => { state with server := server }

end EndState

inductive EndAction where
  | delayOver
  | connectFails
  | connected (connection : Nat) (hasTerminal : Bool)
  | session (action : SessionAction)
  | sendCtrl (event : CtrlSendEvent) (succeeded : Bool)
  | select (task : SessionTask)
  | leaveSession
  | escape
  | loseConnection
  | readCtrl
  | server (action : ServerAction)

def EndState.step (decode : List UInt8 → Option ServerEnvelope) (config : ServerConfig)
    (state : EndState) : EndAction → Option EndState
  | .delayOver => state.delayOver
  | .connectFails => state.connectFails
  | .connected connection hasTerminal => state.connected connection hasTerminal
  | .session action => state.sessionStep decode action
  | .sendCtrl event succeeded => state.sendCtrl event succeeded
  | .select task => state.select task
  | .leaveSession => state.leaveSession
  | .escape => state.escape
  | .loseConnection => state.loseConnection
  | .readCtrl => state.readCtrl config
  | .server action => state.serverStep config action

namespace EndState

variable {decode : List UInt8 → Option ServerEnvelope} {config : ServerConfig}
  {session : SessionState} {hasRemoteCommand : Bool} {state next final : EndState}
  {actions : List EndAction}

/-- The client gave the session up for good while its connection was up: by `~.`
during the session, or at the end of stdin. -/
def GaveUp (state : EndState) : Prop :=
  ∃ code, state.client = .exited .escapedInSession code true ∨
    state.client = .exited (.sessionOver (some (.stdin, .stdinEnded))) code true

/-- A client that gave the session up has told the server so. -/
def EndAgreed (state : EndState) : Prop :=
  state.GaveUp → .disconnect ∈ state.clientSent

/-- The server's `handle_connection` does not report a clean disconnect. -/
def ServerUntold (state : EndState) : Prop :=
  ∀ peer closeReason, state.server.phase ≠ .returned peer true closeReason

/-- What every run keeps: there is no `Disconnect` on its way. -/
structure Silent (state : EndState) : Prop where
  sent : .disconnect ∉ state.clientSent
  inFlight : ∀ sent ∈ state.controlStream, sent.2 ≠ .disconnect
  untold : state.ServerUntold

/-! ## What each step can do -/

/-- Only a `Disconnect` from the client ends a connection cleanly. -/
theorem untold_of_step {server after : ServerState} {action : ServerAction}
    (untold : ∀ peer closeReason, server.phase ≠ .returned peer true closeReason)
    (other : action ≠ .loop (.advance (.readCtrl .disconnect)))
    (stepped : server.step config action = some after) :
    ∀ peer closeReason, after.phase ≠ .returned peer true closeReason := by
  cases action with
  | background action =>
      obtain ⟨shared, -, rfl⟩ := ServerState.background_eq_some.mp stepped
      exact untold
  | loop action =>
      cases action with
      | accept peer =>
          obtain ⟨-, rfl⟩ := ServerState.accept_eq_some.mp stepped
          simp
      | refuse id =>
          obtain ⟨peer, -, -, rfl⟩ := ServerState.refuse_eq_some.mp stepped
          simp
      | establish id =>
          obtain ⟨peer, -, -, rfl⟩ := ServerState.establish_eq_some.mp stepped
          simp
      | conclude id =>
          obtain ⟨peer, -, -, ⟨reason, -, rfl⟩ | ⟨so, -, rfl⟩⟩ :=
            ServerState.conclude_eq_some.mp stepped
          · simp [ServerState.leave]
          · simp
      | advance action =>
          obtain ⟨peer, so, stage, ⟨shared, progress⟩, -, moved, rfl⟩ :=
            ServerState.advance_eq_some.mp stepped
          cases progress with
          | proceed stage' => simp [ServerState.follow]
          | finish clean =>
              have unclean : clean = false := by
                apply Bool.eq_false_iff.mpr
                rintro rfl
                exact other (by rw [(ConnStage.frame_of_step moved).clean rfl])
              simp [ServerState.follow, ServerState.leave, unclean]
      | afterConnection id =>
          obtain ⟨peer, clean, closeReason, -, -, rfl⟩ :=
            ServerState.afterConnection_eq_some.mp stepped
          cases clean <;> simp
      | handleSignal =>
          obtain ⟨-, ⟨-, -, rfl⟩ | ⟨-, rfl⟩⟩ := ServerState.handleSignal_eq_some.mp stepped
          all_goals simp
      | windowExpired =>
          obtain ⟨-, -, rfl⟩ := ServerState.stopAccepting_eq_some.mp stepped
          simp
      | endpointClosed =>
          obtain ⟨-, -, rfl⟩ := ServerState.stopAccepting_eq_some.mp stepped
          simp
      | graceEnds =>
          obtain ⟨-, -, rfl⟩ := ServerState.graceEnds_eq_some.mp stepped
          simp
      | loopLogout =>
          obtain ⟨-, rfl⟩ := ServerState.loopLogout_eq_some.mp stepped
          simp

theorem ctrlSendEnvelope_ne_disconnect (session : SessionState) (event : CtrlSendEvent) :
    ctrlSendEnvelope session event ≠ .disconnect := by
  cases event <;> simp [ctrlSendEnvelope]

/-- A step that touches neither the control streams nor the server. -/
structure Local (state next : EndState) : Prop where
  sent : next.clientSent = state.clientSent
  inFlight : next.controlStream = state.controlStream
  server : next.server = state.server

theorem Silent.of_local (silent : state.Silent) (moved : state.Local next) : next.Silent where
  sent := by
    rw [moved.sent]
    exact silent.sent
  inFlight := by
    rw [moved.inFlight]
    exact silent.inFlight
  untold := by
    rw [ServerUntold, moved.server]
    exact silent.untold

theorem sendCtrl_cases {event : CtrlSendEvent} {succeeded : Bool}
    (stepped : state.sendCtrl event succeeded = some next) : state.Local next ∨
      ∃ connection envelope, envelope ≠ .disconnect ∧
        next.clientSent = state.clientSent ++ [envelope] ∧
        next.controlStream = state.controlStream ++ [(connection, envelope)] ∧
        next.server = state.server := by
  unfold sendCtrl at stepped
  split at stepped
  · rename_i connection session taken _
    rcases Option.map_eq_some_iff.mp stepped with ⟨written, -, rfl⟩
    cases succeeded with
    | false => exact Or.inl ⟨rfl, rfl, rfl⟩
    | true =>
        exact Or.inr ⟨connection, _, ctrlSendEnvelope_ne_disconnect session.session event,
          rfl, rfl, rfl⟩
  · contradiction

theorem readCtrl_cases (stepped : state.readCtrl config = some next) :
    ∃ sent server, sent ∈ state.controlStream ∧
      state.server.step config (.loop (.advance (.readCtrl sent.2))) = some server ∧
      (∀ later ∈ next.controlStream, later ∈ state.controlStream) ∧
      next.clientSent = state.clientSent ∧ next.server = server := by
  unfold readCtrl at stepped
  split at stepped
  · split at stepped
    · rename_i connection envelope found
      rcases Option.map_eq_some_iff.mp stepped with ⟨server, moved, rfl⟩
      exact ⟨(connection, envelope), server, List.mem_of_find?_eq_some found, moved,
        fun later member => List.mem_of_mem_eraseP member, rfl, rfl⟩
    · contradiction
  · contradiction

theorem delayOver_local (stepped : state.delayOver = some next) : state.Local next := by
  unfold delayOver at stepped
  split at stepped
  · cases stepped
    exact ⟨rfl, rfl, rfl⟩
  · contradiction

theorem connectFails_local (stepped : state.connectFails = some next) : state.Local next := by
  unfold connectFails at stepped
  split at stepped
  · split at stepped
    all_goals
      cases stepped
      exact ⟨rfl, rfl, rfl⟩
  · contradiction

theorem connected_local {connection : Nat} {hasTerminal : Bool}
    (stepped : state.connected connection hasTerminal = some next) : state.Local next := by
  unfold connected at stepped
  split at stepped
  · split at stepped
    all_goals
      cases stepped
      exact ⟨rfl, rfl, rfl⟩
  · contradiction

theorem sessionStep_local {action : SessionAction}
    (stepped : state.sessionStep decode action = some next) : state.Local next := by
  unfold sessionStep at stepped
  split at stepped
  · contradiction
  · contradiction
  · rcases Option.map_eq_some_iff.mp stepped with ⟨session, -, rfl⟩
    exact ⟨rfl, rfl, rfl⟩
  · contradiction

theorem select_local {task : SessionTask} (stepped : state.select task = some next) :
    state.Local next := by
  unfold select at stepped
  split at stepped
  · split at stepped
    · rcases Option.map_eq_some_iff.mp stepped with ⟨session, -, rfl⟩
      exact ⟨rfl, rfl, rfl⟩
    · contradiction
  · contradiction

theorem leaveSession_local (stepped : state.leaveSession = some next) : state.Local next := by
  unfold leaveSession at stepped
  split at stepped
  · split at stepped
    · split at stepped
      all_goals
        cases stepped
        exact ⟨rfl, rfl, rfl⟩
    · contradiction
  · contradiction

theorem escape_local (stepped : state.escape = some next) : state.Local next := by
  unfold escape at stepped
  split at stepped
  · cases stepped
    exact ⟨rfl, rfl, rfl⟩
  · cases stepped
    exact ⟨rfl, rfl, rfl⟩
  · cases stepped
    exact ⟨rfl, rfl, rfl⟩
  · contradiction

/-! ## No run says goodbye -/

theorem silent_init : (init config session hasRemoteCommand).Silent where
  sent := by simp [init]
  inFlight := by simp [init]
  untold := by simp [ServerUntold, init, ServerState.init]

theorem Silent.step {action : EndAction} (silent : state.Silent)
    (stepped : state.step decode config action = some next) : next.Silent := by
  cases action with
  | delayOver => exact silent.of_local (delayOver_local stepped)
  | connectFails => exact silent.of_local (connectFails_local stepped)
  | connected connection hasTerminal => exact silent.of_local (connected_local stepped)
  | session action => exact silent.of_local (sessionStep_local stepped)
  | select task => exact silent.of_local (select_local stepped)
  | leaveSession => exact silent.of_local (leaveSession_local stepped)
  | escape => exact silent.of_local (escape_local stepped)
  | loseConnection =>
      cases stepped
      exact ⟨silent.sent, silent.inFlight, silent.untold⟩
  | sendCtrl event succeeded =>
      rcases sendCtrl_cases stepped with
        moved | ⟨connection, envelope, other, sent, inFlight, server⟩
      · exact silent.of_local moved
      · refine ⟨?_, ?_, ?_⟩
        · rw [sent, List.mem_append, List.mem_singleton, not_or]
          exact ⟨silent.sent, other.symm⟩
        · rw [inFlight, List.forall_mem_append]
          exact ⟨silent.inFlight, by simpa using other⟩
        · rw [ServerUntold, server]
          exact silent.untold
  | readCtrl =>
      obtain ⟨sent, server, member, moved, remaining, same, after⟩ := readCtrl_cases stepped
      have other := silent.inFlight sent member
      refine ⟨?_, fun later kept => silent.inFlight later (remaining later kept), ?_⟩
      · rw [same]
        exact silent.sent
      · rw [ServerUntold, after]
        exact untold_of_step silent.untold (by simpa using other) moved
  | server action =>
      simp only [EndState.step, serverStep] at stepped
      split at stepped
      · contradiction
      · rename_i other
        rcases Option.map_eq_some_iff.mp stepped with ⟨server, moved, rfl⟩
        exact ⟨silent.sent, silent.inFlight, untold_of_step silent.untold (other .disconnect) moved⟩

/-- **In no run does a client that gives the session up say so: it never sends
`Disconnect`, and the server never takes a connection to have ended cleanly.** -/
theorem session_end_never_agreed
    (executed : run (step decode config) (init config session hasRemoteCommand) actions =
      some final) :
    (final.EndAgreed ↔ ¬ final.GaveUp) ∧
      Throughout (step decode config) ServerUntold (init config session hasRemoteCommand)
        actions := by
  have unconditional : Along (step decode config) (fun _ _ => True)
      (init config session hasRemoteCommand) actions := along_of_forall fun _ _ => trivial
  constructor
  · have silent := run_invariant Silent.step silent_init executed
    constructor
    · intro agreed gaveUp
      exact silent.sent (agreed gaveUp)
    · intro stayed gaveUp
      exact absurd gaveUp stayed
  · exact throughout_of_along (fun silent _ stepped => Silent.step silent stepped)
      Silent.untold silent_init unconditional

/-! ## A session that is given up -/

/-- The client connects, opens its session and sends the size of its terminal. -/
def openSession : List EndAction :=
  .connected 1 true :: SessionRun.establish.map .session ++ [.sendCtrl (.size 24 80) true]

/-- The server serves it and reads the size. -/
def serveSession : List EndAction :=
  ServerState.connect.map .server ++ [.readCtrl]

/-- The server loses the client. -/
def loseClient : List EndAction :=
  [.server (.loop (.advance .endTask)), .server (.loop (.afterConnection 1))]

set_option maxRecDepth 2000 in
/-- The user types `~.`, and the server is back at the head of its loop with the
shell still running. -/
theorem escape_leaves_server_waiting :
    ∃ final,
      run (step SessionRun.acceptOnly .sample)
        (init .sample (SessionState.new [] "") false)
        (openSession ++ serveSession ++ [.escape] ++ loseClient) = some final ∧
      final.GaveUp ∧ ¬ final.EndAgreed ∧
      final.server.phase = .selecting ∧ final.server.shared.watcher = .waiting := by
  refine ⟨_, rfl, ⟨0, Or.inl rfl⟩, ?_, rfl, rfl⟩
  intro agreed
  have sent : .disconnect ∈ [ClientEnvelope.terminalResize 24 80] := agreed ⟨0, Or.inl rfl⟩
  simp at sent

/-- Stdin ends, and the session with it. -/
def endStdin : List EndAction :=
  [.session .stdinEof, .select .stdin, .leaveSession]

set_option maxRecDepth 2000 in
theorem stdin_end_never_agreed :
    ∃ final,
      run (step SessionRun.acceptOnly .sample)
        (init .sample (SessionState.new [] "") false)
        (openSession ++ serveSession ++ endStdin) = some final ∧
      final.GaveUp ∧ ¬ final.EndAgreed := by
  have executed : ∃ final,
      run (step SessionRun.acceptOnly .sample) (init .sample (SessionState.new [] "") false)
        (openSession ++ serveSession ++ endStdin) = some final ∧ final.GaveUp :=
    ⟨_, rfl, ⟨0, Or.inr rfl⟩⟩
  rcases executed with ⟨final, executed, gaveUp⟩
  have agreed := (session_end_never_agreed executed).1
  exact ⟨final, executed, gaveUp, fun told => agreed.mp told gaveUp⟩

end EndState

end Etr.System
