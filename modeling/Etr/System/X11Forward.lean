import Etr.Library.Spawning
import Etr.Server.X11Slots
import Etr.System.StreamDelivery
import Etr.X11.Display
import Etr.X11.Gate

/-!
Contract: X11 applications, and the X server they are shown on.

Owns the task the server spawns for every connection to its display, from the
slots it reads to the forwarded stream, beside the accept loop; the socket the
client connects to; and what reaches the X server.

Does not own the sockets of the display, or how the cookies are made.
-/

namespace Etr.System

open Etr.Library Etr.Protocol Etr.Wire Etr.Server Etr.Forward Etr.X11
open Etr.Bootstrap (Text)

/-! ## The client -/

inductive X11Socket where
  | unix (path : Text)
  | tcp (addr : Text)
deriving DecidableEq, Repr

/-- What `connect_local_x11` connects to. -/
def connectLocalX11 (build : Build) (displayStr : Text) : Except LookupFault X11Socket :=
  (X11Display.parse build displayStr).map fun
    | .unix n => .unix ("/tmp/.X11-unix/X".toList ++ (toString n.toNat).toList)
    | .path p => .unix p
    | .tcp host port => .tcp (host ++ ':' :: (toString port.toNat).toList)

def X11Socket.stream : X11Socket → X11Stream
  | .unix _ => .unix
  | .tcp _ => .tcp

/-- The settings of a client, and its `DISPLAY`. -/
structure X11Client where
  x11Enabled : Bool
  reverseSpecs : List ForwardSpec
  display : Option Text
  build : Build

/-- The socket of the client's X server, unless the stream is rejected for want
of one. -/
def X11Client.socket (client : X11Client) : Option X11Socket :=
  client.display.bind fun display => (connectLocalX11 client.build display).toOption

theorem x11Header_fits (order : MapOrder) :
    (envelopeFrames order).Fits (UdpStream.headerEnvelope x11Header) := by
  have encoded : Envelope.encode order (UdpStream.headerEnvelope x11Header) =
      [26, 2, 16, 2] := rfl
  show (Envelope.encode order _).length ≤ maxMessageBytes
  rw [encoded]
  decide

/-- A session with an X11 display, and the clients by their connections. -/
structure X11Config where
  server : ServerConfig
  fakeCookie : List UInt8
  client : Nat → X11Client
  order : MapOrder

/-- The stream of an application to the X server of a client. -/
def X11Config.streamConfig (config : X11Config) (peer : Peer) (setupBlock : List UInt8) :
    StreamConfig where
  forwarded := .x11 setupBlock (((config.client peer.id).socket.map X11Socket.stream).getD .unix)
  x11Enabled := (config.client peer.id).x11Enabled
  reverseSpecs := (config.client peer.id).reverseSpecs
  order := config.order
  headerFits := x11Header_fits config.order

/-! ## The task of an application -/

/-- How far the server is with a connection that is not forwarded. -/
inductive AppStage where
  | accepted
  /-- `active_conn` was read. -/
  | routed (conn : Option Peer)
  /-- `x11_real_cookie` was read; in `process_x11_setup`. -/
  | checking (peer : Peer) (realCookie : List UInt8)
  | dropped

/-- An application connected to the display. -/
inductive App where
  /-- `sent` is a history variable. -/
  | waiting (stage : AppStage) (sent : List UInt8) (socket : ByteStream)
  /-- In `forward_x11_connection`, behind the bytes the gate took. -/
  | forwarding (peer : Peer) (taken setupBlock : List UInt8) (stream : StreamState)

inductive AppAction where
  | takeConn
  | takeCookie
  /-- `process_x11_setup` returns, and `open_bi` behind it. -/
  | check (opens : Bool)
  | stream (action : StreamAction)

/-- A stream whose opener finds this in front of its relay. -/
def StreamState.openedBehind (config : StreamConfig) (source : ByteStream) : StreamState :=
  (opened config).setLane .near
    { (opened config).tunnel.lane .near with sent := source.bytes, source := source }

namespace App

variable (config : X11Config)

/-- The application itself, in front of the stream. -/
def endpoint (stage : AppStage) (sent : List UInt8) (socket : ByteStream) :
    StreamAction → Option App
  | .send .near data =>
      match socket.finished with
      | false => some (.waiting stage (sent ++ data) ⟨socket.bytes ++ data, false⟩)
      | true => none
  | .halfClose .near => some (.waiting stage sent { socket with finished := true })
  | .reset .near => some (.waiting stage sent ⟨[], true⟩)
  | _ => none

def takeCookie (shared : SharedState) (conn : Option Peer) (sent : List UInt8)
    (socket : ByteStream) : App :=
  match conn, shared.x11RealCookie with
  | some peer, some realCookie => .waiting (.checking peer realCookie) sent socket
  | _, _ => .waiting .dropped sent socket

/-- The gate waits while the request is incomplete. -/
def check (peer : Peer) (realCookie sent : List UInt8) (socket : ByteStream) (opens : Bool) :
    Option App :=
  match processX11Setup ⟨socket.bytes, .finished⟩ config.fakeCookie realCookie with
  | .ok (rest, setupBlock) =>
      if opens then
        some (.forwarding peer
          (socket.bytes.take (socket.bytes.length - rest.bytes.length)) setupBlock
          (.openedBehind (config.streamConfig peer setupBlock) ⟨rest.bytes, socket.finished⟩))
      else
        some (.waiting .dropped sent socket)
  | .error (.read _) => if socket.finished then some (.waiting .dropped sent socket) else none
  | .error _ => some (.waiting .dropped sent socket)

/-- Without a socket to connect to, the client rejects the stream. -/
def allows (peer : Peer) : StreamAction → Bool
  | .connect => (config.client peer.id).socket.isSome
  | _ => true

def act (server : ServerState) : App → AppAction → Option App
  | .waiting .accepted sent socket, .takeConn =>
      some (.waiting (.routed server.shared.activeConn) sent socket)
  | .waiting (.routed conn) sent socket, .takeCookie =>
      some (takeCookie server.shared conn sent socket)
  | .waiting (.checking peer realCookie) sent socket, .check opens =>
      check config peer realCookie sent socket opens
  | .waiting stage sent socket, .stream action => endpoint stage sent socket action
  | .forwarding peer taken setupBlock stream, .stream action =>
      if allows config peer action then
        (stream.step (config.streamConfig peer setupBlock) action).map
          (.forwarding peer taken setupBlock)
      else
        none
  | _, _ => none

end App

namespace X11Config

/-- The accept loop, and the tasks of the applications beside it. -/
def program (config : X11Config) : TaskProgram ServerState App ServerAction AppAction where
  move := ServerState.step config.server
  spawned := .waiting .accepted [] ⟨[], false⟩
  act := App.act config

def start (config : X11Config) : Crew ServerState App :=
  .alone (.init config.server)

def step (config : X11Config) :
    Crew ServerState App → CrewAction ServerAction AppAction → Option (Crew ServerState App) :=
  Crew.step config.program

end X11Config

/-! ## Streams that are opened behind a request -/

namespace StreamState

variable {config : StreamConfig} {state next : StreamState}

/-- Only a connection attempt gets the far side to its relay. -/
theorem relaying_of_step {action : StreamAction} {target : Target} (sound : state.Sound config)
    (stepped : step config state action = some next) (relaying : next.stage = .relaying target) :
    action = .connect ∨ state.stage = .relaying target := by
  cases action with
  | connect => exact Or.inl rfl
  | send side data =>
      obtain ⟨-, -, rfl⟩ := send_cases stepped
      exact Or.inr relaying
  | halfClose side =>
      obtain ⟨-, rfl⟩ := halfClose_cases stepped
      exact Or.inr relaying
  | reset side =>
      obtain ⟨-, rfl⟩ := reset_cases stepped
      exact Or.inr relaying
  | announce count =>
      obtain ⟨-, rfl⟩ := announce_cases stepped
      exact Or.inr relaying
  | stopAnnouncing =>
      obtain ⟨-, rfl⟩ := stopAnnouncing_cases stepped
      exact Or.inr relaying
  | header =>
      obtain ⟨-, -, rest, -, outcome⟩ := sound.readHeader_cases stepped
      split at outcome
      · rw [outcome] at relaying
        contradiction
      · rw [outcome] at relaying
        contradiction
  | abandon =>
      rw [abandon_cases stepped] at relaying
      exact Or.inr relaying
  | relay side action =>
      obtain ⟨-, -, relayed, -, rfl⟩ := relay_eq_some stepped
      exact Or.inr relaying
  | refuseBytes side =>
      obtain ⟨-, rfl⟩ := refuseBytes_cases stepped
      exact Or.inr relaying
  | lose kept =>
      obtain rfl := lose_cases stepped
      exact Or.inr relaying

theorem setLane_setLane (state : StreamState) (side : Side) (first second : Lane) :
    (state.setLane side first).setLane side second = state.setLane side second := by
  have same : ((state.tunnel.setLane side first).setLane side second) =
      state.tunnel.setLane side second := by
    simp only [TunnelState.setLane, TunnelState.mk.injEq, and_true]
    funext other
    split
    · rfl
    · rfl
  rw [setLane, setLane, setLane]
  exact congrArg (fun tunnel => { state with tunnel }) same

theorem sound_openedBehind (config : StreamConfig) (source : ByteStream) :
    (openedBehind config source).Sound config := by
  have sent : step config (opened config) (.send .near source.bytes) =
      some (openedBehind config ⟨source.bytes, false⟩) := rfl
  have sound := (sound_opened config).step sent
  obtain ⟨bytes, finished⟩ := source
  cases finished with
  | false => exact sound
  | true =>
      have ended : ((openedBehind config ⟨bytes, false⟩).setLane .near
          { (openedBehind config ⟨bytes, false⟩).tunnel.lane .near with
            source := ⟨bytes, true⟩ }).Sound config :=
        sound.endSource trivial rfl List.prefix_rfl
      rw [openedBehind, setLane_setLane] at ended
      exact ended

theorem healthy_openedBehind (config : StreamConfig) (bytes : List UInt8) :
    Healthy config (openedBehind config ⟨bytes, false⟩) where
  sound := sound_openedBehind config ⟨bytes, false⟩
  steady := (isSteady_opened config).setLane rfl rfl rfl rfl

end StreamState

/-! ## What is behind a forwarded application -/

/-- Whom the accept loop took in. -/
def Arrived (actions : List (CrewAction ServerAction AppAction)) (peer : Peer) : Prop :=
  .move (.loop (.accept peer)) ∈ actions

/-- What the task has read from the slots was put there by clients that
authenticated. -/
def AppStage.Vouched (config : X11Config) (arrived : Peer → Prop) : AppStage → Prop
  | .accepted | .dropped => True
  | .routed conn => ∀ peer, conn = some peer → Admitted config.server arrived peer
  | .checking peer realCookie =>
      Admitted config.server arrived peer ∧ Brought config.server arrived realCookie

/-- The stream goes to a client that authenticated, and what was taken off the
application in front of it is the request of a holder of the spoofed cookie. -/
structure Rightful (config : X11Config) (arrived : Peer → Prop) (peer : Peer)
    (taken setupBlock : List UInt8) (stream : StreamState) : Prop where
  admitted : Admitted config.server arrived peer
  shown : ∃ (request : ReceivedRequest) (realCookie : List UInt8), taken = request.bytes ∧
    request.Holds config.fakeCookie ∧ setupBlock = request.rewritten realCookie ∧
    Brought config.server arrived realCookie
  sound : stream.Sound (config.streamConfig peer setupBlock)
  connected : ∀ target, stream.stage = .relaying target →
    (config.client peer.id).socket.isSome = true

def App.Vouched (config : X11Config) (arrived : Peer → Prop) : App → Prop
  | .waiting stage _ _ => stage.Vouched config arrived
  | .forwarding peer taken setupBlock stream =>
      Rightful config arrived peer taken setupBlock stream

namespace App

variable {config : X11Config} {arrived : Peer → Prop} {server : ServerState} {app moved : App}
  {peer : Peer} {stage : AppStage} {realCookie taken setupBlock sent : List UInt8}
  {socket : ByteStream}

/-- Behind the gate, with what it has not read of the application. -/
def letThrough (config : X11Config) (peer : Peer) (realCookie : List UInt8)
    (request : ReceivedRequest) (source : ByteStream) : App :=
  .forwarding peer request.bytes (request.rewritten realCookie)
    (.openedBehind (config.streamConfig peer (request.rewritten realCookie)) source)

/-- In front of its stream, an application changes only what it has sent. -/
theorem endpoint_eq_some {action : StreamAction}
    (acted : endpoint stage sent socket action = some moved) :
    ∃ later laterSocket, moved = .waiting stage later laterSocket := by
  unfold endpoint at acted
  split at acted
  · split at acted
    · cases acted
      exact ⟨_, _, rfl⟩
    · contradiction
  · cases acted
    exact ⟨_, _, rfl⟩
  · cases acted
    exact ⟨_, _, rfl⟩
  · contradiction

/-- The gate drops the connection, or takes the request of a holder off it. -/
theorem check_eq_some {opens : Bool}
    (checked : check config peer realCookie sent socket opens = some moved) :
    moved = .waiting .dropped sent socket ∨
      ∃ (request : ReceivedRequest) (rest : List UInt8), socket.bytes = request.bytes ++ rest ∧
        request.Holds config.fakeCookie ∧
        moved = letThrough config peer realCookie request ⟨rest, socket.finished⟩ := by
  unfold check at checked
  split at checked
  · rename_i rest setupBlock accepted
    obtain ⟨request, front, -, holds, rfl⟩ := ReceivedRequest.holds_of_processX11Setup accepted
    have front : socket.bytes = request.bytes ++ rest.bytes := front
    split at checked
    · cases checked
      refine Or.inr ⟨request, rest.bytes, front, holds, ?_⟩
      have taken : socket.bytes.take (socket.bytes.length - rest.bytes.length) =
          request.bytes := by
        simp [front]
      rw [taken, letThrough]
    · cases checked
      exact Or.inl rfl
  · split at checked
    · cases checked
      exact Or.inl rfl
    · contradiction
  · cases checked
    exact Or.inl rfl

/-- A holder of the spoofed cookie is let through. -/
theorem check_of_holds {request : ReceivedRequest} (holds : request.Holds config.fakeCookie)
    (peer : Peer) (realCookie rest sent : List UInt8) :
    check config peer realCookie sent ⟨request.bytes ++ rest, false⟩ true =
      some (letThrough config peer realCookie request ⟨rest, false⟩) := by
  rw [check, ReceivedRequest.processX11Setup_of_holds holds]
  simp [letThrough]

theorem vouched_takeCookie {conn : Option Peer}
    (slots : server.shared.Vouched config.server arrived)
    (admitted : ∀ peer, conn = some peer → Admitted config.server arrived peer) :
    (takeCookie server.shared conn sent socket).Vouched config arrived := by
  unfold takeCookie
  split
  · rename_i peer realCookie stored
    exact ⟨admitted peer rfl, slots.cookie realCookie stored⟩
  · trivial

theorem Rightful.step {stream next : StreamState} {action : StreamAction}
    (rightful : Rightful config arrived peer taken setupBlock stream)
    (allowed : allows config peer action = true)
    (stepped : stream.step (config.streamConfig peer setupBlock) action = some next) :
    Rightful config arrived peer taken setupBlock next where
  admitted := rightful.admitted
  shown := rightful.shown
  sound := rightful.sound.step stepped
  connected := by
    intro target relaying
    rcases StreamState.relaying_of_step rightful.sound stepped relaying with rfl | before
    · exact allowed
    · exact rightful.connected target before

theorem Vouched.act {action : AppAction} (slots : server.shared.Vouched config.server arrived)
    (vouched : app.Vouched config arrived) (acted : act config server app action = some moved) :
    moved.Vouched config arrived := by
  unfold App.act at acted
  split at acted
  · cases acted
    exact slots.active
  · cases acted
    exact vouched_takeCookie slots vouched
  · rcases check_eq_some acted with rfl | ⟨request, rest, -, holds, rfl⟩
    · trivial
    · refine ⟨vouched.1, ⟨request, _, rfl, holds, rfl, vouched.2⟩, ?_, nofun⟩
      exact StreamState.sound_openedBehind _ _
  · obtain ⟨later, laterSocket, rfl⟩ := endpoint_eq_some acted
    exact vouched
  · split at acted
    · rename_i allowed
      obtain ⟨next, stepped, rfl⟩ := Option.map_eq_some_iff.mp acted
      exact Rightful.step vouched allowed stepped
    · contradiction
  · contradiction

end App

/-- Whatever is forwarded is rightful. -/
theorem vouched_of_run {config : X11Config} {final : Crew ServerState App}
    {actions : List (CrewAction ServerAction AppAction)}
    (executed : run config.step config.start actions = some final) (index : Nat) :
    final.Sound (ServerState.Vouched config.server (Arrived actions))
      (App.Vouched config (Arrived actions)) index := by
  have met : Along config.step
      (Crew.Minding (ServerState.Takes (Arrived actions)) index fun _ => True)
      config.start actions := by
    refine along_of_forall_mem fun action member crew => ?_
    cases action with
    | move move =>
        cases move with
        | background action => trivial
        | loop action =>
            cases action with
            | accept peer => exact member
            | _ => trivial
    | spawn other => trivial
    | act other act => exact fun _ => trivial
  have start : config.start.Sound (ServerState.Vouched config.server (Arrived actions))
      (App.Vouched config (Arrived actions)) index :=
    ⟨ServerState.vouched_init config.server _, nofun⟩
  refine run_invariant_along ?_ start met executed
  intro crew action next sound minding stepped
  have spawned : App.Vouched config (Arrived actions) config.program.spawned := trivial
  exact sound.step (fun slots takes moved => slots.step takes moved) spawned
    (fun slots vouched _ acted => App.Vouched.act slots.slots vouched acted) minding stepped

/-! ## Applications that nothing happens to -/

/-- Nothing breaks, and neither end of the connection ends its direction. -/
def AppAction.Steady : AppAction → Prop
  | .takeConn | .takeCookie => True
  | .check opens => opens = true
  | .stream action => action.Steady

/-- The programs move on by themselves. -/
def AppAction.Progress : AppAction → Prop
  | .takeConn | .takeCookie => True
  | .check opens => opens = true
  | .stream action => action.Progress

/-- Nothing happens to the application at a number. -/
def SteadyAt (index : Nat) : CrewAction ServerAction AppAction → Prop
  | .act other act => other = index → act.Steady
  | .move _ | .spawn _ => True

/-- The programs move an application on. -/
def MovesOn (index : Nat) (action : CrewAction ServerAction AppAction) : Prop :=
  ∃ act, action = .act index act ∧ act.Progress

/-- If its task goes on now, an application is served by this client, with this
cookie to show. -/
def AppStage.ServedBy (shared : SharedState) (peer : Peer) (realCookie : List UInt8) :
    AppStage → Prop
  | .accepted => shared.activeConn = some peer ∧ shared.x11RealCookie = some realCookie
  | .routed conn => conn = some peer ∧ shared.x11RealCookie = some realCookie
  | .checking found cookie => found = peer ∧ cookie = realCookie
  | .dropped => False

namespace App

/-- The application has sent the request of a holder, with `rest` behind it, to
this client's X server. -/
def Asks (config : X11Config) (shared : SharedState) (peer : Peer) (realCookie : List UInt8)
    (request : ReceivedRequest) (rest : List UInt8) : App → Prop
  | .waiting stage sent _ =>
      stage.ServedBy shared peer realCookie ∧ request.Holds config.fakeCookie ∧
        sent = request.bytes ++ rest
  | .forwarding found taken setupBlock stream =>
      found = peer ∧ taken = request.bytes ∧ setupBlock = request.rewritten realCookie ∧
        (stream.tunnel.lane .near).sent = rest

/-- What the X server has sent to it. -/
def answered : App → List UInt8
  | .waiting _ _ _ => []
  | .forwarding _ _ _ stream => (stream.tunnel.lane .far).sent

/-- Nothing has happened to the connection of the application. -/
def Undisturbed (config : X11Config) : App → Prop
  | .waiting _ sent socket => socket = ⟨sent, false⟩
  | .forwarding peer _ setupBlock stream =>
      (config.streamConfig peer setupBlock).Granted →
        stream.Healthy (config.streamConfig peer setupBlock)

variable {config : X11Config} {server : ServerState} {app moved : App} {peer : Peer}
  {realCookie : List UInt8} {request : ReceivedRequest} {rest : List UInt8}

theorem Undisturbed.act {action : AppAction} (undisturbed : app.Undisturbed config)
    (steady : action.Steady) (acted : act config server app action = some moved) :
    moved.Undisturbed config := by
  unfold App.act at acted
  split at acted
  · cases acted
    exact undisturbed
  · cases acted
    unfold takeCookie
    split
    · exact undisturbed
    · exact undisturbed
  · rename_i peer realCookie sent socket opens
    have unfinished : socket.finished = false := congrArg ByteStream.finished undisturbed
    rcases check_eq_some acted with rfl | ⟨request, rest, -, -, rfl⟩
    · exact undisturbed
    · intro granted
      rw [unfinished]
      exact StreamState.healthy_openedBehind _ _
  · rename_i stage sent socket action
    have quiet : action.Steady := steady
    unfold endpoint at acted
    split at acted
    · split at acted
      · cases acted
        rw [show socket = ⟨sent, false⟩ from undisturbed]
        rfl
      · contradiction
    · exact quiet.elim
    · exact quiet.elim
    · contradiction
  · split at acted
    · obtain ⟨next, stepped, rfl⟩ := Option.map_eq_some_iff.mp acted
      intro granted
      exact (undisturbed granted).step granted steady stepped
    · contradiction
  · contradiction

/-! ## What the programs deliver -/

/-- What a stream gets to, its application gets to. -/
theorem goesOn_stream {stream next : StreamState} {taken setupBlock : List UInt8}
    (connectable : (config.client peer.id).socket.isSome = true) (server : ServerState)
    (reached : StreamState.Reaches (config.streamConfig peer setupBlock) stream next) :
    GoesOn (act config server) AppAction.Progress (.forwarding peer taken setupBlock stream)
      (.forwarding peer taken setupBlock next) := by
  have goes : GoesOn (StreamState.step (config.streamConfig peer setupBlock))
      StreamAction.Progress stream next := reached
  refine goes.map (App.forwarding peer taken setupBlock) AppAction.stream
    (fun _ progress => progress) ?_
  intro state action moved stepped
  have allowed : allows config peer action = true := by
    cases action with
    | connect => exact connectable
    | _ => rfl
  rw [act, if_pos allowed, stepped]
  rfl

/-- A forwarded application gets all it has sent delivered, and all its answers. -/
theorem exists_delivered {stream : StreamState} {taken setupBlock : List UInt8}
    (enabled : (config.client peer.id).x11Enabled = true)
    (connectable : (config.client peer.id).socket.isSome = true) (server : ServerState)
    (undisturbed : (App.forwarding peer taken setupBlock stream).Undisturbed config) :
    ∃ drained, GoesOn (act config server) AppAction.Progress
        (.forwarding peer taken setupBlock stream) (.forwarding peer taken setupBlock drained) ∧
      drained.stage = .relaying .xServer ∧
      (drained.tunnel.lane .near).sink.bytes = setupBlock ++ (stream.tunnel.lane .near).sent ∧
      (drained.tunnel.lane .far).sink.bytes = (stream.tunnel.lane .far).sent := by
  have granted : (config.streamConfig peer setupBlock).Granted := enabled
  obtain ⟨drained, reached, stage, near, far⟩ := (undisturbed granted).exists_delivered granted
  exact ⟨drained, goesOn_stream connectable server reached, stage, near, far⟩

/-- The task of an application that asks gets to its stream. -/
theorem exists_forwarding {stage : AppStage} {sent : List UInt8} {socket : ByteStream}
    (asks : (App.waiting stage sent socket).Asks config server.shared peer realCookie request rest)
    (undisturbed : (App.waiting stage sent socket).Undisturbed config) :
    GoesOn (act config server) AppAction.Progress (.waiting stage sent socket)
      (letThrough config peer realCookie request ⟨rest, false⟩) := by
  obtain ⟨served, holds, rfl⟩ := asks
  obtain rfl : socket = ⟨request.bytes ++ rest, false⟩ := undisturbed
  have checks : GoesOn (act config server) AppAction.Progress
      (.waiting (.checking peer realCookie) (request.bytes ++ rest) ⟨request.bytes ++ rest, false⟩)
      (letThrough config peer realCookie request ⟨rest, false⟩) := by
    have progress : (AppAction.check true).Progress := rfl
    exact GoesOn.of_step progress (check_of_holds holds peer realCookie rest _)
  have cookies : server.shared.x11RealCookie = some realCookie →
      GoesOn (act config server) AppAction.Progress
        (.waiting (.routed (some peer)) (request.bytes ++ rest) ⟨request.bytes ++ rest, false⟩)
        (letThrough config peer realCookie request ⟨rest, false⟩) := by
    intro stored
    refine GoesOn.trans (GoesOn.of_step (show AppAction.takeCookie.Progress from trivial) ?_) checks
    simp only [act, takeCookie, stored]
  cases stage with
  | accepted =>
      refine GoesOn.trans (GoesOn.of_step (show AppAction.takeConn.Progress from trivial) ?_)
        (cookies served.2)
      rw [act, served.1]
  | routed conn =>
      obtain ⟨rfl, stored⟩ := served
      exact cookies stored
  | checking found cookie =>
      obtain ⟨rfl, rfl⟩ := served
      exact checks
  | dropped => exact served.elim

/-- An application that asks gets through. -/
theorem exists_shown (undisturbed : app.Undisturbed config)
    (asks : app.Asks config server.shared peer realCookie request rest)
    (enabled : (config.client peer.id).x11Enabled = true)
    (connectable : (config.client peer.id).socket.isSome = true) :
    ∃ drained, GoesOn (act config server) AppAction.Progress app
        (.forwarding peer request.bytes (request.rewritten realCookie) drained) ∧
      drained.stage = .relaying .xServer ∧
      (drained.tunnel.lane .near).sink.bytes = request.rewritten realCookie ++ rest ∧
      (drained.tunnel.lane .far).sink.bytes = app.answered := by
  cases app with
  | waiting stage sent socket =>
      have opens := exists_forwarding asks undisturbed
      have fresh : (letThrough config peer realCookie request ⟨rest, false⟩).Undisturbed config :=
        fun _ => StreamState.healthy_openedBehind _ _
      obtain ⟨drained, goes, shown⟩ := exists_delivered enabled connectable server fresh
      exact ⟨drained, opens.trans goes, shown⟩
  | forwarding found taken setupBlock stream =>
      obtain ⟨rfl, rfl, rfl, rfl⟩ := asks
      exact exists_delivered enabled connectable server undisturbed

end App

theorem undisturbed_of_run {config : X11Config} {final : Crew ServerState App}
    {actions : List (CrewAction ServerAction AppAction)} {index : Nat}
    (executed : run config.step config.start actions = some final)
    (steady : ∀ action ∈ actions, SteadyAt index action) :
    final.Sound (fun _ => True) (App.Undisturbed config) index := by
  have met : Along config.step (Crew.Minding (fun _ _ => True) index AppAction.Steady)
      config.start actions := by
    refine along_of_forall_mem fun action member crew => ?_
    cases action with
    | move move => trivial
    | spawn other => trivial
    | act other act => exact steady _ member
  have start : config.start.Sound (fun _ => True) (App.Undisturbed config) index :=
    ⟨trivial, nofun⟩
  refine run_invariant_along ?_ start met executed
  intro crew action next sound minding stepped
  have spawned : App.Undisturbed config config.program.spawned := rfl
  exact sound.step (fun _ _ _ => trivial) spawned
    (fun _ undisturbed quiet acted => App.Undisturbed.act undisturbed quiet acted) minding stepped

/-! ## The X server -/

/-- What reaches the X server of a client by way of a stream, and what comes
back. -/
structure Shows (config : X11Config) (peer : Peer) (request : ReceivedRequest)
    (realCookie : List UInt8) (stream : StreamState) : Prop where
  /-- The X server reads the request with the cookie in it, and then only what
  the application sent behind it. -/
  toServer : (stream.tunnel.lane .near).sink.bytes <+:
    request.rewritten realCookie ++ (stream.tunnel.lane .near).sent
  readable : realCookie.length < 2 ^ 16 →
    WellRewritten request realCookie (request.rewritten realCookie)
  toApplication : (stream.tunnel.lane .far).sink.bytes <+: (stream.tunnel.lane .far).sent
  /-- Only a client that wants X11 connects, and only to its own display. -/
  connected : ∀ target, stream.stage = .relaying target → target = .xServer ∧
    (config.client peer.id).x11Enabled = true ∧ (config.client peer.id).socket.isSome = true
  unwanted : (config.client peer.id).x11Enabled = false →
    (stream.tunnel.lane .near).sink.bytes = [] ∧ (stream.tunnel.lane .far).sent = []

theorem shows_of_sound {config : X11Config} {peer : Peer} {request : ReceivedRequest}
    {realCookie : List UInt8} {stream : StreamState}
    (sound : stream.Sound (config.streamConfig peer (request.rewritten realCookie)))
    (connected : ∀ target, stream.stage = .relaying target →
      (config.client peer.id).socket.isSome = true) :
    Shows config peer request realCookie stream := by
  have granted : ∀ target, stream.stage = .relaying target →
      target = .xServer ∧ (config.client peer.id).x11Enabled = true := by
    intro target relaying
    have found := sound.target target (Or.inr relaying)
    cases enabled : (config.client peer.id).x11Enabled with
    | true =>
        have granted : (config.streamConfig peer (request.rewritten realCookie)).Granted := enabled
        rw [(StreamConfig.targetOf_header _).1 granted] at found
        cases found
        exact ⟨rfl, rfl⟩
    | false =>
        have denied : ¬ (config.streamConfig peer (request.rewritten realCookie)).Granted :=
          Bool.eq_false_iff.mp enabled
        rw [(StreamConfig.targetOf_header _).2 denied] at found
        contradiction
  refine ⟨sound.sink_begins, request.wellRewritten_rewritten, (sound.passage .far).delivered,
    fun target relaying => ?_, fun disabled => sound.untouched fun target relaying => ?_⟩
  · exact ⟨(granted target relaying).1, (granted target relaying).2, connected target relaying⟩
  · have enabled := (granted target relaying).2
    rw [disabled] at enabled
    contradiction

/-- **An X server is shown only to holders of the spoofed cookie, and only with
a cookie that an authenticated client brought.** However the accept loop, the
clients, the applications and the network behave: what reaches an X server from
an application is a prefix of its request, with the spoofed cookie replaced,
and of what it sent behind it; by way of a client that authenticated and wants
X11; and what comes back is what the X server sent. An application that nothing
happens to and that a client serves gets through completely. -/
theorem x11_forwarded {config : X11Config} {final : Crew ServerState App}
    {actions : List (CrewAction ServerAction AppAction)}
    (executed : run config.step config.start actions = some final) (index : Nat) :
    (∀ peer taken setupBlock stream,
        final.task index = some (.forwarding peer taken setupBlock stream) →
          Admitted config.server (Arrived actions) peer ∧
          ∃ (request : ReceivedRequest) (realCookie : List UInt8), taken = request.bytes ∧
            request.Holds config.fakeCookie ∧ setupBlock = request.rewritten realCookie ∧
            Brought config.server (Arrived actions) realCookie ∧
            Shows config peer request realCookie stream) ∧
      ((∀ action ∈ actions, SteadyAt index action) →
        ∀ app peer realCookie request rest, final.task index = some app →
          app.Asks config final.shared.shared peer realCookie request rest →
          (config.client peer.id).x11Enabled = true →
          (config.client peer.id).socket.isSome = true →
            ∃ drained stream, GoesOn config.step (MovesOn index) final drained ∧
              drained.task index =
                some (.forwarding peer request.bytes (request.rewritten realCookie) stream) ∧
              stream.stage = .relaying .xServer ∧
              (stream.tunnel.lane .near).sink.bytes = request.rewritten realCookie ++ rest ∧
              (stream.tunnel.lane .far).sink.bytes = app.answered) := by
  refine ⟨?_, ?_⟩
  · intro peer taken setupBlock stream forwarded
    have rightful : Rightful config (Arrived actions) peer taken setupBlock stream :=
      (vouched_of_run executed index).task _ forwarded
    obtain ⟨request, realCookie, rfl, holds, rfl, brought⟩ := rightful.shown
    exact ⟨rightful.admitted, request, realCookie, rfl, holds, rfl, brought,
      shows_of_sound rightful.sound rightful.connected⟩
  · intro steady app peer realCookie request rest here asks enabled connectable
    have undisturbed := (undisturbed_of_run executed steady).task app here
    obtain ⟨stream, goes, stage, toServer, toApplication⟩ :=
      App.exists_shown undisturbed asks enabled connectable
    exact ⟨_, stream, Crew.goesOn_act here goes, Crew.task_put_self final, stage, toServer,
      toApplication⟩

/-! ## An application that is shown -/

/-- The task has read this client, and the application has sent this much. -/
def App.isRouted (peer : Peer) (sent : List UInt8) : App → Bool
  | .waiting (.routed conn) found _ => decide (conn = some peer ∧ found = sent)
  | _ => false

theorem App.eq_waiting_of_isRouted {peer : Peer} {sent : List UInt8} {app : App}
    (routed : app.isRouted peer sent = true) :
    ∃ socket, app = .waiting (.routed (some peer)) sent socket := by
  unfold App.isRouted at routed
  split at routed
  · obtain ⟨rfl, rfl⟩ := of_decide_eq_true routed
    exact ⟨_, rfl⟩
  · contradiction

namespace X11Config

/-- A client with the cookie `30 FF`. -/
def cookieClient : Peer :=
  ⟨1, "192.0.2.1",
    .opened ⟨[1, 0, 0, 0, 14, 82, 12, 10, 1, 1, 18, 1, 107, 48, 1, 66, 2, 0x30, 0xFF], none⟩⟩

/-- The spoofed cookie is `7 7 7 7`. -/
def sample : X11Config where
  server := .sample
  fakeCookie := [7, 7, 7, 7]
  client := fun _ => ⟨true, [], some ":0".toList, .checked⟩
  order := .ascending UInt32 UInt64

/-- The client connects, and an application sends its request and one byte. -/
def firstWindow : List (CrewAction ServerAction AppAction) :=
  [.move (.loop (.accept cookieClient)), .spawn 3, .move (.loop (.establish 1)),
    .move (.loop (.conclude 1)), .move (.background .recordLogin),
    .move (.loop (.advance .loginRecorded)), .move (.loop (.advance .storeCookie)),
    .act 3 (.stream (.send .near (sampleRequest.bytes ++ [98]))),
    .move (.loop (.advance .collectReplays)), .move (.loop (.advance (.writeAccept true))),
    .move (.loop (.advance .activate)), .act 3 .takeConn]

theorem firstWindow_shown :
    ∃ final drained stream, run sample.step sample.start firstWindow = some final ∧
      GoesOn sample.step (MovesOn 3) final drained ∧
      drained.task 3 = some (.forwarding cookieClient sampleRequest.bytes
        (sampleRequest.rewritten [0x30, 0xFF]) stream) ∧
      (stream.tunnel.lane .near).sink.bytes = sampleRequest.rewritten [0x30, 0xFF] ++ [98] := by
  have routed : (run sample.step sample.start firstWindow).any (fun final =>
      (final.task 3).any (App.isRouted cookieClient (sampleRequest.bytes ++ [98])) &&
        decide (final.shared.shared.x11RealCookie = some [0x30, 0xFF])) = true := by
    decide +kernel
  obtain ⟨final, executed, routed⟩ := (Option.any_eq_true _ _).mp routed
  obtain ⟨found, stored⟩ := Bool.and_eq_true_iff.mp routed
  obtain ⟨app, here, found⟩ := (Option.any_eq_true _ _).mp found
  obtain ⟨socket, rfl⟩ := App.eq_waiting_of_isRouted found
  have steady : ∀ action ∈ firstWindow, SteadyAt 3 action := by
    simp [firstWindow, SteadyAt, AppAction.Steady, StreamAction.Steady]
  obtain ⟨-, delivers⟩ := x11_forwarded executed 3
  obtain ⟨drained, stream, goes, shown, -, toServer, -⟩ :=
    delivers steady _ cookieClient [0x30, 0xFF] sampleRequest [98] here
      ⟨⟨rfl, of_decide_eq_true stored⟩, sampleRequest_holds, rfl⟩ rfl rfl
  exact ⟨final, drained, stream, executed, goes, shown, toServer⟩

end X11Config

end Etr.System
