import Etr.Library.Passage
import Etr.Forward.Tunnel
import Etr.Forward.UdpStream

/-!
Contract: a forwarded connection from its stream header to its last byte.

Owns the three ways a byte stream is forwarded (`-L`, `-R`, X11): the side that
opens the QUIC stream, the side that reads its header and connects to a target,
the relays behind them, and what the endpoints can count on whatever breaks.

Does not own name resolution, nor the X11 setup in front of the stream.
-/

namespace Etr.System

open Etr.Library Etr.Protocol Etr.Wire Etr.Forward

/-! ## The stream header -/

/-- What the far side of a stream connects to. -/
inductive Target where
  | tcp (addr : String)
  /-- The display of the client. -/
  | xServer
deriving DecidableEq, Repr

/-- The header `run_tcp_acceptor_quic` writes for each connection. -/
def tcpForwardHeader (spec : ForwardSpec) : StreamOpen where
  streamId := 0
  streamType := streamTypeToInt32 .portForward
  remoteHost := spec.remoteHost
  remotePort := spec.remotePort.toUInt32
  forwardProto := ForwardProto.toInt32 .tcp

/-- `dispatch_task` of the server: where `serve_tcp_forward` connects to. -/
def serveTcpForward (so : StreamOpen) : Option Target :=
  match (ForwardProto.ofInt32? so.forwardProto).getD .tcp with
  | .tcp => some (.tcp (so.remoteHost ++ ":" ++ toString so.remotePort.toNat))
  | .udp => none

/-- The reverse acceptor of the client, for streams that are not UDP. -/
def serveReverse (x11Enabled : Bool) (reverseSpecs : List ForwardSpec) (so : StreamOpen) :
    Option Target :=
  match reverseAction so x11Enabled reverseSpecs with
  | .x11 => some .xServer
  | .connectTcp addr => some (.tcp addr)
  | _ => none

/-- A connection that is forwarded, as its opener knows it. -/
inductive Forwarded where
  /-- `run_tcp_acceptor_quic`. -/
  | localTcp (spec : ForwardSpec)
  /-- `run_tcp_reverse_listener`. -/
  | reverseTcp (spec : ForwardSpec)
  /-- `forward_x11_connection`. -/
  | x11 (setupBlock : List UInt8) (display : X11Stream)
deriving DecidableEq, Repr

namespace Forwarded

def forwarding : Forwarded → Forwarding
  | .localTcp _ => .localTcp
  | .reverseTcp _ => .reverseTcp
  | .x11 _ display => .x11 display

def header : Forwarded → StreamOpen
  | .localTcp spec => tcpForwardHeader spec
  | .reverseTcp spec => tcpReverseHeader spec
  | .x11 _ _ => x11Header

/-- What the opener writes behind the header, in front of its relay. -/
def setupBlock : Forwarded → List UInt8
  | .localTcp _ | .reverseTcp _ => []
  | .x11 setupBlock _ => setupBlock

/-- What the opener means to reach. -/
def asked : Forwarded → Target
  | .localTcp spec | .reverseTcp spec => .tcp spec.target
  | .x11 _ _ => .xServer

end Forwarded

/-- A forwarded connection, the settings of the client, and the map order of the
opener. -/
structure StreamConfig where
  forwarded : Forwarded
  x11Enabled : Bool
  reverseSpecs : List ForwardSpec
  order : MapOrder
  headerFits : (envelopeFrames order).Fits (UdpStream.headerEnvelope forwarded.header)

namespace StreamConfig

variable (config : StreamConfig)

/-- What the far side makes of a header. -/
def targetOf (so : StreamOpen) : Option Target :=
  match config.forwarded with
  | .localTcp _ => serveTcpForward so
  | .reverseTcp _ | .x11 _ _ => serveReverse config.x11Enabled config.reverseSpecs so

/-- The client may be asked to connect only to what it was configured for; the
server connects to whatever its client asks for. -/
def Granted : Prop :=
  match config.forwarded with
  | .localTcp _ => True
  | .reverseTcp spec => ∃ kept ∈ config.reverseSpecs, Names (tcpReverseHeader spec) kept
  | .x11 _ _ => config.x11Enabled = true

/-- The tag and the header, as they are written. -/
def headerBytes : List UInt8 :=
  tagForward :: writeEnvelope config.order (UdpStream.headerEnvelope config.forwarded.header)

theorem targetOf_header :
    (config.Granted → config.targetOf config.forwarded.header = some config.forwarded.asked) ∧
      (¬ config.Granted → config.targetOf config.forwarded.header = none) := by
  obtain ⟨forwarded, x11Enabled, reverseSpecs, order, headerFits⟩ := config
  cases forwarded with
  | localTcp spec =>
      refine ⟨fun _ => ?_, fun denied => absurd trivial denied⟩
      simp [targetOf, serveTcpForward, Forwarded.header, tcpForwardHeader, Forwarded.asked,
        ForwardSpec.target]
  | reverseTcp spec =>
      have notX11 : (tcpReverseHeader spec).streamType ≠ streamTypeToInt32 .x11 :=
        show streamTypeToInt32 .portForward ≠ streamTypeToInt32 .x11 by decide
      have granted : isAuthorizedReverseStream (tcpReverseHeader spec) x11Enabled reverseSpecs =
          true ↔ ∃ kept ∈ reverseSpecs, Names (tcpReverseHeader spec) kept :=
        authorized_portForward_iff rfl
      have tcp : (ForwardProto.ofInt32? (tcpReverseHeader spec).forwardProto).getD .tcp = .tcp := by
        rw [tcpReverseHeader, ForwardProto.ofInt32?_toInt32]
        rfl
      refine ⟨fun named => ?_, fun denied => ?_⟩
      · have authorized := granted.mpr named
        simp only [targetOf, serveReverse, Forwarded.header, reverseAction, authorized,
          Bool.true_eq_false, if_false, if_neg notX11, tcp]
        simp [tcpReverseHeader, Forwarded.asked, ForwardSpec.target]
      · have refused := eq_false_of_ne_true (mt granted.mp denied)
        simp only [targetOf, serveReverse, Forwarded.header, reverseAction, refused, if_true]
  | x11 setupBlock display =>
      have authorized := authorized_x11Header x11Enabled reverseSpecs
      refine ⟨fun enabled => ?_, fun denied => ?_⟩
      · obtain rfl : x11Enabled = true := enabled
        rfl
      · obtain rfl : x11Enabled = false := eq_false_of_ne_true denied
        rfl

end StreamConfig

/-! ## The forwarded stream -/

/-- How far the far side got with the stream. -/
inductive FarStage where
  /-- Reading the tag and the header. -/
  | heading
  /-- The header was not served. -/
  | refused
  | connecting (target : Target)
  /-- Connected; the relay of the far side was started. -/
  | relaying (target : Target)
deriving DecidableEq, Repr

structure StreamState where
  tunnel : TunnelState
  /-- What the opener has yet to write in front of its relay. -/
  announcing : List UInt8
  stage : FarStage
  /-- The QUIC connection was lost. -/
  lost : Bool

inductive StreamAction where
  | send (side : Side) (data : List UInt8)
  | halfClose (side : Side)
  /-- The connection of an endpoint breaks, with all that was not read from it. -/
  | reset (side : Side)
  /-- Opener: some of the tag, the header and the setup block is written. -/
  | announce (count : Nat)
  /-- Opener: such a write fails, and the opener returns. -/
  | stopAnnouncing
  | header
  | connect
  /-- Far side: its reads fail, it cannot connect, or it is aborted. -/
  | abandon
  | relay (side : Side) (action : RelayAction)
  /-- A relay fails to write to its endpoint. -/
  | refuseBytes (side : Side)
  /-- The QUIC connection is lost; of what was underway some may still be read. -/
  | lose (kept : Side → Nat)

namespace StreamState

variable (config : StreamConfig) (state : StreamState)

/-- The stream was just opened. -/
def opened : StreamState where
  tunnel := .opened
  announcing := config.headerBytes ++ config.forwarded.setupBlock
  stage := .heading
  lost := false

/-! ## Steps -/

/-- The endpoint of a side is there. -/
def Connected : Side → Prop
  | .near => True
  | .far => ∃ target, state.stage = .relaying target

/-- The relay of a side was started. -/
def Relays : Side → Prop
  | .near => state.announcing = []
  | .far => ∃ target, state.stage = .relaying target

instance (side : Side) : Decidable (state.Connected side) :=
  match side with
  | .near => inferInstanceAs (Decidable True)
  | .far =>
      match stage : state.stage with
      | .relaying target => isTrue ⟨target, stage⟩
      | .heading | .refused | .connecting _ => isFalse (by simp [Connected, stage])

instance (side : Side) : Decidable (state.Relays side) :=
  match side with
  | .near => inferInstanceAs (Decidable (state.announcing = []))
  | .far => inferInstanceAs (Decidable (state.Connected .far))

/-- A side returns before its relay was started: what it had of the stream and
of its endpoint is dropped. -/
def giveUp (side : Side) : StreamState :=
  { state with
    tunnel := state.tunnel.putRelay side
      { outgoing := (state.tunnel.relayView side).outgoing.abort
        incoming := (state.tunnel.relayView side).incoming.abort
        returned := true } }

def setLane (side : Side) (lane : Lane) : StreamState :=
  { state with tunnel := state.tunnel.setLane side lane }

def send (side : Side) (data : List UInt8) : Option StreamState :=
  if state.Connected side then
    (state.tunnel.send side data).map fun tunnel => { state with tunnel }
  else
    none

def halfClose (side : Side) : Option StreamState :=
  if state.Connected side then
    (state.tunnel.halfClose side).map fun tunnel => { state with tunnel }
  else
    none

def reset (side : Side) : Option StreamState :=
  if state.Connected side then
    some (state.setLane side { state.tunnel.lane side with source := ⟨[], true⟩ })
  else
    none

/-- `write_all` of the tag, `write_msg` of the header, `write_all` of the setup
block. -/
def announce (count : Nat) : Option StreamState :=
  if state.tunnel.returned .near = false ∧ state.lost = false ∧ 0 < count ∧
      count ≤ state.announcing.length then
    some { state with
      tunnel := state.tunnel.setLane .near { state.tunnel.lane .near with
        stream := { (state.tunnel.lane .near).stream with
          bytes := (state.tunnel.lane .near).stream.bytes ++ state.announcing.take count } }
      announcing := state.announcing.drop count }
  else
    none

/-- A QUIC write fails only if the stream was given up, or the connection lost. -/
def stopAnnouncing : Option StreamState :=
  if state.tunnel.returned .near = false ∧ state.announcing ≠ [] ∧
      (state.tunnel.returned .far = true ∨ state.lost = true) then
    some (state.giveUp .near)
  else
    none

/-- The far side leaves these bytes unread. -/
def unread (rest : List UInt8) : StreamState :=
  state.setLane .near { state.tunnel.lane .near with
    stream := { (state.tunnel.lane .near).stream with bytes := rest } }

/-- The header was not served: the stream is dropped. -/
def refuse : StreamState :=
  { state.giveUp .far with stage := .refused }

/-- Read the tag and the header, and look for a target. -/
def readHeader : Option StreamState :=
  match state.tunnel.returned .far, state.stage, (state.tunnel.lane .near).stream.bytes with
  | false, .heading, tag :: body =>
      if tag = tagForward then
        match pollEnvelope body with
        | none => none
        | some (⟨some (.streamOpen so)⟩, rest) =>
            match config.targetOf so with
            | some target => some { state.unread rest with stage := .connecting target }
            | none => some (state.unread rest).refuse
        | some (_, rest) => some (state.unread rest).refuse
      else
        some (state.unread body).refuse
  | _, _, _ => none

def connect : Option StreamState :=
  match state.tunnel.returned .far, state.stage with
  | false, .connecting target => some { state with stage := .relaying target }
  | _, _ => none

def abandon : Option StreamState :=
  match state.tunnel.returned .far, state.stage with
  | false, .heading | false, .connecting _ => some (state.giveUp .far)
  | _, _ => none

/-- Whether the connection allows a step of a relay. -/
def Permits (side : Side) : RelayAction → Prop
  | .writeFails => state.tunnel.returned side.other = true ∨ state.lost = true
  | .write .outgoing _ => state.lost = false
  | _ => True

instance (side : Side) (action : RelayAction) : Decidable (state.Permits side action) :=
  match action with
  | .writeFails =>
      inferInstanceAs (Decidable (state.tunnel.returned side.other = true ∨ state.lost = true))
  | .write .outgoing _ => inferInstanceAs (Decidable (state.lost = false))
  | .read _ _ | .write .incoming _ | .endOfInput _ | .select => inferInstanceAs (Decidable True)

def relay (side : Side) (action : RelayAction) : Option StreamState :=
  if state.Relays side ∧ state.Permits side action then
    (config.forwarded.forwarding.relayAt side (state.tunnel.relayView side) action).map
      fun relay => { state with tunnel := state.tunnel.putRelay side relay }
  else
    none

/-- `t2` leaves its loop because its endpoint takes no more bytes. -/
def refuseBytes (side : Side) : Option StreamState :=
  if state.Relays side ∧ state.tunnel.returned side = false then
    (state.tunnel.relayView side).incoming.writeFails.map fun incoming =>
      { state with tunnel :=
          state.tunnel.putRelay side { state.tunnel.relayView side with incoming } }
  else
    none

def cut (lane : Lane) (kept : Nat) : Lane :=
  { lane with stream := ⟨lane.stream.bytes.take kept, true⟩ }

def lose (kept : Side → Nat) : Option StreamState :=
  match state.lost with
  | true => none
  | false =>
      some { state with
        tunnel := { state.tunnel with
          lane := fun side => cut (state.tunnel.lane side) (kept side) }
        lost := true }

def step : StreamAction → Option StreamState
  | .send side data => state.send side data
  | .halfClose side => state.halfClose side
  | .reset side => state.reset side
  | .announce count => state.announce count
  | .stopAnnouncing => state.stopAnnouncing
  | .header => state.readHeader config
  | .connect => state.connect
  | .abandon => state.abandon
  | .relay side action => state.relay config side action
  | .refuseBytes side => state.refuseBytes side
  | .lose kept => state.lose kept

end StreamState

/-! ## What a relay step can do -/

/-- A task that has not ended. -/
def atWork : RelayTask → Bool
  | .reading | .writing _ _ => true
  | .done => false

/-- One task takes a turn; a turn of another kind than `writes` puts nothing out. -/
structure Advances (half next : RelayHalf) (writes : Prop) : Prop where
  running : atWork half.task = true
  carries : next.carried = half.carried
  input : next.input.finished = half.input.finished
  output : next.output.bytes = half.output.bytes ∨ writes

/-- A turn of one of the two tasks. -/
def TurnsHalf (relayed after : RelayState) (writes : Prop) : Prop :=
  (∃ half, Advances relayed.outgoing half writes ∧ after = { relayed with outgoing := half }) ∨
    ∃ half, Advances relayed.incoming half True ∧ after = { relayed with incoming := half }

section Turns

variable {half next : RelayHalf} {relayed after : RelayState} {writes : Prop}

theorem advances_of_read {bufferSize count : Nat}
    (stepped : half.read bufferSize count = some next) : Advances half next False := by
  have carries := (RelayHalf.read_moves stepped).carries
  unfold RelayHalf.read at stepped
  split at stepped
  · rename_i reading
    split at stepped
    · cases stepped
      exact ⟨by rw [reading]; rfl, carries, rfl, Or.inl rfl⟩
    · contradiction
  · contradiction
  · contradiction

theorem advances_of_write {count : Nat} (stepped : half.write count = some next) :
    Advances half next True := by
  have carries := (RelayHalf.write_moves stepped).carries
  unfold RelayHalf.write at stepped
  split at stepped
  · rename_i rest unwritten writing
    split at stepped
    · cases stepped
      exact ⟨by rw [writing]; rfl, carries, rfl, Or.inr trivial⟩
    · contradiction
  · contradiction
  · contradiction

theorem advances_of_endOfInput (stepped : half.endOfInput = some next) :
    Advances half next False := by
  have carries := (RelayHalf.endOfInput_moves stepped).carries
  unfold RelayHalf.endOfInput at stepped
  split at stepped
  · rename_i reading empty finished
    cases stepped
    exact ⟨by rw [reading]; rfl, carries, rfl, Or.inl rfl⟩
  · contradiction

theorem Advances.mono {more : Prop} (advanced : Advances half next writes)
    (weaker : writes → more) : Advances half next more :=
  { advanced with output := advanced.output.imp_right weaker }

theorem turnsHalf_of_onHalf {direction : RelayDirection}
    {advance : RelayHalf → Option RelayHalf} {written : Prop}
    (advances : ∀ {half next}, advance half = some next → Advances half next written)
    (outgoing : direction = .outgoing → written → writes)
    (stepped : relayed.onHalf direction advance = some after) :
    TurnsHalf relayed after writes := by
  cases direction with
  | outgoing =>
      obtain ⟨half, advanced, rfl⟩ := Option.map_eq_some_iff.mp stepped
      exact Or.inl ⟨half, (advances advanced).mono (outgoing rfl), rfl⟩
  | incoming =>
      obtain ⟨half, advanced, rfl⟩ := Option.map_eq_some_iff.mp stepped
      exact Or.inr ⟨half, (advances advanced).mono fun _ => trivial, rfl⟩

/-- A relay that has not returned turns one of its halves, gives up its outgoing
half, or returns. -/
theorem relay_turns {bufferSize : Nat} {action : RelayAction}
    (stepped : Forward.relay bufferSize relayed action = some after) :
    relayed.returned = false ∧
      (TurnsHalf relayed after (∃ count, action = .write .outgoing count) ∨
        (action = .writeFails ∧ after = { relayed with outgoing := relayed.outgoing.abort }) ∨
        (action = .select ∧ after =
          { outgoing := relayed.outgoing.abort, incoming := relayed.incoming.abort,
            returned := true })) := by
  unfold Forward.relay at stepped
  split at stepped
  · contradiction
  · rename_i running
    refine ⟨running, Or.inl ?_⟩
    exact turnsHalf_of_onHalf advances_of_read (fun _ => False.elim) stepped
  · rename_i direction count running
    refine ⟨running, Or.inl ?_⟩
    exact turnsHalf_of_onHalf advances_of_write (fun same _ => ⟨count, by rw [same]⟩) stepped
  · rename_i running
    refine ⟨running, Or.inl ?_⟩
    exact turnsHalf_of_onHalf advances_of_endOfInput (fun _ => False.elim) stepped
  · rename_i running
    obtain ⟨half, failed, rfl⟩ := Option.map_eq_some_iff.mp stepped
    obtain ⟨-, rfl⟩ := RelayHalf.writeFails_cases failed
    exact ⟨running, Or.inr (Or.inl ⟨rfl, rfl⟩)⟩
  · rename_i running
    exact ⟨running, Or.inr (Or.inr ⟨rfl, RelayState.select_cases stepped⟩)⟩

end Turns

namespace StreamState

/-! ## The two directions as passages -/

section Passages

variable (config : StreamConfig) (state : StreamState)

/-- What the opener puts in front of what its endpoint sends. -/
def announced : Side → List UInt8
  | .near => config.headerBytes ++ config.forwarded.setupBlock
  | .far => []

/-- What the far side has taken for itself. -/
def taken : Side → List UInt8
  | .near => if state.stage = .heading then [] else config.headerBytes
  | .far => []

def toAnnounce : Side → List UInt8
  | .near => state.announcing
  | .far => []

/-- A direction, from the endpoint of its side to the other. -/
def passage (side : Side) : Passage UInt8 where
  given := announced config side ++ (state.tunnel.lane side).sent
  delivered := state.taken config side ++ (state.tunnel.lane side).sink.bytes
  underway := (state.tunnel.lane side).receiver.hand ++ (state.tunnel.lane side).stream.bytes
  waiting := state.toAnnounce side ++
    ((state.tunnel.lane side).sender.hand ++ (state.tunnel.lane side).source.bytes)
  accepting := !(state.tunnel.lane side).source.finished
  sending := atWork (state.tunnel.lane side).sender && !state.lost
  receiving := atWork (state.tunnel.lane side).receiver

end Passages

variable {config : StreamConfig} {state next : StreamState} {side : Side}

/-- The far side is not connected. -/
def Unconnected (state : StreamState) : Prop :=
  ∀ target, state.stage ≠ .relaying target

structure Sound (config : StreamConfig) (state : StreamState) : Prop where
  passage : ∀ side, (state.passage config side).Sound
  target : ∀ target, state.stage = .connecting target ∨ state.stage = .relaying target →
    config.targetOf config.forwarded.header = some target
  /-- Nothing comes of a stream in front of the connection. -/
  untouched : state.Unconnected →
    (state.tunnel.lane .near).sink.bytes = [] ∧ (state.tunnel.lane .far).sent = []
  waits : state.Unconnected → state.tunnel.returned .far = false →
    (state.tunnel.lane .near).receiver = .reading
  opening : state.announcing ≠ [] → state.tunnel.returned .near = false →
    (state.tunnel.lane .near).sender = .reading

theorem sound_opened (config : StreamConfig) : (opened config).Sound config where
  passage side := by
    cases side with
    | near =>
        have whole : (passage config (opened config) .near).content =
            (passage config (opened config) .near).given := by
          simp [Passage.content, passage, opened, TunnelState.opened, taken, toAnnounce, announced,
            RelayTask.hand]
        refine ⟨?_, ?_, fun _ _ => whole ▸ List.prefix_rfl, fun _ _ _ => whole⟩
        · exact List.nil_prefix
        · exact fun _ => List.nil_prefix
    | far => exact ⟨List.prefix_rfl, fun _ => List.prefix_rfl, fun _ _ => List.prefix_rfl,
        fun _ _ _ => rfl⟩
  target := by simp [opened]
  untouched _ := ⟨rfl, rfl⟩
  waits _ _ := rfl
  opening _ _ := rfl

/-! ## What each step can do -/

/-- The state with a side's relay replaced. -/
def putRelay (state : StreamState) (side : Side) (relay : RelayState) : StreamState :=
  { state with tunnel := state.tunnel.putRelay side relay }

theorem send_cases {data : List UInt8} (stepped : state.send side data = some next) :
    state.Connected side ∧ (state.tunnel.lane side).source.finished = false ∧
      next = state.setLane side { state.tunnel.lane side with
        sent := (state.tunnel.lane side).sent ++ data
        source := ⟨(state.tunnel.lane side).source.bytes ++ data, false⟩ } := by
  unfold StreamState.send at stepped
  split at stepped
  · rename_i connected
    obtain ⟨tunnel, sent, rfl⟩ := Option.map_eq_some_iff.mp stepped
    unfold TunnelState.send at sent
    split at sent
    · rename_i unfinished
      cases sent
      exact ⟨connected, unfinished, rfl⟩
    · contradiction
  · contradiction

theorem halfClose_cases (stepped : state.halfClose side = some next) :
    state.Connected side ∧ next = state.setLane side { state.tunnel.lane side with
      source := { (state.tunnel.lane side).source with finished := true } } := by
  unfold StreamState.halfClose at stepped
  split at stepped
  · rename_i connected
    cases stepped
    exact ⟨connected, rfl⟩
  · contradiction

theorem reset_cases (stepped : state.reset side = some next) :
    state.Connected side ∧
      next = state.setLane side { state.tunnel.lane side with source := ⟨[], true⟩ } := by
  unfold StreamState.reset at stepped
  split at stepped
  · rename_i connected
    cases stepped
    exact ⟨connected, rfl⟩
  · contradiction

theorem announce_cases {count : Nat} (stepped : state.announce count = some next) :
    (state.tunnel.returned .near = false ∧ state.lost = false ∧ 0 < count ∧
        count ≤ state.announcing.length) ∧
      next = { state.setLane .near { state.tunnel.lane .near with
          stream := { (state.tunnel.lane .near).stream with
            bytes := (state.tunnel.lane .near).stream.bytes ++ state.announcing.take count } } with
        announcing := state.announcing.drop count } := by
  unfold StreamState.announce at stepped
  split at stepped
  · rename_i allowed
    cases stepped
    exact ⟨allowed, rfl⟩
  · contradiction

theorem stopAnnouncing_cases (stepped : state.stopAnnouncing = some next) :
    (state.tunnel.returned .far = true ∨ state.lost = true) ∧ next = state.giveUp .near := by
  unfold StreamState.stopAnnouncing at stepped
  split at stepped
  · rename_i allowed
    cases stepped
    exact ⟨allowed.2.2, rfl⟩
  · contradiction

theorem connect_cases (stepped : state.connect = some next) :
    ∃ target, state.stage = .connecting target ∧
      next = { state with stage := .relaying target } := by
  unfold StreamState.connect at stepped
  split at stepped
  · rename_i target running connecting
    cases stepped
    exact ⟨target, connecting, rfl⟩
  · contradiction

theorem abandon_cases (stepped : state.abandon = some next) : next = state.giveUp .far := by
  unfold StreamState.abandon at stepped
  split at stepped
  · cases stepped
    rfl
  · cases stepped
    rfl
  · contradiction

theorem refuseBytes_cases (stepped : state.refuseBytes side = some next) :
    state.Relays side ∧ next = state.putRelay side { state.tunnel.relayView side with
      incoming := (state.tunnel.relayView side).incoming.abort } := by
  unfold StreamState.refuseBytes at stepped
  split at stepped
  · rename_i allowed
    obtain ⟨half, failed, rfl⟩ := Option.map_eq_some_iff.mp stepped
    obtain ⟨-, rfl⟩ := RelayHalf.writeFails_cases failed
    exact ⟨allowed.1, rfl⟩
  · contradiction

theorem lose_cases {kept : Side → Nat} (stepped : state.lose kept = some next) :
    next = { state with
      tunnel := { state.tunnel with
        lane := fun side => cut (state.tunnel.lane side) (kept side) }
      lost := true } := by
  unfold StreamState.lose at stepped
  split at stepped
  · contradiction
  · cases stepped
    rfl

/-! ## Steps of the relays -/

theorem passage_congr (lane : next.tunnel.lane side = state.tunnel.lane side)
    (taken : next.taken config side = state.taken config side)
    (announcing : next.toAnnounce side = state.toAnnounce side) (lost : next.lost = state.lost) :
    next.passage config side = state.passage config side := by
  simp only [passage, lane, taken, announcing, lost]

theorem taken_putRelay (lane : Side) (relay : RelayState) :
    (state.putRelay side relay).taken config lane = state.taken config lane := by
  cases lane <;> rfl

theorem toAnnounce_putRelay (lane : Side) (relay : RelayState) :
    (state.putRelay side relay).toAnnounce lane = state.toAnnounce lane := by
  cases lane <;> rfl

/-- A relay's own direction, with its outgoing half replaced. -/
theorem passage_putRelay_self (relay : RelayState) :
    (state.putRelay side relay).passage config side =
      { state.passage config side with
        underway := (state.tunnel.lane side).receiver.hand ++ relay.outgoing.output.bytes
        waiting := state.toAnnounce side ++
          (relay.outgoing.task.hand ++ relay.outgoing.input.bytes)
        accepting := !relay.outgoing.input.finished
        sending := atWork relay.outgoing.task && !state.lost } := by
  simp only [passage, taken_putRelay, toAnnounce_putRelay]
  simp [putRelay]

/-- The direction towards a relay, with its incoming half replaced. -/
theorem passage_putRelay_other (relay : RelayState) :
    (state.putRelay side relay).passage config side.other =
      { state.passage config side.other with
        delivered := state.taken config side.other ++ relay.incoming.output.bytes
        underway := relay.incoming.task.hand ++ relay.incoming.input.bytes
        receiving := atWork relay.incoming.task } := by
  simp only [passage, taken_putRelay, toAnnounce_putRelay]
  simp [putRelay]

/-- The passages stay sound, whichever direction they are. -/
theorem forall_passage (side : Side) (own : (next.passage config side).Sound)
    (other : (next.passage config side.other).Sound) (lane : Side) :
    (next.passage config lane).Sound := by
  rcases Side.eq_or_eq_other lane side with rfl | rfl
  · exact own
  · exact other

theorem Sound.turnOutgoing {half : RelayHalf} {writes : Prop} (sound : state.Sound config)
    (relays : state.toAnnounce side = [])
    (advanced : Advances (state.tunnel.relayView side).outgoing half writes)
    (permitted : writes → state.lost = false) (lane : Side) :
    ((state.putRelay side { state.tunnel.relayView side with outgoing := half }).passage config
      lane).Sound := by
  refine forall_passage side ?_ ?_ lane
  · have carries := advanced.carries
    simp only [RelayHalf.carried, TunnelState.relayView, List.append_assoc] at carries
    have moved : ((state.tunnel.lane side).receiver.hand ++ half.output.bytes) ++
        (state.toAnnounce side ++ (half.task.hand ++ half.input.bytes)) =
          (state.passage config side).underway ++ (state.passage config side).waiting := by
      simp only [StreamState.passage, relays, List.nil_append, List.append_assoc, carries]
    have sends : (state.tunnel.lane side).receiver.hand ++ half.output.bytes =
        (state.passage config side).underway ∨ (state.passage config side).sending = true := by
      rcases advanced.output with kept | written
      · exact Or.inl (by rw [kept]; rfl)
      · refine Or.inr ?_
        have running : atWork (state.tunnel.lane side).sender = true := advanced.running
        simp [StreamState.passage, running, permitted written]
    have sent := (sound.passage side).send moved sends
    rw [passage_putRelay_self]
    refine sent.lower ?_ ?_ id
    · intro accepting
      rw [advanced.input] at accepting
      exact accepting
    · intro sending
      have running : atWork (state.tunnel.lane side).sender = true := advanced.running
      rw [Bool.and_eq_true] at sending
      exact Bool.and_eq_true _ _ ▸ ⟨running, sending.2⟩
  · rw [passage_putRelay_other]
    exact sound.passage side.other

theorem Sound.turnIncoming {half : RelayHalf} (sound : state.Sound config)
    (advanced : Advances (state.tunnel.relayView side).incoming half True) (lane : Side) :
    ((state.putRelay side { state.tunnel.relayView side with incoming := half }).passage config
      lane).Sound := by
  refine forall_passage side ?_ ?_ lane
  · rw [passage_putRelay_self]
    exact sound.passage side
  · have carries := advanced.carries
    simp only [RelayHalf.carried, TunnelState.relayView, List.append_assoc] at carries
    have moved : (state.taken config side.other ++ half.output.bytes) ++
        (half.task.hand ++ half.input.bytes) =
          (state.passage config side.other).delivered ++
            (state.passage config side.other).underway := by
      simp only [StreamState.passage, List.append_assoc, carries]
    have received := (sound.passage side.other).receive advanced.running moved
    rw [passage_putRelay_other]
    exact received.lower id id fun _ => advanced.running

/-- A relay gives up halves of its own. -/
theorem Sound.abort {relay : RelayState} (sound : state.Sound config)
    (outgoing : relay.outgoing = (state.tunnel.relayView side).outgoing ∨
      relay.outgoing = (state.tunnel.relayView side).outgoing.abort)
    (incoming : relay.incoming = (state.tunnel.relayView side).incoming ∨
      relay.incoming = (state.tunnel.relayView side).incoming.abort) (lane : Side) :
    ((state.putRelay side relay).passage config lane).Sound := by
  refine forall_passage side ?_ ?_ lane
  · rw [passage_putRelay_self]
    rcases outgoing with kept | aborted
    · rw [kept]
      exact sound.passage side
    · rw [aborted]
      exact (sound.passage side).giveUp rfl rfl (fun receiving => ⟨receiving, List.prefix_rfl⟩)
        (fun _ => nofun) (fun _ => nofun)
  · rw [passage_putRelay_other]
    rcases incoming with kept | aborted
    · rw [kept]
      exact sound.passage side.other
    · rw [aborted]
      exact (sound.passage side.other).giveUp rfl rfl nofun nofun nofun

theorem relay_eq_some {action : RelayAction}
    (stepped : state.relay config side action = some next) :
    state.Relays side ∧ state.Permits side action ∧
      ∃ relayed, Forward.relay (256 * 1024) (state.tunnel.relayView side) action = some relayed ∧
        next = state.putRelay side relayed := by
  unfold relay at stepped
  split at stepped
  · rename_i allowed
    obtain ⟨relayed, ran, rfl⟩ := Option.map_eq_some_iff.mp stepped
    rw [TunnelState.relayAt_eq] at ran
    exact ⟨allowed.1, allowed.2, relayed, ran, rfl⟩
  · contradiction

theorem toAnnounce_of_relays (relays : state.Relays side) : state.toAnnounce side = [] := by
  cases side with
  | near => exact relays
  | far => rfl

/-- A relay that was started changes nothing else. -/
theorem Sound.relayed {relay : RelayState} (sound : state.Sound config)
    (relays : state.Relays side)
    (passages : ∀ lane, ((state.putRelay side relay).passage config lane).Sound) :
    (state.putRelay side relay).Sound config := by
  refine ⟨passages, sound.target, fun unconnected => ?_, fun unconnected running => ?_,
    fun opening running => ?_⟩
  · cases side with
    | near => exact sound.untouched unconnected
    | far =>
        obtain ⟨target, relaying⟩ := relays
        exact absurd relaying (unconnected target)
  · cases side with
    | near => exact sound.waits unconnected running
    | far =>
        obtain ⟨target, relaying⟩ := relays
        exact absurd relaying (unconnected target)
  · cases side with
    | near => exact absurd relays opening
    | far => exact sound.opening opening running

theorem Sound.relay {action : RelayAction} (sound : state.Sound config)
    (stepped : state.relay config side action = some next) : next.Sound config := by
  obtain ⟨relays, permitted, relayed, ran, rfl⟩ := relay_eq_some stepped
  obtain ⟨-, turned | ⟨-, rfl⟩ | ⟨-, rfl⟩⟩ := relay_turns ran
  · rcases turned with ⟨half, outgoing, rfl⟩ | ⟨half, incoming, rfl⟩
    · refine sound.relayed relays
        (sound.turnOutgoing (toAnnounce_of_relays relays) outgoing ?_)
      rintro ⟨count, rfl⟩
      exact permitted
    · exact sound.relayed relays (sound.turnIncoming incoming)
  · exact sound.relayed relays (sound.abort (Or.inr rfl) (Or.inl rfl))
  · exact sound.relayed relays (sound.abort (Or.inr rfl) (Or.inr rfl))

theorem Sound.refuseBytes (sound : state.Sound config)
    (stepped : state.refuseBytes side = some next) : next.Sound config := by
  obtain ⟨relays, rfl⟩ := refuseBytes_cases stepped
  exact sound.relayed relays (sound.abort (Or.inl rfl) (Or.inr rfl))

/-- A side returns before its relay was started. -/
theorem Sound.giveUp (sound : state.Sound config) (side : Side) :
    (state.giveUp side).Sound config := by
  refine ⟨sound.abort (Or.inr rfl) (Or.inr rfl), sound.target, fun unconnected => ?_,
    fun unconnected running => ?_, fun opening running => ?_⟩
  · cases side with
    | near => exact sound.untouched unconnected
    | far => exact sound.untouched unconnected
  · cases side with
    | near => exact sound.waits unconnected running
    | far => contradiction
  · cases side with
    | near => contradiction
    | far => exact sound.opening opening running

/-! ## Steps of the endpoints and of the connection -/

theorem passage_setLane_other (lane : Lane) :
    (state.setLane side lane).passage config side.other = state.passage config side.other := by
  refine passage_congr ?_ ?_ ?_ rfl
  · exact TunnelState.lane_setLane_other _ _ _
  · cases side <;> rfl
  · cases side <;> rfl

theorem passage_setLane_self (lane : Lane) : (state.setLane side lane).passage config side =
    { given := announced config side ++ lane.sent
      delivered := state.taken config side ++ lane.sink.bytes
      underway := lane.receiver.hand ++ lane.stream.bytes
      waiting := state.toAnnounce side ++ (lane.sender.hand ++ lane.source.bytes)
      accepting := !lane.source.finished
      sending := atWork lane.sender && !state.lost
      receiving := atWork lane.receiver } := by
  have taken : (state.setLane side lane).taken config side = state.taken config side := by
    cases side <;> rfl
  have announcing : (state.setLane side lane).toAnnounce side = state.toAnnounce side := by
    cases side <;> rfl
  rw [passage, taken, announcing]
  simp [setLane]

/-- An endpoint changes what it has sent, or ends its direction. -/
theorem Sound.atSource {lane : Lane} (sound : state.Sound config)
    (passage : ((state.setLane side lane).passage config side).Sound)
    (connected : state.Connected side) (sink : lane.sink = (state.tunnel.lane side).sink)
    (receiver : lane.receiver = (state.tunnel.lane side).receiver)
    (sender : lane.sender = (state.tunnel.lane side).sender) :
    (state.setLane side lane).Sound config := by
  refine ⟨forall_passage side passage ?_, sound.target, fun unconnected => ?_,
    fun unconnected running => ?_, fun opening running => ?_⟩
  · rw [passage_setLane_other]
    exact sound.passage side.other
  · cases side with
    | near => exact ⟨(congrArg ByteStream.bytes sink).trans (sound.untouched unconnected).1,
        (sound.untouched unconnected).2⟩
    | far =>
        obtain ⟨target, relaying⟩ := connected
        exact absurd relaying (unconnected target)
  · cases side with
    | near => exact receiver.trans (sound.waits unconnected running)
    | far => exact sound.waits unconnected running
  · cases side with
    | near => exact sender.trans (sound.opening opening running)
    | far => exact sound.opening opening running

theorem Sound.send {data : List UInt8} (sound : state.Sound config)
    (stepped : state.send side data = some next) : next.Sound config := by
  obtain ⟨connected, unfinished, rfl⟩ := send_cases stepped
  refine sound.atSource ?_ connected rfl rfl rfl
  have accepting : (state.passage config side).accepting = true := by
    simp [StreamState.passage, unfinished]
  have offered := (sound.passage side).offer accepting data
  rw [passage_setLane_self]
  simpa only [StreamState.passage, List.append_assoc, unfinished] using offered

/-- An endpoint ends its direction, with or without what was not read of it. -/
theorem Sound.endSource {source : ByteStream} (sound : state.Sound config)
    (connected : state.Connected side) (ended : source.finished = true)
    (shorter : source.bytes <+: (state.tunnel.lane side).source.bytes) :
    (state.setLane side { state.tunnel.lane side with source }).Sound config := by
  refine sound.atSource ?_ connected rfl rfl rfl
  rw [passage_setLane_self, ended]
  refine (sound.passage side).giveUp rfl rfl (fun receiving => ⟨receiving, List.prefix_rfl⟩)
    (fun _ sending => ⟨sending, rfl, ?_⟩) (fun _ _ => nofun)
  exact (List.prefix_append_right_inj _).mpr ((List.prefix_append_right_inj _).mpr shorter)

theorem Sound.halfClose (sound : state.Sound config)
    (stepped : state.halfClose side = some next) : next.Sound config := by
  obtain ⟨connected, rfl⟩ := halfClose_cases stepped
  exact sound.endSource connected rfl List.prefix_rfl

theorem Sound.reset (sound : state.Sound config) (stepped : state.reset side = some next) :
    next.Sound config := by
  obtain ⟨connected, rfl⟩ := reset_cases stepped
  exact sound.endSource connected rfl List.nil_prefix

theorem Sound.announce {count : Nat} (sound : state.Sound config)
    (stepped : state.announce count = some next) : next.Sound config := by
  obtain ⟨⟨running, connected, positive, available⟩, rfl⟩ := announce_cases stepped
  have unannounced : state.announcing ≠ [] := by
    intro none
    rw [none, List.length_nil] at available
    omega
  have reading := sound.opening unannounced running
  refine ⟨forall_passage .near ?_ ?_, sound.target, sound.untouched, sound.waits,
    fun _ => sound.opening unannounced⟩
  · have moved : ((state.tunnel.lane .near).receiver.hand ++
        ((state.tunnel.lane .near).stream.bytes ++ state.announcing.take count)) ++
          (state.announcing.drop count ++ ((state.tunnel.lane .near).sender.hand ++
            (state.tunnel.lane .near).source.bytes)) =
        (state.passage config .near).underway ++ (state.passage config .near).waiting := by
      simp only [StreamState.passage, toAnnounce, List.append_assoc]
      rw [← List.append_assoc (state.announcing.take count), List.take_append_drop]
    have sending : (state.passage config .near).sending = true := by
      simp [StreamState.passage, reading, atWork, connected]
    exact (sound.passage .near).send moved (Or.inr sending)
  · exact sound.passage .far

theorem Sound.stopAnnouncing (sound : state.Sound config)
    (stepped : state.stopAnnouncing = some next) : next.Sound config := by
  obtain ⟨-, rfl⟩ := stopAnnouncing_cases stepped
  exact sound.giveUp .near

theorem Sound.abandon (sound : state.Sound config) (stepped : state.abandon = some next) :
    next.Sound config := by
  rw [abandon_cases stepped]
  exact sound.giveUp .far

theorem Sound.lose {kept : Side → Nat} (sound : state.Sound config)
    (stepped : state.lose kept = some next) : next.Sound config := by
  obtain rfl := lose_cases stepped
  refine ⟨fun side => ?_, sound.target, sound.untouched, sound.waits, sound.opening⟩
  refine (sound.passage side).giveUp ?_ ?_ (fun receiving => ⟨receiving, ?_⟩) ?_ ?_
  · rfl
  · cases side <;> rfl
  · exact (List.prefix_append_right_inj _).mpr (List.take_prefix _ _)
  · intro _ sending
    simp [StreamState.passage] at sending
  · intro _ sending
    simp [StreamState.passage] at sending

/-! ## The header -/

/-- What has arrived in front of the far side begins with the header. -/
theorem Sound.readHeader_cases (sound : state.Sound config)
    (stepped : state.readHeader config = some next) :
    state.tunnel.returned .far = false ∧ state.stage = .heading ∧
      ∃ rest, (state.tunnel.lane .near).stream.bytes = config.headerBytes ++ rest ∧
        (match config.targetOf config.forwarded.header with
        | some target => next = { state.unread rest with stage := .connecting target }
        | none => next = (state.unread rest).refuse) := by
  unfold readHeader at stepped
  split at stepped
  · rename_i tag body running heading bytes
    have unconnected : state.Unconnected := by
      intro target
      rw [heading]
      exact nofun
    have reading := sound.waits unconnected running
    have arrived : (state.tunnel.lane .near).stream.bytes <+:
        config.headerBytes ++ (config.forwarded.setupBlock ++ (state.tunnel.lane .near).sent) := by
      have front := (sound.passage .near).underway (by
        simp [StreamState.passage, reading, atWork])
      simpa [StreamState.passage, taken, heading, (sound.untouched unconnected).1, reading,
        RelayTask.hand, announced] using front
    rw [bytes] at arrived
    obtain ⟨rfl, front⟩ := List.cons_prefix_cons.mp arrived
    rw [if_pos rfl] at stepped
    split at stepped
    · contradiction
    · rename_i so rest polled
      obtain ⟨same, rfl⟩ := (envelopeFrames config.order).poll_front config.headerFits front polled
      cases same
      refine ⟨running, heading, rest, bytes, ?_⟩
      cases target : config.targetOf config.forwarded.header with
      | some target =>
          rw [target] at stepped
          cases stepped
          rfl
      | none =>
          rw [target] at stepped
          cases stepped
          rfl
    · rename_i envelope rest other polled
      obtain ⟨same, -⟩ := (envelopeFrames config.order).poll_front config.headerFits front polled
      exact absurd same (other _)
  · contradiction

/-- The far side takes the header from the stream. -/
theorem Sound.unread {rest : List UInt8} {stage : FarStage} (sound : state.Sound config)
    (running : state.tunnel.returned .far = false) (heading : state.stage = .heading)
    (bytes : (state.tunnel.lane .near).stream.bytes = config.headerBytes ++ rest)
    (later : stage ≠ .heading) (unconnected : ∀ target, stage ≠ .relaying target)
    (served : ∀ target, stage = .connecting target →
      config.targetOf config.forwarded.header = some target) :
    Sound config { state.unread rest with stage } := by
  have before : state.Unconnected := by
    intro target
    rw [heading]
    exact nofun
  have reading := sound.waits before running
  have untouched := sound.untouched before
  refine ⟨forall_passage .near ?_ ?_, ?_, fun _ => untouched, fun _ _ => reading, sound.opening⟩
  · have moved : (config.headerBytes ++ (state.tunnel.lane .near).sink.bytes) ++
        ((state.tunnel.lane .near).receiver.hand ++ rest) =
          (state.passage config .near).delivered ++ (state.passage config .near).underway := by
      simp [StreamState.passage, taken, heading, untouched.1, reading, RelayTask.hand, bytes]
    have receiving : (state.passage config .near).receiving = true := by
      simp [StreamState.passage, reading, atWork]
    have received := (sound.passage .near).receive receiving moved
    have same : StreamState.passage config { state.unread rest with stage } .near =
        { state.passage config .near with
          delivered := config.headerBytes ++ (state.tunnel.lane .near).sink.bytes
          underway := (state.tunnel.lane .near).receiver.hand ++ rest } := by
      simp [StreamState.passage, StreamState.unread, setLane, taken, later, toAnnounce,
        TunnelState.setLane]
    rw [same]
    exact received
  · exact sound.passage .far
  · rintro target (connecting | relaying)
    · exact served target connecting
    · exact absurd relaying (unconnected target)

theorem Sound.readHeader (sound : state.Sound config)
    (stepped : state.readHeader config = some next) : next.Sound config := by
  obtain ⟨running, heading, rest, bytes, outcome⟩ := sound.readHeader_cases stepped
  split at outcome
  · rename_i target served
    rw [outcome]
    refine sound.unread running heading bytes nofun (fun _ => nofun) ?_
    rintro _ ⟨⟩
    exact served
  · rw [outcome]
    have refused : Sound config { state.unread rest with stage := .refused } :=
      sound.unread running heading bytes nofun (fun _ => nofun) (fun _ => nofun)
    exact refused.giveUp .far

theorem Sound.connect (sound : state.Sound config) (stepped : state.connect = some next) :
    next.Sound config := by
  obtain ⟨target, connecting, rfl⟩ := connect_cases stepped
  refine ⟨fun side => ?_, ?_, fun unconnected => ?_, fun unconnected => ?_, sound.opening⟩
  · have taken : StreamState.taken config { state with stage := .relaying target } side =
        state.taken config side := by
      cases side with
      | near => simp [StreamState.taken, connecting]
      | far => rfl
    have same : StreamState.passage config { state with stage := .relaying target } side =
        state.passage config side :=
      passage_congr rfl taken (by cases side <;> rfl) rfl
    rw [same]
    exact sound.passage side
  · rintro other (connected | relaying)
    · contradiction
    · cases relaying
      exact sound.target target (Or.inl connecting)
  · exact absurd rfl (unconnected target)
  · exact absurd rfl (unconnected target)

theorem Sound.step {action : StreamAction} (sound : state.Sound config)
    (stepped : step config state action = some next) : next.Sound config := by
  cases action with
  | send side data => exact sound.send stepped
  | halfClose side => exact sound.halfClose stepped
  | reset side => exact sound.reset stepped
  | announce count => exact sound.announce stepped
  | stopAnnouncing => exact sound.stopAnnouncing stepped
  | header => exact sound.readHeader stepped
  | connect => exact sound.connect stepped
  | abandon => exact sound.abandon stepped
  | relay side action => exact sound.relay stepped
  | refuseBytes side => exact sound.refuseBytes stepped
  | lose kept => exact sound.lose stepped

end StreamState

end Etr.System