import Etr.Forward.UdpStream

/-!
Contract: a UDP forward from end to end.

Owns the listening side of the client's UDP forwards, from `open_bi` to the end
of its two tasks, together with the stream and the server's forwarding side,
and what any schedule of the whole delivers to whom.

Does not own the resolver, nor the sockets beyond what arrives at them.
-/

namespace Etr.System

open Etr.Library Etr.Protocol Etr.Wire Etr.Forward
open FieldCodec (utf8)

/-- What a forward is given: the header of its specification, which the reader
accepts, and how the program writes and reads addresses. -/
structure ForwardConfig where
  side : ForwardingSide
  header : StreamOpen
  display : IpAddr → String
  parse : String → Option IpAddr
  order : MapOrder
  replyOrder : MapOrder
  headerFits : (envelopeFrames order).Fits (UdpStream.headerEnvelope header)

/-- The header `run_udp_forward_client_socket` writes. -/
def udpForwardHeader (spec : ForwardSpec) : StreamOpen where
  streamId := 0
  streamType := streamTypeToInt32 .portForward
  remoteHost := spec.remoteHost
  remotePort := spec.remotePort.toUInt32
  forwardProto := ForwardProto.toInt32 .udp

/-- The name server behind port 53 of the far host. -/
def ForwardConfig.sample : ForwardConfig where
  side := serverSide
  header := udpForwardHeader ⟨none, 5353, "::1", 53, .udp⟩
  display := sampleDisplay
  parse := sampleParse
  order := .ascending UInt32 UInt64
  replyOrder := .ascending UInt32 UInt64
  headerFits := by
    show (Envelope.encode _ _).length ≤ maxMessageBytes
    decide

/-- Where `run_udp_forward_client_socket` is. -/
inductive ListenPhase where
  /-- In `open_bi`. -/
  | opening
  /-- Writing the stream tag. -/
  | tagging
  /-- Writing the header. -/
  | heading
  /-- Its two tasks are running. -/
  | serving
  | ended
deriving DecidableEq, Repr

structure UdpForward where
  phase : ListenPhase
  encoder : UdpFrameEncoder
  /-- Datagrams of the local senders, oldest first. -/
  received : List (SocketAddr × List UInt8)
  stream : UdpStream
  /-- Datagrams sent to local peers, oldest first. -/
  delivered : List (SocketAddr × List UInt8)

namespace UdpForward

def init : UdpForward where
  phase := .opening
  encoder := .new
  received := []
  stream := .init
  delivered := []

def openStream (forward : UdpForward) (succeeded : Bool) : Option UdpForward :=
  match forward.phase with
  | .opening => some { forward with phase := if succeeded then .tagging else .ended }
  | _ => none

/-- Put bytes on the stream. -/
def write (forward : UdpForward) (bytes : List UInt8) : UdpForward :=
  { forward with stream := { forward.stream with up := forward.stream.up ++ bytes } }

def writeTag (forward : UdpForward) (succeeded : Bool) : Option UdpForward :=
  match forward.phase with
  | .tagging =>
      if succeeded then
        some { forward.write [tagForward] with phase := .heading }
      else
        some { forward with phase := .ended }
  | _ => none

def writeHeader (config : ForwardConfig) (forward : UdpForward) : Option UdpForward :=
  match forward.phase with
  | .heading =>
      some { forward.write (writeEnvelope config.order
        (UdpStream.headerEnvelope config.header)) with phase := .serving }
  | _ => none

/-- The write of the header fails behind some of its bytes. -/
def failHeader (config : ForwardConfig) (forward : UdpForward) (count : Nat) :
    Option UdpForward :=
  match forward.phase with
  | .heading =>
      let framed := writeEnvelope config.order (UdpStream.headerEnvelope config.header)
      if count < framed.length then
        some { forward.write (framed.take count) with phase := .ended }
      else
        none
  | _ => none

/-- `dgram_in`: frame a datagram of a local sender and write it. -/
def receive (config : ForwardConfig) (forward : UdpForward) (src : SocketAddr)
    (data : List UInt8) : Option UdpForward :=
  match forward.phase with
  | .serving =>
      if data.length ≤ receiveBuffer then
        let encoder := forward.encoder.frame config.display config.order src data
        some { forward.write encoder.out with
          encoder := encoder
          received := forward.received ++ [(src, data)] }
      else
        none
  | _ => none

/-- `dgram_in`: the write fails behind some of its bytes, which ends both
tasks. -/
def failReceive (config : ForwardConfig) (forward : UdpForward) (src : SocketAddr)
    (data : List UInt8) (count : Nat) : Option UdpForward :=
  match forward.phase with
  | .serving =>
      let encoder := forward.encoder.frame config.display config.order src data
      if data.length ≤ receiveBuffer ∧ count < encoder.out.length then
        some { forward.write (encoder.out.take count) with
          phase := .ended
          encoder := encoder
          received := forward.received ++ [(src, data)] }
      else
        none
  | _ => none

/-- `dgram_out`: read a reply and send it to its peer. -/
def takeReply (config : ForwardConfig) (forward : UdpForward) : Option UdpForward :=
  match forward.phase with
  | .serving =>
      (forward.stream.takeReply config.parse).map fun taken =>
        { forward with
          stream := taken.1
          delivered := forward.delivered ++ taken.2.toList }
  | _ => none

/-- One of the tasks ends, which aborts the other. -/
def stop (forward : UdpForward) : Option UdpForward :=
  match forward.phase with
  | .serving => some { forward with phase := .ended }
  | _ => none

end UdpForward

inductive ForwardAction where
  | openStream (succeeded : Bool)
  | writeTag (succeeded : Bool)
  | writeHeader
  | failHeader (count : Nat)
  | receive (src : SocketAddr) (data : List UInt8)
  | failReceive (src : SocketAddr) (data : List UInt8) (count : Nat)
  | takeReply
  | stop
  | far (action : FarAction)

def UdpForward.step (config : ForwardConfig) (forward : UdpForward) :
    ForwardAction → Option UdpForward
  | .openStream succeeded => forward.openStream succeeded
  | .writeTag succeeded => forward.writeTag succeeded
  | .writeHeader => forward.writeHeader config
  | .failHeader count => forward.failHeader config count
  | .receive src data => forward.receive config src data
  | .failReceive src data count => forward.failReceive config src data count
  | .takeReply => forward.takeReply config
  | .stop => forward.stop
  | .far action =>
      (forward.stream.step config.side config.replyOrder action).map fun stream =>
        { forward with stream }

/-- The text of every local address can be read back. -/
def ForwardAction.ReadsBack (config : ForwardConfig) : ForwardAction → Prop
  | .receive src _ | .failReceive src _ _ => Forward.ReadsBack config.display config.parse src.ip
  | _ => True

/-! ## What every schedule keeps -/

/-- The datagram on the wire for one of a local sender. -/
def wireDatagram (config : ForwardConfig) (datagram : SocketAddr × List UInt8) : UdpDatagram :=
  ⟨config.display datagram.1.ip, datagram.1.port.toUInt32, datagram.2⟩

/-- What the tunnel knows of the sender of a datagram. -/
def senderKey (config : ForwardConfig) (src : SocketAddr) : PeerKey :=
  (config.display src.ip, src.port.toUInt32)

namespace UdpForward

variable {config : ForwardConfig} {forward next final : UdpForward}
  {actions : List ForwardAction}

/-- How far the stream is, by what the listening side is doing. -/
def Streaming (config : ForwardConfig) (received : List (SocketAddr × List UInt8))
    (read : List UdpDatagram) (stream : UdpStream) : ListenPhase → Prop
  | .opening | .tagging => stream.Headless [] ∧ received = [] ∧ read = []
  | .heading => stream.Headless [tagForward] ∧ received = [] ∧ read = []
  | .serving => stream.Carries config.order config.replyOrder config.header
      (received.map (wireDatagram config)) [] read
  | .ended =>
      ((∃ written, stream.Headless written ∧ UdpStream.Unheaded config.order written) ∧
          received = [] ∧ read = []) ∨
        ∃ whole torn, whole <+: received ∧
          stream.Carries config.order config.replyOrder config.header
            (whole.map (wireDatagram config)) torn read

/-- What is known at any time. -/
structure Sound (config : ForwardConfig) (forward : UdpForward) : Prop where
  cached : UdpFrameEncoder.Cached config.display forward.encoder
  legible : ∀ datagram ∈ forward.received,
    Forward.ReadsBack config.display config.parse datagram.1.ip
  /-- What was sent to local peers are the replies that were read. -/
  streaming : ∃ read, Streaming config forward.received read forward.stream forward.phase ∧
    forward.delivered = read.filterMap fun reply =>
      (datagramPeerAddr config.parse reply.peerAddr reply.peerPort).map fun dest =>
        (dest, reply.data)

theorem sound_init : Sound config init where
  cached := UdpFrameEncoder.cached_new config.display
  legible := List.forall_mem_nil _
  streaming := ⟨[], ⟨UdpStream.headless_init, rfl, rfl⟩, rfl⟩

/-- A frame of the encoder is the message of the datagram. -/
theorem out_frame_eq {encoder : UdpFrameEncoder}
    (cached : UdpFrameEncoder.Cached config.display encoder) (src : SocketAddr)
    (data : List UInt8) :
    (encoder.frame config.display config.order src data).out =
      writeEnvelope config.order (datagramEnvelope (wireDatagram config (src, data))) :=
  UdpFrameEncoder.out_frame config.order cached src data

/-- The listening side takes a step that reads nothing. -/
theorem Sound.listen (sound : Sound config forward) (encoder : next.encoder = forward.encoder)
    (received : next.received = forward.received) (delivered : next.delivered = forward.delivered)
    (streaming : ∀ read, Streaming config forward.received read forward.stream forward.phase →
      Streaming config forward.received read next.stream next.phase) : Sound config next where
  cached := by
    rw [encoder]
    exact sound.cached
  legible := by
    rw [received]
    exact sound.legible
  streaming := by
    obtain ⟨read, held, sent⟩ := sound.streaming
    rw [received, delivered]
    exact ⟨read, streaming read held, sent⟩

theorem Sound.openStream {succeeded : Bool} (sound : Sound config forward)
    (stepped : forward.openStream succeeded = some next) : Sound config next := by
  unfold UdpForward.openStream at stepped
  split at stepped
  · rename_i opening
    cases stepped
    refine sound.listen rfl rfl rfl ?_
    intro read held
    rw [opening] at held
    cases succeeded with
    | true => exact held
    | false => exact Or.inl ⟨⟨[], held.1, Or.inl rfl⟩, held.2⟩
  · contradiction

theorem Sound.writeTag {succeeded : Bool} (sound : Sound config forward)
    (stepped : forward.writeTag succeeded = some next) : Sound config next := by
  unfold UdpForward.writeTag at stepped
  split at stepped
  · rename_i tagging
    split at stepped
    · cases stepped
      refine sound.listen rfl rfl rfl ?_
      intro read held
      rw [tagging] at held
      exact ⟨held.1.write [tagForward], held.2⟩
    · cases stepped
      refine sound.listen rfl rfl rfl ?_
      intro read held
      rw [tagging] at held
      exact Or.inl ⟨⟨[], held.1, Or.inl rfl⟩, held.2⟩
  · contradiction

theorem Sound.writeHeader (sound : Sound config forward)
    (stepped : forward.writeHeader config = some next) : Sound config next := by
  unfold UdpForward.writeHeader at stepped
  split at stepped
  · rename_i heading
    cases stepped
    refine sound.listen rfl rfl rfl ?_
    intro read held
    rw [heading] at held
    obtain ⟨headless, nothing, unread⟩ := held
    rw [nothing, unread]
    exact headless.carries config.headerFits
  · contradiction

theorem Sound.failHeader {count : Nat} (sound : Sound config forward)
    (stepped : forward.failHeader config count = some next) : Sound config next := by
  unfold UdpForward.failHeader at stepped
  split at stepped
  · rename_i heading
    simp only at stepped
    split at stepped
    · rename_i short
      cases stepped
      refine sound.listen rfl rfl rfl ?_
      intro read held
      rw [heading] at held
      have ragged : (envelopeFrames config.order).Torn _ :=
        Or.inr ⟨_, count, config.headerFits, short, rfl⟩
      exact Or.inl ⟨⟨_, held.1.write _, Or.inr ⟨_, rfl, ragged⟩⟩, held.2⟩
    · contradiction
  · contradiction

theorem Sound.receive {src : SocketAddr} {data : List UInt8} (sound : Sound config forward)
    (legible : Forward.ReadsBack config.display config.parse src.ip)
    (stepped : forward.receive config src data = some next) : Sound config next := by
  unfold UdpForward.receive at stepped
  split at stepped
  · rename_i serving
    split at stepped
    · rename_i small
      cases stepped
      refine ⟨sound.cached.frame config.order src data, ?_, ?_⟩
      · intro datagram member
        rcases List.mem_append.mp member with old | new
        · exact sound.legible datagram old
        · rw [List.mem_singleton.mp new]
          exact legible
      · obtain ⟨read, held, sent⟩ := sound.streaming
        rw [serving] at held
        refine ⟨read, ?_, sent⟩
        have carries := UdpStream.Carries.push (wireDatagram config (src, data)) held
          legible.short small
        rw [← out_frame_eq sound.cached, ← List.map_singleton (f := wireDatagram config),
          ← List.map_append] at carries
        show Streaming config _ read _ forward.phase
        rw [serving]
        exact carries
    · contradiction
  · contradiction

theorem Sound.failReceive {src : SocketAddr} {data : List UInt8} {count : Nat}
    (sound : Sound config forward)
    (legible : Forward.ReadsBack config.display config.parse src.ip)
    (stepped : forward.failReceive config src data count = some next) : Sound config next := by
  unfold UdpForward.failReceive at stepped
  split at stepped
  · rename_i serving
    simp only at stepped
    split at stepped
    · rename_i possible
      cases stepped
      refine ⟨sound.cached.frame config.order src data, ?_, ?_⟩
      · intro datagram member
        rcases List.mem_append.mp member with old | new
        · exact sound.legible datagram old
        · rw [List.mem_singleton.mp new]
          exact legible
      · obtain ⟨read, held, sent⟩ := sound.streaming
        rw [serving] at held
        obtain ⟨small, short⟩ := possible
        rw [out_frame_eq sound.cached] at short
        have carries := UdpStream.Carries.tear (wireDatagram config (src, data)) held
          legible.short small short
        rw [← out_frame_eq sound.cached] at carries
        exact ⟨read, Or.inr ⟨_, _, List.prefix_append _ _, carries⟩, sent⟩
    · contradiction
  · contradiction

theorem Sound.takeReply (sound : Sound config forward)
    (stepped : forward.takeReply config = some next) : Sound config next := by
  unfold UdpForward.takeReply at stepped
  split at stepped
  · rename_i serving
    obtain ⟨⟨stream, delivered⟩, taken, rfl⟩ := Option.map_eq_some_iff.mp stepped
    obtain ⟨read, held, sent⟩ := sound.streaming
    rw [serving] at held
    obtain ⟨reply, carries, rfl⟩ := UdpStream.Carries.takeReply held taken
    refine ⟨sound.cached, sound.legible, read ++ [reply], ?_, ?_⟩
    · show Streaming config forward.received (read ++ [reply]) stream forward.phase
      rw [serving]
      exact carries
    · show forward.delivered ++ _ = _
      rw [sent, List.filterMap_append]
      rfl
  · contradiction

theorem Sound.stop (sound : Sound config forward) (stepped : forward.stop = some next) :
    Sound config next := by
  unfold UdpForward.stop at stepped
  split at stepped
  · rename_i serving
    cases stepped
    refine sound.listen rfl rfl rfl ?_
    intro read held
    rw [serving] at held
    exact Or.inr ⟨_, [], List.prefix_refl _, held⟩
  · contradiction

theorem Sound.far {action : FarAction} {stream : UdpStream} (sound : Sound config forward)
    (stepped : forward.stream.step config.side config.replyOrder action = some stream) :
    Sound config { forward with stream } := by
  refine sound.listen rfl rfl rfl ?_
  intro read held
  cases phase : forward.phase with
  | opening =>
      rw [phase] at held
      have unheaded : UdpStream.Unheaded config.order [] := Or.inl rfl
      exact ⟨held.1.step unheaded stepped, held.2⟩
  | tagging =>
      rw [phase] at held
      have unheaded : UdpStream.Unheaded config.order [] := Or.inl rfl
      exact ⟨held.1.step unheaded stepped, held.2⟩
  | heading =>
      rw [phase] at held
      have unheaded : UdpStream.Unheaded config.order [tagForward] :=
        Or.inr ⟨[], rfl, Or.inl rfl⟩
      exact ⟨held.1.step unheaded stepped, held.2⟩
  | serving =>
      rw [phase] at held
      exact UdpStream.Carries.step held stepped
  | ended =>
      rw [phase] at held
      rcases held with ⟨⟨written, headless, unheaded⟩, nothing⟩ | ⟨whole, torn, before, carries⟩
      · exact Or.inl ⟨⟨written, headless.step unheaded stepped, unheaded⟩, nothing⟩
      · exact Or.inr ⟨whole, torn, before, carries.step stepped⟩

theorem Sound.step {action : ForwardAction} (sound : Sound config forward)
    (readsBack : action.ReadsBack config) (stepped : forward.step config action = some next) :
    Sound config next := by
  cases action with
  | openStream succeeded => exact sound.openStream stepped
  | writeTag succeeded => exact sound.writeTag stepped
  | writeHeader => exact sound.writeHeader stepped
  | failHeader count => exact sound.failHeader stepped
  | receive src data => exact sound.receive readsBack stepped
  | failReceive src data count => exact sound.failReceive readsBack stepped
  | takeReply => exact sound.takeReply stepped
  | stop => exact sound.stop stepped
  | far action =>
      obtain ⟨stream, moved, rfl⟩ := Option.map_eq_some_iff.mp stepped
      exact sound.far moved

/-! ## Who gets what -/

section Carried

variable {written : List (SocketAddr × List UInt8)} {torn : List UInt8}
  {read : List UdpDatagram} {stream : UdpStream}

theorem contents_wireDatagram (written : List (SocketAddr × List UInt8)) :
    (written.map (wireDatagram config)).map datagramContent =
      written.map fun datagram => (senderKey config datagram.1, datagram.2) := by
  rw [List.map_map]
  rfl

/-- What is given to `send_to` was written to the stream, in order. -/
theorem sent_sublist
    (carries : stream.Carries config.order config.replyOrder config.header
      (written.map (wireDatagram config)) torn read) :
    (stream.senders.sent.map fun sent => (sent.key, sent.data)).Sublist
      (written.map fun datagram => (senderKey config datagram.1, datagram.2)) := by
  rw [← contents_wireDatagram]
  exact carries.forwarded

/-- A reply with a usable address goes to a sender whose datagram is on the
stream, from the socket of that sender. -/
theorem answer_sender
    (carries : stream.Carries config.order config.replyOrder config.header
      (written.map (wireDatagram config)) torn read)
    (legible : ∀ datagram ∈ written, Forward.ReadsBack config.display config.parse datagram.1.ip)
    {reply : UdpDatagram} (wasRead : reply ∈ read) {dest : SocketAddr}
    (parsed : datagramPeerAddr config.parse reply.peerAddr reply.peerPort = some dest) :
    ∃ src payload, (src, payload) ∈ written ∧ dest = SocketAddr.new src.ip src.port ∧
      ∃ socket, (socket, reply.data) ∈ stream.arrived ∧
        (∃ request ∈ stream.senders.sent, request.socket = socket) ∧
        ∀ request ∈ stream.senders.sent, request.socket = socket →
          request.key = senderKey config src := by
  obtain ⟨socket, arrived, ⟨request, requested, here, own⟩, exclusive⟩ := carries.answer wasRead
  have given : (request.key, request.data) ∈
      written.map fun datagram => (senderKey config datagram.1, datagram.2) :=
    (sent_sublist carries).subset (List.mem_map_of_mem requested)
  obtain ⟨⟨src, payload⟩, listed, same⟩ := List.mem_map.mp given
  have key : senderKey config src = peerKey reply := (congrArg Prod.fst same).trans own
  have address : reply.peerAddr = config.display src.ip := (congrArg Prod.fst key).symm
  have port : reply.peerPort = src.port.toUInt32 := (congrArg Prod.snd key).symm
  refine ⟨src, payload, listed, ?_, socket, arrived, ⟨request, requested, here⟩, ?_⟩
  · rw [address, port] at parsed
    by_cases usable : src.port = 0
    · rw [datagramPeerAddr, usable] at parsed
      contradiction
    · rw [datagramPeerAddr_display (legible _ listed) usable] at parsed
      exact (Option.some.inj parsed).symm
  · intro other otherRequested sameSocket
    rw [key]
    exact exclusive other otherRequested sameSocket

end Carried

/-- **Replies find the sender they answer, and nobody else's datagrams are
mixed in.** In every schedule of the two programs, what is given to `send_to` for
the target is what the local senders sent, each datagram at most once and in
order; whatever is sent to a local peer arrived, from any host, at a socket that
carries only the datagrams of a local sender with that address and port. While
the stream lives and no bind fails, every datagram reaches `send_to`. -/
theorem udp_replies_reach_their_senders
    (readsBack : ∀ action ∈ actions, action.ReadsBack config)
    (executed : run (step config) init actions = some final) :
    ((final.stream.senders.sent.map fun sent => (sent.key, sent.data)).Sublist
        (final.received.map fun datagram => (senderKey config datagram.1, datagram.2))) ∧
      (∀ dest data, (dest, data) ∈ final.delivered →
        ∃ src payload, (src, payload) ∈ final.received ∧
          dest = SocketAddr.new src.ip src.port ∧
          ∃ socket, (socket, data) ∈ final.stream.arrived ∧
            (∃ request ∈ final.stream.senders.sent, request.socket = socket) ∧
            ∀ request ∈ final.stream.senders.sent, request.socket = socket →
              request.key = senderKey config src) ∧
      (final.phase = .serving → final.stream.up = [] → final.stream.senders.logged = [] →
        ∀ demux, final.stream.far = .serving demux →
          (final.stream.senders.sent.map fun sent => (sent.key, sent.data)) =
            final.received.map fun datagram => (senderKey config datagram.1, datagram.2)) := by
  have sound : Sound config final :=
    run_invariant_along (fun sound readsBack stepped => sound.step readsBack stepped) sound_init
      (along_of_forall_mem fun action member _ => readsBack action member) executed
  obtain ⟨read, held, sent⟩ := sound.streaming
  have quiet : ∀ written, final.stream.Headless written →
      final.stream.senders.sent = [] := by
    intro written headless
    rw [headless.senders]
    rfl
  have carried : (final.received = [] ∧ read = [] ∧ final.stream.senders.sent = []) ∨
      ∃ whole torn, whole <+: final.received ∧
        final.stream.Carries config.order config.replyOrder config.header
          (whole.map (wireDatagram config)) torn read := by
    cases phase : final.phase with
    | opening =>
        rw [phase] at held
        exact Or.inl ⟨held.2.1, held.2.2, quiet _ held.1⟩
    | tagging =>
        rw [phase] at held
        exact Or.inl ⟨held.2.1, held.2.2, quiet _ held.1⟩
    | heading =>
        rw [phase] at held
        exact Or.inl ⟨held.2.1, held.2.2, quiet _ held.1⟩
    | serving =>
        rw [phase] at held
        exact Or.inr ⟨final.received, [], List.prefix_refl _, held⟩
    | ended =>
        rw [phase] at held
        rcases held with ⟨⟨written, headless, -⟩, nothing, unread⟩ | streamed
        · exact Or.inl ⟨nothing, unread, quiet _ headless⟩
        · exact Or.inr streamed
  refine ⟨?_, ?_, ?_⟩
  · rcases carried with ⟨-, -, unsent⟩ | ⟨whole, torn, before, carries⟩
    · rw [unsent]
      exact List.nil_sublist _
    · exact (sent_sublist carries).trans (before.map _).sublist
  · intro dest data member
    rw [sent] at member
    obtain ⟨reply, wasRead, addressed⟩ := List.mem_filterMap.mp member
    obtain ⟨place, parsed, same⟩ := Option.map_eq_some_iff.mp addressed
    cases same
    rcases carried with ⟨-, unread, -⟩ | ⟨whole, torn, before, carries⟩
    · rw [unread] at wasRead
      contradiction
    · obtain ⟨src, payload, listed, answered⟩ := answer_sender carries
        (fun datagram member => sound.legible datagram (before.subset member)) wasRead parsed
      exact ⟨src, payload, before.subset listed, answered⟩
  · intro serving emptied boundAll demux far
    rw [serving] at held
    have addressed : ∀ dgram ∈ final.received.map (wireDatagram config),
        dgram.peerAddr.isEmpty = false := by
      intro dgram member
      obtain ⟨datagram, received, rfl⟩ := List.mem_map.mp member
      exact (sound.legible datagram received).nonempty
    have complete := UdpStream.Carries.complete held far emptied addressed boundAll
    rw [contents_wireDatagram] at complete
    exact complete

/-- One sender, its datagram, and the answer to it. -/
def echo : List ForwardAction :=
  [.openStream true, .writeTag true, .writeHeader, .far (.header (some linkLocalPeer)),
    .receive globalPeer [1], .far (.datagram 0 (.ok ()) ("", 0)), .far (.task 0 0 .beginWait),
    .far (.task 1 0 (.arrive [2])), .far (.task 1 0 .read), .far .collect, .takeReply]

theorem echo_reaches_its_sender :
    ∃ final, run (step .sample) init echo = some final ∧ (globalPeer, [2]) ∈ final.delivered ∧
      ∃ src payload, (src, payload) ∈ final.received ∧
        globalPeer = SocketAddr.new src.ip src.port := by
  have answered : (run (step .sample) init echo).any (fun final =>
      decide ((globalPeer, [2]) ∈ final.delivered)) = true := by
    decide +kernel
  obtain ⟨final, executed, answered⟩ := (Option.any_eq_true _ _).mp answered
  have answered := of_decide_eq_true answered
  have legible : ∀ action ∈ echo, action.ReadsBack .sample := by
    simp [echo, ForwardAction.ReadsBack, ForwardConfig.sample, readsBack_globalPeer]
  obtain ⟨-, replies, -⟩ := udp_replies_reach_their_senders legible executed
  obtain ⟨src, payload, received, same, -⟩ := replies globalPeer [2] answered
  exact ⟨final, executed, answered, src, payload, received, same⟩

end UdpForward

end Etr.System
