import Etr.Library.FramedPipe
import Etr.Forward.ReverseAuth
import Etr.Forward.SenderFlows

/-!
Contract: a QUIC stream that carries UDP datagrams, with the side behind it that
talks to their target.

Owns the envelopes on such a stream as frames of a pipe, the forwarding side of
both programs from the stream header to its last reply, and what the two
directions of the stream hold at any time.

Does not own the listening side, nor how a target name is resolved.
-/

namespace Etr.Forward

open Etr.Library Etr.Protocol Etr.Wire

/-! ## Envelopes in a pipe -/

/-- The next envelope that has arrived whole. -/
def pollEnvelope (bytes : List UInt8) : Option (Envelope × List UInt8) :=
  match InboundStream.pollMsg Envelope.decode ⟨bytes, none⟩ with
  | some (.ok (some (envelope, rest))) => some (envelope, rest.bytes)
  | _ => none

/-- `write_msg`. -/
def writeEnvelope (order : MapOrder) (envelope : Envelope) : List UInt8 :=
  writeMsg (Envelope.encode order) envelope

theorem length_writeEnvelope (order : MapOrder) (envelope : Envelope) :
    (writeEnvelope order envelope).length = 4 + (Envelope.encode order envelope).length := by
  simp [writeEnvelope, writeMsg, writeFramed]

/-- The length prefix of the front of a message is the message's. -/
theorem fromBeBytes_take_writeEnvelope {order : MapOrder} {envelope : Envelope}
    (fits : (Envelope.encode order envelope).length ≤ maxMessageBytes) {count : Nat}
    (header : 4 ≤ count) :
    fromBeBytes (((writeEnvelope order envelope).take count).take 4) =
      (Envelope.encode order envelope).length := by
  rw [List.take_take, Nat.min_eq_left header, writeEnvelope, writeMsg, writeFramed,
    List.take_left' (length_toBeBytes 4 _)]
  exact fromBeBytes_toBeBytes_of_lt (Nat.lt_of_le_of_lt fits (by decide))

/-- Nothing is read from the front of a message. -/
theorem pollEnvelope_cut {order : MapOrder} {envelope : Envelope}
    (fits : (Envelope.encode order envelope).length ≤ maxMessageBytes) {count : Nat}
    (short : count < (writeEnvelope order envelope).length) :
    pollEnvelope ((writeEnvelope order envelope).take count) = none := by
  have incomplete : ¬ InboundStream.CompleteMessage Envelope.decode
      ⟨(writeEnvelope order envelope).take count, none⟩ := by
    rintro ⟨prefixArrived, -, bodyArrived, -⟩
    have taken : ((writeEnvelope order envelope).take count).length = count :=
      List.length_take_of_le (Nat.le_of_lt short)
    rw [taken] at prefixArrived
    rw [fromBeBytes_take_writeEnvelope fits prefixArrived, List.length_drop, taken] at bodyArrived
    rw [length_writeEnvelope] at short
    omega
  unfold pollEnvelope
  split
  · rename_i read
    exact absurd (InboundStream.complete_of_pollMsg read) incomplete
  · rfl

theorem pollEnvelope_write {order : MapOrder} {envelope : Envelope}
    (fits : (Envelope.encode order envelope).length ≤ maxMessageBytes) (rest : List UInt8) :
    pollEnvelope (writeEnvelope order envelope ++ rest) = some (envelope, rest) := by
  have read : RecvStream.readMsg Envelope.decode
      ⟨writeEnvelope order envelope ++ rest, .lost⟩ = .ok (some (envelope, ⟨rest, .lost⟩)) :=
    readMsg_writeMsg (envelopeCodec order) fits rest .lost
  have ready : ¬ InboundStream.MessagePending ⟨writeEnvelope order envelope ++ rest, none⟩ := by
    rintro ⟨-, short | ⟨-, short⟩⟩
    · simp only [List.length_append, length_writeEnvelope] at short
      omega
    · have prefixed : (writeEnvelope order envelope ++ rest).take 4 =
          ((writeEnvelope order envelope).take 4).take 4 := by
        rw [List.take_take, Nat.min_self, List.take_append_of_le_length]
        rw [length_writeEnvelope]
        omega
      simp only [prefixed, fromBeBytes_take_writeEnvelope fits (Nat.le_refl 4),
        List.length_append, length_writeEnvelope] at short
      omega
  simp only [pollEnvelope, InboundStream.pollMsg, if_neg ready, InboundStream.settled,
    Option.getD_none, read]
  rfl

/-- The envelopes of a stream, in the writer's map order. -/
def envelopeFrames (order : MapOrder) : Frames Envelope where
  write := writeEnvelope order
  poll := pollEnvelope
  Fits envelope := (Envelope.encode order envelope).length ≤ maxMessageBytes
  poll_nil := rfl
  poll_write _ fits rest := pollEnvelope_write fits rest
  poll_cut _ fits _ short := pollEnvelope_cut fits short

/-- The envelope of one datagram. -/
def datagramEnvelope (dgram : UdpDatagram) : Envelope :=
  ⟨some (.udpDatagram dgram)⟩

/-- Datagrams with the text of an address fit. -/
theorem datagram_fits (order : MapOrder) {dgram : UdpDatagram}
    (address : (FieldCodec.utf8 dgram.peerAddr).length ≤ 45)
    (data : dgram.data.length ≤ receiveBuffer) :
    (envelopeFrames order).Fits (datagramEnvelope dgram) := by
  have inner := length_encode_datagram_le order dgram
  have outer := length_encode_delimited_le 12 (UdpDatagram.schema.encode order dgram)
  have limit : receiveBuffer + 200 ≤ maxMessageBytes := by decide
  show (Envelope.encode order (datagramEnvelope dgram)).length ≤ maxMessageBytes
  rw [datagramEnvelope, UdpFrameEncoder.encode_udpDatagram, embeddedEncode]
  omega

/-! ## The forwarding side -/

/-- Which streams a program forwards to a UDP target, and with which loop. -/
structure ForwardingSide where
  serves : StreamOpen → Bool
  demux : SocketAddr → Demux

/-- `dispatch_task` of the server, behind a forward tag. -/
def serverSide : ForwardingSide where
  serves so := decide ((ForwardProto.ofInt32? so.forwardProto).getD .tcp = .udp)
  demux := serveUdpForward

/-- How far the forwarding side is with a stream. -/
inductive FarPhase where
  /-- Reading the tag and the header. -/
  | heading
  | serving (demux : Demux)
  /-- It has returned, or was aborted. -/
  | ended

structure UdpStream where
  /-- Written by the listening side, and not read yet. -/
  up : List UInt8
  far : FarPhase
  senders : DemuxState
  /-- What arrived at the sockets of the forwarding side. -/
  arrived : List (Nat × List UInt8)
  /-- Replies `reply_task` has written. -/
  collected : Nat
  /-- Written by the forwarding side, and not read yet. -/
  down : List UInt8

namespace UdpStream

/-- A stream that was just opened. -/
def init : UdpStream where
  up := []
  far := .heading
  senders := .init
  arrived := []
  collected := 0
  down := []

/-- Read the tag and the header, and resolve the target. -/
def takeHeader (side : ForwardingSide) (stream : UdpStream) (resolved : Option SocketAddr) :
    Option UdpStream :=
  match stream.far, stream.up with
  | .heading, tag :: body =>
      if tag = tagForward then
        match pollEnvelope body with
        | none => none
        | some (⟨some (.streamOpen so)⟩, rest) =>
            match side.serves so, resolved with
            | true, some target =>
                some { stream with up := rest, far := .serving (side.demux target) }
            | true, none | false, _ => some { stream with up := rest, far := .ended }
        | some (_, rest) => some { stream with up := rest, far := .ended }
      else
        some { stream with up := body, far := .ended }
  | _, _ => none

/-- `send_task`: read one envelope; a datagram goes to its target. -/
def takeDatagram (stream : UdpStream) (time : Nat) (bind : Except String Unit)
    (victim : PeerKey) : Option UdpStream :=
  match stream.far with
  | .serving demux =>
      match pollEnvelope stream.up with
      | none => none
      | some (⟨some (.udpDatagram dgram)⟩, rest) =>
          (stream.senders.step demux ⟨time, .datagram dgram bind victim⟩).map fun senders =>
            { stream with up := rest, senders }
      | some (_, rest) => some { stream with up := rest }
  | _ => none

/-- Something happens at a bound socket. A datagram has at most 65535 bytes. -/
def moveTask (stream : UdpStream) (time socket : Nat) (move : TaskMove) : Option UdpStream :=
  match stream.far with
  | .serving demux =>
      if socket < stream.senders.nextSocket ∧
          ∀ arrival ∈ move.arrival? socket, arrival.2.length ≤ receiveBuffer then
        (stream.senders.step demux ⟨time, .task socket move⟩).map fun senders =>
          { stream with senders, arrived := stream.arrived ++ move.arrival? socket }
      else
        none
  | _ => none

/-- `reply_task`: write the oldest reply. -/
def collect (order : MapOrder) (stream : UdpStream) : Option UdpStream :=
  match stream.far, stream.senders.returned[stream.collected]? with
  | .serving _, some reply =>
      some { stream with
        collected := stream.collected + 1
        down := stream.down ++ writeEnvelope order (datagramEnvelope reply.dgram) }
  | _, _ => none

/-- `reply_task`: the write fails behind some of its bytes, and the task ends. -/
def failCollect (order : MapOrder) (stream : UdpStream) (count : Nat) : Option UdpStream :=
  match stream.far, stream.senders.returned[stream.collected]? with
  | .serving _, some reply =>
      let framed := writeEnvelope order (datagramEnvelope reply.dgram)
      if count < framed.length then
        some { stream with far := .ended, down := stream.down ++ framed.take count }
      else
        none
  | _, _ => none

/-- The forwarding side returns or is aborted. -/
def finish (stream : UdpStream) : Option UdpStream :=
  some { stream with far := .ended }

/-- Listening side: read one envelope. A datagram whose peer is an address is
sent there. -/
def takeReply (parse : String → Option IpAddr) (stream : UdpStream) :
    Option (UdpStream × Option (SocketAddr × List UInt8)) :=
  match pollEnvelope stream.down with
  | none => none
  | some (⟨some (.udpDatagram dgram)⟩, rest) =>
      some ({ stream with down := rest },
        (datagramPeerAddr parse dgram.peerAddr dgram.peerPort).map fun dest => (dest, dgram.data))
  | some (_, rest) => some ({ stream with down := rest }, none)

end UdpStream

/-- What the forwarding side of a stream does. -/
inductive FarAction where
  | header (resolved : Option SocketAddr)
  | datagram (time : Nat) (bind : Except String Unit) (victim : PeerKey)
  | task (time socket : Nat) (move : TaskMove)
  | collect
  | failCollect (count : Nat)
  | finish

def UdpStream.step (side : ForwardingSide) (order : MapOrder) (stream : UdpStream) :
    FarAction → Option UdpStream
  | .header resolved => stream.takeHeader side resolved
  | .datagram time bind victim => stream.takeDatagram time bind victim
  | .task time socket move => stream.moveTask time socket move
  | .collect => stream.collect order
  | .failCollect count => stream.failCollect order count
  | .finish => stream.finish

/-! ## Streams without a whole header -/

namespace UdpStream

variable {side : ForwardingSide} {order replyOrder : MapOrder} {stream next : UdpStream}
  {written : List UInt8} {header : StreamOpen} {sent read : List UdpDatagram}
  {torn : List UInt8}

/-- The envelope of a header. -/
def headerEnvelope (header : StreamOpen) : Envelope :=
  ⟨some (.streamOpen header)⟩

/-- Nothing but `written` was put on the stream, and nothing came of it. -/
structure Headless (written : List UInt8) (stream : UdpStream) : Prop where
  unread : stream.far = .heading → stream.up = written
  waiting : ∀ demux, stream.far ≠ .serving demux
  senders : stream.senders = .init
  arrived : stream.arrived = []
  collected : stream.collected = 0
  down : stream.down = []

theorem headless_init : init.Headless [] where
  unread := fun _ => rfl
  waiting := fun _ => nofun
  senders := rfl
  arrived := rfl
  collected := rfl
  down := rfl

/-- The tag and the front of a header. -/
def Unheaded (order : MapOrder) (written : List UInt8) : Prop :=
  written = [] ∨ ∃ torn, written = tagForward :: torn ∧ (envelopeFrames order).Torn torn

/-- The forwarding side does not get past an incomplete header. -/
theorem Headless.step {action : FarAction} (headless : stream.Headless written)
    (unheaded : Unheaded order written) (stepped : stream.step side replyOrder action = some next) :
    next.Headless written := by
  have ended : ∀ up, Headless written { stream with up, far := .ended } := fun up =>
    ⟨nofun, fun _ => nofun, headless.senders, headless.arrived, headless.collected,
      headless.down⟩
  obtain ⟨up, far, senders, arrived, collected, down⟩ := stream
  cases action with
  | header resolved =>
      cases far with
      | heading =>
          obtain rfl : up = written := headless.unread rfl
          rcases unheaded with rfl | ⟨torn, rfl, ragged⟩
          · contradiction
          · have nothing : pollEnvelope torn = none := Frames.poll_torn ragged
            simp only [UdpStream.step, takeHeader, if_pos, nothing] at stepped
            contradiction
      | serving demux => contradiction
      | ended => contradiction
  | datagram time bind victim =>
      cases far with
      | heading => contradiction
      | serving demux => exact absurd rfl (headless.waiting demux)
      | ended => contradiction
  | task time socket move =>
      cases far with
      | heading => contradiction
      | serving demux => exact absurd rfl (headless.waiting demux)
      | ended => contradiction
  | collect =>
      cases far with
      | heading => contradiction
      | serving demux => exact absurd rfl (headless.waiting demux)
      | ended => contradiction
  | failCollect count =>
      cases far with
      | heading => contradiction
      | serving demux => exact absurd rfl (headless.waiting demux)
      | ended => contradiction
  | finish =>
      cases stepped
      exact ended up

/-- Nothing comes back from a stream without a header. -/
theorem Headless.takeReply {parse : String → Option IpAddr} (headless : stream.Headless written) :
    stream.takeReply parse = none := by
  rw [UdpStream.takeReply, headless.down]
  rfl

/-- More bytes are put on the stream. -/
theorem Headless.write (headless : stream.Headless written) (bytes : List UInt8) :
    Headless (written ++ bytes) { stream with up := stream.up ++ bytes } where
  unread := fun waiting => congrArg (· ++ bytes) (headless.unread waiting)
  waiting := headless.waiting
  senders := headless.senders
  arrived := headless.arrived
  collected := headless.collected
  down := headless.down

/-! ## Streams with a header -/

/-- What is unread in front of the forwarding side: the header, if it was not
read, and the datagrams it has not taken. -/
inductive Awaits (order : MapOrder) (header : StreamOpen) (left : List UdpDatagram)
    (torn : List UInt8) : FarPhase → List UInt8 → Prop
  | heading {body : List UInt8}
      (holds : (envelopeFrames order).Holds body
        (headerEnvelope header :: left.map datagramEnvelope) torn) :
      Awaits order header left torn .heading (tagForward :: body)
  | serving {demux : Demux} {up : List UInt8}
      (holds : (envelopeFrames order).Holds up (left.map datagramEnvelope) torn) :
      Awaits order header left torn (.serving demux) up
  | ended {up : List UInt8} : Awaits order header left torn .ended up

/-- What is unread in front of the listening side: replies, oldest first, and a
torn one only if the forwarding side has ended. -/
def Returns (replyOrder : MapOrder) (waiting : List UdpDatagram) (stream : UdpStream) : Prop :=
  ∃ torn, (envelopeFrames replyOrder).Holds stream.down (waiting.map datagramEnvelope) torn ∧
    (stream.far ≠ .ended → torn = [])

/-- The listening side has written the header, these datagrams whole and `torn`
behind them, and has read these replies. -/
structure Carries (order replyOrder : MapOrder) (header : StreamOpen) (sent : List UdpDatagram)
    (torn : List UInt8) (read : List UdpDatagram) (stream : UdpStream) : Prop where
  small : ∀ dgram ∈ sent, (FieldCodec.utf8 dgram.peerAddr).length ≤ 45
  upward : ∃ taken left, sent = taken ++ left ∧ Awaits order header left torn stream.far stream.up ∧
    DemuxState.Relayed taken stream.arrived stream.senders
  downward : ∃ waiting, (stream.senders.returned.take stream.collected).map
      ReturnedDatagram.dgram = read ++ waiting ∧ Returns replyOrder waiting stream
  counted : stream.collected ≤ stream.senders.returned.length
  received : ∀ arrival ∈ stream.arrived, arrival.2.length ≤ receiveBuffer

/-- The header is complete. -/
theorem Headless.carries (headless : stream.Headless [tagForward])
    (fits : (envelopeFrames order).Fits (headerEnvelope header)) :
    Carries order replyOrder header [] [] []
      { stream with up := stream.up ++ writeEnvelope order (headerEnvelope header) } where
  small := List.forall_mem_nil _
  upward := by
    have relayed : DemuxState.Relayed [] stream.arrived stream.senders := by
      rw [headless.arrived, headless.senders]
      exact DemuxState.relayed_init
    refine ⟨[], [], rfl, ?_, relayed⟩
    cases phase : stream.far with
    | heading =>
        have empty : (envelopeFrames order).Holds [] [] [] := Frames.holds_nil
        have holds := empty.push fits
        rw [headless.unread phase]
        exact .heading holds
    | serving demux => exact absurd phase (headless.waiting demux)
    | ended => exact .ended
  downward := by
    refine ⟨[], ?_, [], ?_, fun _ => rfl⟩
    · rw [headless.collected]
      rfl
    · rw [headless.down]
      exact Frames.holds_nil
  counted := by
    rw [headless.collected]
    exact Nat.zero_le _
  received := by
    rw [headless.arrived]
    exact List.forall_mem_nil _

section Listening

variable {dgram : UdpDatagram}

/-- One more datagram is written. -/
theorem Awaits.push {phase : FarPhase} {up : List UInt8} {left : List UdpDatagram}
    (awaits : Awaits order header left [] phase up)
    (fits : (envelopeFrames order).Fits (datagramEnvelope dgram)) :
    Awaits order header (left ++ [dgram]) [] phase
      (up ++ writeEnvelope order (datagramEnvelope dgram)) := by
  cases awaits with
  | heading holds =>
      have longer := holds.push fits
      rw [List.cons_append, ← List.map_singleton, ← List.map_append] at longer
      exact .heading longer
  | serving holds =>
      have longer := holds.push fits
      rw [← List.map_singleton, ← List.map_append] at longer
      exact .serving longer
  | ended => exact .ended

/-- A datagram is written in part. -/
theorem Awaits.tear {phase : FarPhase} {up : List UInt8} {left : List UdpDatagram}
    (awaits : Awaits order header left [] phase up)
    (fits : (envelopeFrames order).Fits (datagramEnvelope dgram)) {count : Nat}
    (short : count < (writeEnvelope order (datagramEnvelope dgram)).length) :
    Awaits order header left ((writeEnvelope order (datagramEnvelope dgram)).take count) phase
      (up ++ (writeEnvelope order (datagramEnvelope dgram)).take count) := by
  cases awaits with
  | heading holds => exact .heading (holds.tear fits short)
  | serving holds => exact .serving (holds.tear fits short)
  | ended => exact .ended

theorem Carries.push (dgram : UdpDatagram)
    (carries : Carries order replyOrder header sent [] read stream)
    (address : (FieldCodec.utf8 dgram.peerAddr).length ≤ 45)
    (data : dgram.data.length ≤ receiveBuffer) :
    Carries order replyOrder header (sent ++ [dgram]) [] read
      { stream with up := stream.up ++ writeEnvelope order (datagramEnvelope dgram) } where
  small := by
    intro other member
    rcases List.mem_append.mp member with old | new
    · exact carries.small other old
    · rw [List.mem_singleton.mp new]
      exact address
  upward := by
    obtain ⟨taken, left, rfl, awaits, relayed⟩ := carries.upward
    exact ⟨taken, left ++ [dgram], List.append_assoc _ _ _,
      awaits.push (datagram_fits order address data), relayed⟩
  downward := carries.downward
  counted := carries.counted
  received := carries.received

theorem Carries.tear (dgram : UdpDatagram)
    (carries : Carries order replyOrder header sent [] read stream)
    (address : (FieldCodec.utf8 dgram.peerAddr).length ≤ 45)
    (data : dgram.data.length ≤ receiveBuffer) {count : Nat}
    (short : count < (writeEnvelope order (datagramEnvelope dgram)).length) :
    Carries order replyOrder header sent
      ((writeEnvelope order (datagramEnvelope dgram)).take count) read
      { stream with
        up := stream.up ++ (writeEnvelope order (datagramEnvelope dgram)).take count } where
  small := carries.small
  upward := by
    obtain ⟨taken, left, rfl, awaits, relayed⟩ := carries.upward
    exact ⟨taken, left, rfl, awaits.tear (datagram_fits order address data) short, relayed⟩
  downward := carries.downward
  counted := carries.counted
  received := carries.received

/-- What the listening side reads is the next reply. -/
theorem Carries.takeReply {parse : String → Option IpAddr}
    {delivered : Option (SocketAddr × List UInt8)}
    (carries : Carries order replyOrder header sent torn read stream)
    (taken : stream.takeReply parse = some (next, delivered)) :
    ∃ reply, Carries order replyOrder header sent torn (read ++ [reply]) next ∧
      delivered = (datagramPeerAddr parse reply.peerAddr reply.peerPort).map
        fun dest => (dest, reply.data) := by
  obtain ⟨waiting, replies, ragged, holds, whole⟩ := carries.downward
  unfold UdpStream.takeReply at taken
  cases polled : pollEnvelope stream.down with
  | none =>
      rw [polled] at taken
      contradiction
  | some found =>
      obtain ⟨envelope, rest⟩ := found
      obtain ⟨others, queue, onward⟩ := holds.pull polled
      cases waiting with
      | nil => contradiction
      | cons reply more =>
          rw [List.map_cons, List.cons.injEq] at queue
          obtain ⟨rfl, rfl⟩ := queue
          rw [polled] at taken
          cases taken
          refine ⟨reply, ?_, rfl⟩
          refine ⟨carries.small, carries.upward, ⟨more, ?_, ragged, onward, whole⟩,
            carries.counted, carries.received⟩
          rw [List.append_assoc]
          exact replies

end Listening

section Forwarding

/-- What is waiting to be read stays, whatever else the stream does. -/
theorem Returns.stay {waiting : List UdpDatagram} (returns : Returns replyOrder waiting stream)
    (same : next.down = stream.down) (ends : next.far ≠ .ended → stream.far ≠ .ended) :
    Returns replyOrder waiting next := by
  obtain ⟨ragged, holds, whole⟩ := returns
  exact ⟨ragged, by rw [same]; exact holds, fun serving => whole (ends serving)⟩

/-- Replies the forwarding side returns later are not collected yet. -/
theorem take_returned {returned later : List ReturnedDatagram} {count : Nat}
    (counted : count ≤ returned.length) : (returned ++ later).take count = returned.take count :=
  List.take_append_of_le_length counted

/-- The loop over datagrams and the tasks only add replies. -/
theorem returned_of_step {demux : Demux} {senders moved : DemuxState} {timed : TimedDemuxAction}
    (sound : senders.Sound) (stepped : senders.step demux timed = some moved) :
    ∃ later, moved.returned = senders.returned ++ later := by
  obtain ⟨-, acted, did, rfl⟩ := DemuxState.step_eq_some.mp stepped
  obtain ⟨time, action⟩ := timed
  cases action with
  | datagram dgram bind victim =>
      refine ⟨[], ?_⟩
      rw [List.append_nil]
      cases DemuxState.processed_of_process did with
      | unaddressed empty => rfl
      | known addressed member own => rfl
      | bindFailed addressed absent failed => rfl
      | inserted addressed absent bound made => rfl
  | task socket move =>
      obtain ⟨later, added, -⟩ := (DemuxState.taskMoved_of_actTask did).origin sound
      exact ⟨later, added⟩

theorem Carries.takeHeader {resolved : Option SocketAddr}
    (carries : Carries order replyOrder header sent torn read stream)
    (stepped : stream.takeHeader side resolved = some next) :
    Carries order replyOrder header sent torn read next := by
  obtain ⟨taken, left, split, awaits, relayed⟩ := carries.upward
  obtain ⟨waiting, replies, returns⟩ := carries.downward
  obtain ⟨up, far, senders, arrived, collected, down⟩ := stream
  cases awaits with
  | serving holds => contradiction
  | ended => contradiction
  | @heading body holds =>
      have moved : ∀ rest later, Awaits order header left torn later rest →
          Carries order replyOrder header sent torn read
            ⟨rest, later, senders, arrived, collected, down⟩ :=
        fun rest later awaits => ⟨carries.small, ⟨taken, left, split, awaits, relayed⟩,
          ⟨waiting, replies, returns.stay rfl fun _ => nofun⟩, carries.counted, carries.received⟩
      simp only [UdpStream.takeHeader, if_pos] at stepped
      cases polled : pollEnvelope body with
      | none =>
          rw [polled] at stepped
          contradiction
      | some found =>
          obtain ⟨envelope, rest⟩ := found
          obtain ⟨others, queue, onward⟩ := holds.pull polled
          rw [List.cons.injEq] at queue
          obtain ⟨rfl, rfl⟩ := queue
          rw [polled] at stepped
          simp only [headerEnvelope] at stepped
          split at stepped
          · cases stepped
            exact moved rest _ (.serving onward)
          · cases stepped
            exact moved rest _ .ended
          · cases stepped
            exact moved rest _ .ended

theorem Carries.takeDatagram {time : Nat} {bind : Except String Unit} {victim : PeerKey}
    (carries : Carries order replyOrder header sent torn read stream)
    (stepped : stream.takeDatagram time bind victim = some next) :
    Carries order replyOrder header sent torn read next := by
  obtain ⟨taken, left, split, awaits, relayed⟩ := carries.upward
  obtain ⟨waiting, replies, returns⟩ := carries.downward
  obtain ⟨up, far, senders, arrived, collected, down⟩ := stream
  cases awaits with
  | heading holds => contradiction
  | ended => contradiction
  | @serving demux _ holds =>
      simp only [UdpStream.takeDatagram] at stepped
      cases polled : pollEnvelope up with
      | none =>
          rw [polled] at stepped
          contradiction
      | some found =>
          obtain ⟨envelope, rest⟩ := found
          obtain ⟨others, queue, onward⟩ := holds.pull polled
          cases left with
          | nil => contradiction
          | cons dgram more =>
              rw [List.map_cons, List.cons.injEq] at queue
              obtain ⟨rfl, rfl⟩ := queue
              rw [polled] at stepped
              simp only [datagramEnvelope] at stepped
              obtain ⟨moved, ran, rfl⟩ := Option.map_eq_some_iff.mp stepped
              obtain ⟨later, returned⟩ := returned_of_step relayed.sound ran
              obtain ⟨notBefore, acted, did, rfl⟩ := DemuxState.step_eq_some.mp ran
              refine ⟨carries.small, ⟨taken ++ [dgram], more, ?_, .serving onward, ?_⟩,
                ⟨waiting, ?_, returns.stay rfl fun _ => nofun⟩, ?_, carries.received⟩
              · rw [split, List.append_assoc]
                rfl
              · exact relayed.process notBefore (DemuxState.processed_of_process did)
              · rw [returned, take_returned carries.counted]
                exact replies
              · rw [returned, List.length_append]
                exact Nat.le_trans carries.counted (Nat.le_add_right _ _)

theorem Carries.moveTask {time socket : Nat} {move : TaskMove}
    (carries : Carries order replyOrder header sent torn read stream)
    (stepped : stream.moveTask time socket move = some next) :
    Carries order replyOrder header sent torn read next := by
  obtain ⟨taken, left, split, awaits, relayed⟩ := carries.upward
  obtain ⟨waiting, replies, returns⟩ := carries.downward
  obtain ⟨up, far, senders, arrived, collected, down⟩ := stream
  cases awaits with
  | heading holds => contradiction
  | ended => contradiction
  | @serving demux _ holds =>
      simp only [UdpStream.moveTask] at stepped
      split at stepped
      · rename_i allowed
        obtain ⟨moved, ran, rfl⟩ := Option.map_eq_some_iff.mp stepped
        obtain ⟨later, returned⟩ := returned_of_step relayed.sound ran
        have sound := DemuxState.sound_of_step relayed.sound ran
        obtain ⟨notBefore, acted, did, rfl⟩ := DemuxState.step_eq_some.mp ran
        refine ⟨carries.small, ⟨taken, left, split, .serving holds, ?_⟩,
          ⟨waiting, ?_, returns.stay rfl fun _ => nofun⟩, ?_, ?_⟩
        · exact relayed.moveTask allowed.1 (DemuxState.taskMoved_of_actTask did) sound
        · rw [returned, take_returned carries.counted]
          exact replies
        · rw [returned, List.length_append]
          exact Nat.le_trans carries.counted (Nat.le_add_right _ _)
        · intro arrival member
          rcases List.mem_append.mp member with old | new
          · exact carries.received arrival old
          · exact allowed.2 arrival new
      · contradiction

/-- A reply that is not collected yet fits: its peer is a sender's, and its data
arrived at a socket. -/
theorem Carries.reply_fits (carries : Carries order replyOrder header sent torn read stream)
    {reply : ReturnedDatagram} (member : reply ∈ stream.senders.returned) :
    (envelopeFrames replyOrder).Fits (datagramEnvelope reply.dgram) := by
  obtain ⟨taken, left, split, -, relayed⟩ := carries.upward
  obtain ⟨request, requested, -, own⟩ := relayed.answered reply member
  have origin : (request.key, request.data) ∈ taken.map datagramContent :=
    relayed.forwarded.subset (List.mem_map_of_mem requested)
  obtain ⟨dgram, given, same⟩ := List.mem_map.mp origin
  have address : dgram.peerAddr = reply.dgram.peerAddr := by
    have keys : peerKey dgram = peerKey reply.dgram := (congrArg Prod.fst same).trans own
    exact congrArg Prod.fst keys
  have short := carries.small dgram (by rw [split]; exact List.mem_append_left _ given)
  have replied : reply.dgram.data ∈ repliesAt reply.socket stream.senders.returned :=
    List.mem_filterMap.mpr ⟨reply, member, if_pos rfl⟩
  have arrived := mem_of_mem_arrivalsAt ((relayed.inOrder reply.socket).subset replied)
  apply datagram_fits replyOrder
  · rw [← address]
    exact short
  · exact carries.received _ arrived

theorem take_succ_returned {returned : List ReturnedDatagram} {count : Nat}
    {reply : ReturnedDatagram} (found : returned[count]? = some reply) :
    returned.take (count + 1) = returned.take count ++ [reply] := by
  rw [List.take_add_one, found]
  rfl

theorem Carries.collect (carries : Carries order replyOrder header sent torn read stream)
    (stepped : stream.collect replyOrder = some next) :
    Carries order replyOrder header sent torn read next := by
  obtain ⟨waiting, replies, ragged, holds, whole⟩ := carries.downward
  unfold UdpStream.collect at stepped
  split at stepped
  · rename_i reply serving found
    have fits := carries.reply_fits (List.mem_of_getElem? found)
    have unragged : ragged = [] := whole (by rw [serving]; nofun)
    subst unragged
    have longer := holds.push fits
    rw [← List.map_singleton (f := datagramEnvelope), ← List.map_append] at longer
    cases stepped
    refine ⟨carries.small, carries.upward, ⟨waiting ++ [reply.dgram], ?_, [], longer,
      fun _ => rfl⟩, ?_, carries.received⟩
    · rw [take_succ_returned found, List.map_append, replies, List.append_assoc]
      rfl
    · exact (List.getElem?_eq_some_iff.mp found).1
  · contradiction

theorem Carries.failCollect {count : Nat}
    (carries : Carries order replyOrder header sent torn read stream)
    (stepped : stream.failCollect replyOrder count = some next) :
    Carries order replyOrder header sent torn read next := by
  obtain ⟨taken, left, split, -, relayed⟩ := carries.upward
  obtain ⟨waiting, replies, ragged, holds, whole⟩ := carries.downward
  unfold UdpStream.failCollect at stepped
  split at stepped
  · rename_i reply serving found
    have fits := carries.reply_fits (List.mem_of_getElem? found)
    have unragged : ragged = [] := whole (by rw [serving]; nofun)
    subst unragged
    simp only at stepped
    split at stepped
    · rename_i short
      cases stepped
      exact ⟨carries.small, ⟨taken, left, split, .ended, relayed⟩,
        ⟨waiting, replies, _, holds.tear fits short, fun open' => absurd rfl open'⟩,
        carries.counted, carries.received⟩
    · contradiction
  · contradiction

theorem Carries.finish (carries : Carries order replyOrder header sent torn read stream) :
    Carries order replyOrder header sent torn read { stream with far := .ended } := by
  obtain ⟨taken, left, split, -, relayed⟩ := carries.upward
  obtain ⟨waiting, replies, returns⟩ := carries.downward
  exact ⟨carries.small, ⟨taken, left, split, .ended, relayed⟩,
    ⟨waiting, replies, returns.stay rfl fun open' => absurd rfl open'⟩, carries.counted,
    carries.received⟩

/-- **Whatever the forwarding side does, the stream carries what the listening
side wrote and read.** -/
theorem Carries.step {action : FarAction}
    (carries : Carries order replyOrder header sent torn read stream)
    (stepped : stream.step side replyOrder action = some next) :
    Carries order replyOrder header sent torn read next := by
  cases action with
  | header resolved => exact carries.takeHeader stepped
  | datagram time bind victim => exact carries.takeDatagram stepped
  | task time socket move => exact carries.moveTask stepped
  | collect => exact carries.collect stepped
  | failCollect count => exact carries.failCollect stepped
  | finish =>
      cases stepped
      exact carries.finish

/-! ## What a stream does for its senders -/

/-- What is sent to the target was put on the stream, each datagram once and in
order. -/
theorem Carries.forwarded (carries : Carries order replyOrder header sent torn read stream) :
    (stream.senders.sent.map fun sent => (sent.key, sent.data)).Sublist
      (sent.map datagramContent) := by
  obtain ⟨taken, left, rfl, -, relayed⟩ := carries.upward
  rw [List.map_append]
  exact relayed.forwarded.trans (List.sublist_append_left _ _)

/-- A reply that is read arrived at a socket that carries the datagrams of its
peer, and of nobody else. -/
theorem Carries.answer (carries : Carries order replyOrder header sent torn read stream)
    {reply : UdpDatagram} (member : reply ∈ read) :
    ∃ socket, (socket, reply.data) ∈ stream.arrived ∧
      (∃ request ∈ stream.senders.sent, request.socket = socket ∧ request.key = peerKey reply) ∧
      ∀ request ∈ stream.senders.sent, request.socket = socket → request.key = peerKey reply := by
  obtain ⟨taken, left, split, -, relayed⟩ := carries.upward
  obtain ⟨waiting, replies, -⟩ := carries.downward
  have collected : reply ∈ (stream.senders.returned.take stream.collected).map
      ReturnedDatagram.dgram := by
    rw [replies]
    exact List.mem_append_left _ member
  obtain ⟨returned, taken', rfl⟩ := List.mem_map.mp collected
  have among := List.mem_of_mem_take taken'
  obtain ⟨request, requested, socket, own⟩ := relayed.answered returned among
  have replied : returned.dgram.data ∈ repliesAt returned.socket stream.senders.returned :=
    List.mem_filterMap.mpr ⟨returned, among, if_pos rfl⟩
  have arrived := mem_of_mem_arrivalsAt ((relayed.inOrder returned.socket).subset replied)
  refine ⟨returned.socket, arrived, ⟨request, requested, socket, own⟩, ?_⟩
  intro other otherMember sameSocket
  have shared := relayed.exclusive request requested other otherMember
    (socket.trans sameSocket.symm)
  rw [← shared]
  exact own

/-- Once the forwarding side has read everything, it has sent everything on for
which a socket could be bound. -/
theorem Carries.complete (carries : Carries order replyOrder header sent torn read stream)
    {demux : Demux} (serving : stream.far = .serving demux) (emptied : stream.up = [])
    (addressed : ∀ dgram ∈ sent, dgram.peerAddr.isEmpty = false)
    (boundAll : stream.senders.logged = []) :
    (stream.senders.sent.map fun sent => (sent.key, sent.data)) = sent.map datagramContent := by
  obtain ⟨taken, left, rfl, awaits, relayed⟩ := carries.upward
  rw [serving, emptied] at awaits
  obtain rfl : left = [] := by
    cases awaits with
    | serving holds =>
        cases left with
        | nil => rfl
        | cons dgram more =>
            have polled := holds.poll_cons
            contradiction
  rw [List.append_nil] at addressed ⊢
  have nobody : taken.countP (fun dgram => dgram.peerAddr.isEmpty) = 0 := by
    rw [List.countP_eq_zero]
    intro dgram member
    rw [addressed dgram member]
    nofun
  have lengths := relayed.accounted
  rw [boundAll, nobody] at lengths
  exact relayed.forwarded.eq_of_length (by simpa using lengths)

end Forwarding

end UdpStream

end Etr.Forward
