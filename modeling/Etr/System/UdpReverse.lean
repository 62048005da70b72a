import Etr.System.UdpForward
import Mathlib.Data.List.Chain

/-!
Contract: a reverse UDP forward from end to end, across reconnects.

Owns `run_udp_reverse_listener_socket` of the server with the task that reads
the replies of each stream, the streams it opens on one connection after the
other with the client's forwarding side behind each, and what any schedule of
the whole does with each datagram.

Does not own the accept loop that sets the active connection, nor the sockets
beyond what arrives at them.
-/

namespace Etr.System

open Etr.Library Etr.Protocol Etr.Wire Etr.Forward

/-- What became of one datagram. -/
inductive Outcome where
  /-- There was no active connection. -/
  | noConnection
  | openFailed
  | headerFailed
  | writeFailed
  | forwarded
deriving DecidableEq, Repr

/-- A datagram the listener is done with, and the connection it found. -/
structure Handled where
  datagram : SocketAddr × List UInt8
  seen : Option Nat
  outcome : Outcome
deriving DecidableEq, Repr

/-- A stream the listener opened. -/
structure ReverseStream where
  /-- `stable_id()` of the connection. -/
  conn : Nat
  phase : ListenPhase
  /-- The task that reads replies is running. -/
  reading : Bool
  /-- Datagrams written to it, whole. -/
  written : List (SocketAddr × List UInt8)
  stream : UdpStream
  /-- Datagrams sent to local peers. -/
  delivered : List (SocketAddr × List UInt8)

/-- Put bytes on a stream. -/
def ReverseStream.write (entry : ReverseStream) (bytes : List UInt8) : ReverseStream :=
  { entry with stream := { entry.stream with up := entry.stream.up ++ bytes } }

/-- Where the loop over datagrams is. -/
inductive ReceiveStage where
  /-- In `recv_from`. -/
  | receiving
  /-- Locking `active_conn`. -/
  | looking (datagram : SocketAddr × List UInt8)
  /-- Deciding whether a new stream is needed. -/
  | choosing (conn : Nat) (datagram : SocketAddr × List UInt8)
  /-- In `open_bi`. -/
  | opening (conn : Nat) (datagram : SocketAddr × List UInt8)
  /-- Writing the tag of the newest stream. -/
  | tagging (conn : Nat) (datagram : SocketAddr × List UInt8)
  /-- Writing the header of the newest stream. -/
  | heading (conn : Nat) (datagram : SocketAddr × List UInt8)
  /-- Writing the datagram to the current stream. -/
  | writing (conn : Nat) (datagram : SocketAddr × List UInt8)
  | ended
deriving DecidableEq, Repr

/-- The datagram the loop is busy with. -/
def ReceiveStage.datagram? : ReceiveStage → Option (SocketAddr × List UInt8)
  | .looking datagram | .choosing _ datagram | .opening _ datagram | .tagging _ datagram
  | .heading _ datagram | .writing _ datagram => some datagram
  | .receiving | .ended => none

structure UdpReverse where
  activeConn : Option Nat
  stage : ReceiveStage
  /-- `current_quic_tx`: the place of its stream in `streams`. -/
  currentTx : Option Nat
  /-- `last_conn_id`. -/
  lastConn : Option Nat
  streams : List ReverseStream
  received : List (SocketAddr × List UInt8)
  handled : List Handled

namespace UdpReverse

def init : UdpReverse where
  activeConn := none
  stage := .receiving
  currentTx := none
  lastConn := none
  streams := []
  received := []
  handled := []

/-- `continue`, or the end of the loop body. -/
def done (listener : UdpReverse) (datagram : SocketAddr × List UInt8) (seen : Option Nat)
    (outcome : Outcome) : UdpReverse :=
  { listener with
    stage := .receiving
    handled := listener.handled ++ [⟨datagram, seen, outcome⟩] }

/-- Change one stream. -/
def onStream (listener : UdpReverse) (place : Nat) (change : ReverseStream → ReverseStream) :
    UdpReverse :=
  { listener with streams := listener.streams.modify place change }

/-- The accept loop sets or clears the active connection. -/
def setActive (listener : UdpReverse) (conn : Option Nat) : Option UdpReverse :=
  some { listener with activeConn := conn }

def receive (listener : UdpReverse) (datagram : SocketAddr × List UInt8) : Option UdpReverse :=
  match listener.stage with
  | .receiving =>
      if datagram.2.length ≤ receiveBuffer then
        some { listener with
          stage := .looking datagram
          received := listener.received ++ [datagram] }
      else
        none
  | _ => none

/-- `recv_from` fails. -/
def failReceive (listener : UdpReverse) : Option UdpReverse :=
  match listener.stage with
  | .receiving => some { listener with stage := .ended }
  | _ => none

def look (listener : UdpReverse) : Option UdpReverse :=
  match listener.stage with
  | .looking datagram =>
      match listener.activeConn with
      | some conn => some { listener with stage := .choosing conn datagram }
      | none => some (listener.done datagram none .noConnection)
  | _ => none

def needNewStream (listener : UdpReverse) (conn : Nat) : Bool :=
  match listener.currentTx with
  | none => true
  | some _ =>
      match listener.lastConn with
      | some last => decide (last ≠ conn)
      | none => true

def choose (listener : UdpReverse) : Option UdpReverse :=
  match listener.stage with
  | .choosing conn datagram =>
      some { listener with
        stage :=
          if listener.needNewStream conn then .opening conn datagram
          else .writing conn datagram }
  | _ => none

def openStream (listener : UdpReverse) (succeeded : Bool) : Option UdpReverse :=
  match listener.stage with
  | .opening conn datagram =>
      if succeeded then
        some { listener with
          stage := .tagging conn datagram
          streams := listener.streams ++ [⟨conn, .tagging, false, [], .init, []⟩] }
      else
        some (listener.done datagram (some conn) .openFailed)
  | _ => none

/-- Place of the newest stream. -/
def newest (listener : UdpReverse) : Nat := listener.streams.length - 1

def writeTag (listener : UdpReverse) (succeeded : Bool) : Option UdpReverse :=
  match listener.stage with
  | .tagging conn datagram =>
      if succeeded then
        some { listener.onStream listener.newest fun entry =>
            { entry.write [tagForward] with phase := .heading } with
          stage := .heading conn datagram }
      else
        some ((listener.onStream listener.newest fun entry =>
          { entry with phase := .ended }).done datagram (some conn) .headerFailed)
  | _ => none

/-- A stream that is written to no more: its sender was dropped. -/
def retire (listener : UdpReverse) : UdpReverse :=
  match listener.currentTx with
  | some place => listener.onStream place fun entry => { entry with phase := .ended }
  | none => listener

/-- The header is written: the stream takes the place of the current one, and
its replies are read. -/
def writeHeader (config : ForwardConfig) (listener : UdpReverse) : Option UdpReverse :=
  match listener.stage with
  | .heading conn datagram =>
      let retired := listener.retire
      some { retired.onStream retired.newest fun entry =>
          { entry.write (writeEnvelope config.order
            (UdpStream.headerEnvelope config.header)) with
            phase := .serving
            reading := true } with
        stage := .writing conn datagram
        currentTx := some retired.newest
        lastConn := some conn }
  | _ => none

/-- The write of the header fails behind some of its bytes. -/
def failHeader (config : ForwardConfig) (listener : UdpReverse) (count : Nat) :
    Option UdpReverse :=
  match listener.stage with
  | .heading conn datagram =>
      let framed := writeEnvelope config.order (UdpStream.headerEnvelope config.header)
      if count < framed.length then
        some ((listener.onStream listener.newest fun entry =>
          { entry.write (framed.take count) with
            phase := .ended }).done datagram (some conn) .headerFailed)
      else
        none
  | _ => none

/-- The message of a datagram. -/
def framedDatagram (config : ForwardConfig) (datagram : SocketAddr × List UInt8) : List UInt8 :=
  writeEnvelope config.order (datagramEnvelope (wireDatagram config datagram))

def writeDatagram (config : ForwardConfig) (listener : UdpReverse) : Option UdpReverse :=
  match listener.stage, listener.currentTx with
  | .writing conn datagram, some place =>
      some ((listener.onStream place fun entry =>
        { entry.write (framedDatagram config datagram) with
          written := entry.written ++ [datagram] }).done datagram (some conn) .forwarded)
  | _, _ => none

/-- The write fails behind some of its bytes, and the stream is given up. -/
def failDatagram (config : ForwardConfig) (listener : UdpReverse) (count : Nat) :
    Option UdpReverse :=
  match listener.stage, listener.currentTx with
  | .writing conn datagram, some place =>
      let framed := framedDatagram config datagram
      if count < framed.length then
        some { (listener.onStream place fun entry =>
            { entry.write (framed.take count) with
              phase := .ended }).done datagram (some conn) .writeFailed with
          currentTx := none }
      else
        none
  | _, _ => none

/-- The reader of a stream takes a reply and sends it to its peer. -/
def takeReply (config : ForwardConfig) (listener : UdpReverse) (place : Nat) :
    Option UdpReverse :=
  match listener.streams[place]? with
  | some entry =>
      if entry.reading then
        (entry.stream.takeReply config.parse).map fun taken =>
          listener.onStream place fun entry =>
            { entry with
              stream := taken.1
              delivered := entry.delivered ++ taken.2.toList }
      else
        none
  | none => none

/-- The reader of a stream ends. -/
def endReader (listener : UdpReverse) (place : Nat) : Option UdpReverse :=
  some (listener.onStream place fun entry => { entry with reading := false })

/-- The client's side of a stream takes a step. -/
def far (config : ForwardConfig) (listener : UdpReverse) (place : Nat) (action : FarAction) :
    Option UdpReverse :=
  match listener.streams[place]? with
  | some entry =>
      (entry.stream.step config.side config.replyOrder action).map fun stream =>
        listener.onStream place fun entry => { entry with stream }
  | none => none

end UdpReverse

inductive ReverseUdpAction where
  | setActive (conn : Option Nat)
  | receive (datagram : SocketAddr × List UInt8)
  | failReceive
  | look
  | choose
  | openStream (succeeded : Bool)
  | writeTag (succeeded : Bool)
  | writeHeader
  | failHeader (count : Nat)
  | writeDatagram
  | failDatagram (count : Nat)
  | takeReply (place : Nat)
  | endReader (place : Nat)
  | far (place : Nat) (action : FarAction)

def UdpReverse.step (config : ForwardConfig) (listener : UdpReverse) :
    ReverseUdpAction → Option UdpReverse
  | .setActive conn => listener.setActive conn
  | .receive datagram => listener.receive datagram
  | .failReceive => listener.failReceive
  | .look => listener.look
  | .choose => listener.choose
  | .openStream succeeded => listener.openStream succeeded
  | .writeTag succeeded => listener.writeTag succeeded
  | .writeHeader => listener.writeHeader config
  | .failHeader count => listener.failHeader config count
  | .writeDatagram => listener.writeDatagram config
  | .failDatagram count => listener.failDatagram config count
  | .takeReply place => listener.takeReply config place
  | .endReader place => listener.endReader place
  | .far place action => listener.far config place action

/-! ## One stream -/

namespace ReverseStream

variable {config : ForwardConfig} {entry : ReverseStream}

/-- What a stream carries, by how far the listener is with it. -/
def Carried (config : ForwardConfig) (written : List (SocketAddr × List UInt8))
    (read : List UdpDatagram) (stream : UdpStream) : ListenPhase → Prop
  | .opening | .tagging => stream.Headless [] ∧ written = [] ∧ read = []
  | .heading => stream.Headless [tagForward] ∧ written = [] ∧ read = []
  | .serving => stream.Carries config.order config.replyOrder config.header
      (written.map (wireDatagram config)) [] read
  | .ended =>
      ((∃ bytes, stream.Headless bytes ∧ UdpStream.Unheaded config.order bytes) ∧
          written = [] ∧ read = []) ∨
        ∃ torn, stream.Carries config.order config.replyOrder config.header
          (written.map (wireDatagram config)) torn read

structure Sound (config : ForwardConfig) (entry : ReverseStream) : Prop where
  legible : ∀ datagram ∈ entry.written,
    Forward.ReadsBack config.display config.parse datagram.1.ip
  carried : ∃ read, Carried config entry.written read entry.stream entry.phase ∧
    entry.delivered = read.filterMap fun reply =>
      (datagramPeerAddr config.parse reply.peerAddr reply.peerPort).map fun dest =>
        (dest, reply.data)

theorem sound_opened (conn : Nat) : Sound config ⟨conn, .tagging, false, [], .init, []⟩ where
  legible := List.forall_mem_nil _
  carried := ⟨[], ⟨UdpStream.headless_init, rfl, rfl⟩, rfl⟩

/-- The listener leaves what was read alone. -/
theorem Sound.listen {next : ReverseStream} (sound : Sound config entry)
    (legible : ∀ datagram ∈ next.written,
      Forward.ReadsBack config.display config.parse datagram.1.ip)
    (delivered : next.delivered = entry.delivered)
    (carried : ∀ read, Carried config entry.written read entry.stream entry.phase →
      Carried config next.written read next.stream next.phase) : Sound config next where
  legible := legible
  carried := by
    obtain ⟨read, held, sent⟩ := sound.carried
    exact ⟨read, carried read held, delivered.trans sent⟩

theorem Sound.writeTag (sound : Sound config entry) (tagging : entry.phase = .tagging) :
    Sound config { entry.write [tagForward] with phase := .heading } := by
  refine sound.listen sound.legible rfl ?_
  intro read held
  rw [tagging] at held
  exact ⟨held.1.write [tagForward], held.2⟩

/-- A stream is given up, or written to no more. -/
theorem Sound.giveUp (sound : Sound config entry) :
    Sound config { entry with phase := .ended } := by
  refine sound.listen sound.legible rfl ?_
  intro read held
  cases phase : entry.phase with
  | opening =>
      rw [phase] at held
      exact Or.inl ⟨⟨[], held.1, Or.inl rfl⟩, held.2⟩
  | tagging =>
      rw [phase] at held
      exact Or.inl ⟨⟨[], held.1, Or.inl rfl⟩, held.2⟩
  | heading =>
      rw [phase] at held
      exact Or.inl ⟨⟨_, held.1, Or.inr ⟨[], rfl, Or.inl rfl⟩⟩, held.2⟩
  | serving =>
      rw [phase] at held
      exact Or.inr ⟨[], held⟩
  | ended =>
      rw [phase] at held
      exact held

theorem Sound.writeHeader (sound : Sound config entry) (heading : entry.phase = .heading) :
    Sound config { entry.write (writeEnvelope config.order
      (UdpStream.headerEnvelope config.header)) with phase := .serving, reading := true } := by
  refine sound.listen sound.legible rfl ?_
  intro read held
  rw [heading] at held
  obtain ⟨headless, nothing, unread⟩ := held
  rw [unread]
  have carries : UdpStream.Carries config.order config.replyOrder config.header [] [] [] _ :=
    headless.carries config.headerFits
  show UdpStream.Carries _ _ _ (entry.written.map (wireDatagram config)) [] [] _
  rw [nothing]
  exact carries

theorem Sound.failHeader (sound : Sound config entry) (heading : entry.phase = .heading)
    {count : Nat} (short : count < (writeEnvelope config.order
      (UdpStream.headerEnvelope config.header)).length) :
    Sound config { entry.write ((writeEnvelope config.order
      (UdpStream.headerEnvelope config.header)).take count) with phase := .ended } := by
  refine sound.listen sound.legible rfl ?_
  intro read held
  rw [heading] at held
  have ragged : (envelopeFrames config.order).Torn _ :=
    Or.inr ⟨_, count, config.headerFits, short, rfl⟩
  exact Or.inl ⟨⟨_, held.1.write _, Or.inr ⟨_, rfl, ragged⟩⟩, held.2⟩

section Datagrams

variable {datagram : SocketAddr × List UInt8}

theorem Sound.writeDatagram (sound : Sound config entry) (serving : entry.phase = .serving)
    (legible : Forward.ReadsBack config.display config.parse datagram.1.ip)
    (small : datagram.2.length ≤ receiveBuffer) :
    Sound config { entry.write
        (UdpReverse.framedDatagram config datagram) with
      written := entry.written ++ [datagram] } := by
  refine sound.listen ?_ rfl ?_
  · intro other member
    rcases List.mem_append.mp member with old | new
    · exact sound.legible other old
    · rw [List.mem_singleton.mp new]
      exact legible
  · intro read held
    rw [serving] at held
    have carries := UdpStream.Carries.push (wireDatagram config datagram) held
      legible.short small
    rw [← List.map_singleton (f := wireDatagram config), ← List.map_append] at carries
    show Carried config _ read _ entry.phase
    rw [serving]
    exact carries

theorem Sound.failDatagram (sound : Sound config entry) (serving : entry.phase = .serving)
    (legible : Forward.ReadsBack config.display config.parse datagram.1.ip)
    (small : datagram.2.length ≤ receiveBuffer) {count : Nat}
    (short : count < (UdpReverse.framedDatagram config datagram).length) :
    Sound config { entry.write
        ((UdpReverse.framedDatagram config datagram).take count) with phase := .ended } := by
  refine sound.listen sound.legible rfl ?_
  intro read held
  rw [serving] at held
  exact Or.inr ⟨_, UdpStream.Carries.tear (wireDatagram config datagram) held
    legible.short small short⟩

end Datagrams

theorem Sound.far {action : FarAction} {stream : UdpStream} (sound : Sound config entry)
    (stepped : entry.stream.step config.side config.replyOrder action = some stream) :
    Sound config { entry with stream } := by
  refine sound.listen sound.legible rfl ?_
  intro read held
  cases phase : entry.phase with
  | opening =>
      rw [phase] at held
      have unheaded : UdpStream.Unheaded config.order [] := Or.inl rfl
      exact ⟨held.1.step unheaded stepped, held.2⟩
  | tagging =>
      rw [phase] at held
      have unheaded : UdpStream.Unheaded config.order [] := Or.inl rfl
      exact ⟨held.1.step unheaded stepped, held.2⟩
  | heading =>
      rw [phase] at held
      have unheaded : UdpStream.Unheaded config.order [tagForward] :=
        Or.inr ⟨[], rfl, Or.inl rfl⟩
      exact ⟨held.1.step unheaded stepped, held.2⟩
  | serving =>
      rw [phase] at held
      exact UdpStream.Carries.step held stepped
  | ended =>
      rw [phase] at held
      rcases held with ⟨⟨bytes, headless, unheaded⟩, nothing⟩ | ⟨torn, carries⟩
      · exact Or.inl ⟨⟨bytes, headless.step unheaded stepped, unheaded⟩, nothing⟩
      · exact Or.inr ⟨torn, carries.step stepped⟩

theorem Sound.takeReply {stream : UdpStream} {delivered : Option (SocketAddr × List UInt8)}
    (sound : Sound config entry)
    (taken : entry.stream.takeReply config.parse = some (stream, delivered)) :
    Sound config { entry with
      stream
      delivered := entry.delivered ++ delivered.toList } := by
  obtain ⟨read, held, sent⟩ := sound.carried
  have next : ∃ reply, Carried config entry.written (read ++ [reply]) stream entry.phase ∧
      delivered = (datagramPeerAddr config.parse reply.peerAddr reply.peerPort).map
        fun dest => (dest, reply.data) := by
    cases phase : entry.phase with
    | opening =>
        rw [phase] at held
        rw [held.1.takeReply] at taken
        contradiction
    | tagging =>
        rw [phase] at held
        rw [held.1.takeReply] at taken
        contradiction
    | heading =>
        rw [phase] at held
        rw [held.1.takeReply] at taken
        contradiction
    | serving =>
        rw [phase] at held
        exact UdpStream.Carries.takeReply held taken
    | ended =>
        rw [phase] at held
        rcases held with ⟨⟨bytes, headless, -⟩, -⟩ | ⟨torn, carries⟩
        · rw [headless.takeReply] at taken
          contradiction
        · obtain ⟨reply, onward, addressed⟩ := carries.takeReply taken
          exact ⟨reply, Or.inr ⟨torn, onward⟩, addressed⟩
  obtain ⟨reply, onward, addressed⟩ := next
  refine ⟨sound.legible, read ++ [reply], onward, ?_⟩
  show entry.delivered ++ delivered.toList = _
  rw [sent, addressed, List.filterMap_append]
  rfl

end ReverseStream

/-! ## The books of the listener -/

/-- What the books know of a stream. -/
structure StreamView where
  conn : Nat
  phase : ListenPhase
  written : List (SocketAddr × List UInt8)

def ReverseStream.view (entry : ReverseStream) : StreamView :=
  ⟨entry.conn, entry.phase, entry.written⟩

/-- The datagrams that were written whole, with the connection of their stream. -/
def forwardedOn (views : List StreamView) : List (Nat × SocketAddr × List UInt8) :=
  views.flatMap fun view => view.written.map fun datagram => (view.conn, datagram)

/-- The datagram and the connection of an entry about a forwarded one. -/
def Handled.forwarded? (entry : Handled) : Option (Nat × SocketAddr × List UInt8) :=
  match entry.outcome, entry.seen with
  | .forwarded, some conn => some (conn, entry.datagram)
  | _, _ => none

/-- No write failed. -/
def Unbroken (handled : List Handled) : Prop :=
  ∀ entry ∈ handled, entry.outcome ≠ .headerFailed ∧ entry.outcome ≠ .writeFailed

section Views

variable {views : List StreamView} {place : Nat} {view : StreamView}
  {change : StreamView → StreamView}

/-- A change that keeps the connection and the datagrams. -/
theorem forwardedOn_modify (conn : ∀ view, (change view).conn = view.conn)
    (written : ∀ view, (change view).written = view.written) :
    forwardedOn (views.modify place change) = forwardedOn views := by
  induction views generalizing place with
  | nil => rw [List.modify_nil]
  | cons first rest inductionHypothesis =>
      cases place with
      | zero => simp [forwardedOn, conn, written]
      | succ place =>
          rw [List.modify_succ_cons]
          exact congrArg (_ ++ ·) inductionHypothesis

theorem conns_modify (conn : ∀ view, (change view).conn = view.conn) :
    (views.modify place change).map StreamView.conn = views.map StreamView.conn := by
  induction views generalizing place with
  | nil => rw [List.modify_nil]
  | cons first rest inductionHypothesis =>
      cases place with
      | zero => simp [conn]
      | succ place => simp [inductionHypothesis]

/-- One more datagram on a stream behind which nothing was written. -/
theorem forwardedOn_push {datagram : SocketAddr × List UInt8}
    (found : views[place]? = some view)
    (behind : ∀ later other, place < later → views[later]? = some other → other.written = []) :
    forwardedOn (views.modify place fun view =>
        { view with written := view.written ++ [datagram] }) =
      forwardedOn views ++ [(view.conn, datagram)] := by
  have room : place < views.length := (List.getElem?_eq_some_iff.mp found).1
  obtain ⟨before, middle, after, split, sized, modified⟩ :=
    List.exists_of_modify (fun view : StreamView =>
      { view with written := view.written ++ [datagram] }) room
  have same : middle = view := by
    rw [split, ← sized, List.getElem?_append_right (Nat.le_refl _), Nat.sub_self] at found
    exact Option.some.inj found
  have silent : forwardedOn after = [] := by
    apply List.flatMap_eq_nil_iff.mpr
    intro other member
    obtain ⟨distance, here⟩ := List.mem_iff_getElem?.mp member
    have later : views[place + (distance + 1)]? = some other := by
      rw [split, ← sized, List.getElem?_append_right (Nat.le_add_right _ _),
        Nat.add_sub_cancel_left, List.getElem?_cons_succ]
      exact here
    rw [behind _ other (by omega) later]
    rfl
  subst same
  rw [modified]
  simp only [forwardedOn] at silent
  simp only [forwardedOn, split, List.flatMap_append, List.flatMap_cons, silent,
    List.append_nil, List.map_append, List.append_assoc]
  rfl

end Views

namespace UdpReverse

variable {config : ForwardConfig} {listener next : UdpReverse}

def views (listener : UdpReverse) : List StreamView :=
  listener.streams.map ReverseStream.view

/-- Where the newest stream and the current one are, by the stage of the loop. -/
def Placed (listener : UdpReverse) : ReceiveStage → Prop
  | .opening conn _ => listener.needNewStream conn = true
  | .tagging conn _ => listener.views[listener.newest]? = some ⟨conn, .tagging, []⟩ ∧
      listener.currentTx ≠ some listener.newest
  | .heading conn _ => listener.views[listener.newest]? = some ⟨conn, .heading, []⟩ ∧
      listener.currentTx ≠ some listener.newest
  | .writing conn _ => ∃ place view, listener.currentTx = some place ∧
      listener.views[place]? = some view ∧ view.conn = conn
  | .receiving | .looking _ | .choosing _ _ | .ended => True

/-- Whether the loop is about to make the newest stream the current one. -/
def ReceiveStage.extending : ReceiveStage → Bool
  | .tagging _ _ | .heading _ _ => true
  | _ => false

/-- The current stream is the newest of `count`, but for one that is being
opened. -/
def Frontier (extending : Bool) (count : Nat) : Option Nat → Prop
  | none => count = if extending then 1 else 0
  | some place => count = place + if extending then 2 else 1

structure Booked (listener : UdpReverse) : Prop where
  busy : listener.received =
    listener.handled.map Handled.datagram ++ listener.stage.datagram?.toList
  accounted : forwardedOn listener.views = listener.handled.filterMap Handled.forwarded?
  current : ∀ place, listener.currentTx = some place →
    ∃ view, listener.views[place]? = some view ∧ view.phase = .serving ∧
      listener.lastConn = some view.conn
  behind : ∀ place, listener.currentTx = some place → ∀ later view, place < later →
    listener.views[later]? = some view → view.written = []
  placed : listener.Placed listener.stage
  steady : Unbroken listener.handled →
    (listener.views.map StreamView.conn).IsChain (· ≠ ·) ∧
      Frontier (ReceiveStage.extending listener.stage) listener.views.length listener.currentTx

theorem unbroken_of_append {handled later : List Handled} (unbroken : Unbroken (handled ++ later)) :
    Unbroken handled :=
  fun entry member => unbroken entry (List.mem_append_left _ member)

theorem newest_eq : listener.newest = listener.views.length - 1 := by
  rw [newest, views, List.length_map]

theorem placed_congr (views : next.views = listener.views)
    (currentTx : next.currentTx = listener.currentTx) (lastConn : next.lastConn = listener.lastConn)
    (stage : ReceiveStage) : next.Placed stage ↔ listener.Placed stage := by
  cases stage with
  | receiving => exact Iff.rfl
  | looking datagram => exact Iff.rfl
  | choosing conn datagram => exact Iff.rfl
  | ended => exact Iff.rfl
  | opening conn datagram => simp only [Placed, needNewStream, currentTx, lastConn]
  | tagging conn datagram => simp only [Placed, newest_eq, views, currentTx]
  | heading conn datagram => simp only [Placed, newest_eq, views, currentTx]
  | writing conn datagram => simp only [Placed, views, currentTx]

/-- Nothing the books know of changes. -/
theorem Booked.of_views (booked : listener.Booked) (views : next.views = listener.views)
    (stage : next.stage = listener.stage) (currentTx : next.currentTx = listener.currentTx)
    (lastConn : next.lastConn = listener.lastConn)
    (received : next.received = listener.received) (handled : next.handled = listener.handled) :
    next.Booked where
  busy := by
    rw [received, handled, stage]
    exact booked.busy
  accounted := by
    rw [views, handled]
    exact booked.accounted
  current := by
    rw [currentTx, views, lastConn]
    exact booked.current
  behind := by
    rw [currentTx, views]
    exact booked.behind
  placed := by
    rw [stage]
    exact (placed_congr views currentTx lastConn _).mpr booked.placed
  steady := by
    rw [handled, views, stage, currentTx]
    exact booked.steady

/-- The loop moves on with its datagram. -/
theorem Booked.moveOn {stage : ReceiveStage} (booked : listener.Booked)
    (busy : stage.datagram? = listener.stage.datagram?)
    (settled : ReceiveStage.extending stage = ReceiveStage.extending listener.stage)
    (placed : listener.Placed stage) : Booked { listener with stage } where
  busy := by
    rw [booked.busy, ← busy]
  accounted := booked.accounted
  current := booked.current
  behind := booked.behind
  placed := by
    cases stage <;> exact placed
  steady := by
    intro unbroken
    have before := booked.steady unbroken
    refine ⟨before.1, ?_⟩
    show Frontier (ReceiveStage.extending stage) _ _
    rw [settled]
    exact before.2

/-- The loop is done with its datagram, which was not forwarded. -/
theorem Booked.drop {datagram : SocketAddr × List UInt8} {seen : Option Nat} {outcome : Outcome}
    (booked : listener.Booked) (holding : listener.stage.datagram? = some datagram)
    (unsent : outcome ≠ .forwarded)
    (settled : outcome = .headerFailed ∨ outcome = .writeFailed ∨
      ReceiveStage.extending listener.stage = false) :
    (listener.done datagram seen outcome).Booked where
  busy := by
    show listener.received = (listener.handled ++ [Handled.mk datagram seen outcome]).map _ ++ []
    rw [booked.busy, holding, List.append_nil, List.map_append]
    rfl
  accounted := by
    show forwardedOn listener.views = (listener.handled ++ [_]).filterMap _
    have nothing : (Handled.mk datagram seen outcome).forwarded? = none := by
      cases outcome with
      | forwarded => contradiction
      | noConnection | openFailed | headerFailed | writeFailed => rfl
    rw [booked.accounted, List.filterMap_append, List.filterMap_cons_none nothing]
    exact (List.append_nil _).symm
  current := booked.current
  behind := booked.behind
  placed := trivial
  steady := by
    intro unbroken
    have last : outcome ≠ .headerFailed ∧ outcome ≠ .writeFailed :=
      unbroken (Handled.mk datagram seen outcome) (List.mem_append_right _ List.mem_cons_self)
    obtain ⟨chain, frontier⟩ := booked.steady (unbroken_of_append unbroken)
    refine ⟨chain, ?_⟩
    rcases settled with failed | failed | settled
    · exact absurd failed last.1
    · exact absurd failed last.2
    · rw [settled] at frontier
      exact frontier

/-- A change to one stream, as the books see it. -/
theorem views_onStream (place : Nat) (change : ReverseStream → ReverseStream)
    (seen : StreamView → StreamView)
    (same : ∀ entry, (change entry).view = seen entry.view) :
    (listener.onStream place change).views = listener.views.modify place seen := by
  have general : ∀ (streams : List ReverseStream) (place : Nat),
      (streams.modify place change).map ReverseStream.view =
        (streams.map ReverseStream.view).modify place seen := by
    intro streams
    induction streams with
    | nil => intro place; simp
    | cons first rest inductionHypothesis =>
        intro place
        cases place with
        | zero => simp [same]
        | succ place => simp [inductionHypothesis]
  exact general listener.streams place

theorem views_onStream_self {place : Nat} {change : ReverseStream → ReverseStream}
    (same : ∀ entry, (change entry).view = entry.view) :
    (listener.onStream place change).views = listener.views := by
  rw [views_onStream place change id same, List.modify_id]

theorem newest_lt {view : StreamView} (found : listener.views[listener.newest]? = some view) :
    listener.newest < listener.views.length :=
  (List.getElem?_eq_some_iff.mp found).1

/-- The newest stream enters another phase. -/
theorem Booked.rephase {phase later : ListenPhase} {conn : Nat}
    {change : ReverseStream → ReverseStream} (stage : ReceiveStage) (booked : listener.Booked)
    (seen : ∀ entry, (change entry).view = { entry.view with phase := later })
    (found : listener.views[listener.newest]? = some ⟨conn, phase, []⟩)
    (other : listener.currentTx ≠ some listener.newest)
    (busy : stage.datagram? = listener.stage.datagram?)
    (settled : ReceiveStage.extending stage = ReceiveStage.extending listener.stage)
    (placed : (listener.onStream listener.newest change).Placed stage) :
    Booked { listener.onStream listener.newest change with stage } := by
  have views : (listener.onStream listener.newest change).views = _ :=
    views_onStream listener.newest change (fun view => { view with phase := later }) seen
  have elsewhere : ∀ place view, listener.currentTx = some place →
      (listener.views[place]? = some view ↔
        (listener.onStream listener.newest change).views[place]? = some view) := by
    intro place view current
    have different : listener.newest ≠ place := by
      rintro rfl
      exact other current
    rw [views, List.getElem?_modify_ne _ _ different]
  refine ⟨?_, ?_, ?_, ?_, ?_, ?_⟩
  · show listener.received = listener.handled.map _ ++ stage.datagram?.toList
    rw [busy]
    exact booked.busy
  · have kept : forwardedOn (listener.views.modify listener.newest fun view =>
        { view with phase := later }) = forwardedOn listener.views :=
      forwardedOn_modify (fun _ => rfl) fun _ => rfl
    show forwardedOn (listener.onStream listener.newest change).views = _
    rw [views, kept]
    exact booked.accounted
  · intro place current
    obtain ⟨view, here, serving, last⟩ := booked.current place current
    exact ⟨view, (elsewhere place view current).mp here, serving, last⟩
  · intro place current behind view beyond here
    have here : (listener.onStream listener.newest change).views[behind]? = some view := here
    by_cases newest : listener.newest = behind
    · rw [views, ← newest, List.getElem?_modify_eq, found] at here
      cases here
      rfl
    · rw [views, List.getElem?_modify_ne _ _ newest] at here
      exact booked.behind place current behind view beyond here
  · cases stage <;> exact placed
  · intro unbroken
    obtain ⟨chain, frontier⟩ := booked.steady unbroken
    have conns : (listener.onStream listener.newest change).views.map StreamView.conn =
        listener.views.map StreamView.conn := by
      rw [views]
      exact conns_modify fun _ => rfl
    have count : (listener.onStream listener.newest change).views.length =
        listener.views.length := by
      rw [views, List.length_modify]
    refine ⟨?_, ?_⟩
    · show ((listener.onStream listener.newest change).views.map StreamView.conn).IsChain _
      rw [conns]
      exact chain
    · show Frontier (ReceiveStage.extending stage)
        (listener.onStream listener.newest change).views.length listener.currentTx
      rw [settled, count]
      exact frontier

theorem newest_onStream {place : Nat} {change : ReverseStream → ReverseStream} :
    (listener.onStream place change).newest = listener.newest := by
  rw [newest, onStream, List.length_modify, newest]

theorem newest_rephased {phase later : ListenPhase} {conn : Nat}
    {change : ReverseStream → ReverseStream}
    (seen : ∀ entry, (change entry).view = { entry.view with phase := later })
    (found : listener.views[listener.newest]? = some ⟨conn, phase, []⟩) :
    (listener.onStream listener.newest change).views[listener.newest]? =
      some ⟨conn, later, []⟩ := by
  rw [views_onStream _ _ (fun view => { view with phase := later }) seen,
    List.getElem?_modify_eq, found]
  rfl

theorem length_eq_newest {view : StreamView}
    (found : listener.views[listener.newest]? = some view) :
    listener.views.length = listener.newest + 1 := by
  have room := newest_lt found
  rw [newest_eq] at room ⊢
  omega

/-- Dropping the sender of the current stream leaves the newest one alone. -/
theorem views_retire {view : StreamView} (found : listener.views[listener.newest]? = some view)
    (other : listener.currentTx ≠ some listener.newest) :
    forwardedOn listener.retire.views = forwardedOn listener.views ∧
      listener.retire.views.map StreamView.conn = listener.views.map StreamView.conn ∧
      listener.retire.views.length = listener.views.length ∧
      listener.retire.views[listener.newest]? = some view := by
  unfold retire
  cases current : listener.currentTx with
  | none => exact ⟨rfl, rfl, rfl, found⟩
  | some place =>
      have different : place ≠ listener.newest := by
        rintro rfl
        exact other current
      have views : (listener.onStream place fun entry => { entry with phase := .ended }).views =
          listener.views.modify place fun view => { view with phase := .ended } :=
        views_onStream place _ _ fun _ => rfl
      simp only [views]
      refine ⟨forwardedOn_modify (fun _ => rfl) fun _ => rfl, conns_modify fun _ => rfl,
        List.length_modify .., ?_⟩
      rw [List.getElem?_modify_ne _ _ different]
      exact found

theorem retire_keeps (listener : UdpReverse) : listener.retire.stage = listener.stage ∧
    listener.retire.received = listener.received ∧ listener.retire.handled = listener.handled := by
  unfold retire
  cases listener.currentTx with
  | none => exact ⟨rfl, rfl, rfl⟩
  | some place => exact ⟨rfl, rfl, rfl⟩

/-- The newest stream takes the place of the current one. -/
theorem Booked.writeHeader (booked : listener.Booked)
    (stepped : listener.writeHeader config = some next) : next.Booked := by
  unfold UdpReverse.writeHeader at stepped
  split at stepped
  · rename_i conn datagram heading
    have placed := booked.placed
    rw [heading] at placed
    obtain ⟨found, other⟩ := placed
    obtain ⟨sameForwarded, sameConns, sameLength, stillThere⟩ := views_retire found other
    obtain ⟨-, received, handled⟩ := retire_keeps listener
    have last := length_eq_newest found
    have newest : listener.retire.newest = listener.newest := by
      rw [newest_eq, sameLength, ← newest_eq]
    cases stepped
    have views : ∀ change : ReverseStream → ReverseStream,
        (∀ entry, (change entry).view = { entry.view with phase := .serving }) →
        (listener.retire.onStream listener.retire.newest change).views =
          listener.retire.views.modify listener.newest
            fun view => { view with phase := .serving } := by
      intro change same
      rw [newest]
      exact views_onStream _ _ _ same
    have now := views (fun entry =>
      { entry.write (writeEnvelope config.order (UdpStream.headerEnvelope config.header)) with
        phase := .serving
        reading := true }) fun _ => rfl
    have here : (listener.retire.views.modify listener.newest
        fun view => { view with phase := .serving })[listener.newest]? =
          some ⟨conn, .serving, []⟩ := by
      rw [List.getElem?_modify_eq, stillThere]
      rfl
    refine ⟨?_, ?_, ?_, ?_, ?_, ?_⟩
    · show listener.retire.received = listener.retire.handled.map _ ++ [datagram]
      rw [received, handled]
      have busy := booked.busy
      rw [heading] at busy
      exact busy
    · have kept : forwardedOn (listener.retire.views.modify listener.newest
          fun view => { view with phase := .serving }) = forwardedOn listener.retire.views :=
        forwardedOn_modify (fun _ => rfl) fun _ => rfl
      show forwardedOn (listener.retire.onStream listener.retire.newest _).views =
        listener.retire.handled.filterMap _
      rw [now, kept, sameForwarded, handled]
      exact booked.accounted
    · intro place current
      have place' : place = listener.newest := (Option.some.inj current).symm.trans newest
      refine ⟨⟨conn, .serving, []⟩, ?_, rfl, rfl⟩
      show (listener.retire.onStream listener.retire.newest _).views[place]? = _
      rw [now, place']
      exact here
    · intro place current later view beyond there
      have place' : place = listener.newest := (Option.some.inj current).symm.trans newest
      have there : (listener.retire.onStream listener.retire.newest _).views[later]? =
        some view := there
      rw [now] at there
      have room := (List.getElem?_eq_some_iff.mp there).1
      rw [List.length_modify, sameLength] at room
      omega
    · refine ⟨listener.newest, ⟨conn, .serving, []⟩, ?_, ?_, rfl⟩
      · show some listener.retire.newest = some listener.newest
        rw [newest]
      · show (listener.retire.onStream listener.retire.newest _).views[listener.newest]? = _
        rw [now]
        exact here
    · intro unbroken
      have unbroken : Unbroken listener.retire.handled := unbroken
      rw [handled] at unbroken
      refine ⟨?_, ?_⟩
      · have kept : (listener.retire.views.modify listener.newest
            fun view => { view with phase := .serving }).map StreamView.conn =
              listener.retire.views.map StreamView.conn := conns_modify fun _ => rfl
        show ((listener.retire.onStream listener.retire.newest _).views.map _).IsChain _
        rw [now, kept, sameConns]
        exact (booked.steady unbroken).1
      · show (listener.retire.onStream listener.retire.newest _).views.length =
          listener.retire.newest + 1
        rw [now, List.length_modify, sameLength, newest]
        exact last
  · contradiction

theorem Booked.openStream {succeeded : Bool} (booked : listener.Booked)
    (stepped : listener.openStream succeeded = some next) : next.Booked := by
  unfold UdpReverse.openStream at stepped
  split at stepped
  · rename_i conn datagram opening
    split at stepped
    · cases stepped
      have needed := booked.placed
      rw [opening] at needed
      have views : ∀ stage, UdpReverse.views { listener with
          stage
          streams := listener.streams ++ [⟨conn, .tagging, false, [], .init, []⟩] } =
            listener.views ++ [⟨conn, .tagging, []⟩] := by
        intro stage
        rw [UdpReverse.views, List.map_append]
        rfl
      have older : ∀ place, listener.currentTx = some place → place < listener.views.length := by
        intro place current
        obtain ⟨view, here, -⟩ := booked.current place current
        exact (List.getElem?_eq_some_iff.mp here).1
      refine ⟨?_, ?_, ?_, ?_, ?_, ?_⟩
      · have busy := booked.busy
        rw [opening] at busy
        exact busy
      · rw [views, forwardedOn, List.flatMap_append]
        exact (List.append_nil _).trans booked.accounted
      · intro place current
        obtain ⟨view, here, serving, last⟩ := booked.current place current
        refine ⟨view, ?_, serving, last⟩
        rw [views, List.getElem?_append_left (older place current)]
        exact here
      · intro place current later view beyond there
        rw [views] at there
        by_cases among : later < listener.views.length
        · rw [List.getElem?_append_left among] at there
          exact booked.behind place current later view beyond there
        · rw [List.getElem?_append_right (Nat.le_of_not_lt among)] at there
          rw [List.mem_singleton.mp (List.mem_of_getElem? there)]
      · have newest : ∀ stage, UdpReverse.newest { listener with
            stage
            streams := listener.streams ++ [⟨conn, .tagging, false, [], .init, []⟩] } =
              listener.views.length := by
          intro stage
          rw [newest_eq, views, List.length_append]
          rfl
        refine ⟨?_, ?_⟩
        · rw [newest, views, List.getElem?_append_right (Nat.le_refl _), Nat.sub_self]
          rfl
        · rw [newest]
          intro current
          exact absurd (older _ current) (Nat.lt_irrefl _)
      · intro unbroken
        obtain ⟨chain, frontier⟩ := booked.steady unbroken
        have settled : ReceiveStage.extending listener.stage = false := by
          rw [opening]
          rfl
        rw [settled] at frontier
        refine ⟨?_, ?_⟩
        · rw [views, List.map_append]
          apply chain.append (List.IsChain.singleton _)
          intro last isLast first isFirst
          cases isFirst
          cases current : listener.currentTx with
          | none =>
              rw [current] at frontier
              have empty : listener.views.length = 0 := frontier
              rw [List.length_eq_zero_iff.mp empty] at isLast
              contradiction
          | some place =>
              rw [current] at frontier
              obtain ⟨view, here, -, lastConn⟩ := booked.current place current
              have different : view.conn ≠ conn := by
                simp only [Placed, needNewStream, current, lastConn] at needed
                exact of_decide_eq_true needed
              have final : (listener.views.map StreamView.conn).getLast? = some view.conn := by
                have count : listener.views.length = place + 1 := frontier
                rw [List.getLast?_eq_getElem?, List.length_map, count, Nat.add_sub_cancel,
                  List.getElem?_map, here]
                rfl
              rw [final] at isLast
              cases isLast
              exact different
        · show Frontier true _ listener.currentTx
          rw [views, List.length_append]
          cases current : listener.currentTx with
          | none =>
              rw [current] at frontier
              exact congrArg (· + 1) frontier
          | some place =>
              rw [current] at frontier
              exact congrArg (· + 1) frontier
    · cases stepped
      exact booked.drop (by rw [opening]; rfl) (by decide) (Or.inr (Or.inr (by rw [opening]; rfl)))
  · contradiction

theorem Booked.receive {datagram : SocketAddr × List UInt8} (booked : listener.Booked)
    (stepped : listener.receive datagram = some next) : next.Booked := by
  unfold UdpReverse.receive at stepped
  split at stepped
  · rename_i receiving
    split at stepped
    · cases stepped
      have busy := booked.busy
      rw [receiving] at busy
      refine ⟨?_, booked.accounted, booked.current, booked.behind, trivial, ?_⟩
      · show listener.received ++ [datagram] = listener.handled.map _ ++ [datagram]
        rw [busy]
        exact congrArg (· ++ [datagram]) (List.append_nil _)
      · intro unbroken
        have steady := booked.steady unbroken
        rw [receiving] at steady
        exact steady
    · contradiction
  · contradiction

theorem Booked.failReceive (booked : listener.Booked)
    (stepped : listener.failReceive = some next) : next.Booked := by
  unfold UdpReverse.failReceive at stepped
  split at stepped
  · rename_i receiving
    cases stepped
    exact booked.moveOn (by rw [receiving]; rfl) (by rw [receiving]; rfl) trivial
  · contradiction

theorem Booked.look (booked : listener.Booked) (stepped : listener.look = some next) :
    next.Booked := by
  unfold UdpReverse.look at stepped
  split at stepped
  · rename_i datagram looking
    split at stepped
    · cases stepped
      exact booked.moveOn (by rw [looking]; rfl) (by rw [looking]; rfl) trivial
    · cases stepped
      exact booked.drop (by rw [looking]; rfl) (by decide) (Or.inr (Or.inr (by rw [looking]; rfl)))
  · contradiction

/-- No new stream is needed where the current one is on the connection. -/
theorem Booked.on_current {conn : Nat} (booked : listener.Booked)
    (same : listener.needNewStream conn = false) :
    ∃ place view, listener.currentTx = some place ∧ listener.views[place]? = some view ∧
      view.conn = conn := by
  cases current : listener.currentTx with
  | none =>
      rw [needNewStream, current] at same
      contradiction
  | some place =>
      obtain ⟨view, here, -, last⟩ := booked.current place current
      refine ⟨place, view, rfl, here, ?_⟩
      rw [needNewStream, current, last] at same
      exact Decidable.not_not.mp (of_decide_eq_false same)

theorem Booked.choose (booked : listener.Booked) (stepped : listener.choose = some next) :
    next.Booked := by
  unfold UdpReverse.choose at stepped
  split at stepped
  · rename_i conn datagram choosing
    cases stepped
    split
    · rename_i needed
      exact booked.moveOn (by rw [choosing]; rfl) (by rw [choosing]; rfl) needed
    · rename_i same
      exact booked.moveOn (by rw [choosing]; rfl) (by rw [choosing]; rfl)
        (booked.on_current (Bool.eq_false_of_not_eq_true same))
  · contradiction

/-- The newest stream is given up before a datagram was written to it. -/
theorem Booked.giveUp {conn : Nat} {phase : ListenPhase} {datagram : SocketAddr × List UInt8}
    {seen : Option Nat} {change : ReverseStream → ReverseStream} (booked : listener.Booked)
    (holding : listener.stage.datagram? = some datagram)
    (ended : ∀ entry, (change entry).view = { entry.view with phase := .ended })
    (found : listener.views[listener.newest]? = some ⟨conn, phase, []⟩)
    (other : listener.currentTx ≠ some listener.newest) :
    ((listener.onStream listener.newest change).done datagram seen .headerFailed).Booked := by
  have dropped : (listener.done datagram seen .headerFailed).Booked :=
    booked.drop holding (by decide) (Or.inl rfl)
  exact dropped.rephase .receiving ended found other rfl rfl trivial

theorem Booked.writeTag {succeeded : Bool} (booked : listener.Booked)
    (stepped : listener.writeTag succeeded = some next) : next.Booked := by
  unfold UdpReverse.writeTag at stepped
  split at stepped
  · rename_i conn datagram tagging
    have placed := booked.placed
    rw [tagging] at placed
    obtain ⟨found, other⟩ := placed
    split at stepped
    · cases stepped
      refine booked.rephase _ (fun _ => rfl) found other (by rw [tagging]; rfl)
        (by rw [tagging]; rfl) ⟨?_, ?_⟩
      · rw [newest_onStream]
        exact newest_rephased (fun _ => rfl) found
      · rw [newest_onStream]
        exact other
    · cases stepped
      exact booked.giveUp (by rw [tagging]; rfl) (fun _ => rfl) found other
  · contradiction

theorem Booked.failHeader {count : Nat} (booked : listener.Booked)
    (stepped : listener.failHeader config count = some next) : next.Booked := by
  unfold UdpReverse.failHeader at stepped
  split at stepped
  · rename_i conn datagram heading
    have placed := booked.placed
    rw [heading] at placed
    obtain ⟨found, other⟩ := placed
    simp only at stepped
    split at stepped
    · cases stepped
      exact booked.giveUp (by rw [heading]; rfl) (fun _ => rfl) found other
    · contradiction
  · contradiction

/-- The datagram is on the current stream, which is the one of its connection. -/
theorem Booked.writeDatagram (booked : listener.Booked)
    (stepped : listener.writeDatagram config = some next) : next.Booked := by
  unfold UdpReverse.writeDatagram at stepped
  split at stepped
  · rename_i conn datagram place writing current
    cases stepped
    have placed := booked.placed
    rw [writing] at placed
    obtain ⟨place', view, current', found, sameConn⟩ := placed
    obtain rfl : place = place' := Option.some.inj (current.symm.trans current')
    obtain ⟨here, found', serving, last⟩ := booked.current place current
    obtain rfl : view = here := Option.some.inj (found.symm.trans found')
    have views : ∀ seen, UdpReverse.views ((listener.onStream place fun entry =>
        { entry.write (framedDatagram config datagram) with
          written := entry.written ++ [datagram] }).done datagram seen .forwarded) =
        listener.views.modify place fun view =>
          { view with written := view.written ++ [datagram] } := fun _ =>
      views_onStream _ _ _ fun _ => rfl
    refine ⟨?_, ?_, ?_, ?_, trivial, ?_⟩
    · have busy := booked.busy
      rw [writing] at busy
      show listener.received = (listener.handled ++ [_]).map _ ++ []
      rw [busy, List.append_nil, List.map_append]
      rfl
    · rw [views, forwardedOn_push found (booked.behind place current), booked.accounted]
      show _ = (listener.handled ++ [_]).filterMap _
      rw [List.filterMap_append, sameConn]
      rfl
    · intro again isCurrent
      obtain rfl : place = again := Option.some.inj (current.symm.trans isCurrent)
      refine ⟨{ view with written := view.written ++ [datagram] }, ?_, serving, last⟩
      rw [views, List.getElem?_modify_eq, found]
      rfl
    · intro again isCurrent later other beyond there
      obtain rfl : place = again := Option.some.inj (current.symm.trans isCurrent)
      rw [views, List.getElem?_modify_ne _ _ (Nat.ne_of_lt beyond)] at there
      exact booked.behind place current later other beyond there
    · intro unbroken
      obtain ⟨chain, frontier⟩ := booked.steady (unbroken_of_append unbroken)
      rw [views]
      refine ⟨?_, ?_⟩
      · have kept : (listener.views.modify place fun view =>
            { view with written := view.written ++ [datagram] }).map StreamView.conn =
              listener.views.map StreamView.conn := conns_modify fun _ => rfl
        rw [kept]
        exact chain
      · rw [List.length_modify]
        rw [writing] at frontier
        exact frontier
  · contradiction

theorem Booked.failDatagram {count : Nat} (booked : listener.Booked)
    (stepped : listener.failDatagram config count = some next) : next.Booked := by
  unfold UdpReverse.failDatagram at stepped
  split at stepped
  · rename_i conn datagram place writing current
    simp only at stepped
    split at stepped
    · cases stepped
      have kept : forwardedOn (listener.onStream place fun entry =>
          { entry.write ((framedDatagram config datagram).take count) with
            phase := .ended }).views = forwardedOn listener.views := by
        rw [views_onStream _ _ (fun view => { view with phase := .ended }) fun _ => rfl]
        exact forwardedOn_modify (fun _ => rfl) fun _ => rfl
      refine ⟨?_, ?_, nofun, nofun, trivial, ?_⟩
      · have busy := booked.busy
        rw [writing] at busy
        show listener.received = (listener.handled ++ [_]).map _ ++ []
        rw [busy, List.append_nil, List.map_append]
        rfl
      · show forwardedOn (listener.onStream place _).views = (listener.handled ++ [_]).filterMap _
        rw [kept, booked.accounted, List.filterMap_append]
        exact (List.append_nil _).symm
      · intro unbroken
        exact absurd rfl (unbroken ⟨datagram, some conn, .writeFailed⟩
          (List.mem_append_right _ List.mem_cons_self)).2
    · contradiction
  · contradiction

/-- What the books do not see. -/
theorem Booked.onStream {place : Nat} {change : ReverseStream → ReverseStream}
    (booked : listener.Booked) (same : ∀ entry, (change entry).view = entry.view) :
    (listener.onStream place change).Booked :=
  booked.of_views (views_onStream_self same) rfl rfl rfl rfl rfl

theorem Booked.step {action : ReverseUdpAction} (booked : listener.Booked)
    (stepped : listener.step config action = some next) : next.Booked := by
  cases action with
  | setActive conn =>
      cases stepped
      exact booked.of_views rfl rfl rfl rfl rfl rfl
  | receive datagram => exact booked.receive stepped
  | failReceive => exact booked.failReceive stepped
  | look => exact booked.look stepped
  | choose => exact booked.choose stepped
  | openStream succeeded => exact booked.openStream stepped
  | writeTag succeeded => exact booked.writeTag stepped
  | writeHeader => exact booked.writeHeader stepped
  | failHeader count => exact booked.failHeader stepped
  | writeDatagram => exact booked.writeDatagram stepped
  | failDatagram count => exact booked.failDatagram stepped
  | takeReply place =>
      simp only [UdpReverse.step, UdpReverse.takeReply] at stepped
      split at stepped
      · split at stepped
        · obtain ⟨taken, -, rfl⟩ := Option.map_eq_some_iff.mp stepped
          exact booked.onStream fun _ => rfl
        · contradiction
      · contradiction
  | endReader place =>
      cases stepped
      exact booked.onStream fun _ => rfl
  | far place action =>
      simp only [UdpReverse.step, UdpReverse.far] at stepped
      split at stepped
      · obtain ⟨stream, -, rfl⟩ := Option.map_eq_some_iff.mp stepped
        exact booked.onStream fun _ => rfl
      · contradiction

/-! ## The streams of the listener -/

/-- What is known at any time. -/
structure Listening (config : ForwardConfig) (listener : UdpReverse) : Prop where
  booked : listener.Booked
  legible : ∀ datagram ∈ listener.received,
    Forward.ReadsBack config.display config.parse datagram.1.ip ∧
      datagram.2.length ≤ receiveBuffer
  sound : ∀ entry ∈ listener.streams, ReverseStream.Sound config entry

theorem view_of_getElem? {place : Nat} {entry : ReverseStream}
    (here : listener.streams[place]? = some entry) :
    listener.views[place]? = some entry.view := by
  rw [views, List.getElem?_map, here]
  rfl

/-- A change that keeps the stream it is made to sound. -/
theorem sound_onStream {place : Nat} {change : ReverseStream → ReverseStream}
    (sound : ∀ entry ∈ listener.streams, ReverseStream.Sound config entry)
    (changed : ∀ entry, listener.streams[place]? = some entry →
      ReverseStream.Sound config entry → ReverseStream.Sound config (change entry)) :
    ∀ entry ∈ (listener.onStream place change).streams, ReverseStream.Sound config entry := by
  intro entry member
  obtain ⟨index, found⟩ := List.mem_iff_getElem?.mp member
  rw [onStream, List.getElem?_modify] at found
  obtain ⟨old, here, rfl⟩ := Option.map_eq_some_iff.mp found
  have before := sound old (List.mem_of_getElem? here)
  split
  · rename_i same
    subst same
    exact changed old here before
  · exact before

theorem sound_retire (sound : ∀ entry ∈ listener.streams, ReverseStream.Sound config entry) :
    ∀ entry ∈ listener.retire.streams, ReverseStream.Sound config entry := by
  unfold retire
  split
  · exact sound_onStream sound fun _ _ sound => sound.giveUp
  · exact sound

/-- The datagram the loop is busy with has been received. -/
theorem Listening.held {datagram : SocketAddr × List UInt8}
    (listening : listener.Listening config)
    (holding : listener.stage.datagram? = some datagram) :
    Forward.ReadsBack config.display config.parse datagram.1.ip ∧
      datagram.2.length ≤ receiveBuffer := by
  refine listening.legible datagram ?_
  rw [listening.booked.busy, holding]
  exact List.mem_append_right _ List.mem_cons_self

theorem Listening.writeTag {succeeded : Bool} (listening : listener.Listening config)
    (stepped : listener.writeTag succeeded = some next) :
    next.received = listener.received ∧
      ∀ entry ∈ next.streams, ReverseStream.Sound config entry := by
  unfold UdpReverse.writeTag at stepped
  split at stepped
  · rename_i conn datagram tagging
    have placed := listening.booked.placed
    rw [tagging] at placed
    split at stepped
    · cases stepped
      refine ⟨rfl, sound_onStream listening.sound ?_⟩
      intro entry here sound
      have seen := Option.some.inj ((view_of_getElem? here).symm.trans placed.1)
      exact sound.writeTag (congrArg StreamView.phase seen)
    · cases stepped
      exact ⟨rfl, sound_onStream listening.sound fun _ _ sound => sound.giveUp⟩
  · contradiction

theorem Listening.writeHeader (listening : listener.Listening config)
    (stepped : listener.writeHeader config = some next) :
    next.received = listener.received ∧
      ∀ entry ∈ next.streams, ReverseStream.Sound config entry := by
  unfold UdpReverse.writeHeader at stepped
  split at stepped
  · rename_i conn datagram heading
    have placed := listening.booked.placed
    rw [heading] at placed
    obtain ⟨found, other⟩ := placed
    obtain ⟨-, -, sameLength, stillThere⟩ := views_retire found other
    have newest : listener.retire.newest = listener.newest := by
      rw [newest_eq, sameLength, ← newest_eq]
    cases stepped
    refine ⟨(retire_keeps listener).2.1, sound_onStream (sound_retire listening.sound) ?_⟩
    intro entry here sound
    rw [newest] at here
    have seen := Option.some.inj ((view_of_getElem? here).symm.trans stillThere)
    exact sound.writeHeader (congrArg StreamView.phase seen)
  · contradiction

theorem Listening.failHeader {count : Nat} (listening : listener.Listening config)
    (stepped : listener.failHeader config count = some next) :
    next.received = listener.received ∧
      ∀ entry ∈ next.streams, ReverseStream.Sound config entry := by
  unfold UdpReverse.failHeader at stepped
  split at stepped
  · rename_i conn datagram heading
    have placed := listening.booked.placed
    rw [heading] at placed
    simp only at stepped
    split at stepped
    · rename_i short
      cases stepped
      refine ⟨rfl, sound_onStream listening.sound ?_⟩
      intro entry here sound
      have seen := Option.some.inj ((view_of_getElem? here).symm.trans placed.1)
      exact sound.failHeader (congrArg StreamView.phase seen) short
    · contradiction
  · contradiction

/-- The current stream is being served. -/
theorem Listening.current_serving {place : Nat} {entry : ReverseStream}
    (listening : listener.Listening config) (current : listener.currentTx = some place)
    (here : listener.streams[place]? = some entry) : entry.phase = .serving := by
  obtain ⟨view, found, serving, -⟩ := listening.booked.current place current
  have seen := Option.some.inj ((view_of_getElem? here).symm.trans found)
  exact (congrArg StreamView.phase seen).trans serving

theorem Listening.writeDatagram (listening : listener.Listening config)
    (stepped : listener.writeDatagram config = some next) :
    next.received = listener.received ∧
      ∀ entry ∈ next.streams, ReverseStream.Sound config entry := by
  unfold UdpReverse.writeDatagram at stepped
  split at stepped
  · rename_i conn datagram place writing current
    cases stepped
    obtain ⟨legible, small⟩ := listening.held (by rw [writing]; rfl)
    refine ⟨rfl, sound_onStream listening.sound ?_⟩
    intro entry here sound
    exact sound.writeDatagram (listening.current_serving current here) legible small
  · contradiction

theorem Listening.failDatagram {count : Nat} (listening : listener.Listening config)
    (stepped : listener.failDatagram config count = some next) :
    next.received = listener.received ∧
      ∀ entry ∈ next.streams, ReverseStream.Sound config entry := by
  unfold UdpReverse.failDatagram at stepped
  split at stepped
  · rename_i conn datagram place writing current
    simp only at stepped
    split at stepped
    · rename_i short
      cases stepped
      obtain ⟨legible, small⟩ := listening.held (by rw [writing]; rfl)
      refine ⟨rfl, sound_onStream listening.sound ?_⟩
      intro entry here sound
      exact sound.failDatagram (listening.current_serving current here) legible small short
    · contradiction
  · contradiction

theorem Listening.openStream {succeeded : Bool} (listening : listener.Listening config)
    (stepped : listener.openStream succeeded = some next) :
    next.received = listener.received ∧
      ∀ entry ∈ next.streams, ReverseStream.Sound config entry := by
  unfold UdpReverse.openStream at stepped
  split at stepped
  · rename_i conn datagram opening
    split at stepped
    · cases stepped
      refine ⟨rfl, ?_⟩
      intro entry member
      rcases List.mem_append.mp member with old | new
      · exact listening.sound entry old
      · rw [List.mem_singleton.mp new]
        exact ReverseStream.sound_opened conn
    · cases stepped
      exact ⟨rfl, listening.sound⟩
  · contradiction

theorem Listening.takeReply {place : Nat} (listening : listener.Listening config)
    (stepped : listener.takeReply config place = some next) :
    next.received = listener.received ∧
      ∀ entry ∈ next.streams, ReverseStream.Sound config entry := by
  unfold UdpReverse.takeReply at stepped
  split at stepped
  · rename_i entry here
    split at stepped
    · obtain ⟨taken, took, rfl⟩ := Option.map_eq_some_iff.mp stepped
      refine ⟨rfl, sound_onStream listening.sound ?_⟩
      intro again there sound
      obtain rfl : entry = again := Option.some.inj (here.symm.trans there)
      exact sound.takeReply took
    · contradiction
  · contradiction

theorem Listening.far {place : Nat} {action : FarAction} (listening : listener.Listening config)
    (stepped : listener.far config place action = some next) :
    next.received = listener.received ∧
      ∀ entry ∈ next.streams, ReverseStream.Sound config entry := by
  unfold UdpReverse.far at stepped
  split at stepped
  · rename_i entry here
    obtain ⟨stream, moved, rfl⟩ := Option.map_eq_some_iff.mp stepped
    refine ⟨rfl, sound_onStream listening.sound ?_⟩
    intro again there sound
    obtain rfl : entry = again := Option.some.inj (here.symm.trans there)
    exact sound.far moved
  · contradiction

theorem look_keeps (stepped : listener.look = some next) :
    next.received = listener.received ∧ next.streams = listener.streams := by
  unfold look at stepped
  split at stepped
  · split at stepped
    · cases stepped
      exact ⟨rfl, rfl⟩
    · cases stepped
      exact ⟨rfl, rfl⟩
  · contradiction

theorem choose_keeps (stepped : listener.choose = some next) :
    next.received = listener.received ∧ next.streams = listener.streams := by
  unfold choose at stepped
  split at stepped
  · cases stepped
    exact ⟨rfl, rfl⟩
  · contradiction

theorem failReceive_keeps (stepped : listener.failReceive = some next) :
    next.received = listener.received ∧ next.streams = listener.streams := by
  unfold failReceive at stepped
  split at stepped
  · cases stepped
    exact ⟨rfl, rfl⟩
  · contradiction

theorem receive_adds {datagram : SocketAddr × List UInt8}
    (stepped : listener.receive datagram = some next) :
    datagram.2.length ≤ receiveBuffer ∧ next.received = listener.received ++ [datagram] ∧
      next.streams = listener.streams := by
  unfold receive at stepped
  split at stepped
  · split at stepped
    · rename_i small
      cases stepped
      exact ⟨small, rfl, rfl⟩
    · contradiction
  · contradiction

/-- Nothing is received. -/
theorem Listening.keep (listening : listener.Listening config) (booked : next.Booked)
    (received : next.received = listener.received)
    (sound : ∀ entry ∈ next.streams, ReverseStream.Sound config entry) :
    next.Listening config where
  booked := booked
  legible := by
    rw [received]
    exact listening.legible
  sound := sound

end UdpReverse

/-- The text of every local address can be read back. -/
def ReverseUdpAction.ReadsBack (config : ForwardConfig) : ReverseUdpAction → Prop
  | .receive datagram => Forward.ReadsBack config.display config.parse datagram.1.ip
  | _ => True

namespace UdpReverse

variable {config : ForwardConfig} {listener next final : UdpReverse}
  {actions : List ReverseUdpAction}

theorem Listening.step {action : ReverseUdpAction} (listening : listener.Listening config)
    (readsBack : action.ReadsBack config) (stepped : listener.step config action = some next) :
    next.Listening config := by
  have booked := listening.booked.step stepped
  cases action with
  | setActive conn =>
      cases stepped
      exact listening.keep booked rfl listening.sound
  | receive datagram =>
      obtain ⟨small, received, streams⟩ := receive_adds stepped
      refine ⟨booked, ?_, ?_⟩
      · intro other member
        rw [received] at member
        rcases List.mem_append.mp member with old | new
        · exact listening.legible other old
        · rw [List.mem_singleton.mp new]
          exact ⟨readsBack, small⟩
      · rw [streams]
        exact listening.sound
  | failReceive =>
      obtain ⟨received, streams⟩ := failReceive_keeps stepped
      exact listening.keep booked received (streams ▸ listening.sound)
  | look =>
      obtain ⟨received, streams⟩ := look_keeps stepped
      exact listening.keep booked received (streams ▸ listening.sound)
  | choose =>
      obtain ⟨received, streams⟩ := choose_keeps stepped
      exact listening.keep booked received (streams ▸ listening.sound)
  | openStream succeeded =>
      obtain ⟨received, sound⟩ := listening.openStream stepped
      exact listening.keep booked received sound
  | writeTag succeeded =>
      obtain ⟨received, sound⟩ := listening.writeTag stepped
      exact listening.keep booked received sound
  | writeHeader =>
      obtain ⟨received, sound⟩ := listening.writeHeader stepped
      exact listening.keep booked received sound
  | failHeader count =>
      obtain ⟨received, sound⟩ := listening.failHeader stepped
      exact listening.keep booked received sound
  | writeDatagram =>
      obtain ⟨received, sound⟩ := listening.writeDatagram stepped
      exact listening.keep booked received sound
  | failDatagram count =>
      obtain ⟨received, sound⟩ := listening.failDatagram stepped
      exact listening.keep booked received sound
  | takeReply place =>
      obtain ⟨received, sound⟩ := listening.takeReply stepped
      exact listening.keep booked received sound
  | endReader place =>
      cases stepped
      exact listening.keep booked rfl
        (sound_onStream listening.sound fun _ _ sound => ⟨sound.legible, sound.carried⟩)
  | far place action =>
      obtain ⟨received, sound⟩ := listening.far stepped
      exact listening.keep booked received sound

/-! ## Once, in order, and back to the sender -/

end UdpReverse

namespace UdpReverse

end UdpReverse

end Etr.System
