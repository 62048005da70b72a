import Etr.Library.AgingTable
import Etr.Library.Transition
import Etr.Forward.UdpReturn

/-!
Contract: the table of UDP senders on the forwarding side.

Owns the loop of `serve_udp_forward` in `src/bin/etrs.rs` and of the reverse UDP
stream in `run_session` of `src/bin/etr.rs`, with the reply task of each sender
as the steps it takes, and the shape of the table in every state.

Does not own the sockets' errors other than a failed bind, nor the order in
which a hash map is searched: any oldest sender may be the one that is evicted.
-/

namespace Etr.Forward

open Etr.Library Etr.Protocol

def maxUdpSenders : Nat := 256

/-- `SENDER_IDLE`, in nanoseconds. -/
def senderIdle : Nat := 30 * 10 ^ 9

/-- `peer_addr` and `peer_port`. -/
abbrev PeerKey := String × UInt32

/-- Where a reply task is in its loop. -/
inductive TaskPhase where
  /-- Just spawned, or sending a reply on. -/
  | busy
  | waiting (since : Nat)
  | ended
deriving DecidableEq, Repr

/-- A reply task, with the peer it was spawned for. -/
structure ReplyTask where
  peer : PeerKey
  phase : TaskPhase
deriving DecidableEq, Repr

/-- One entry of `sender_map`. The socket holds what it has received; the task is
aborted when the entry is dropped. -/
structure Sender where
  key : PeerKey
  socket : Nat
  inbox : List (List UInt8)
  last : Nat
  task : ReplyTask
deriving DecidableEq, Repr

/-- A datagram given to `send_to` for the target, from the peer under `key`. -/
structure SentDatagram where
  socket : Nat
  target : SocketAddr
  key : PeerKey
  data : List UInt8
  time : Nat
deriving DecidableEq, Repr

/-- A reply sent back. -/
structure ReturnedDatagram where
  socket : Nat
  dgram : UdpDatagram
  time : Nat
deriving DecidableEq, Repr

/-- What the two copies of the loop are given: the target, and their message for
a sender address and the error of its bind. -/
structure Demux where
  target : SocketAddr
  bindFailed : String → String → String

/-- The copy in `etrs`. -/
def serveUdpForward (remoteAddr : SocketAddr) : Demux where
  target := remoteAddr
  bindFailed := fun sender error =>
    "[etrs] UDP forward: bind failed for sender " ++ sender ++ ": " ++ error

/-- The copy in `etr`. -/
def reverseUdpForward (addr : SocketAddr) : Demux where
  target := addr
  bindFailed := fun sender error =>
    "[etr] UDP reverse fwd: bind failed for sender " ++ sender ++ ": " ++ error

structure DemuxState where
  senders : List Sender
  /-- Sockets are numbered in the order they are bound. -/
  nextSocket : Nat
  now : Nat
  sent : List SentDatagram
  returned : List ReturnedDatagram
  /-- What both copies log about failed binds. -/
  logged : List String
deriving DecidableEq, Repr

/-- How `sender_map` ages. -/
def senderTable : AgingTable PeerKey Sender where
  key := Sender.key
  last := Sender.last
  idle := senderIdle
  capacity := maxUdpSenders
  hasRoom := by decide

/-- The key of a datagram's sender. -/
def peerKey (dgram : UdpDatagram) : PeerKey :=
  (dgram.peerAddr, dgram.peerPort)

/-- A new entry with its reply task. -/
def Sender.spawn (key : PeerKey) (socket now : Nat) : Sender where
  key := key
  socket := socket
  inbox := []
  last := now
  task := ⟨key, .busy⟩

/-- `*last = now`. -/
def refresh (key : PeerKey) (now : Nat) (senders : List Sender) : List Sender :=
  senders.map fun sender => if sender.key = key then { sender with last := now } else sender

namespace DemuxState

def init : DemuxState where
  senders := []
  nextSocket := 0
  now := 0
  sent := []
  returned := []
  logged := []

/-! ## The loop over datagrams -/

/-- The senders behind `retain`. -/
def kept (state : DemuxState) (time : Nat) : List Sender :=
  senderTable.retain time state.senders

/-- `socket.send_to`, whose result is ignored. -/
def send (demux : Demux) (state : DemuxState) (time : Nat) (dgram : UdpDatagram) (socket : Nat) :
    DemuxState :=
  { state with
    sent := state.sent ++ [⟨socket, demux.target, peerKey dgram, dgram.data, time⟩] }

/-- The body of the loop over datagrams. `bind` is the outcome of the bind, if
there is one, and `victim` the oldest sender that is found, if one is looked
for. -/
def process (demux : Demux) (state : DemuxState) (time : Nat) (dgram : UdpDatagram)
    (bind : Except String Unit) (victim : PeerKey) : Option DemuxState :=
  if dgram.peerAddr.isEmpty then
    some state
  else
    match senderTable.lookup (peerKey dgram) (state.kept time) with
    | some sender =>
        some ({ state with senders := refresh (peerKey dgram) time (state.kept time) }.send demux
          time dgram sender.socket)
    | none =>
        match bind with
        | .error error =>
            some { state with
              senders := state.kept time
              logged := state.logged ++ [demux.bindFailed dgram.peerAddr error] }
        | .ok _ =>
            (senderTable.makeRoom victim (state.kept time)).map fun room =>
              { state with
                senders := Sender.spawn (peerKey dgram) state.nextSocket time :: room
                nextSocket := state.nextSocket + 1 }.send demux time dgram state.nextSocket

/-! ## The reply tasks -/

/-- The sender with a socket. -/
def senderAt (state : DemuxState) (socket : Nat) : Option Sender :=
  state.senders.find? fun sender => sender.socket = socket

/-- Put `sender` in the place of the one with its socket. -/
def putSender (state : DemuxState) (sender : Sender) : DemuxState :=
  { state with
    senders := state.senders.map fun other =>
      if other.socket = sender.socket then sender else other }

end DemuxState

/-- What happens at the socket or in the task of a sender. -/
inductive TaskMove where
  /-- A datagram arrives. The socket takes datagrams of any host, and the source
  that `recv_from` returns is dropped. -/
  | arrive (data : List UInt8)
  /-- The task begins to wait, under a new timeout. -/
  | beginWait
  /-- The task reads a reply and sends it back. -/
  | read
  /-- The timeout runs out, which ends the task. -/
  | expire
deriving DecidableEq, Repr

/-- One step of a reply task: the sender behind it, and what is sent back. The
timeout looks at the socket before it looks at its timer. -/
def Sender.act (time : Nat) (sender : Sender) : TaskMove → Option (Sender × Option UdpDatagram)
  | .arrive data => some ({ sender with inbox := sender.inbox ++ [data] }, none)
  | .beginWait =>
      if sender.task.phase = .busy then
        some ({ sender with task := { sender.task with phase := .waiting time } }, none)
      else
        none
  | .read =>
      match sender.task.phase, sender.inbox with
      | .waiting _, data :: rest =>
          some ({ sender with inbox := rest, task := { sender.task with phase := .busy } },
            some ⟨sender.task.peer.1, sender.task.peer.2, data⟩)
      | _, _ => none
  | .expire =>
      match sender.task.phase, sender.inbox with
      | .waiting since, [] =>
          if since + senderIdle ≤ time then
            some ({ sender with task := { sender.task with phase := .ended } }, none)
          else
            none
      | _, _ => none

inductive DemuxAction where
  | datagram (dgram : UdpDatagram) (bind : Except String Unit) (victim : PeerKey)
  | task (socket : Nat) (move : TaskMove)

structure TimedDemuxAction where
  time : Nat
  action : DemuxAction

/-- When a datagram of the peer is seen, if this action is one. -/
def TimedDemuxAction.seenAt? (key : PeerKey) (timed : TimedDemuxAction) : Option Nat :=
  match timed.action with
  | .datagram dgram _ _ =>
      if dgram.peerAddr.isEmpty = false ∧ peerKey dgram = key then some timed.time else none
  | .task _ _ => none

namespace DemuxState

/-- The state behind a step of a sender's task. -/
def moveSender (state : DemuxState) (time : Nat) (moved : Sender × Option UdpDatagram) :
    DemuxState :=
  { state.putSender moved.1 with
    returned := state.returned ++
      moved.2.toList.map fun dgram => ⟨moved.1.socket, dgram, time⟩ }

/-- A step at a socket. What arrives at a closed socket is lost. -/
def actTask (state : DemuxState) (time socket : Nat) (move : TaskMove) : Option DemuxState :=
  match state.senderAt socket, move with
  | some sender, move => (sender.act time move).map (state.moveSender time)
  | none, .arrive _ => some state
  | none, _ => none

def act (demux : Demux) (state : DemuxState) (time : Nat) : DemuxAction → Option DemuxState
  | .datagram dgram bind victim => state.process demux time dgram bind victim
  | .task socket move => state.actTask time socket move

/-- Times do not decrease. -/
def step (demux : Demux) (state : DemuxState) (timed : TimedDemuxAction) : Option DemuxState :=
  if state.now ≤ timed.time then
    (state.act demux timed.time timed.action).map fun next => { next with now := timed.time }
  else
    none

/-! ## What one step does -/

variable {demux : Demux} {state next : DemuxState} {time : Nat} {dgram : UdpDatagram}
  {bind : Except String Unit} {victim : PeerKey}

/-- The sender of the datagram has no entry behind `retain`. -/
def Absent (state : DemuxState) (time : Nat) (dgram : UdpDatagram) : Prop :=
  ∀ sender ∈ state.kept time, sender.key ≠ peerKey dgram

/-- The ways through the loop body. -/
inductive Processed (demux : Demux) (state : DemuxState) (time : Nat) (dgram : UdpDatagram)
    (bind : Except String Unit) (victim : PeerKey) : DemuxState → Prop
  | unaddressed (empty : dgram.peerAddr.isEmpty = true) :
      Processed demux state time dgram bind victim state
  | known (addressed : dgram.peerAddr.isEmpty = false) {sender : Sender}
      (member : sender ∈ state.kept time) (own : sender.key = peerKey dgram) :
      Processed demux state time dgram bind victim
        ({ state with senders := refresh (peerKey dgram) time (state.kept time) }.send demux time
          dgram sender.socket)
  | bindFailed (addressed : dgram.peerAddr.isEmpty = false) (absent : state.Absent time dgram)
      {error : String} (failed : bind = .error error) :
      Processed demux state time dgram bind victim
        { state with
          senders := state.kept time
          logged := state.logged ++ [demux.bindFailed dgram.peerAddr error] }
  | inserted (addressed : dgram.peerAddr.isEmpty = false) (absent : state.Absent time dgram)
      (bound : bind = .ok ()) {room : List Sender}
      (made : senderTable.makeRoom victim (state.kept time) = some room) :
      Processed demux state time dgram bind victim
        ({ state with
          senders := Sender.spawn (peerKey dgram) state.nextSocket time :: room
          nextSocket := state.nextSocket + 1 }.send demux time dgram state.nextSocket)

theorem processed_of_process (stepped : state.process demux time dgram bind victim = some next) :
    Processed demux state time dgram bind victim next := by
  unfold process at stepped
  split at stepped
  · rename_i empty
    cases stepped
    exact .unaddressed empty
  · rename_i addressed
    rw [Bool.not_eq_true] at addressed
    split at stepped
    · rename_i sender found
      have entry := AgingTable.of_lookup_eq_some found
      cases stepped
      exact .known addressed entry.1 entry.2
    · rename_i missing
      have absent : state.Absent time dgram := AgingTable.lookup_eq_none.mp missing
      cases bind with
      | error error =>
          cases stepped
          exact .bindFailed addressed absent rfl
      | ok _ =>
          rcases Option.map_eq_some_iff.mp stepped with ⟨room, made, rfl⟩
          exact .inserted addressed absent rfl made

/-- The steps at a socket: a sender takes one, or the socket is closed. -/
inductive TaskMoved (state : DemuxState) (time socket : Nat) (move : TaskMove) :
    DemuxState → Prop
  | lost (closed : ∀ sender ∈ state.senders, sender.socket ≠ socket) :
      TaskMoved state time socket move state
  | moved {sender entry : Sender} {reply : Option UdpDatagram} (member : sender ∈ state.senders)
      (own : sender.socket = socket) (acted : sender.act time move = some (entry, reply)) :
      TaskMoved state time socket move (state.moveSender time (entry, reply))

theorem taskMoved_of_actTask {socket : Nat} {move : TaskMove}
    (stepped : state.actTask time socket move = some next) :
    TaskMoved state time socket move next := by
  unfold actTask at stepped
  split at stepped
  · rename_i sender found
    rcases Option.map_eq_some_iff.mp stepped with ⟨⟨entry, reply⟩, acted, rfl⟩
    have own : sender.socket = socket := by simpa using List.find?_some found
    exact .moved (List.mem_of_find?_eq_some found) own acted
  · rename_i missing
    cases stepped
    exact .lost (by simpa [senderAt] using missing)
  · contradiction

/-! ## The table stays sound -/

/-- What a reply task and its socket leave alone: key, socket and time of a
sender, and the peer of its task. -/
def flow (sender : Sender) : PeerKey × Nat × Nat × PeerKey :=
  (sender.key, sender.socket, sender.last, sender.task.peer)

/-- One entry for each key, each with a socket of its own, bound before and last
used before; the task of each returns replies under its key. -/
structure SoundTable (senders : List Sender) (nextSocket now : Nat) : Prop where
  keys : (senders.map Sender.key).Nodup
  sockets : (senders.map Sender.socket).Nodup
  bounded : senders.length ≤ maxUdpSenders
  fresh : ∀ sender ∈ senders, sender.socket < nextSocket
  past : ∀ sender ∈ senders, sender.last ≤ now
  tagged : ∀ sender ∈ senders, sender.task.peer = sender.key

def Sound (state : DemuxState) : Prop :=
  SoundTable state.senders state.nextSocket state.now

theorem sound_init : Sound init where
  keys := List.nodup_nil
  sockets := List.nodup_nil
  bounded := Nat.zero_le _
  fresh := List.forall_mem_nil _
  past := List.forall_mem_nil _
  tagged := List.forall_mem_nil _

section Tables

variable {senders fewer : List Sender} {nextSocket now time : Nat}

theorem SoundTable.of_sublist (sound : SoundTable senders nextSocket now)
    (sublist : fewer.Sublist senders) : SoundTable fewer nextSocket now where
  keys := sound.keys.sublist (sublist.map _)
  sockets := sound.sockets.sublist (sublist.map _)
  bounded := Nat.le_trans sublist.length_le sound.bounded
  fresh := fun sender member => sound.fresh sender (sublist.subset member)
  past := fun sender member => sound.past sender (sublist.subset member)
  tagged := fun sender member => sound.tagged sender (sublist.subset member)

theorem SoundTable.later (sound : SoundTable senders nextSocket now) (notBefore : now ≤ time) :
    SoundTable senders nextSocket time :=
  { sound with past := fun sender member => Nat.le_trans (sound.past sender member) notBefore }

/-- Every sender has one with the same flow in the other table. -/
theorem exists_of_map_flow_eq {others : List Sender} (same : others.map flow = senders.map flow)
    {sender : Sender} (member : sender ∈ senders) : ∃ other ∈ others, flow other = flow sender := by
  have image : flow sender ∈ others.map flow := same ▸ List.mem_map_of_mem member
  exact List.mem_map.mp image

theorem SoundTable.of_map_flow_eq (sound : SoundTable senders nextSocket now)
    {others : List Sender} (same : others.map flow = senders.map flow) :
    SoundTable others nextSocket now where
  keys := by
    have image := congrArg (List.map Prod.fst) same
    rw [List.map_map, List.map_map] at image
    exact image ▸ sound.keys
  sockets := by
    have image := congrArg (List.map fun projected => projected.2.1) same
    rw [List.map_map, List.map_map] at image
    exact image ▸ sound.sockets
  bounded := by
    have lengths := congrArg List.length same
    rw [List.length_map, List.length_map] at lengths
    exact lengths ▸ sound.bounded
  fresh := by
    intro other member
    obtain ⟨sender, known, equal⟩ := exists_of_map_flow_eq same.symm member
    simp only [flow, Prod.mk.injEq] at equal
    exact equal.2.1 ▸ sound.fresh sender known
  past := by
    intro other member
    obtain ⟨sender, known, equal⟩ := exists_of_map_flow_eq same.symm member
    simp only [flow, Prod.mk.injEq] at equal
    exact equal.2.2.1 ▸ sound.past sender known
  tagged := by
    intro other member
    obtain ⟨sender, known, equal⟩ := exists_of_map_flow_eq same.symm member
    simp only [flow, Prod.mk.injEq] at equal
    rw [← equal.1, ← equal.2.2.2]
    exact sound.tagged sender known

/-- What a refresh leaves alone. -/
theorem map_refresh {Field : Type} {field : Sender → Field}
    (untouched : ∀ sender : Sender, field { sender with last := now } = field sender)
    (key : PeerKey) (senders : List Sender) :
    (refresh key now senders).map field = senders.map field := by
  rw [refresh, List.map_map]
  apply List.map_congr_left
  intro sender _
  by_cases own : sender.key = key
  · rw [Function.comp_apply, if_pos own, untouched]
  · rw [Function.comp_apply, if_neg own]

/-- A refreshed table has the senders it had, with the one under `key` used now. -/
theorem mem_refresh {key : PeerKey} {refreshed : Sender} :
    refreshed ∈ refresh key now senders ↔
      ∃ sender ∈ senders, refreshed =
        if sender.key = key then { sender with last := now } else sender := by
  simp only [refresh, List.mem_map, eq_comm]

theorem SoundTable.refresh (sound : SoundTable senders nextSocket now) (key : PeerKey) :
    SoundTable (refresh key now senders) nextSocket now where
  keys := by
    rw [map_refresh fun _ => rfl]
    exact sound.keys
  sockets := by
    rw [map_refresh fun _ => rfl]
    exact sound.sockets
  bounded := by
    rw [Etr.Forward.refresh, List.length_map]
    exact sound.bounded
  fresh := by
    intro refreshed member
    obtain ⟨sender, known, rfl⟩ := mem_refresh.mp member
    have older := sound.fresh sender known
    split
    · exact older
    · exact older
  past := by
    intro refreshed member
    obtain ⟨sender, known, rfl⟩ := mem_refresh.mp member
    split
    · exact Nat.le_refl _
    · exact sound.past sender known
  tagged := by
    intro refreshed member
    obtain ⟨sender, known, rfl⟩ := mem_refresh.mp member
    have own := sound.tagged sender known
    split
    · exact own
    · exact own

theorem SoundTable.spawn (sound : SoundTable senders nextSocket now)
    (room : senders.length < maxUdpSenders) {key : PeerKey}
    (absent : ∀ sender ∈ senders, sender.key ≠ key) :
    SoundTable (Sender.spawn key nextSocket now :: senders) (nextSocket + 1) now where
  keys := by
    rw [List.map_cons, List.nodup_cons]
    refine ⟨?_, sound.keys⟩
    intro member
    rcases List.mem_map.mp member with ⟨sender, known, same⟩
    exact absent sender known same
  sockets := by
    rw [List.map_cons, List.nodup_cons]
    refine ⟨?_, sound.sockets⟩
    intro member
    rcases List.mem_map.mp member with ⟨sender, known, same⟩
    have older := sound.fresh sender known
    rw [same] at older
    exact absurd older (Nat.lt_irrefl _)
  bounded := room
  fresh := by
    rw [List.forall_mem_cons]
    exact ⟨Nat.lt_succ_self _, fun sender member => Nat.lt_succ_of_lt (sound.fresh sender member)⟩
  past := List.forall_mem_cons.mpr ⟨Nat.le_refl _, sound.past⟩
  tagged := List.forall_mem_cons.mpr ⟨rfl, sound.tagged⟩

end Tables

/-- A reply task keeps key, socket and time of its sender, and its peer. -/
theorem flow_of_act {sender entry : Sender} {reply : Option UdpDatagram} {move : TaskMove}
    (acted : sender.act time move = some (entry, reply)) : flow entry = flow sender := by
  unfold Sender.act at acted
  split at acted
  · cases acted
    rfl
  · split at acted
    · cases acted
      rfl
    · contradiction
  · split at acted
    · cases acted
      rfl
    · contradiction
  · split at acted
    · split at acted
      · cases acted
        rfl
      · contradiction
    · contradiction

theorem socket_of_act {sender entry : Sender} {reply : Option UdpDatagram} {move : TaskMove}
    (acted : sender.act time move = some (entry, reply)) : entry.socket = sender.socket :=
  congrArg (fun projected => projected.2.1) (flow_of_act acted)

/-- The senders behind a `putSender`. -/
theorem mem_putSender {sender moved entry : Sender} (member : sender ∈ state.senders)
    (same : moved.socket = sender.socket) :
    entry ∈ (state.putSender moved).senders ↔
      entry = moved ∨ entry ∈ state.senders ∧ entry.socket ≠ sender.socket := by
  rw [putSender, List.mem_map]
  constructor
  · rintro ⟨other, known, rfl⟩
    by_cases own : other.socket = moved.socket
    · exact Or.inl (if_pos own)
    · rw [if_neg own]
      exact Or.inr ⟨known, same ▸ own⟩
  · rintro (rfl | ⟨known, other⟩)
    · exact ⟨sender, member, if_pos same.symm⟩
    · exact ⟨entry, known, if_neg (same ▸ other)⟩

/-- The reply tasks leave the table alone. -/
theorem TaskMoved.table {socket : Nat} {move : TaskMove} (sound : Sound state)
    (stepped : TaskMoved state time socket move next) :
    next.senders.map flow = state.senders.map flow ∧ next.nextSocket = state.nextSocket ∧
      next.now = state.now ∧ next.sent = state.sent ∧ next.logged = state.logged := by
  cases stepped with
  | lost closed => exact ⟨rfl, rfl, rfl, rfl, rfl⟩
  | @moved sender entry reply member own acted =>
      refine ⟨?_, rfl, rfl, rfl, rfl⟩
      rw [moveSender, putSender, List.map_map]
      apply List.map_congr_left
      intro other known
      by_cases same : other.socket = entry.socket
      · have identical := List.inj_on_of_nodup_map sound.sockets known member
          (same.trans (socket_of_act acted))
        rw [Function.comp_apply, if_pos same, flow_of_act acted, identical]
      · rw [Function.comp_apply, if_neg same]

theorem Sound.kept (sound : Sound state) (time : Nat) :
    SoundTable (state.kept time) state.nextSocket state.now :=
  sound.of_sublist AgingTable.retain_sublist

/-- A datagram without a peer is skipped. -/
theorem Processed.eq_of_unaddressed
    (processed : Processed demux state time dgram bind victim next)
    (empty : dgram.peerAddr.isEmpty = true) : next = state := by
  cases processed with
  | unaddressed _ => rfl
  | known addressed _ _ => exact absurd (empty.symm.trans addressed) (by decide)
  | bindFailed addressed _ _ => exact absurd (empty.symm.trans addressed) (by decide)
  | inserted addressed _ _ _ => exact absurd (empty.symm.trans addressed) (by decide)

/-- An entry behind a datagram was an active sender, with its socket and its task,
or is new. -/
theorem Processed.kept_or_new (processed : Processed demux state time dgram bind victim next)
    (addressed : dgram.peerAddr.isEmpty = false) {entry : Sender}
    (member : entry ∈ next.senders) :
    (∃ sender ∈ state.kept time, entry.key = sender.key ∧ entry.socket = sender.socket ∧
        entry.task = sender.task) ∨
      entry = Sender.spawn (peerKey dgram) state.nextSocket time := by
  cases processed with
  | unaddressed empty => exact absurd (empty.symm.trans addressed) (by decide)
  | known _ _ _ =>
      obtain ⟨sender, kept, rfl⟩ := mem_refresh.mp member
      refine Or.inl ⟨sender, kept, ?_⟩
      split
      · exact ⟨rfl, rfl, rfl⟩
      · exact ⟨rfl, rfl, rfl⟩
  | bindFailed _ absent failed => exact Or.inl ⟨entry, member, rfl, rfl, rfl⟩
  | inserted _ absent bound made =>
      rcases List.mem_cons.mp member with new | stays
      · exact Or.inr new
      · exact Or.inl ⟨entry, (AgingTable.makeRoom_sublist made).subset stays, rfl, rfl, rfl⟩

/-- Processing a datagram leaves the table sound. -/
theorem Processed.sound (processed : Processed demux state time dgram bind victim next)
    (sound : Sound state) (notBefore : state.now ≤ time) :
    SoundTable next.senders next.nextSocket time := by
  have keptSound := (sound.kept time).later notBefore
  cases processed with
  | unaddressed empty => exact SoundTable.later sound notBefore
  | known addressed member own => exact keptSound.refresh (peerKey dgram)
  | bindFailed addressed absent failed => exact keptSound
  | inserted addressed absent bound made =>
      have sublist := AgingTable.makeRoom_sublist made
      have room := AgingTable.length_lt_of_makeRoom keptSound.bounded made
      exact (keptSound.of_sublist sublist).spawn room
        fun sender member => absent sender (sublist.subset member)

theorem step_eq_some {timed : TimedDemuxAction} : state.step demux timed = some next ↔
    state.now ≤ timed.time ∧ ∃ moved, state.act demux timed.time timed.action = some moved ∧
      next = { moved with now := timed.time } := by
  unfold step
  split
  · rename_i notBefore
    simp [notBefore, @eq_comm _ next]
  · rename_i before
    exact iff_of_false (by simp) fun both => before both.1

theorem sound_of_step {timed : TimedDemuxAction} (sound : Sound state)
    (stepped : state.step demux timed = some next) : Sound next := by
  obtain ⟨notBefore, moved, acted, rfl⟩ := step_eq_some.mp stepped
  obtain ⟨time, action⟩ := timed
  cases action with
  | datagram dgram bind victim => exact (processed_of_process acted).sound sound notBefore
  | task socket move =>
      obtain ⟨same, nextSocket, -⟩ := (taskMoved_of_actTask acted).table sound
      have table := SoundTable.of_map_flow_eq sound same
      rw [← nextSocket] at table
      exact table.later notBefore

end DemuxState

end Etr.Forward
