import Etr.Forward.SenderReplies

/-!
Contract: whose datagrams a forwarding socket carries.

Owns what the forwarding side has relayed over a whole run: which of the
datagrams it was given it sent on, whose they are on each socket, and which of
the datagrams that arrived at a socket were sent back to its sender.

Does not own the streams the datagrams come on.
-/

namespace Etr.Forward

open Etr.Library Etr.Protocol

/-- The data that arrived at a socket, oldest first. -/
def arrivalsAt (socket : Nat) (arrived : List (Nat × List UInt8)) : List (List UInt8) :=
  arrived.filterMap fun arrival => if arrival.1 = socket then some arrival.2 else none

/-- The data that was sent back from a socket, oldest first. -/
def repliesAt (socket : Nat) (returned : List ReturnedDatagram) : List (List UInt8) :=
  returned.filterMap fun reply => if reply.socket = socket then some reply.dgram.data else none

/-- Who a datagram is from, and what is in it. -/
def datagramContent (dgram : UdpDatagram) : PeerKey × List UInt8 :=
  (peerKey dgram, dgram.data)

theorem mem_of_mem_arrivalsAt {socket : Nat} {arrived : List (Nat × List UInt8)}
    {data : List UInt8} (member : data ∈ arrivalsAt socket arrived) :
    (socket, data) ∈ arrived := by
  obtain ⟨⟨place, found⟩, came, here⟩ := List.mem_filterMap.mp member
  simp only [Option.ite_none_right_eq_some, Option.some.injEq] at here
  obtain ⟨rfl, rfl⟩ := here
  exact came

theorem arrivalsAt_append (socket : Nat) (arrived later : List (Nat × List UInt8)) :
    arrivalsAt socket (arrived ++ later) = arrivalsAt socket arrived ++ arrivalsAt socket later :=
  List.filterMap_append

theorem repliesAt_append (socket : Nat) (returned later : List ReturnedDatagram) :
    repliesAt socket (returned ++ later) = repliesAt socket returned ++ repliesAt socket later :=
  List.filterMap_append

namespace DemuxState

variable {demux : Demux} {state next : DemuxState} {time socket : Nat} {dgram : UdpDatagram}
  {bind : Except String Unit} {victim : PeerKey} {taken : List UdpDatagram}
  {arrived : List (Nat × List UInt8)} {move : TaskMove}

/-- What the forwarding side has made of the datagrams it took from its stream,
and of what arrived at its sockets. -/
structure Relayed (taken : List UdpDatagram) (arrived : List (Nat × List UInt8))
    (state : DemuxState) : Prop where
  sound : Sound state
  /-- What is sent to the target was taken, each datagram once and in order. -/
  forwarded : (state.sent.map fun sent => (sent.key, sent.data)).Sublist
    (taken.map datagramContent)
  /-- What is not sent has no peer, or its bind failed. -/
  accounted : state.sent.length + state.logged.length +
    taken.countP (fun dgram => dgram.peerAddr.isEmpty) = taken.length
  /-- Whatever a socket sends is from one sender. -/
  exclusive : ∀ sent ∈ state.sent, ∀ other ∈ state.sent,
    sent.socket = other.socket → sent.key = other.key
  bound : ∀ sent ∈ state.sent, sent.socket < state.nextSocket
  used : ∀ sender ∈ state.senders,
    ∃ sent ∈ state.sent, sent.socket = sender.socket ∧ sent.key = sender.key
  /-- A reply goes to the sender whose datagrams its socket carries. -/
  answered : ∀ reply ∈ state.returned,
    ∃ sent ∈ state.sent, sent.socket = reply.socket ∧ sent.key = peerKey reply.dgram
  /-- What is in a socket is what has arrived there behind the replies. -/
  queued : ∀ sender ∈ state.senders,
    arrivalsAt sender.socket arrived = repliesAt sender.socket state.returned ++ sender.inbox
  /-- Replies of a socket are sent back in order and without a gap. -/
  inOrder : ∀ socket, repliesAt socket state.returned <+: arrivalsAt socket arrived
  arrivedBound : ∀ arrival ∈ arrived, arrival.1 < state.nextSocket
  returnedBound : ∀ reply ∈ state.returned, reply.socket < state.nextSocket

theorem relayed_init : Relayed [] [] init where
  sound := sound_init
  forwarded := List.Sublist.refl _
  accounted := rfl
  exclusive := List.forall_mem_nil _
  bound := List.forall_mem_nil _
  used := List.forall_mem_nil _
  answered := List.forall_mem_nil _
  queued := List.forall_mem_nil _
  inOrder := fun _ => List.prefix_refl _
  arrivedBound := List.forall_mem_nil _
  returnedBound := List.forall_mem_nil _

theorem arrivalsAt_eq_nil (unbound : ∀ arrival ∈ arrived, arrival.1 < socket) :
    arrivalsAt socket arrived = [] := by
  apply List.filterMap_eq_nil_iff.mpr
  intro arrival member
  exact if_neg (Nat.ne_of_lt (unbound arrival member))

theorem repliesAt_eq_nil {returned : List ReturnedDatagram}
    (unbound : ∀ reply ∈ returned, reply.socket < socket) : repliesAt socket returned = [] := by
  apply List.filterMap_eq_nil_iff.mpr
  intro reply member
  exact if_neg (Nat.ne_of_lt (unbound reply member))

/-- Senders that stay, on the sockets they have. -/
theorem Relayed.of_kept (relayed : Relayed taken arrived state) {senders : List Sender}
    {added : List SentDatagram} {nextSocket : Nat} {logged : List String}
    (sound : Sound { state with
      senders, nextSocket, logged, sent := state.sent ++ added, now := time })
    (given : (added.map fun sent => (sent.key, sent.data)).Sublist [datagramContent dgram])
    (counted : added.length + logged.length + (if dgram.peerAddr.isEmpty then 1 else 0) =
      state.logged.length + 1)
    (notBelow : state.nextSocket ≤ nextSocket)
    (addedBound : ∀ sent ∈ added, sent.socket < nextSocket)
    (addedOwn : ∀ sent ∈ added, ∀ other ∈ state.sent,
      sent.socket = other.socket → sent.key = other.key)
    (entries : ∀ entry ∈ senders,
      (∃ sender ∈ state.senders, entry.key = sender.key ∧ entry.socket = sender.socket ∧
        entry.inbox = sender.inbox) ∨
      (entry.socket = state.nextSocket ∧ entry.inbox = [] ∧
        ∃ sent ∈ added, sent.socket = entry.socket ∧ sent.key = entry.key)) :
    Relayed (taken ++ [dgram]) arrived { state with
      senders, nextSocket, logged, sent := state.sent ++ added, now := time } := by
  have single : ∀ sent ∈ added, ∀ other ∈ added, sent = other := by
    have short : added.length ≤ 1 := by simpa using given.length_le
    intro sent member other otherMember
    match added, short, member, otherMember with
    | [only], _, member, otherMember =>
        rw [List.mem_singleton.mp member, List.mem_singleton.mp otherMember]
  refine ⟨sound, ?_, ?_, ?_, ?_, ?_, ?_, ?_, relayed.inOrder, ?_, ?_⟩
  · rw [List.map_append, List.map_append]
    exact relayed.forwarded.append given
  · have before := relayed.accounted
    simp only [List.length_append, List.countP_append, List.countP_singleton,
      List.length_singleton]
    omega
  · intro sent member other otherMember same
    rcases List.mem_append.mp member with old | new
    · rcases List.mem_append.mp otherMember with otherOld | otherNew
      · exact relayed.exclusive sent old other otherOld same
      · exact (addedOwn other otherNew sent old same.symm).symm
    · rcases List.mem_append.mp otherMember with otherOld | otherNew
      · exact addedOwn sent new other otherOld same
      · rw [single sent new other otherNew]
  · intro sent member
    rcases List.mem_append.mp member with old | new
    · exact Nat.lt_of_lt_of_le (relayed.bound sent old) notBelow
    · exact addedBound sent new
  · intro entry member
    rcases entries entry member with ⟨sender, known, key, socket, -⟩ | ⟨-, -, sent, new, own⟩
    · obtain ⟨sent, old, sameSocket, sameKey⟩ := relayed.used sender known
      exact ⟨sent, List.mem_append_left _ old, sameSocket.trans socket.symm,
        sameKey.trans key.symm⟩
    · exact ⟨sent, List.mem_append_right _ new, own⟩
  · intro reply member
    obtain ⟨sent, old, own⟩ := relayed.answered reply member
    exact ⟨sent, List.mem_append_left _ old, own⟩
  · intro entry member
    rcases entries entry member with ⟨sender, known, -, socket, inbox⟩ | ⟨fresh, inbox, -⟩
    · rw [socket, inbox]
      exact relayed.queued sender known
    · rw [fresh, inbox, arrivalsAt_eq_nil relayed.arrivedBound,
        repliesAt_eq_nil relayed.returnedBound]
      rfl
  · intro arrival member
    exact Nat.lt_of_lt_of_le (relayed.arrivedBound arrival member) notBelow
  · intro reply member
    exact Nat.lt_of_lt_of_le (relayed.returnedBound reply member) notBelow

/-- The datagram is not sent on. -/
theorem Relayed.of_unsent (relayed : Relayed taken arrived state) {senders : List Sender}
    {logged : List String} (sound : Sound { state with senders, logged, now := time })
    (counted : logged.length + (if dgram.peerAddr.isEmpty then 1 else 0) =
      state.logged.length + 1)
    (entries : ∀ entry ∈ senders, entry ∈ state.senders) :
    Relayed (taken ++ [dgram]) arrived { state with senders, logged, now := time } := by
  have stays : Relayed (taken ++ [dgram]) arrived { state with
      senders, logged, sent := state.sent ++ [], now := time } :=
    relayed.of_kept (by rw [List.append_nil]; exact sound) (List.nil_sublist _)
      (by simpa using counted) (Nat.le_refl _) (List.forall_mem_nil _) (List.forall_mem_nil _)
      fun entry member => Or.inl ⟨entry, entries entry member, rfl, rfl, rfl⟩
  rw [List.append_nil] at stays
  exact stays

/-- The datagram is sent on, or it is not. -/
theorem Relayed.process (relayed : Relayed taken arrived state) (notBefore : state.now ≤ time)
    (processed : Processed demux state time dgram bind victim next) :
    Relayed (taken ++ [dgram]) arrived { next with now := time } := by
  have sound : Sound { next with now := time } := processed.sound relayed.sound notBefore
  have kept : ∀ {sender : Sender}, sender ∈ state.kept time → sender ∈ state.senders :=
    fun member => (AgingTable.mem_retain.mp member).1
  have once : ∀ socket, (([⟨socket, demux.target, peerKey dgram, dgram.data, time⟩] :
      List SentDatagram).map fun sent => (sent.key, sent.data)).Sublist [datagramContent dgram] :=
    fun _ => List.Sublist.refl _
  cases processed with
  | unaddressed empty =>
      exact relayed.of_unsent sound (by simp [empty]) fun _ member => member
  | @known addressed sender member own =>
      refine relayed.of_kept sound (once _) (by simp [addressed, send, Nat.add_comm])
        (Nat.le_refl _) ?_ ?_ ?_
      · intro sent new
        rw [List.mem_singleton.mp new]
        exact relayed.sound.fresh sender (kept member)
      · intro sent new other old same
        rw [List.mem_singleton.mp new] at same ⊢
        obtain ⟨used, usedOld, usedSocket, usedKey⟩ := relayed.used sender (kept member)
        have sameKey := relayed.exclusive used usedOld other old (usedSocket.trans same)
        exact own.symm.trans (usedKey.symm.trans sameKey)
      · intro entry refreshed
        obtain ⟨before, keptBefore, rfl⟩ := mem_refresh.mp refreshed
        refine Or.inl ⟨before, kept keptBefore, ?_⟩
        split
        · exact ⟨rfl, rfl, rfl⟩
        · exact ⟨rfl, rfl, rfl⟩
  | bindFailed addressed absent failed =>
      exact relayed.of_unsent sound (by simp [addressed]) fun _ member => kept member
  | inserted addressed absent bound made =>
      refine relayed.of_kept sound (once _) (by simp [addressed, send, Nat.add_comm])
        (Nat.le_succ _) ?_ ?_ ?_
      · intro sent new
        rw [List.mem_singleton.mp new]
        exact Nat.lt_succ_self _
      · intro sent new other old same
        rw [List.mem_singleton.mp new] at same
        have older := relayed.bound other old
        rw [← same] at older
        exact absurd older (Nat.lt_irrefl _)
      · intro entry member
        rcases List.mem_cons.mp member with rfl | stays
        · exact Or.inr ⟨rfl, rfl, _, List.mem_cons_self, rfl, rfl⟩
        · have old := kept ((AgingTable.makeRoom_sublist made).subset stays)
          exact Or.inl ⟨entry, old, rfl, rfl, rfl⟩

end DemuxState

/-- What a move brings to a socket. -/
def TaskMove.arrival? (socket : Nat) : TaskMove → List (Nat × List UInt8)
  | .arrive data => [(socket, data)]
  | .beginWait | .read | .expire => []

/-- A move at a socket keeps the order: what it brings goes to the back, what it
takes out is sent back. -/
theorem Sender.queue_of_act {sender entry : Sender} {reply : Option UdpDatagram} {time : Nat}
    {move : TaskMove} (acted : sender.act time move = some (entry, reply)) :
    sender.inbox ++ (move.arrival? sender.socket).map Prod.snd =
        reply.toList.map UdpDatagram.data ++ entry.inbox := by
  cases move with
  | arrive data =>
      cases acted
      rfl
  | beginWait =>
      simp only [Sender.act] at acted
      split at acted
      · cases acted
        simp [TaskMove.arrival?]
      · contradiction
  | read =>
      simp only [Sender.act] at acted
      split at acted
      · rename_i inbox
        cases acted
        simp [TaskMove.arrival?, inbox]
      · contradiction
  | expire =>
      simp only [Sender.act] at acted
      split at acted
      · split at acted
        · cases acted
          simp [TaskMove.arrival?]
        · contradiction
      · contradiction

namespace DemuxState

variable {demux : Demux} {state next : DemuxState} {time socket : Nat} {taken : List UdpDatagram}
  {arrived : List (Nat × List UInt8)} {move : TaskMove}

theorem repliesAt_reply (other : Nat) (reply : Option UdpDatagram) :
    repliesAt other (reply.toList.map fun dgram => ⟨socket, dgram, time⟩) =
      if socket = other then reply.toList.map UdpDatagram.data else [] := by
  cases reply with
  | none => simp [repliesAt]
  | some dgram => by_cases same : socket = other <;> simp [repliesAt, same]

theorem arrivalsAt_arrival (other : Nat) :
    arrivalsAt other (move.arrival? socket) =
      if socket = other then (move.arrival? socket).map Prod.snd else [] := by
  cases move with
  | arrive data =>
      by_cases same : socket = other <;> simp [arrivalsAt, TaskMove.arrival?, same]
  | beginWait => simp [arrivalsAt, TaskMove.arrival?]
  | read => simp [arrivalsAt, TaskMove.arrival?]
  | expire => simp [arrivalsAt, TaskMove.arrival?]

/-- A move at a bound socket. -/
theorem Relayed.moveTask (relayed : Relayed taken arrived state)
    (bound : socket < state.nextSocket) (moved : TaskMoved state time socket move next)
    (sound : Sound { next with now := time }) :
    Relayed taken (arrived ++ move.arrival? socket) { next with now := time } := by
  have stillBound : ∀ arrival ∈ arrived ++ move.arrival? socket, arrival.1 < state.nextSocket := by
    intro arrival member
    rcases List.mem_append.mp member with old | new
    · exact relayed.arrivedBound arrival old
    · cases move with
      | arrive data =>
          rw [List.mem_singleton.mp new]
          exact bound
      | beginWait => contradiction
      | read => contradiction
      | expire => contradiction
  cases moved with
  | lost closed =>
      refine ⟨sound, relayed.forwarded, relayed.accounted, relayed.exclusive, relayed.bound,
        relayed.used,
        relayed.answered, ?_, ?_, stillBound, relayed.returnedBound⟩
      · intro sender member
        rw [arrivalsAt_append, arrivalsAt_arrival, if_neg (Ne.symm (closed sender member)),
          List.append_nil]
        exact relayed.queued sender member
      · intro other
        rw [arrivalsAt_append]
        exact (relayed.inOrder other).trans (List.prefix_append _ _)
  | @moved sender entry reply member own acted =>
      subst own
      have same := flow_of_act acted
      simp only [flow, Prod.mk.injEq] at same
      obtain ⟨key, socket, -, -⟩ := same
      have order : arrivalsAt sender.socket (arrived ++ move.arrival? sender.socket) =
          repliesAt sender.socket
            (state.returned ++ reply.toList.map fun dgram => ⟨entry.socket, dgram, time⟩) ++
            entry.inbox := by
        rw [arrivalsAt_append, arrivalsAt_arrival, if_pos rfl, relayed.queued sender member,
          List.append_assoc, Sender.queue_of_act acted, repliesAt_append, repliesAt_reply,
          if_pos socket, List.append_assoc]
      have elsewhere : ∀ other, sender.socket ≠ other →
          arrivalsAt other (arrived ++ move.arrival? sender.socket) = arrivalsAt other arrived ∧
            repliesAt other
              (state.returned ++ reply.toList.map fun dgram => ⟨entry.socket, dgram, time⟩) =
                repliesAt other state.returned := by
        intro other different
        constructor
        · rw [arrivalsAt_append, arrivalsAt_arrival, if_neg different, List.append_nil]
        · rw [repliesAt_append, repliesAt_reply, if_neg (by rw [socket]; exact different),
            List.append_nil]
      have entries : ∀ other, other ∈ (state.putSender entry).senders ↔
          other = entry ∨ other ∈ state.senders ∧ other.socket ≠ sender.socket :=
        fun _ => mem_putSender member socket
      refine ⟨sound, relayed.forwarded, relayed.accounted, relayed.exclusive, relayed.bound,
        ?_, ?_, ?_, ?_, stillBound, ?_⟩
      · intro other otherMember
        rcases (entries other).mp otherMember with rfl | ⟨known, -⟩
        · rw [socket, key]
          exact relayed.used sender member
        · exact relayed.used other known
      · intro answer answered
        rcases List.mem_append.mp answered with old | new
        · exact relayed.answered answer old
        · obtain ⟨dgram, replied, rfl⟩ := List.mem_map.mp new
          obtain rfl : reply = some dgram := Option.mem_toList.mp replied
          obtain ⟨sent, old, sentSocket, sentKey⟩ := relayed.used sender member
          have peer := (reply_of_act acted).1.trans (relayed.sound.tagged sender member)
          exact ⟨sent, old, sentSocket.trans socket.symm, sentKey.trans peer.symm⟩
      · intro other otherMember
        rcases (entries other).mp otherMember with rfl | ⟨known, different⟩
        · rw [socket]
          exact order
        · have untouched := elsewhere other.socket (Ne.symm different)
          rw [untouched.1]
          exact (relayed.queued other known).trans (congrArg (· ++ other.inbox) untouched.2.symm)
      · intro other
        by_cases here : sender.socket = other
        · rw [← here, order]
          exact List.prefix_append _ _
        · have untouched := elsewhere other here
          rw [untouched.1]
          exact untouched.2.symm ▸ relayed.inOrder other
      · intro answer answered
        rcases List.mem_append.mp answered with old | new
        · exact relayed.returnedBound answer old
        · obtain ⟨dgram, -, rfl⟩ := List.mem_map.mp new
          rw [socket]
          exact bound

end DemuxState

end Etr.Forward
