import Etr.Forward.SenderGuarantees
import Etr.Forward.SenderTasks

/-!
Contract: the replies of active UDP flows.

Owns what a flow has carried, and exactly the schedules in which every active
flow of a peer keeps getting its replies.

Does not own how a reply is answered.
-/

namespace Etr.Forward

open Etr.Library Etr.Protocol

namespace DemuxState

variable {demux : Demux} {state next final : DemuxState} {time now : Nat} {dgram : UdpDatagram}
  {bind : Except String Unit} {victim key : PeerKey} {socket : Nat}

/-! ## Active flows -/

/-- The flow of the peer on a socket carried a datagram at `time`, in one of the
two directions. -/
def Carried (state : DemuxState) (key : PeerKey) (socket time : Nat) : Prop :=
  (∃ dgram ∈ state.sent, dgram.key = key ∧ dgram.socket = socket ∧ dgram.time = time) ∨
    ∃ reply ∈ state.returned,
      peerKey reply.dgram = key ∧ reply.socket = socket ∧ reply.time = time

/-- Every flow of the peer that carried a datagram within the idle time gets its
replies. -/
def Served (demux : Demux) (key : PeerKey) (state : DemuxState) : Prop :=
  ∀ socket time, state.Carried key socket time → state.now - time < senderIdle →
    state.Answered demux key socket

/-- The step does not evict the peer to make room. -/
def Undisplaced (key : PeerKey) (state : DemuxState) (timed : TimedDemuxAction) : Prop :=
  match timed.action with
  | .datagram dgram bind victim =>
      ∀ sender ∈ state.senders, sender.key = key →
        ¬ state.Displaced timed.time dgram bind victim sender
  | .task _ _ => True

/-- No reply task of the peer gives up while the peer has sent within the idle
time, and no datagram is processed while the peer has been silent for that long
but has been sent a reply within it. -/
def Harmless (key : PeerKey) (state : DemuxState) (timed : TimedDemuxAction) : Prop :=
  match timed.action with
  | .datagram dgram _ _ =>
      dgram.peerAddr.isEmpty = false →
        ∀ sender ∈ state.senders, sender.key = key → senderIdle ≤ timed.time - sender.last →
          ∀ reply ∈ state.returned, reply.socket = sender.socket →
            senderIdle ≤ timed.time - reply.time
  | .task socket .expire =>
      ∀ sender ∈ state.senders, sender.key = key → sender.socket = socket →
        senderIdle ≤ timed.time - sender.last
  | .task _ _ => True

instance (timed : TimedDemuxAction) : Decidable (Undisplaced key state timed) :=
  match timed with
  | ⟨_, .datagram _ _ _⟩ => inferInstanceAs (Decidable (∀ sender ∈ state.senders, _))
  | ⟨_, .task _ _⟩ => isTrue trivial

instance (timed : TimedDemuxAction) : Decidable (Harmless key state timed) :=
  match timed with
  | ⟨_, .datagram _ _ _⟩ => inferInstanceAs (Decidable (_ → ∀ sender ∈ state.senders, _))
  | ⟨_, .task _ .expire⟩ => inferInstanceAs (Decidable (∀ sender ∈ state.senders, _))
  | ⟨_, .task _ (.arrive _)⟩ => isTrue trivial
  | ⟨_, .task _ .beginWait⟩ => isTrue trivial
  | ⟨_, .task _ .read⟩ => isTrue trivial

/-- Every entry of the peer has a running task. -/
def Tended (key : PeerKey) (state : DemuxState) : Prop :=
  ∀ sender ∈ state.senders, sender.key = key → sender.task.phase ≠ .ended

/-- No reply task of the peer gives up. -/
def Patient (key : PeerKey) (state : DemuxState) (timed : TimedDemuxAction) : Prop :=
  match timed.action with
  | .task socket .expire => ∀ sender ∈ state.senders, sender.key = key → sender.socket ≠ socket
  | _ => True

/-! ## What the logs say about a sender -/

/-- A task that waits began behind every reply it sent, and one that gave up did
so when the last of them was past the idle time. -/
def Quiet (now time : Nat) : TaskPhase → Prop
  | .busy => True
  | .waiting since => time ≤ since
  | .ended => time + senderIdle ≤ now

/-- A sender was last used when the log says so, and its task sent back what the
log has for its socket. -/
structure Accounted (sent : List SentDatagram) (returned : List ReturnedDatagram) (now : Nat)
    (sender : Sender) : Prop where
  used : ∃ dgram ∈ sent,
    dgram.key = sender.key ∧ dgram.socket = sender.socket ∧ dgram.time = sender.last
  latest : ∀ dgram ∈ sent, dgram.socket = sender.socket → dgram.time ≤ sender.last
  owned : ∀ reply ∈ returned, reply.socket = sender.socket → peerKey reply.dgram = sender.key
  quiet : ∀ reply ∈ returned, reply.socket = sender.socket →
    Quiet now reply.time sender.task.phase

/-- The logs speak of sockets that have been bound, and of the past. -/
structure Recorded (state : DemuxState) : Prop where
  sound : Sound state
  accounted : ∀ sender ∈ state.senders,
    Accounted state.sent state.returned state.now sender
  sentBefore : ∀ dgram ∈ state.sent, dgram.socket < state.nextSocket
  returnedBefore : ∀ reply ∈ state.returned, reply.socket < state.nextSocket
  returnedPast : ∀ reply ∈ state.returned, reply.time ≤ state.now

section Accounts

variable {sent : List SentDatagram} {returned : List ReturnedDatagram} {sender entry : Sender}

theorem Quiet.later {past : Nat} {phase : TaskPhase} (quiet : Quiet now past phase)
    (notBefore : now ≤ time) : Quiet time past phase := by
  cases phase with
  | busy => trivial
  | waiting since => exact quiet
  | ended => exact Nat.le_trans quiet notBefore

theorem Accounted.later (accounted : Accounted sent returned now sender) (notBefore : now ≤ time) :
    Accounted sent returned time sender :=
  { accounted with
    quiet := fun reply member own => (accounted.quiet reply member own).later notBefore }

/-- A datagram on another socket is of no account. -/
theorem Accounted.sendElsewhere (accounted : Accounted sent returned now sender)
    {dgram : SentDatagram} (other : dgram.socket ≠ sender.socket) :
    Accounted (sent ++ [dgram]) returned now sender where
  used := by
    obtain ⟨last, member, same⟩ := accounted.used
    exact ⟨last, List.mem_append_left _ member, same⟩
  latest := by
    intro past member own
    rcases List.mem_append.mp member with earlier | new
    · exact accounted.latest past earlier own
    · rw [List.mem_singleton.mp new] at own
      exact absurd own other
  owned := accounted.owned
  quiet := accounted.quiet

/-- A datagram on the own socket is the last one. -/
theorem Accounted.send (accounted : Accounted sent returned now sender)
    (notBefore : sender.last ≤ time) {dgram : SentDatagram} (key : dgram.key = sender.key)
    (socket : dgram.socket = sender.socket) (sentNow : dgram.time = time) :
    Accounted (sent ++ [dgram]) returned now { sender with last := time } where
  used := ⟨dgram, List.mem_append_right _ List.mem_cons_self, key, socket, sentNow⟩
  latest := by
    intro past member own
    rcases List.mem_append.mp member with earlier | new
    · exact Nat.le_trans (accounted.latest past earlier own) notBefore
    · rw [List.mem_singleton.mp new]
      exact Nat.le_of_eq sentNow
  owned := accounted.owned
  quiet := accounted.quiet

/-- A reply on another socket is of no account. -/
theorem Accounted.returnElsewhere (accounted : Accounted sent returned now sender)
    {added : List ReturnedDatagram} (other : ∀ reply ∈ added, reply.socket ≠ sender.socket) :
    Accounted sent (returned ++ added) now sender where
  used := accounted.used
  latest := accounted.latest
  owned := by
    intro reply member own
    rcases List.mem_append.mp member with earlier | new
    · exact accounted.owned reply earlier own
    · exact absurd own (other reply new)
  quiet := by
    intro reply member own
    rcases List.mem_append.mp member with earlier | new
    · exact accounted.quiet reply earlier own
    · exact absurd own (other reply new)

/-- A step of the task keeps the promise of its phase. -/
theorem Quiet.act {past : Nat} (quiet : Quiet time past sender.task.phase) (before : past ≤ time)
    {reply : Option UdpDatagram} {move : TaskMove}
    (acted : sender.act time move = some (entry, reply)) : Quiet time past entry.task.phase := by
  cases move with
  | arrive data =>
      cases acted
      exact quiet
  | beginWait =>
      simp only [Sender.act] at acted
      split at acted
      · cases acted
        exact before
      · contradiction
  | read =>
      simp only [Sender.act] at acted
      split at acted
      · cases acted
        trivial
      · contradiction
  | expire =>
      simp only [Sender.act] at acted
      split at acted
      · rename_i since waiting _
        split at acted
        · rename_i elapsed
          cases acted
          rw [waiting] at quiet
          exact Nat.le_trans (Nat.add_le_add_right quiet senderIdle) elapsed
        · contradiction
      · contradiction

/-- A step of the own task. -/
theorem Accounted.act (accounted : Accounted sent returned time sender)
    (past : ∀ reply ∈ returned, reply.time ≤ time) (tagged : sender.task.peer = sender.key)
    {reply : Option UdpDatagram} {move : TaskMove}
    (acted : sender.act time move = some (entry, reply)) :
    Accounted sent
      (returned ++ reply.toList.map fun dgram => ⟨entry.socket, dgram, time⟩) time entry := by
  have same := flow_of_act acted
  simp only [flow, Prod.mk.injEq] at same
  obtain ⟨key, socket, last, -⟩ := same
  have own : ∀ replied ∈ returned ++
      reply.toList.map fun dgram => (⟨entry.socket, dgram, time⟩ : ReturnedDatagram),
      replied.socket = entry.socket →
        peerKey replied.dgram = entry.key ∧ Quiet time replied.time entry.task.phase := by
    intro replied member onSocket
    rcases List.mem_append.mp member with earlier | new
    · rw [socket] at onSocket
      exact ⟨(accounted.owned replied earlier onSocket).trans key.symm,
        (accounted.quiet replied earlier onSocket).act (past replied earlier) acted⟩
    · rcases List.mem_map.mp new with ⟨dgram, read, rfl⟩
      obtain rfl : reply = some dgram := Option.mem_toList.mp read
      obtain ⟨tag, -, busy⟩ := reply_of_act acted
      rw [busy, tag, tagged, key]
      exact ⟨rfl, trivial⟩
  exact
    { used := by
        rw [key, socket, last]
        exact accounted.used
      latest := by
        rw [socket, last]
        exact accounted.latest
      owned := fun replied member onSocket => (own replied member onSocket).1
      quiet := fun replied member onSocket => (own replied member onSocket).2 }

/-- A fresh sender, on a socket neither log knows. -/
theorem accounted_spawn {nextSocket : Nat} (sentBefore : ∀ dgram ∈ sent, dgram.socket < nextSocket)
    (returnedBefore : ∀ reply ∈ returned, reply.socket < nextSocket) {dgram : SentDatagram}
    (socket : dgram.socket = nextSocket) :
    Accounted (sent ++ [dgram]) returned now (Sender.spawn dgram.key nextSocket dgram.time) where
  used := ⟨dgram, List.mem_append_right _ List.mem_cons_self, rfl, socket, rfl⟩
  latest := by
    intro past member own
    rcases List.mem_append.mp member with earlier | new
    · exact absurd own (Nat.ne_of_lt (sentBefore past earlier))
    · rw [List.mem_singleton.mp new]
      exact Nat.le_refl _
  owned := fun reply member own => absurd own (Nat.ne_of_lt (returnedBefore reply member))
  quiet := fun reply member own => absurd own (Nat.ne_of_lt (returnedBefore reply member))

end Accounts

/-! ## The logs stay in step with the table -/

theorem recorded_init : Recorded init where
  sound := sound_init
  accounted := List.forall_mem_nil _
  sentBefore := List.forall_mem_nil _
  returnedBefore := List.forall_mem_nil _
  returnedPast := List.forall_mem_nil _

/-- The accounts of all senders behind a datagram. -/
theorem Processed.accounted (processed : Processed demux state time dgram bind victim next)
    (recorded : Recorded state) (notBefore : state.now ≤ time) :
    ∀ entry ∈ next.senders, Accounted next.sent next.returned time entry := by
  have sound := recorded.sound
  have before : ∀ sender ∈ state.senders,
      Accounted state.sent state.returned time sender :=
    fun sender member => (recorded.accounted sender member).later notBefore
  have subset : ∀ sender ∈ state.kept time, sender ∈ state.senders :=
    fun sender member => (AgingTable.mem_retain.mp member).1
  cases processed with
  | unaddressed empty => exact before
  | @known addressed sender member own =>
      intro entry refreshed
      obtain ⟨other, known, rfl⟩ := mem_refresh.mp refreshed
      by_cases same : other.key = peerKey dgram
      · have identical := List.inj_on_of_nodup_map sound.keys (subset other known)
          (subset sender member) (same.trans own.symm)
        rw [if_pos same]
        exact (before other (subset other known)).send
          (Nat.le_trans (sound.past other (subset other known)) notBefore) same.symm
          (congrArg Sender.socket identical.symm) rfl
      · rw [if_neg same]
        apply (before other (subset other known)).sendElsewhere
        intro shared
        have identical := List.inj_on_of_nodup_map sound.sockets (subset sender member)
          (subset other known) shared
        exact same (identical ▸ own)
  | bindFailed addressed absent failed =>
      exact fun sender member => before sender (subset sender member)
  | inserted addressed absent bound made =>
      intro entry member
      rcases List.mem_cons.mp member with rfl | stays
      · exact accounted_spawn recorded.sentBefore recorded.returnedBefore rfl
      · have known := subset entry ((AgingTable.makeRoom_sublist made).subset stays)
        apply (before entry known).sendElsewhere
        exact Nat.ne_of_gt (sound.fresh entry known)

/-- The accounts of all senders behind a step at a socket. -/
theorem TaskMoved.accounted {move : TaskMove} (stepped : TaskMoved state time socket move next)
    (recorded : Recorded state) (notBefore : state.now ≤ time) :
    ∀ entry ∈ next.senders, Accounted next.sent next.returned time entry := by
  have before : ∀ sender ∈ state.senders,
      Accounted state.sent state.returned time sender :=
    fun sender member => (recorded.accounted sender member).later notBefore
  cases stepped with
  | lost closed => exact before
  | @moved sender entry reply member own acted =>
      intro other known
      rcases (mem_putSender member (socket_of_act acted)).mp known with rfl | ⟨kept, elsewhere⟩
      · exact (before sender member).act
          (fun reply replied => Nat.le_trans (recorded.returnedPast reply replied) notBefore)
          (recorded.sound.tagged sender member) acted
      · apply (before other kept).returnElsewhere
        intro replied new
        rcases List.mem_map.mp new with ⟨dgram, -, rfl⟩
        rw [socket_of_act acted]
        exact Ne.symm elsewhere

/-- A datagram is sent on a socket that has been bound. -/
theorem Processed.logs (processed : Processed demux state time dgram bind victim next)
    (recorded : Recorded state) :
    (∀ sent ∈ next.sent, sent.socket < next.nextSocket) ∧ next.returned = state.returned ∧
      state.nextSocket ≤ next.nextSocket := by
  cases processed with
  | unaddressed empty => exact ⟨recorded.sentBefore, rfl, Nat.le_refl _⟩
  | known addressed member own =>
      refine ⟨?_, rfl, Nat.le_refl _⟩
      intro sent logged
      rcases List.mem_append.mp logged with earlier | new
      · exact recorded.sentBefore sent earlier
      · rw [List.mem_singleton.mp new]
        exact recorded.sound.fresh _ (AgingTable.mem_retain.mp member).1
  | bindFailed addressed absent failed => exact ⟨recorded.sentBefore, rfl, Nat.le_refl _⟩
  | inserted addressed absent bound made =>
      refine ⟨?_, rfl, Nat.le_succ _⟩
      intro sent logged
      rcases List.mem_append.mp logged with earlier | new
      · exact Nat.lt_succ_of_lt (recorded.sentBefore sent earlier)
      · rw [List.mem_singleton.mp new]
        exact Nat.lt_succ_self _

theorem recorded_of_step {timed : TimedDemuxAction} (recorded : Recorded state)
    (stepped : state.step demux timed = some next) : Recorded next := by
  have sound := sound_of_step recorded.sound stepped
  obtain ⟨notBefore, moved, acted, rfl⟩ := step_eq_some.mp stepped
  obtain ⟨time, action⟩ := timed
  have past : ∀ reply ∈ state.returned, reply.time ≤ time :=
    fun reply replied => Nat.le_trans (recorded.returnedPast reply replied) notBefore
  cases action with
  | datagram dgram bind victim =>
      have processed := processed_of_process acted
      obtain ⟨sentBefore, returned, bound⟩ := processed.logs recorded
      exact
        { sound := sound
          accounted := processed.accounted recorded notBefore
          sentBefore := sentBefore
          returnedBefore := fun reply replied =>
            Nat.lt_of_lt_of_le (recorded.returnedBefore reply (returned ▸ replied)) bound
          returnedPast := fun reply replied => past reply (returned ▸ replied) }
  | task socket move =>
      have taskMoved := taskMoved_of_actTask acted
      obtain ⟨-, nextSocket, -, sent, -⟩ := taskMoved.table recorded.sound
      obtain ⟨added, returned, origin⟩ := taskMoved.origin recorded.sound
      refine
        { sound := sound
          accounted := taskMoved.accounted recorded notBefore
          sentBefore := ?_
          returnedBefore := ?_
          returnedPast := ?_ }
      · intro dgram logged
        show dgram.socket < moved.nextSocket
        rw [nextSocket]
        exact recorded.sentBefore dgram (sent ▸ logged)
      · intro reply replied
        show reply.socket < moved.nextSocket
        rw [nextSocket]
        rcases List.mem_append.mp (returned ▸ replied) with earlier | new
        · exact recorded.returnedBefore reply earlier
        · obtain ⟨-, ⟨sender, member, -, own, -⟩, -⟩ := origin reply new
          exact own ▸ recorded.sound.fresh sender member
      · intro reply replied
        rcases List.mem_append.mp (returned ▸ replied) with earlier | new
        · exact past reply earlier
        · exact Nat.le_of_eq (origin reply new).1

/-! ## Which steps harm -/

/-- Active flows of the peer have running tasks. -/
def AllLive (key : PeerKey) (state : DemuxState) : Prop :=
  ∀ socket past, state.Carried key socket past → state.now - past < senderIdle →
    HasLiveTask state key socket

theorem served_iff_allLive (demux : Demux) (sound : Sound state) :
    Served demux key state ↔ AllLive key state := by
  unfold Served AllLive
  simp only [answered_iff_hasLiveTask demux sound]

/-- What the flow of a sender carried within the idle time was sent while the
sender was active, or was a reply. -/
theorem Carried.active_or_reply (recorded : Recorded state) {sender : Sender} {past : Nat}
    (member : sender ∈ state.senders) (carried : state.Carried key sender.socket past) :
    past ≤ sender.last ∨ ∃ reply ∈ state.returned, reply.socket = sender.socket ∧
      reply.time = past := by
  rcases carried with ⟨dgram, sent, -, socket, rfl⟩ | ⟨reply, returned, -, socket, same⟩
  · exact Or.inl ((recorded.accounted sender member).latest dgram sent socket)
  · exact Or.inr ⟨reply, returned, socket, same⟩

/-- The last datagram of a sender is one its flow carried. -/
theorem carried_last (recorded : Recorded state) {sender : Sender}
    (member : sender ∈ state.senders) :
    state.Carried sender.key sender.socket sender.last :=
  Or.inl (recorded.accounted sender member).used

/-- An idle sender is gone behind a datagram. -/
theorem Processed.gone (processed : Processed demux state time dgram bind victim next)
    (sound : Sound state) (addressed : dgram.peerAddr.isEmpty = false) {sender : Sender}
    (member : sender ∈ state.senders) (idle : senderIdle ≤ time - sender.last) :
    ∀ entry ∈ next.senders, entry.socket ≠ sender.socket := by
  intro entry entered shared
  rcases processed.kept_or_new addressed entered with ⟨other, kept, -, socket, -⟩ | rfl
  · obtain ⟨known, active⟩ := AgingTable.mem_retain.mp kept
    have identical := List.inj_on_of_nodup_map sound.sockets known member
      (socket.symm.trans shared)
    subst identical
    exact absurd active (Nat.not_lt.mpr idle)
  · exact absurd shared (Nat.ne_of_gt (sound.fresh sender member))

/-- What is sent is sent on the socket of an active sender, or of a new one with
its task running. -/
theorem Processed.sent_or_new (processed : Processed demux state time dgram bind victim next) :
    ∀ sent ∈ next.sent, sent ∈ state.sent ∨
      HasLiveTask next sent.key sent.socket ∨
        ∃ sender ∈ state.kept time, sender.key = sent.key ∧ sender.socket = sent.socket := by
  intro sent logged
  cases processed with
  | unaddressed empty => exact Or.inl logged
  | known addressed member own =>
      rcases List.mem_append.mp logged with earlier | new
      · exact Or.inl earlier
      · rw [List.mem_singleton.mp new]
        exact Or.inr (Or.inr ⟨_, member, own, rfl⟩)
  | bindFailed addressed absent failed => exact Or.inl logged
  | inserted addressed absent bound made =>
      rcases List.mem_append.mp logged with earlier | new
      · exact Or.inl earlier
      · rw [List.mem_singleton.mp new]
        exact Or.inr (Or.inl ⟨_, List.mem_cons_self, rfl, rfl, by simp [Sender.spawn]⟩)

/-- A harmless datagram leaves the task of an active flow running. -/
theorem Processed.hasLiveTask (processed : Processed demux state time dgram bind victim next)
    (recorded : Recorded state) (notBefore : state.now ≤ time) (live : AllLive key state)
    (undisplaced : ∀ sender ∈ state.senders, sender.key = key →
      ¬ state.Displaced time dgram bind victim sender)
    (harmless : Harmless key state ⟨time, .datagram dgram bind victim⟩) {past : Nat}
    (carried : state.Carried key socket past) (active : time - past < senderIdle) :
    HasLiveTask next key socket := by
  have before : state.now - past < senderIdle := by omega
  obtain ⟨sender, member, own, rfl, running⟩ := live socket past carried before
  rcases mem_kept_or_idle time member with keptSender | idle
  · rcases processed.keeps recorded.sound notBefore keptSender with
      ⟨entry, known, sameKey, sameSocket, -, sameTask⟩ | displaced
    · exact ⟨entry, known, sameKey.trans own, sameSocket, sameTask ▸ running⟩
    · exact absurd displaced (undisplaced sender member own)
  · cases empty : dgram.peerAddr.isEmpty with
    | true =>
        exact processed.eq_of_unaddressed empty ▸ ⟨sender, member, own, rfl, running⟩
    | false =>
        -- The sender is dropped, so all its flow carried is past the idle time.
        rcases carried.active_or_reply recorded member with
          early | ⟨reply, returned, onSocket, rfl⟩
        · omega
        · have late : senderIdle ≤ time - reply.time :=
            harmless empty sender member own idle reply returned onSocket
          omega

/-- A datagram is harmless exactly if it removes no sender of the peer that was
sent a reply within the idle time. -/
theorem Processed.allLive_iff (processed : Processed demux state time dgram bind victim next)
    (recorded : Recorded state) (notBefore : state.now ≤ time) (live : AllLive key state)
    (undisplaced : ∀ sender ∈ state.senders, sender.key = key →
      ¬ state.Displaced time dgram bind victim sender) :
    AllLive key { next with now := time } ↔
      Harmless key state ⟨time, .datagram dgram bind victim⟩ := by
  have sound := recorded.sound
  obtain ⟨-, sameReturned, -⟩ := processed.logs recorded
  constructor
  · intro after addressed sender member own idle reply returned onSocket
    by_contra recent
    have carried : Carried { next with now := time } key sender.socket reply.time := by
      refine Or.inr ⟨reply, ?_, ?_, onSocket, rfl⟩
      · exact sameReturned ▸ returned
      · exact ((recorded.accounted sender member).owned reply returned onSocket).trans own
    obtain ⟨entry, known, -, same, -⟩ := after _ _ carried (Nat.not_le.mp recent)
    exact processed.gone sound addressed member idle entry known same
  · intro harmless
    have kept : ∀ socket past, state.Carried key socket past → time - past < senderIdle →
        HasLiveTask next key socket := fun _ _ carried active =>
      processed.hasLiveTask recorded notBefore live undisplaced harmless carried active
    intro socket past carried active
    have afterwards : HasLiveTask next key socket := by
      rcases carried with ⟨sent, logged, rfl, rfl, rfl⟩ | ⟨reply, returned, tag, rfl, rfl⟩
      · rcases processed.sent_or_new sent logged with
          earlier | new | ⟨sender, keptSender, own, same⟩
        · exact kept _ _ (Or.inl ⟨sent, earlier, rfl, rfl, rfl⟩) active
        · exact new
        · obtain ⟨member, recent⟩ := AgingTable.mem_retain.mp keptSender
          have last := carried_last recorded member
          rw [own, same] at last
          exact kept _ _ last recent
      · exact kept _ _ (Or.inr ⟨reply, sameReturned ▸ returned, tag, rfl, rfl⟩) active
    exact afterwards

/-- A harmless step at a socket leaves the task of an active flow running. -/
theorem TaskMoved.hasLiveTask {move : TaskMove} (stepped : TaskMoved state time socket move next)
    (recorded : Recorded state) (notBefore : state.now ≤ time) (live : AllLive key state)
    (harmless : Harmless key state ⟨time, .task socket move⟩) {other past : Nat}
    (carried : state.Carried key other past) (active : time - past < senderIdle) :
    HasLiveTask next key other := by
  have sound := recorded.sound
  have running := live other past carried (by omega)
  refine stepped.hasLiveTask_after running ?_ sound.sockets
  -- A wait that runs out here would have had to outlast what was carried.
  rintro rfl rfl
  obtain ⟨sender, member, own, onSocket, -⟩ := running
  have idle : senderIdle ≤ time - sender.last := harmless sender member own onSocket
  rcases (onSocket ▸ carried).active_or_reply recorded member with
    early | ⟨reply, replied, socket, rfl⟩
  · omega
  · obtain ⟨sameFlow, -⟩ := stepped.table sound
    obtain ⟨added, returned, -⟩ := stepped.origin sound
    obtain ⟨entry, entered, unchanged⟩ := exists_of_map_flow_eq sameFlow member
    have sameSocket : entry.socket = sender.socket :=
      congrArg (fun projected => projected.2.1) unchanged
    have account := stepped.accounted recorded notBefore entry entered
    have quiet := account.quiet reply (returned ▸ List.mem_append_left _ replied)
      (socket.trans sameSocket.symm)
    rw [stepped.ended entry entered (sameSocket.trans onSocket)] at quiet
    have late : reply.time + senderIdle ≤ time := quiet
    omega

/-- A step at a socket is harmless exactly if it does not end the task of a peer
that sent within the idle time. -/
theorem TaskMoved.allLive_iff {move : TaskMove} (stepped : TaskMoved state time socket move next)
    (recorded : Recorded state) (notBefore : state.now ≤ time) (live : AllLive key state) :
    AllLive key { next with now := time } ↔ Harmless key state ⟨time, .task socket move⟩ := by
  have sound := recorded.sound
  obtain ⟨-, -, -, sameSent, -⟩ := stepped.table sound
  obtain ⟨added, returned, origin⟩ := stepped.origin sound
  constructor
  · intro after
    cases move with
    | expire =>
        intro sender member own onSocket
        by_contra recent
        have last := carried_last recorded member
        have carried : Carried { next with now := time } key sender.socket sender.last := by
          rw [own] at last
          rcases last with ⟨sent, logged, rest⟩ | ⟨reply, replied, rest⟩
          · exact Or.inl ⟨sent, sameSent ▸ logged, rest⟩
          · exact Or.inr ⟨reply, returned ▸ List.mem_append_left _ replied, rest⟩
        obtain ⟨entry, known, -, same, running⟩ := after _ _ carried (Nat.not_le.mp recent)
        exact running (stepped.ended entry known (same.trans onSocket))
    | arrive data => trivial
    | beginWait => trivial
    | read => trivial
  · intro harmless other past carried active
    have kept : ∀ past, state.Carried key other past → time - past < senderIdle →
        HasLiveTask next key other := fun _ carried active =>
      stepped.hasLiveTask recorded notBefore live harmless carried active
    have afterwards : HasLiveTask next key other := by
      rcases carried with ⟨sent, logged, rest⟩ | ⟨reply, replied, rfl, rfl, rfl⟩
      · exact kept _ (Or.inl ⟨sent, sameSent ▸ logged, rest⟩) active
      · rcases List.mem_append.mp (returned ▸ replied) with earlier | new
        · exact kept _ (Or.inr ⟨reply, earlier, rfl, rfl, rfl⟩) active
        · exact (origin reply new).2.2
    exact afterwards

theorem allLive_iff_of_step {timed : TimedDemuxAction} (recorded : Recorded state)
    (undisplaced : Undisplaced key state timed) (live : AllLive key state)
    (stepped : state.step demux timed = some next) :
    AllLive key next ↔ Harmless key state timed := by
  obtain ⟨notBefore, moved, acted, rfl⟩ := step_eq_some.mp stepped
  obtain ⟨time, action⟩ := timed
  cases action with
  | datagram dgram bind victim =>
      exact (processed_of_process acted).allLive_iff recorded notBefore live undisplaced
  | task socket move => exact (taskMoved_of_actTask acted).allLive_iff recorded notBefore live

/-! ## Which steps leave an entry without its task -/

/-- A datagram ends no task. -/
theorem Processed.tended (processed : Processed demux state time dgram bind victim next)
    (tended : Tended key state) : Tended key next := by
  cases empty : dgram.peerAddr.isEmpty with
  | true => exact processed.eq_of_unaddressed empty ▸ tended
  | false =>
      intro entry entered own
      rcases processed.kept_or_new empty entered with ⟨sender, kept, sameKey, -, task⟩ | rfl
      · rw [task]
        exact tended sender (AgingTable.mem_retain.mp kept).1 (sameKey.symm.trans own)
      · simp [Sender.spawn]

/-- A step at a socket leaves an entry without its task exactly if the task gives
up there. -/
theorem TaskMoved.tended_iff {move : TaskMove} (stepped : TaskMoved state time socket move next)
    (sound : Sound state) (tended : Tended key state) :
    Tended key { next with now := time } ↔ Patient key state ⟨time, .task socket move⟩ := by
  obtain ⟨sameFlow, -⟩ := stepped.table sound
  have spared : ∀ entry ∈ next.senders, entry.key = key →
      (entry.socket = socket → move ≠ .expire) → entry.task.phase ≠ .ended := by
    intro entry entered own runsOn
    cases stepped with
    | lost closed => exact tended entry entered own
    | @moved sender moved reply member onSocket acted =>
        have socket := socket_of_act acted
        rcases (mem_putSender member socket).mp entered with rfl | ⟨kept, -⟩
        · have same : entry.key = sender.key := congrArg Prod.fst (flow_of_act acted)
          exact (running_of_act acted).mpr
            ⟨tended sender member (same.symm.trans own), runsOn (socket.trans onSocket)⟩
        · exact tended entry kept own
  cases move with
  | arrive data =>
      exact ⟨fun _ => trivial, fun _ entry entered own => spared entry entered own (by simp)⟩
  | beginWait =>
      exact ⟨fun _ => trivial, fun _ entry entered own => spared entry entered own (by simp)⟩
  | read =>
      exact ⟨fun _ => trivial, fun _ entry entered own => spared entry entered own (by simp)⟩
  | expire =>
      constructor
      · intro after sender member own onSocket
        obtain ⟨entry, entered, same⟩ := exists_of_map_flow_eq sameFlow member
        simp only [flow, Prod.mk.injEq] at same
        exact after entry entered (same.1.trans own)
          (stepped.ended entry entered (same.2.1.trans onSocket))
      · intro patient entry entered own
        apply spared entry entered own
        intro onSocket
        obtain ⟨sender, member, same⟩ := exists_of_map_flow_eq sameFlow.symm entered
        simp only [flow, Prod.mk.injEq] at same
        exact absurd (same.2.1.trans onSocket) (patient sender member (same.1.trans own))

theorem tended_iff_of_step {timed : TimedDemuxAction} (sound : Sound state)
    (tended : Tended key state) (stepped : state.step demux timed = some next) :
    Tended key next ↔ Patient key state timed := by
  obtain ⟨notBefore, moved, acted, rfl⟩ := step_eq_some.mp stepped
  obtain ⟨time, action⟩ := timed
  cases action with
  | datagram dgram bind victim =>
      exact ⟨fun _ => trivial, fun _ => (processed_of_process acted).tended tended⟩
  | task socket move => exact (taskMoved_of_actTask acted).tended_iff sound tended

/-! ## Whole schedules -/

/-- **Active flows get their replies exactly in the harmless schedules, and every
entry has a running task exactly in those in which no task gives up.** -/
theorem active_flows_served_iff (demux : Demux) (key : PeerKey)
    {actions : List TimedDemuxAction}
    (undisplaced : Along (step demux) (Undisplaced key) init actions)
    (executed : run (step demux) init actions = some final) :
    (Throughout (step demux) (Served demux key) init actions ↔
      Along (step demux) (Harmless key) init actions) ∧
    (Throughout (step demux) (Tended key) init actions ↔
      Along (step demux) (Patient key) init actions) := by
  constructor
  · refine throughout_iff_along_under
      (fun recorded _ stepped => recorded_of_step recorded stepped) ?_ recorded_init ?_ undisplaced
      executed
    · intro state timed next recorded spared served stepped
      have nextRecorded := recorded_of_step recorded stepped
      rw [served_iff_allLive demux nextRecorded.sound]
      exact allLive_iff_of_step recorded spared
        ((served_iff_allLive demux recorded.sound).mp served) stepped
    · rw [served_iff_allLive demux sound_init]
      rintro socket past (⟨dgram, sent, -⟩ | ⟨reply, returned, -⟩) -
      · exact absurd sent List.not_mem_nil
      · exact absurd returned List.not_mem_nil
  · refine throughout_iff_along (fun sound stepped => sound_of_step sound stepped) ?_ sound_init
      (List.forall_mem_nil _) executed
    intro state timed next sound tended stepped
    exact tended_iff_of_step sound tended stepped

/-- A time in seconds. -/
def seconds (count : Nat) : Nat := count * 10 ^ 9

/-- A peer that sends again before the idle time is over, and a target that
answers each time. -/
def steadyPeer : List TimedDemuxAction :=
  [⟨0, .datagram ⟨"10.0.0.1", 4000, [1]⟩ (.ok ()) ("", 0)⟩, ⟨0, .task 0 .beginWait⟩,
    ⟨seconds 10, .task 0 (.arrive [2])⟩, ⟨seconds 10, .task 0 .read⟩,
    ⟨seconds 11, .task 0 .beginWait⟩,
    ⟨seconds 20, .datagram ⟨"10.0.0.1", 4000, [3]⟩ (.ok ()) ("", 0)⟩,
    ⟨seconds 35, .task 0 (.arrive [4])⟩, ⟨seconds 35, .task 0 .read⟩]

theorem steadyPeer_served :
    Throughout (step (serveUdpForward globalPeer))
      (Served (serveUdpForward globalPeer) ("10.0.0.1", 4000)) init steadyPeer := by
  have executed : ∃ final, run (step (serveUdpForward globalPeer)) init steadyPeer = some final :=
    ⟨_, rfl⟩
  obtain ⟨final, executed⟩ := executed
  have harmless : Along (step (serveUdpForward globalPeer)) (Harmless ("10.0.0.1", 4000)) init
      steadyPeer := by decide +kernel
  exact (active_flows_served_iff (serveUdpForward globalPeer) ("10.0.0.1", 4000)
    (by decide +kernel) executed).1.mpr harmless

/-- A peer that sends at once and after a second, to a target that does not
answer within thirty. -/
def pausedTarget : List TimedDemuxAction :=
  [⟨0, .datagram ⟨"10.0.0.1", 4000, [1]⟩ (.ok ()) ("", 0)⟩, ⟨0, .task 0 .beginWait⟩,
    ⟨seconds 1, .datagram ⟨"10.0.0.1", 4000, [2]⟩ (.ok ()) ("", 0)⟩,
    ⟨seconds 30, .task 0 .expire⟩]

/-- The reply task is gone twenty-nine seconds after the last datagram. -/
theorem pausedTarget_unserved :
    Along (step (serveUdpForward globalPeer)) (Undisplaced ("10.0.0.1", 4000)) init pausedTarget ∧
      ∃ final, run (step (serveUdpForward globalPeer)) init pausedTarget = some final ∧
        final.Carried ("10.0.0.1", 4000) 0 (seconds 1) ∧
        final.now - seconds 1 < senderIdle ∧
        ¬ final.Answered (serveUdpForward globalPeer) ("10.0.0.1", 4000) 0 ∧
        ¬ Served (serveUdpForward globalPeer) ("10.0.0.1", 4000) final := by
  refine ⟨by decide +kernel, ?_⟩
  have reached : ∃ final,
      run (step (serveUdpForward globalPeer)) init pausedTarget = some final ∧
        (⟨0, globalPeer, ("10.0.0.1", 4000), [2], seconds 1⟩ : SentDatagram) ∈ final.sent ∧
        final.now = seconds 30 ∧ ∀ sender ∈ final.senders, sender.task.phase = .ended :=
    ⟨_, rfl, by decide +kernel⟩
  obtain ⟨final, executed, sent, clock, ended⟩ := reached
  have carried : final.Carried ("10.0.0.1", 4000) 0 (seconds 1) := Or.inl ⟨_, sent, rfl, rfl, rfl⟩
  have active : final.now - seconds 1 < senderIdle := by
    rw [clock]
    decide +kernel
  have unanswered : ¬ final.Answered (serveUdpForward globalPeer) ("10.0.0.1", 4000) 0 := by
    intro answered
    have sound := run_invariant (fun sound stepped => sound_of_step sound stepped) sound_init
      executed
    obtain ⟨sender, member, -, -, running⟩ :=
      (answered_iff_hasLiveTask (serveUdpForward globalPeer) sound).mp answered
    exact running (ended sender member)
  exact ⟨final, executed, carried, active, unanswered, fun served =>
    unanswered (served 0 (seconds 1) carried active)⟩

end DemuxState

end Etr.Forward
