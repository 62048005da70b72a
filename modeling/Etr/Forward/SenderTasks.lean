import Etr.Forward.SenderTable

/-!
Contract: the reply tasks of the UDP senders.

Owns which task is running for a peer, what running tasks return, and that a
reply is answered exactly if a task runs for its peer.

Does not own back pressure: a task that sends a reply on may take any time.
-/

namespace Etr.Forward

open Etr.Library Etr.Protocol

namespace DemuxState

variable {demux : Demux} {state next final : DemuxState} {time : Nat} {key : PeerKey}
  {socket : Nat}

/-! ## Live tasks -/

/-- The peer has an entry with this socket, and its task is running. -/
def HasLiveTask (state : DemuxState) (key : PeerKey) (socket : Nat) : Prop :=
  ∃ sender ∈ state.senders, sender.key = key ∧ sender.socket = socket ∧
    sender.task.phase ≠ .ended

/-- Whatever arrives at the socket now is read by a reply task and sent back to
the peer. -/
def Answered (demux : Demux) (state : DemuxState) (key : PeerKey) (socket : Nat) : Prop :=
  ∀ data, ∃ actions final earlier,
    (∀ timed ∈ actions, ∃ move, timed = ⟨state.now, .task socket move⟩) ∧
      run (step demux) state (⟨state.now, .task socket (.arrive data)⟩ :: actions) = some final ∧
      final.returned =
        state.returned ++ earlier ++ [⟨socket, ⟨key.1, key.2, data⟩, state.now⟩]

/-- Only its timeout ends a task, and nothing revives it. -/
theorem running_of_act {sender entry : Sender} {reply : Option UdpDatagram} {move : TaskMove}
    (acted : sender.act time move = some (entry, reply)) :
    entry.task.phase ≠ .ended ↔ sender.task.phase ≠ .ended ∧ move ≠ .expire := by
  cases move with
  | arrive data =>
      cases acted
      simp
  | beginWait =>
      simp only [Sender.act] at acted
      split at acted
      · rename_i busy
        cases acted
        simp [busy]
      · contradiction
  | read =>
      simp only [Sender.act] at acted
      split at acted
      · rename_i waiting _
        cases acted
        simp [waiting]
      · contradiction
  | expire =>
      simp only [Sender.act] at acted
      split at acted
      · split at acted
        · cases acted
          simp
        · contradiction
      · contradiction

/-- Only a read returns a reply, under the peer of the task. -/
theorem reply_of_act {sender entry : Sender} {reply : UdpDatagram} {move : TaskMove}
    (acted : sender.act time move = some (entry, some reply)) :
    peerKey reply = sender.task.peer ∧ sender.task.phase ≠ .ended ∧
      entry.task.phase = .busy := by
  cases move with
  | arrive data => cases acted
  | beginWait =>
      simp only [Sender.act] at acted
      split at acted
      · cases acted
      · contradiction
  | read =>
      simp only [Sender.act] at acted
      split at acted
      · rename_i waiting _
        cases acted
        exact ⟨rfl, by simp [waiting], rfl⟩
      · contradiction
  | expire =>
      simp only [Sender.act] at acted
      split at acted
      · split at acted
        · cases acted
        · contradiction
      · contradiction

/-- A task that runs behind a step at a socket ran before it. -/
theorem TaskMoved.hasLiveTask_before {move : TaskMove}
    (stepped : TaskMoved state time socket move next) {other : Nat}
    (live : HasLiveTask next key other) : HasLiveTask state key other := by
  obtain ⟨entry, member, rfl, rfl, running⟩ := live
  cases stepped with
  | lost closed => exact ⟨entry, member, rfl, rfl, running⟩
  | @moved sender moved reply known own acted =>
      rcases (mem_putSender known (socket_of_act acted)).mp member with rfl | ⟨kept, -⟩
      · have same := flow_of_act acted
        simp only [flow, Prod.mk.injEq] at same
        exact ⟨sender, known, same.1.symm, same.2.1.symm, ((running_of_act acted).mp running).1⟩
      · exact ⟨entry, kept, rfl, rfl, running⟩

/-- A running task runs on, but for its own timeout. -/
theorem TaskMoved.hasLiveTask_after {move : TaskMove}
    (stepped : TaskMoved state time socket move next) {other : Nat}
    (live : HasLiveTask state key other) (spared : other = socket → move ≠ .expire)
    (distinct : (state.senders.map Sender.socket).Nodup) : HasLiveTask next key other := by
  obtain ⟨sender, member, rfl, rfl, running⟩ := live
  cases stepped with
  | lost closed => exact ⟨sender, member, rfl, rfl, running⟩
  | @moved moving entry reply known own acted =>
      have after : ∀ other, other = entry ∨ other ∈ state.senders ∧ other.socket ≠ moving.socket →
          other ∈ (state.putSender entry).senders :=
        fun other => (mem_putSender known (socket_of_act acted)).mpr
      by_cases same : sender.socket = moving.socket
      · have identical := List.inj_on_of_nodup_map distinct member known same
        subst identical
        have unchanged := flow_of_act acted
        simp only [flow, Prod.mk.injEq] at unchanged
        exact ⟨entry, after entry (Or.inl rfl), unchanged.1, unchanged.2.1,
          (running_of_act acted).mpr ⟨running, spared own⟩⟩
      · exact ⟨sender, after sender (Or.inr ⟨member, same⟩), rfl, rfl, running⟩

/-- A timeout leaves no running task at its socket. -/
theorem TaskMoved.ended (stepped : TaskMoved state time socket .expire next) :
    ∀ entry ∈ next.senders, entry.socket = socket → entry.task.phase = .ended := by
  intro entry member own
  by_contra running
  cases stepped with
  | lost closed => exact closed entry member own
  | moved known onSocket acted =>
      rcases (mem_putSender known (socket_of_act acted)).mp member with rfl | ⟨-, other⟩
      · exact ((running_of_act acted).mp running).2 rfl
      · exact other (own.trans onSocket.symm)

/-! ## Answers come from live tasks -/

theorem senderAt_of_mem (distinct : (state.senders.map Sender.socket).Nodup) {sender : Sender}
    (member : sender ∈ state.senders) : state.senderAt sender.socket = some sender := by
  cases found : state.senderAt sender.socket with
  | none =>
      rw [senderAt, List.find?_eq_none] at found
      have missed := found sender member
      simp at missed
  | some other =>
      have own : other.socket = sender.socket := by simpa using List.find?_some found
      rw [List.inj_on_of_nodup_map distinct (List.mem_of_find?_eq_some found) member own]

/-- A sender takes a step at its socket. -/
theorem step_task (demux : Demux) (sound : Sound state) {sender entry : Sender}
    {reply : Option UdpDatagram} {move : TaskMove} (member : sender ∈ state.senders)
    (acted : sender.act state.now move = some (entry, reply)) :
    state.step demux ⟨state.now, .task sender.socket move⟩ =
        some (state.moveSender state.now (entry, reply)) ∧
      entry ∈ (state.moveSender state.now (entry, reply)).senders := by
  constructor
  · have moved : state.act demux state.now (.task sender.socket move) =
        some (state.moveSender state.now (entry, reply)) := by
      simp only [act, actTask, senderAt_of_mem sound.sockets member, acted, Option.map_some]
    exact step_eq_some.mpr ⟨Nat.le_refl _, _, moved, rfl⟩
  · exact (mem_putSender member (socket_of_act acted)).mpr (Or.inl rfl)

/-- What the task of `sender` returns for `data`. -/
def answer (state : DemuxState) (sender : Sender) (data : List UInt8) : ReturnedDatagram :=
  ⟨sender.socket, ⟨sender.task.peer.1, sender.task.peer.2, data⟩, state.now⟩

/-- Steps at the socket of `sender` lead from `state` to a state in which it has
returned the replies, holds `inbox`, and still runs. -/
def Reaches (demux : Demux) (state : DemuxState) (sender : Sender)
    (replies inbox : List (List UInt8)) : Prop :=
  ∃ actions final entry,
    (∀ timed ∈ actions, ∃ move, timed = ⟨state.now, .task sender.socket move⟩) ∧
      run (step demux) state actions = some final ∧ final.now = state.now ∧
      final.returned = state.returned ++ replies.map (state.answer sender) ∧
      entry ∈ final.senders ∧ flow entry = flow sender ∧ entry.inbox = inbox ∧
      entry.task.phase ≠ .ended

/-- One step of the task, and on from there. -/
theorem Reaches.of_step (sound : Sound state) {sender entry : Sender} {move : TaskMove}
    {replies more inbox : List (List UInt8)} {reply : Option UdpDatagram}
    (member : sender ∈ state.senders)
    (acted : sender.act state.now move = some (entry, reply))
    (returned : (reply.toList.map fun dgram => ⟨entry.socket, dgram, state.now⟩) =
      replies.map (state.answer sender))
    (onward : ∀ next, Sound next → next.now = state.now → entry ∈ next.senders →
      Reaches demux next entry more inbox) :
    Reaches demux state sender (replies ++ more) inbox := by
  obtain ⟨stepped, moved⟩ := step_task demux sound member acted
  have same := flow_of_act acted
  have nextSound := sound_of_step sound stepped
  obtain ⟨actions, final, last, tasks, executed, clock, answered, known, sameFlow, left, running⟩ :=
    onward (state.moveSender state.now (entry, reply)) nextSound rfl moved
  have socket := socket_of_act acted
  refine ⟨⟨state.now, .task sender.socket move⟩ :: actions, final, last, ?_,
    run_cons_eq_some.mpr ⟨_, stepped, executed⟩, clock, ?_, known, sameFlow.trans same, left,
    running⟩
  · rw [List.forall_mem_cons]
    exact ⟨⟨move, rfl⟩, socket ▸ tasks⟩
  · have sameAnswer : (state.moveSender state.now (entry, reply)).answer entry =
        state.answer sender := by
      have peer : entry.task.peer = sender.task.peer :=
        congrArg (fun projected => projected.2.2.2) same
      funext data
      rw [answer, answer, socket, peer]
      rfl
    rw [answered, sameAnswer, List.map_append, ← List.append_assoc]
    exact congrArg (fun replies => replies ++ more.map (state.answer sender))
      (congrArg (state.returned ++ ·) returned)

/-- A running task stays where it is. -/
theorem Reaches.refl {sender : Sender} (member : sender ∈ state.senders)
    (running : sender.task.phase ≠ .ended) : Reaches demux state sender [] sender.inbox :=
  ⟨[], state, sender, List.forall_mem_nil _, rfl, rfl, by simp, member, rfl, rfl, running⟩

/-- A running task returns everything that has arrived. -/
theorem reaches_drained {inbox : List (List UInt8)} (sound : Sound state) {sender : Sender}
    (member : sender ∈ state.senders) (running : sender.task.phase ≠ .ended)
    (received : sender.inbox = inbox) : Reaches demux state sender inbox [] := by
  induction inbox generalizing state sender with
  | nil =>
      have stays : Reaches demux state sender [] sender.inbox := Reaches.refl member running
      rwa [received] at stays
  | cons data rest inductionHypothesis =>
      have reads : ∀ {state : DemuxState} {sender : Sender} {since : Nat}, Sound state →
          sender ∈ state.senders → sender.task.phase = .waiting since →
          sender.inbox = data :: rest → Reaches demux state sender ([data] ++ rest) [] := by
        intro state sender since sound member waiting received
        have acted : sender.act state.now .read =
            some ({ sender with inbox := rest, task := { sender.task with phase := .busy } },
              some ⟨sender.task.peer.1, sender.task.peer.2, data⟩) := by
          simp only [Sender.act, waiting, received]
        exact Reaches.of_step sound member acted rfl fun next nextSound _ known =>
          inductionHypothesis nextSound known (by simp) rfl
      cases phase : sender.task.phase with
      | ended => exact absurd phase running
      | waiting since => exact reads sound member phase received
      | busy =>
          have acted : sender.act state.now .beginWait =
              some ({ sender with task := { sender.task with phase := .waiting state.now } },
                none) := by
            simp only [Sender.act, phase, if_true]
          have onward : Reaches demux state sender ([] ++ ([data] ++ rest)) [] :=
            Reaches.of_step sound member acted rfl fun next nextSound _ known =>
              reads nextSound known rfl received
          exact onward

/-- A peer with a running task on the socket gets whatever arrives there. -/
theorem answered_of_hasLiveTask (demux : Demux) (sound : Sound state)
    (live : HasLiveTask state key socket) : state.Answered demux key socket := by
  obtain ⟨sender, member, rfl, rfl, running⟩ := live
  intro data
  have acted : sender.act state.now (.arrive data) =
      some ({ sender with inbox := sender.inbox ++ [data] }, none) := rfl
  obtain ⟨stepped, moved⟩ := step_task demux sound member acted
  have drained : Reaches demux _ _ _ [] :=
    reaches_drained (sound_of_step sound stepped) moved running rfl
  obtain ⟨actions, final, -, tasks, executed, -, returned, -⟩ := drained
  refine ⟨actions, final, sender.inbox.map (state.answer sender), tasks,
    run_cons_eq_some.mpr ⟨_, stepped, executed⟩, ?_⟩
  have tag : sender.task.peer = sender.key := sound.tagged sender member
  have last : state.answer sender data =
      ⟨sender.socket, ⟨sender.key.1, sender.key.2, data⟩, state.now⟩ := by
    rw [answer, tag]
  have sameAnswer : ∀ replies : List (List UInt8), replies.map
      ((state.moveSender state.now ({ sender with inbox := sender.inbox ++ [data] }, none)).answer
        { sender with inbox := sender.inbox ++ [data] }) = replies.map (state.answer sender) :=
    fun _ => rfl
  have untouched : (state.moveSender state.now
      ({ sender with inbox := sender.inbox ++ [data] }, none)).returned = state.returned :=
    List.append_nil _
  rw [returned, sameAnswer, untouched, List.map_append, List.map_singleton, last,
    List.append_assoc]

/-- A reply that is sent back comes from a running task of its peer. -/
theorem TaskMoved.origin {move : TaskMove} (stepped : TaskMoved state time socket move next)
    (sound : Sound state) :
    ∃ added, next.returned = state.returned ++ added ∧
      ∀ reply ∈ added,
        reply.time = time ∧ HasLiveTask state (peerKey reply.dgram) reply.socket ∧
          HasLiveTask next (peerKey reply.dgram) reply.socket := by
  cases stepped with
  | lost closed => exact ⟨[], (List.append_nil _).symm, List.forall_mem_nil _⟩
  | @moved sender entry reply member own acted =>
      refine ⟨_, rfl, ?_⟩
      intro returned replied
      rcases List.mem_map.mp replied with ⟨dgram, sent, rfl⟩
      obtain rfl : reply = some dgram := Option.mem_toList.mp sent
      obtain ⟨tag, running, busy⟩ := reply_of_act acted
      have own := tag.trans (sound.tagged sender member)
      have live : HasLiveTask state (peerKey dgram) sender.socket :=
        ⟨sender, member, own.symm, rfl, running⟩
      have key : entry.key = sender.key := congrArg Prod.fst (flow_of_act acted)
      refine ⟨rfl, (socket_of_act acted).symm ▸ live, entry, ?_, key.trans own.symm, rfl,
        by simp [busy]⟩
      exact (mem_putSender member (socket_of_act acted)).mpr (Or.inl rfl)

/-- What steps at sockets return comes from tasks that ran before. -/
theorem origin_of_run {actions : List TimedDemuxAction}
    (tasks : ∀ timed ∈ actions, ∃ time socket move, timed = ⟨time, .task socket move⟩)
    (sound : Sound state) (executed : run (step demux) state actions = some final) :
    ∃ added, final.returned = state.returned ++ added ∧
      ∀ reply ∈ added, HasLiveTask state (peerKey reply.dgram) reply.socket := by
  induction actions generalizing state with
  | nil =>
      cases executed
      exact ⟨[], (List.append_nil _).symm, List.forall_mem_nil _⟩
  | cons timed rest inductionHypothesis =>
      have parts := List.forall_mem_cons.mp tasks
      obtain ⟨next, stepped, tailRun⟩ := run_cons_eq_some.mp executed
      obtain ⟨later, afterwards, running⟩ :=
        inductionHypothesis parts.2 (sound_of_step sound stepped) tailRun
      obtain ⟨time, socket, move, rfl⟩ := parts.1
      obtain ⟨-, moved, acted, rfl⟩ := step_eq_some.mp stepped
      have taskMoved := taskMoved_of_actTask acted
      obtain ⟨now, returned, ran⟩ := taskMoved.origin sound
      refine ⟨now ++ later, ?_, ?_⟩
      · rw [afterwards, ← List.append_assoc]
        exact congrArg (· ++ later) returned
      · intro reply member
        rcases List.mem_append.mp member with first | second
        · exact (ran reply first).2.1
        · exact taskMoved.hasLiveTask_before (running reply second)

/-- **A reply is answered exactly if the peer has a running task on the socket.** -/
theorem answered_iff_hasLiveTask (demux : Demux) (sound : Sound state) :
    state.Answered demux key socket ↔ HasLiveTask state key socket := by
  constructor
  · intro answered
    obtain ⟨actions, final, earlier, tasks, executed, returned⟩ := answered []
    have moves : ∀ timed ∈
        (⟨state.now, .task socket (.arrive [])⟩ :: actions : List TimedDemuxAction),
        ∃ time socket move, timed = ⟨time, .task socket move⟩ := by
      rw [List.forall_mem_cons]
      refine ⟨⟨_, _, _, rfl⟩, ?_⟩
      intro timed member
      obtain ⟨move, rfl⟩ := tasks timed member
      exact ⟨_, _, _, rfl⟩
    obtain ⟨added, same, running⟩ := origin_of_run moves sound executed
    rw [returned, List.append_assoc] at same
    have split := List.append_cancel_left same
    have last : (⟨socket, ⟨key.1, key.2, []⟩, state.now⟩ : ReturnedDatagram) ∈ added :=
      split ▸ List.mem_append_right _ List.mem_cons_self
    exact running _ last
  · exact answered_of_hasLiveTask demux sound

end DemuxState

end Etr.Forward
