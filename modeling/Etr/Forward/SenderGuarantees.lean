import Etr.Forward.SenderTable
import Mathlib.Data.List.Induction

/-!
Contract: what the table of UDP senders promises.

Owns what processing a datagram does to the senders of all peers, when a sender
may lose its socket, and that both programs treat their peers alike.

Does not own the replies.
-/

namespace Etr.Forward

open Etr.Library Etr.Protocol

namespace DemuxState

variable {demux : Demux} {state next final : DemuxState} {time : Nat} {dgram : UdpDatagram}
  {bind : Except String Unit} {victim : PeerKey}

/-! ## One step -/

/-- A new key arrived at capacity, its socket was bound, and this sender was
chosen to go, as no other was active before it. -/
structure Displaced (state : DemuxState) (time : Nat) (dgram : UdpDatagram)
    (bind : Except String Unit) (victim : PeerKey) (sender : Sender) : Prop where
  bound : bind = .ok ()
  absent : state.Absent time dgram
  full : maxUdpSenders ≤ (state.kept time).length
  retained : sender ∈ state.kept time
  chosen : sender.key = victim
  oldest : senderTable.IsOldest (state.kept time) sender

instance (sender : Sender) : Decidable (state.Displaced time dgram bind victim sender) :=
  decidable_of_iff (bind = .ok () ∧ (∀ other ∈ state.kept time, other.key ≠ peerKey dgram) ∧
      maxUdpSenders ≤ (state.kept time).length ∧ sender ∈ state.kept time ∧
      sender.key = victim ∧ senderTable.IsOldest (state.kept time) sender)
    ⟨fun ⟨bound, absent, full, retained, chosen, oldest⟩ =>
        ⟨bound, absent, full, retained, chosen, oldest⟩,
      fun displaced => ⟨displaced.bound, displaced.absent, displaced.full, displaced.retained,
        displaced.chosen, displaced.oldest⟩⟩

/-- The socket of the sender is still the one recorded for its key. -/
def KeepsSocket (next : DemuxState) (sender : Sender) : Prop :=
  ∃ entry ∈ next.senders, entry.key = sender.key ∧ entry.socket = sender.socket ∧
    sender.last ≤ entry.last

/-- What processing one datagram does to the table and the target. -/
structure DatagramSound (demux : Demux) (state : DemuxState) (time : Nat) (dgram : UdpDatagram)
    (bind : Except String Unit) (victim : PeerKey) (next : DemuxState) : Prop where
  unaddressed : dgram.peerAddr.isEmpty = true →
    next.senders = state.senders ∧ next.sent = state.sent
  /-- It is sent on the socket recorded for its key. -/
  sends : dgram.peerAddr.isEmpty = false → bind = .ok () ∨ ¬ state.Absent time dgram →
    ∃ entry ∈ next.senders, entry.key = peerKey dgram ∧ entry.last = time ∧
      next.sent =
        state.sent ++ [⟨entry.socket, demux.target, peerKey dgram, dgram.data, time⟩]
  /-- A sender that goes was idle, or made room. -/
  keeps : ∀ sender ∈ state.senders,
    KeepsSocket next sender ∨ senderIdle ≤ time - sender.last ∨
      state.Displaced time dgram bind victim sender
  /-- A failed bind drops the datagram and nothing else. -/
  failedBind : dgram.peerAddr.isEmpty = false → state.Absent time dgram →
    ∀ error, bind = .error error → next.sent = state.sent ∧
      ∀ sender ∈ state.senders, time - sender.last < senderIdle → sender ∈ next.senders

/-- What one step does to the table and the target. -/
def StepSound (demux : Demux) (state next : DemuxState) (timed : TimedDemuxAction) : Prop :=
  match timed.action with
  | .datagram dgram bind victim => DatagramSound demux state timed.time dgram bind victim next
  | .task _ _ => next.senders.map flow = state.senders.map flow ∧ next.sent = state.sent

theorem mem_kept_or_idle (time : Nat) {sender : Sender} (member : sender ∈ state.senders) :
    sender ∈ state.kept time ∨ senderIdle ≤ time - sender.last := by
  by_cases active : time - sender.last < senderIdle
  · exact Or.inl (AgingTable.mem_retain.mpr ⟨member, active⟩)
  · exact Or.inr (Nat.not_lt.mp active)

/-- An active sender keeps its socket and its task, unless it is displaced. -/
theorem Processed.keeps (processed : Processed demux state time dgram bind victim next)
    (sound : Sound state) (notBefore : state.now ≤ time) {sender : Sender}
    (active : sender ∈ state.kept time) :
    (∃ entry ∈ next.senders, entry.key = sender.key ∧ entry.socket = sender.socket ∧
        sender.last ≤ entry.last ∧ entry.task = sender.task) ∨
      state.Displaced time dgram bind victim sender := by
  have member := (AgingTable.mem_retain.mp active).1
  have same : sender.key = sender.key ∧ sender.socket = sender.socket ∧
      sender.last ≤ sender.last ∧ sender.task = sender.task :=
    ⟨rfl, rfl, Nat.le_refl _, rfl⟩
  cases processed with
  | unaddressed empty => exact Or.inl ⟨sender, member, same⟩
  | known addressed known own =>
      refine Or.inl ⟨_, mem_refresh.mpr ⟨sender, active, rfl⟩, ?_⟩
      by_cases refreshed : sender.key = peerKey dgram
      · rw [if_pos refreshed]
        exact ⟨rfl, rfl, Nat.le_trans (sound.past sender member) notBefore, rfl⟩
      · rw [if_neg refreshed]
        exact same
  | bindFailed addressed absent failed => exact Or.inl ⟨sender, active, same⟩
  | inserted addressed absent bound made =>
      rcases AgingTable.mem_or_oldest_of_makeRoom (sound.kept time).keys made active with
        stays | ⟨chosen, full, oldest⟩
      · exact Or.inl ⟨sender, List.mem_cons_of_mem _ stays, same⟩
      · exact Or.inr ⟨bound, absent, full, active, chosen, oldest⟩

/-- Processing keeps its promises. -/
theorem Processed.datagramSound (processed : Processed demux state time dgram bind victim next)
    (sound : Sound state) (notBefore : state.now ≤ time) :
    DatagramSound demux state time dgram bind victim next := by
  have keeps : ∀ sender ∈ state.senders, KeepsSocket next sender ∨
      senderIdle ≤ time - sender.last ∨ state.Displaced time dgram bind victim sender := by
    intro sender member
    rcases mem_kept_or_idle time member with active | idle
    · rcases processed.keeps sound notBefore active with
        ⟨entry, known, key, socket, seen, -⟩ | displaced
      · exact Or.inl ⟨entry, known, key, socket, seen⟩
      · exact Or.inr (Or.inr displaced)
    · exact Or.inr (Or.inl idle)
  cases processed with
  | unaddressed empty =>
      exact
        { unaddressed := fun _ => ⟨rfl, rfl⟩
          sends := fun addressed => absurd (empty.symm.trans addressed) (by decide)
          keeps := keeps
          failedBind := fun addressed => absurd (empty.symm.trans addressed) (by decide) }
  | @known addressed sender member own =>
      exact
        { unaddressed := fun empty => absurd (empty.symm.trans addressed) (by decide)
          sends := fun _ _ => ⟨{ sender with last := time },
            mem_refresh.mpr ⟨sender, member, (if_pos own).symm⟩, own, rfl, rfl⟩
          keeps := keeps
          failedBind := fun _ absent => absurd own (absent sender member) }
  | bindFailed addressed absent failed =>
      refine
        { unaddressed := fun empty => absurd (empty.symm.trans addressed) (by decide)
          sends := ?_
          keeps := keeps
          failedBind := fun _ _ _ _ =>
            ⟨rfl, fun sender member active => AgingTable.mem_retain.mpr ⟨member, active⟩⟩ }
      intro _ handled
      rcases handled with bound | present
      · rw [failed] at bound
        contradiction
      · exact absurd absent present
  | inserted addressed absent bound made =>
      refine
        { unaddressed := fun empty => absurd (empty.symm.trans addressed) (by decide)
          sends := fun _ _ => ⟨_, List.mem_cons_self, rfl, rfl, rfl⟩
          keeps := keeps
          failedBind := ?_ }
      intro _ _ error failed
      rw [bound] at failed
      contradiction

theorem stepSound_of_step {timed : TimedDemuxAction} (sound : Sound state)
    (stepped : state.step demux timed = some next) : StepSound demux state next timed := by
  obtain ⟨notBefore, moved, acted, rfl⟩ := step_eq_some.mp stepped
  obtain ⟨time, action⟩ := timed
  cases action with
  | datagram dgram bind victim =>
      have processed := (processed_of_process acted).datagramSound sound notBefore
      exact { processed with }
  | task socket move =>
      obtain ⟨same, -, -, sent, -⟩ := (taskMoved_of_actTask acted).table sound
      exact ⟨same, sent⟩

/-! ## Whole runs -/

theorem sound_of_run {actions : List TimedDemuxAction}
    (executed : run (step demux) init actions = some final) : Sound final :=
  run_invariant (fun sound stepped => sound_of_step sound stepped) sound_init executed

/-- When the peer was last seen. -/
def lastSeen (key : PeerKey) (actions : List TimedDemuxAction) : Option Nat :=
  (actions.filterMap (TimedDemuxAction.seenAt? key)).getLast?

theorem lastSeen_append_singleton (key : PeerKey) (actions : List TimedDemuxAction)
    (timed : TimedDemuxAction) :
    lastSeen key (actions ++ [timed]) = (timed.seenAt? key).or (lastSeen key actions) := by
  rw [lastSeen, List.filterMap_append, List.getLast?_append, lastSeen]
  cases seen : timed.seenAt? key with
  | none => simp [seen]
  | some time => simp [seen]

/-- Only the sender of the datagram gets a new time. -/
theorem Processed.seen (processed : Processed demux state time dgram bind victim next)
    {sender : Sender} (member : sender ∈ next.senders) :
    dgram.peerAddr.isEmpty = false ∧ sender.key = peerKey dgram ∧ sender.last = time ∨
      sender ∈ state.senders ∧
        ¬ (dgram.peerAddr.isEmpty = false ∧ peerKey dgram = sender.key) := by
  cases processed with
  | unaddressed empty => exact Or.inr ⟨member, by simp [empty]⟩
  | known addressed own _ =>
      obtain ⟨other, known, rfl⟩ := mem_refresh.mp member
      by_cases same : other.key = peerKey dgram
      · rw [if_pos same]
        exact Or.inl ⟨addressed, same, rfl⟩
      · rw [if_neg same]
        exact Or.inr ⟨(AgingTable.mem_retain.mp known).1, fun both => same both.2.symm⟩
  | bindFailed addressed absent failed =>
      exact Or.inr ⟨(AgingTable.mem_retain.mp member).1,
        fun both => absent sender member both.2.symm⟩
  | inserted addressed absent bound made =>
      rcases List.mem_cons.mp member with rfl | stays
      · exact Or.inl ⟨addressed, rfl, rfl⟩
      · have active := (AgingTable.makeRoom_sublist made).subset stays
        exact Or.inr ⟨(AgingTable.mem_retain.mp active).1,
          fun both => absent sender active both.2.symm⟩

/-- An entry carries the time its peer was last seen. -/
theorem lastSeen_of_run {actions : List TimedDemuxAction}
    (executed : run (step demux) init actions = some final) :
    ∀ sender ∈ final.senders, lastSeen sender.key actions = some sender.last := by
  induction actions using List.reverseRecOn generalizing final with
  | nil =>
      cases executed
      exact List.forall_mem_nil _
  | append_singleton actions timed inductionHypothesis =>
      obtain ⟨state, before, lastRun⟩ := run_append_eq_some.mp executed
      obtain ⟨next, stepped, ended⟩ := run_cons_eq_some.mp lastRun
      cases ended
      have earlier := inductionHypothesis before
      have sound := sound_of_run before
      obtain ⟨-, moved, acted, rfl⟩ := step_eq_some.mp stepped
      obtain ⟨time, action⟩ := timed
      intro sender member
      rw [lastSeen_append_singleton]
      cases action with
      | task socket move =>
          obtain ⟨same, -⟩ := (taskMoved_of_actTask acted).table sound
          obtain ⟨other, known, equal⟩ := exists_of_map_flow_eq same.symm member
          simp only [flow, Prod.mk.injEq] at equal
          rw [← equal.1, ← equal.2.2.1]
          exact earlier other known
      | datagram dgram bind victim =>
          rcases (processed_of_process acted).seen member with
            ⟨addressed, own, last⟩ | ⟨known, other⟩
          · have now : TimedDemuxAction.seenAt? sender.key ⟨time, .datagram dgram bind victim⟩ =
                some time := if_pos ⟨addressed, own.symm⟩
            rw [now, Option.some_or, last]
          · have unseen : TimedDemuxAction.seenAt? sender.key ⟨time, .datagram dgram bind victim⟩ =
                none := if_neg other
            rw [unseen, Option.none_or, earlier sender known]

/-- The sender was displaced in a step of the run. -/
def DisplacedDuring (demux : Demux) (state : DemuxState) (actions : List TimedDemuxAction)
    (key : PeerKey) : Prop :=
  ∃ before after time dgram bind victim middle sender,
    actions = before ++ ⟨time, .datagram dgram bind victim⟩ :: after ∧
      run (step demux) state before = some middle ∧ sender ∈ middle.senders ∧
        sender.key = key ∧ middle.Displaced time dgram bind victim sender

theorem DisplacedDuring.cons {timed : TimedDemuxAction} {actions : List TimedDemuxAction}
    {key : PeerKey} (stepped : state.step demux timed = some next)
    (displaced : DisplacedDuring demux next actions key) :
    DisplacedDuring demux state (timed :: actions) key := by
  rcases displaced with ⟨before, after, time, dgram, bind, victim, middle, sender, split, executed,
    rest⟩
  exact ⟨timed :: before, after, time, dgram, bind, victim, middle, sender, by rw [split]; rfl,
    run_cons_eq_some.mpr ⟨next, stepped, executed⟩, rest⟩

/-- A step keeps an active sender with its socket, unless it displaces it. -/
theorem keeps_of_step {timed : TimedDemuxAction} (sound : Sound state)
    (stepped : state.step demux timed = some next) {sender : Sender}
    (member : sender ∈ state.senders) (active : timed.time - sender.last < senderIdle) :
    KeepsSocket next sender ∨
      ∃ dgram bind victim, timed.action = .datagram dgram bind victim ∧
        state.Displaced timed.time dgram bind victim sender := by
  have promised := stepSound_of_step sound stepped
  obtain ⟨time, action⟩ := timed
  cases action with
  | datagram dgram bind victim =>
      rcases DatagramSound.keeps promised sender member with kept | idle | displaced
      · exact Or.inl kept
      · exact absurd active (Nat.not_lt.mpr idle)
      · exact Or.inr ⟨dgram, bind, victim, rfl, displaced⟩
  | task socket move =>
      obtain ⟨entry, known, equal⟩ := exists_of_map_flow_eq promised.1 member
      simp only [flow, Prod.mk.injEq] at equal
      exact Or.inl ⟨entry, known, equal.1, equal.2.1, Nat.le_of_eq equal.2.2.1.symm⟩

/-- A sender that stays active keeps its socket, unless it is displaced. -/
theorem keeps_of_run {actions : List TimedDemuxAction} (sound : Sound state)
    (executed : run (step demux) state actions = some final) {sender : Sender}
    (member : sender ∈ state.senders)
    (active : ∀ timed ∈ actions, timed.time - sender.last < senderIdle) :
    KeepsSocket final sender ∨ DisplacedDuring demux state actions sender.key := by
  induction actions generalizing state sender with
  | nil =>
      cases executed
      exact Or.inl ⟨sender, member, rfl, rfl, Nat.le_refl _⟩
  | cons timed rest inductionHypothesis =>
      obtain ⟨next, stepped, tailRun⟩ := run_cons_eq_some.mp executed
      have parts := List.forall_mem_cons.mp active
      rcases keeps_of_step sound stepped member parts.1 with
        ⟨entry, known, key, socket, seen⟩ | ⟨dgram, bind, victim, same, displaced⟩
      · have stillActive : ∀ timed ∈ rest, timed.time - entry.last < senderIdle := by
          intro later laterMember
          have bounded := parts.2 later laterMember
          omega
        rcases inductionHypothesis (sound_of_step sound stepped) tailRun known stillActive with
          ⟨last, lastKnown, lastKey, lastSocket, lastSeen⟩ | displaced
        · exact Or.inl ⟨last, lastKnown, lastKey.trans key, lastSocket.trans socket,
            Nat.le_trans seen lastSeen⟩
        · exact Or.inr (key ▸ displaced.cons stepped)
      · obtain ⟨time, action⟩ := timed
        cases same
        exact Or.inr ⟨[], rest, time, dgram, bind, victim, state, sender, rfl, rfl, member, rfl,
          displaced⟩

/-! ## Two copies -/

/-- All but the messages that were logged. -/
def unlogged (state : DemuxState) : DemuxState :=
  { state with logged := [] }

theorem eq_of_unlogged_eq {other : DemuxState} (same : state.unlogged = other.unlogged) :
    other = { state with logged := other.logged } := by
  cases state
  cases other
  simp only [unlogged, mk.injEq] at same
  simp [same]

theorem actTask_unlogged (state : DemuxState) (time : Nat) (logged : List String) (socket : Nat)
    (move : TaskMove) :
    (state.actTask time socket move).map unlogged =
      (({ state with logged := logged } : DemuxState).actTask time socket move).map unlogged := by
  have sameSender : ({ state with logged := logged } : DemuxState).senderAt socket =
      state.senderAt socket := rfl
  have sameMove : unlogged ∘ ({ state with logged := logged } : DemuxState).moveSender time =
      unlogged ∘ state.moveSender time := rfl
  simp only [actTask, sameSender]
  split
  · rw [Option.map_map, Option.map_map, sameMove]
  · rfl
  · rfl

theorem act_unlogged (state : DemuxState) (time : Nat) {twin : Demux}
    (sameTarget : demux.target = twin.target) (logged : List String) (action : DemuxAction) :
    (state.act demux time action).map unlogged =
      (({ state with logged := logged } : DemuxState).act twin time action).map unlogged := by
  cases action with
  | datagram dgram bind victim =>
      have sameKept : ({ state with logged := logged } : DemuxState).kept time = state.kept time :=
        rfl
      simp only [act, process, sameKept]
      split
      · rfl
      · split
        · simp [send, unlogged, sameTarget]
        · cases bind with
          | error error => simp [unlogged]
          | ok _ => simp [send, unlogged, sameTarget, Function.comp_def]
  | task socket move => exact actTask_unlogged state time logged socket move

theorem step_unlogged (state : DemuxState) {twin : Demux}
    (sameTarget : demux.target = twin.target) (logged : List String) (timed : TimedDemuxAction) :
    (state.step demux timed).map unlogged =
      (({ state with logged := logged } : DemuxState).step twin timed).map unlogged := by
  have acted := act_unlogged state timed.time sameTarget logged timed.action
  unfold step
  by_cases notBefore : state.now ≤ timed.time
  · rw [if_pos notBefore, if_pos notBefore, Option.map_map, Option.map_map]
    have clock : unlogged ∘ (fun next : DemuxState => { next with now := timed.time }) =
        (fun next : DemuxState => { next with now := timed.time }) ∘ unlogged := rfl
    rw [clock, ← Option.map_map, acted, Option.map_map]
  · rw [if_neg notBefore, if_neg notBefore]

/-- Two copies with one target do the same. -/
theorem run_unlogged (state : DemuxState) {twin : Demux}
    (sameTarget : demux.target = twin.target) (logged : List String)
    (actions : List TimedDemuxAction) :
    (run (step demux) state actions).map unlogged =
      (run (step twin) { state with logged := logged } actions).map unlogged := by
  induction actions generalizing state logged with
  | nil => rfl
  | cons timed rest inductionHypothesis =>
      have stepped := step_unlogged state sameTarget logged timed
      rw [run, run]
      cases own : state.step demux timed with
      | none =>
          rw [own] at stepped
          rw [Option.map_eq_none_iff.mp stepped.symm]
      | some next =>
          rw [own] at stepped
          rcases Option.map_eq_some_iff.mp stepped.symm with ⟨other, others, same⟩
          rw [others, eq_of_unlogged_eq same.symm]
          exact inductionHypothesis next other.logged

/-! ## The table -/

/-- A datagram is processed whenever it comes: at capacity an oldest sender is
found. -/
theorem exists_step (demux : Demux) (state : DemuxState) {time : Nat}
    (notBefore : state.now ≤ time) (dgram : UdpDatagram) (bind : Except String Unit) :
    ∃ victim next, state.step demux ⟨time, .datagram dgram bind victim⟩ = some next := by
  obtain ⟨victim, room, made⟩ :=
    senderTable.exists_makeRoom (state.kept time)
  have processed : ∃ moved, state.process demux time dgram bind victim = some moved := by
    unfold process
    split
    · exact ⟨_, rfl⟩
    · split
      · exact ⟨_, rfl⟩
      · cases bind with
        | error error => exact ⟨_, rfl⟩
        | ok _ =>
            simp only [made, Option.map_some]
            exact ⟨_, rfl⟩
  obtain ⟨moved, acted⟩ := processed
  exact ⟨victim, _, step_eq_some.mpr ⟨notBefore, moved, acted, rfl⟩⟩

/-- **In every reachable state the table is within its bound, no two entries
share a key or a socket, and an entry carries the time its peer was last seen.
From there every datagram is processed, each step keeps its promises, a sender
that stays active keeps its socket unless it is displaced, and both programs
have got to the same state.** -/
theorem sender_table_sound (demux : Demux) {actions : List TimedDemuxAction}
    (executed : run (step demux) init actions = some final) :
    (final.senders.length ≤ maxUdpSenders ∧ (final.senders.map Sender.key).Nodup ∧
      (final.senders.map Sender.socket).Nodup ∧
      ∀ sender ∈ final.senders, lastSeen sender.key actions = some sender.last) ∧
    (∀ time dgram bind, final.now ≤ time →
      ∃ victim next, final.step demux ⟨time, .datagram dgram bind victim⟩ = some next) ∧
    (∀ timed next, final.step demux timed = some next → StepSound demux final next timed) ∧
    (∀ later last, run (step demux) final later = some last → ∀ sender ∈ final.senders,
      (∀ timed ∈ later, timed.time - sender.last < senderIdle) →
        KeepsSocket last sender ∨ DisplacedDuring demux final later sender.key) ∧
    ∀ target, (run (step (serveUdpForward target)) init actions).map unlogged =
      (run (step (reverseUdpForward target)) init actions).map unlogged := by
  have sound := sound_of_run executed
  refine ⟨⟨sound.bounded, sound.keys, sound.sockets, lastSeen_of_run executed⟩, ?_, ?_, ?_, ?_⟩
  · intro time dgram bind notBefore
    exact exists_step demux final notBefore dgram bind
  · intro timed next stepped
    exact stepSound_of_step sound stepped
  · intro later last laterRun sender member active
    exact keeps_of_run sound laterRun member active
  · intro target
    have sameTarget : (serveUdpForward target).target = (reverseUdpForward target).target := rfl
    exact run_unlogged init sameTarget [] actions

/-- Two peers send through `etrs`. -/
def twoPeers : List TimedDemuxAction :=
  [⟨1, .datagram ⟨"10.0.0.1", 4000, [1]⟩ (.ok ()) ("", 0)⟩,
    ⟨2, .datagram ⟨"10.0.0.2", 4000, [2]⟩ (.ok ()) ("", 0)⟩]

theorem twoPeers_sound :
    ∃ final, run (step (serveUdpForward globalPeer)) init twoPeers = some final ∧
      final.senders.length = 2 ∧ (final.senders.map Sender.socket).Nodup ∧
      ∀ sender ∈ final.senders, lastSeen sender.key twoPeers = some sender.last := by
  have executed : ∃ final, run (step (serveUdpForward globalPeer)) init twoPeers = some final ∧
      final.senders.length = 2 := ⟨_, rfl, rfl⟩
  obtain ⟨final, executed, count⟩ := executed
  have sound := (sender_table_sound (serveUdpForward globalPeer) executed).1
  exact ⟨final, executed, count, sound.2.2.1, sound.2.2.2⟩

end DemuxState

end Etr.Forward
