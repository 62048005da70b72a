import Etr.System.OutputDelivery

/-!
Contract: what the user is shown was printed by the shell.

Owns the invariant that every chunk on its way carries the payload that was read
from the PTY under its number, and that stdout shows no payload more often than
it was passed on, over every run: with any losses, full queues, requests of
given-up connections, out-of-turn hand-overs and aborted stdout tasks that go on
writing; and the order on stdout where no such task has anything left.

Does not own completeness, which needs preconditions.
-/

namespace Etr.Server.OutputState

open Etr.Library Etr.Session

variable {state next : OutputState}

/-- Everything enqueued or to be replayed on the connection is part of the log. -/
def Genuine (state : OutputState) : Prop :=
  ∀ chunk ∈ state.enqueued ++ state.pending, chunk ∈ numberFrom 1 state.produced

/-- The chunk in the reader's hand is the last of the log. -/
theorem Consistent.reader_mem (consistent : state.Consistent) {chunk : Chunk}
    (inHand : state.reader = some chunk) : chunk ∈ numberFrom 1 state.produced := by
  rcases consistent.inHand chunk inHand with ⟨earlier, produced, number⟩
  have located : chunk = (1 + earlier.length, chunk.2) := by
    rw [Nat.add_comm, ← number]
  rw [produced, numberFrom_append, located]
  exact List.mem_append_right _ List.mem_cons_self

theorem Consistent.history_subset (consistent : state.Consistent) :
    state.session.terminal.sendHistory ⊆ numberFrom 1 state.produced := by
  rcases consistent.window with ⟨dropped, window⟩
  rw [window.history]
  exact List.drop_subset dropped _

/-- The log only grows. -/
theorem produced_grows {action : OutputAction} (stepped : state.step action = some next) :
    state.produced <+: next.produced := by
  by_cases records : ∃ data, action = .record data
  · rcases records with ⟨data, rfl⟩
    rcases record_eq_some.mp stepped with ⟨-, rfl⟩
    exact List.prefix_append state.produced [data]
  · have same := produced_of_step (fun data isRecord => records ⟨data, isRecord⟩) stepped
    rw [same]

/-- A step adds nothing but the chunk in the reader's hand and what the history
holds. -/
theorem Genuine.step {action : OutputAction} (genuine : state.Genuine)
    (consistent : state.Consistent) (stepped : state.step action = some next) :
    next.Genuine := by
  have grown := (numberFrom_grows 1 (produced_grows stepped)).subset
  have kept : ∀ chunk ∈ state.enqueued ++ state.pending, chunk ∈ numberFrom 1 next.produced :=
    fun chunk member => grown (genuine chunk member)
  intro chunk member
  cases action with
  | record data =>
      rcases record_eq_some.mp stepped with ⟨-, rfl⟩
      exact kept chunk member
  | heartbeat acks =>
      rcases heartbeat_eq_some.mp stepped with ⟨-, rfl⟩
      exact kept chunk member
  | forward =>
      rcases forward_eq_some.mp stepped with
        ⟨taken, inHand, ⟨-, rfl⟩ | ⟨channel, sent, occupied, accepted, rfl⟩⟩
      · exact kept chunk member
      · rw [enqueued_of_slot rfl, (Channel.trySend_eq_some.mp accepted).2] at member
        rw [enqueued_of_slot occupied] at kept
        simp only [List.mem_append, List.mem_singleton] at member kept
        rcases member with (written | queued | rfl) | replay
        · exact kept chunk (Or.inl (Or.inl written))
        · exact kept chunk (Or.inl (Or.inr queued))
        · exact grown (consistent.reader_mem inHand)
        · exact kept chunk (Or.inr replay)
  | collect lastReceivedSeq =>
      rcases collect_effect consistent stepped with ⟨-, -, nothing, selected, sameLog, -⟩
      rw [nothing, List.nil_append, selected] at member
      rw [sameLog]
      exact consistent.history_subset (List.mem_of_mem_filter member)
  | publish =>
      rcases publish_eq_some.mp stepped with ⟨replays, collected, rfl⟩
      rw [pending_of_collected collected] at kept
      rw [enqueued_of_slot rfl, pending_of_queueing rfl, Channel.items_empty,
        List.append_nil] at member
      rcases List.mem_append.mp member with written | replay
      · exact kept chunk (List.mem_append_left _ (List.mem_append_left _ written))
      · exact kept chunk (List.mem_append_right _ replay)
  | queueReplay =>
      rcases queueReplay_eq_some.mp stepped with ⟨entry, rest, channel, queueing, occupied, rfl⟩
      rw [enqueued_of_slot rfl, pending_of_queueing rfl, Channel.items_offer] at member
      rw [enqueued_of_slot occupied, pending_of_queueing queueing] at kept
      simp only [List.mem_append] at member kept
      rcases member with (written | offered) | replay
      · exact kept chunk (Or.inl (Or.inl written))
      · rcases List.mem_append.mp (List.mem_of_mem_take offered) with queued | latest
        · exact kept chunk (Or.inl (Or.inr queued))
        · exact kept chunk (Or.inr (List.mem_singleton.mp latest ▸ List.mem_cons_self))
      · exact kept chunk (Or.inr (List.mem_cons_of_mem entry replay))
  | startWriter =>
      rcases startWriter_eq_some.mp stepped with ⟨queueing, rfl⟩
      rw [pending_of_serving rfl, List.append_nil] at member
      exact kept chunk (List.mem_append_left _ member)
  | write =>
      rcases write_eq_some.mp stepped with ⟨channel, taken, rest, serving, occupied, oldest, rfl⟩
      change chunk ∈ state.written ++ [taken] ++ rest.items ++ state.pending at member
      rw [enqueued_of_slot occupied, oldest] at kept
      apply kept chunk
      simpa using member
  | close =>
      rcases close_eq_some.mp stepped with ⟨-, rfl⟩
      cases member

/-- What a write puts on the stream is part of the log. -/
theorem Genuine.written {server : OutputState} (genuine : server.Genuine) {chunk : Chunk}
    (member : chunk ∈ server.written) : chunk ∈ numberFrom 1 server.produced :=
  genuine chunk (List.mem_append_left _ (List.mem_append_left _ member))

end Etr.Server.OutputState

namespace Etr.System

open Etr.Library Etr.Session Etr.Client Etr.Server

namespace ScreenState

variable {state next : ScreenState}

/-- Every chunk outside the server is part of the log, and none is shown more
often than it was passed on. -/
structure Genuine (state : ScreenState) : Prop where
  consistent : state.server.Consistent
  server : state.server.Genuine
  received : ∀ chunk ∈ state.client.held ++ state.inflight, chunk ∈ numberFrom 1 state.log
  once : state.client.Once

theorem genuine_init (sessionId : List UInt8) (passkey : String) :
    Genuine (init sessionId passkey) where
  consistent := OutputState.consistent_init sessionId passkey
  server := nofun
  received := nofun
  once := List.Subperm.refl []

/-- The log only grows. -/
theorem log_grows {action : ScreenAction} (stepped : state.step action = some next) :
    state.log <+: next.log :=
  (turns_of_step stepped).2.1.keeps (fun server => state.log <+: server.produced)
    (List.prefix_refl state.log) fun _ turned => OutputState.produced_grows turned

/-- A chunk that the client reads comes from the stream. -/
theorem inflight_of_clientTurn {action : ScreenAction} {chunk : Chunk}
    (turn : state.clientTurn action = some (.read chunk)) : chunk ∈ state.inflight := by
  cases action with
  | clientRead =>
      rcases Option.map_eq_some_iff.mp turn with ⟨oldest, first, same⟩
      cases same
      exact List.mem_of_head? first
  | _ => simp [clientTurn] at turn

theorem Genuine.step {action : ScreenAction} (genuine : state.Genuine)
    (stepped : state.step action = some next) : next.Genuine := by
  have grown := (numberFrom_grows 1 (log_grows stepped)).subset
  rcases turns_of_step stepped with ⟨client, server, arriving⟩
  have consistent : next.server.Consistent :=
    server.keeps OutputState.Consistent genuine.consistent
      fun _ turned => genuine.consistent.step turned
  have genuineServer : next.server.Genuine :=
    server.keeps OutputState.Genuine genuine.server
      fun _ turned => genuine.server.step genuine.consistent turned
  have nextHeld : ∀ chunk ∈ next.client.held, chunk ∈ state.client.held ++ state.inflight := by
    refine client.keeps
      (fun client => ∀ chunk ∈ client.held, chunk ∈ state.client.held ++ state.inflight)
      (fun _ => List.mem_append_left _) ?_
    intro turn isTurn turned chunk member
    rcases StdoutState.held_of_step turned member with before | rfl
    · exact List.mem_append_left _ before
    · exact List.mem_append_right _ (inflight_of_clientTurn isTurn)
  refine ⟨consistent, genuineServer, ?_, client.keeps StdoutState.Once genuine.once
    fun _ turned => genuine.once.step turned⟩
  intro chunk member
  rcases List.mem_append.mp member with held | inflight
  · exact grown (genuine.received chunk (nextHeld chunk held))
  · rcases arriving chunk inflight with before | written
    · exact grown (genuine.received chunk (List.mem_append_right _ before))
    · exact genuineServer.written written

/-- If the client loses its connection in this step, the stdout task has nothing
left that it would still write. -/
def LeavesNoWriter (state : ScreenState) : ScreenAction → Prop
  | .clientLost => ∀ task ∈ state.client.unfinished, task = []
  | _ => True

theorem inOrder_step {action : ScreenAction} (inOrder : state.client.InOrder)
    (clean : state.LeavesNoWriter action) (stepped : state.step action = some next) :
    next.client.InOrder := by
  refine (turns_of_step stepped).1.keeps StdoutState.InOrder inOrder
    fun isTurn turned => inOrder.step (fun aborts => ?_) turned
  subst aborts
  have lost := clientLost_of_clientTurn isTurn
  subst lost
  exact clean

/-- **Nothing is shown that the shell has not printed**: in every run each chunk
that the client passes on carries the payload read from the PTY under its
number, and stdout shows no payload more often than it was passed on. Where no
stdout task outlives its connection with something left to write, stdout shows
the payloads in the order they were passed on. -/
theorem shown_output_genuine {sessionId : List UInt8} {passkey : String}
    {actions : List ScreenAction} {final : ScreenState}
    (executed : run ScreenState.step (init sessionId passkey) actions = some final) :
    (∀ chunk ∈ final.client.passedOn, chunk ∈ numberFrom 1 final.log) ∧
      final.shown.Subperm (final.client.passedOn.map Prod.snd) ∧
      (Along ScreenState.step LeavesNoWriter (init sessionId passkey) actions →
        final.shown.Sublist (final.client.passedOn.map Prod.snd)) := by
  have genuine := run_invariant (fun held stepped => Genuine.step held stepped)
    (genuine_init sessionId passkey) executed
  refine ⟨?_, genuine.once.stdout, ?_⟩
  · intro chunk member
    exact genuine.received chunk (List.mem_append_left _ (List.mem_append_left _ member))
  · intro clean
    have start : (init sessionId passkey).client.InOrder := ⟨List.Sublist.refl [], nofun⟩
    exact (run_invariant_along (fun held cleanStep stepped => inOrder_step held cleanStep stepped)
      start clean executed).stdout

/-- A chunk in the reader's hand during a resume, which is enqueued twice, and a
connection that is lost while the second copy is being written. -/
def repeatedOutput : List ScreenAction :=
  [.record [97], .connect, .accept 0, .publish, .forward, .queueReplay, .startWriter,
    .spawnTasks, .serverWrite, .clientRead, .clientMark, .clientForward, .takeStdout,
    .writeStdout, .serverWrite, .clientRead, .clientMark, .clientForward, .takeStdout,
    .clientLost, .writeLingering 0]

theorem repeated_output_genuine :
    ∃ final, run ScreenState.step (init [] "") repeatedOutput = some final ∧
      final.shown = [[97], [97]] ∧
      ∀ chunk ∈ final.client.passedOn, chunk ∈ numberFrom 1 final.log := by
  have reached : ∃ final, run ScreenState.step (init [] "") repeatedOutput = some final ∧
      final.shown = [[97], [97]] := ⟨_, rfl, rfl⟩
  rcases reached with ⟨final, executed, shown⟩
  exact ⟨final, executed, shown, (shown_output_genuine executed).1⟩

end ScreenState

end Etr.System
