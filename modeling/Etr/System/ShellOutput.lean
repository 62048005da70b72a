import Etr.Client.StdoutOutlet
import Etr.System.Teardown

/-!
Contract: the output of the shell reaches stdout before the client leaves.

Owns where a chunk can be between the PTY and stdout, the invariant that every
chunk is in one of these places, the steps that have to meet a condition for it,
and the completeness of stdout when the client has left because of the
`Disconnect`.

Does not own the order of the output.
-/

namespace Etr.System.TeardownState

open Etr.Library Etr.Session Etr.Client Etr.Server

variable {state next : TeardownState}

/-! ## When no output is overtaken or dropped -/

/-- Nothing is left in the PTY, with the PTY reader, in the output queue, among
the replays or with the PTY writer. -/
def ServerDone (state : TeardownState) : Prop :=
  state.ptyBuffer = [] ∧ state.server.holding = [] ∧ state.ptyWriter = none

/-- Nothing is left on the PTY stream, with the PTY receiver or with the stdout
task. -/
def ClientDone (state : TeardownState) : Prop :=
  state.ptyStream = [] ∧ state.client.receiver = .reading ∧ state.client.Flushed

/-- The step overtakes and drops no output:
- the output before the client is accepted fits in the send history;
- the PTY reader hands its chunk to nobody only before that, or if the chunk is
  among the replays, and every replay finds room in the output queue;
- `Disconnect` is written to the control stream only once the server is done;
- the closing server cuts nothing off the PTY stream;
- every payload finds room in the stdout queue;
- the client's `select!` takes the control reader's end only once its other
  tasks are done. -/
def Orderly (state : TeardownState) : TeardownAction → Prop
  | .ptyRead count => state.link = .offline →
      state.server.session.terminal.historyBytes + count ≤ maxHistoryBytes
  | .ptyForward => state.link = .offline ∨ state.server.KeepsChunks .forward
  | .queueReplay => state.server.KeepsChunks .queueReplay
  | .ctrlWritten => state.ctrlWriter = .writing .disconnect → state.ServerDone
  | .serverCloses chunks _ => state.ptyStream.length ≤ chunks
  | .clientForward => state.client.FindsRoom .forward
  | .leave => state.ClientDone
  | _ => True

/-! ## Where the chunks are -/

/-- The chunk is with the client, on the PTY stream, with the server, or in the
history from which the replays will be collected. -/
def Located (state : TeardownState) (chunk : Chunk) : Prop :=
  chunk ∈ state.client.held ∨ chunk ∈ state.ptyStream ∨ state.ptyWriter = some chunk ∨
    chunk ∈ state.server.holding ∨
    (state.link = .offline ∧ chunk ∈ state.server.session.terminal.sendHistory)

/-- Before the client is accepted the server holds every chunk in its history,
and the client has not moved. -/
structure Unstarted (server : OutputState) (client : StdoutState) (writer : CtrlWriter) :
    Prop where
  waiting : server.resume = .waiting
  window : Window server.produced 0 server.session.terminal
  client : ∃ sessionId passkey, client = StdoutState.init sessionId passkey
  writer : writer = .waiting

/-- Every byte the shell wrote is in the PTY or was read in a chunk, and every
chunk is in one of the places on the way to stdout. -/
structure Carrying (state : TeardownState) : Prop where
  consistent : state.server.Consistent
  passing : state.client.Passing
  read : state.server.produced.flatten ++ state.ptyBuffer = state.shellOutput
  located : ∀ chunk ∈ numberFrom 1 state.server.produced, state.Located chunk
  unstarted : state.link = .offline → Unstarted state.server state.client state.ctrlWriter
  told : state.ctrlWriter = .done → state.ServerDone

theorem carrying_init (sessionId : List UInt8) (passkey : String) :
    (init sessionId passkey).Carrying where
  consistent := OutputState.consistent_init sessionId passkey
  passing := ⟨rfl, rfl, fun _ => rfl⟩
  read := rfl
  located := nofun
  unstarted := fun _ => ⟨rfl, window_new 0 .terminal, ⟨sessionId, passkey, rfl⟩, rfl⟩
  told := nofun

theorem Unstarted.history {server : OutputState} {client : StdoutState} {writer : CtrlWriter}
    (unstarted : Unstarted server client writer) :
    server.session.terminal.sendHistory = numberFrom 1 server.produced := by
  rw [unstarted.window.history, List.drop_zero]

/-- A connection on which the server has started is past the set-up. -/
theorem Carrying.online_of_resume (carrying : state.Carrying)
    (started : state.server.resume ≠ .waiting) : state.link ≠ .offline :=
  fun offline => started (carrying.unstarted offline).waiting

theorem Carrying.online_of_writer (carrying : state.Carrying)
    (started : state.ctrlWriter ≠ .waiting) : state.link ≠ .offline :=
  fun offline => started (carrying.unstarted offline).writer

/-! ## Steps of the shell and of the PTY reader -/

theorem Carrying.shellWrite {data : List UInt8} (carrying : state.Carrying)
    (announced : state.Announced) (stepped : state.shellWrite data = some next) :
    next.Carrying := by
  rcases shellWrite_cases stepped with ⟨running, rfl⟩
  refine { carrying with read := ?_, told := ?_ }
  · show _ ++ (state.ptyBuffer ++ data) = state.shellOutput ++ data
    rw [← List.append_assoc, carrying.read]
  · intro done
    rw [announced.ended done] at running
    cases running

theorem Carrying.ptyRead {count : Nat} (carrying : state.Carrying)
    (orderly : state.Orderly (.ptyRead count)) (stepped : state.ptyRead count = some next) :
    next.Carrying := by
  rcases ptyRead_cases stepped with ⟨positive, enough, server, recorded, rfl⟩
  have asStep : state.server.step (.record (state.ptyBuffer.take count)) = some server := recorded
  rcases OutputState.record_eq_some.mp recorded with ⟨idle, result⟩
  have sized : (state.ptyBuffer.take count).length = count := by
    rw [List.length_take, Nat.min_eq_left enough]
  have unstarted : state.link = .offline → Unstarted server state.client state.ctrlWriter := by
    intro offline
    have before := carrying.unstarted offline
    have fits := orderly offline
    rw [← sized] at fits
    refine ⟨?_, OutputState.window_of_record before.window fits recorded, before.client,
      before.writer⟩
    rw [result]
    exact before.waiting
  refine
    { consistent := carrying.consistent.step asStep
      passing := carrying.passing
      read := ?_
      located := ?_
      unstarted := unstarted
      told := ?_ }
  · show server.produced.flatten ++ state.ptyBuffer.drop count = state.shellOutput
    have produced : server.produced = state.server.produced ++ [state.ptyBuffer.take count] := by
      rw [result]
    rw [produced, List.flatten_append, List.flatten_singleton, List.append_assoc,
      List.take_append_drop, carrying.read]
  · intro chunk member
    by_cases offline : state.link = .offline
    · refine Or.inr (Or.inr (Or.inr (Or.inr ⟨offline, ?_⟩)))
      show chunk ∈ server.session.terminal.sendHistory
      rwa [(unstarted offline).history]
    · rcases OutputState.log_of_step carrying.consistent asStep member with earlier | inHand
      · rcases carrying.located chunk earlier with held | stream | writer | holding | history
        · exact Or.inl held
        · exact Or.inr (Or.inl stream)
        · exact Or.inr (Or.inr (Or.inl writer))
        · rcases OutputState.holding_of_step carrying.consistent asStep trivial holding with
            kept | ⟨written, -⟩
          · exact Or.inr (Or.inr (Or.inr (Or.inl kept)))
          · cases written
        · exact absurd history.1 offline
      · exact Or.inr (Or.inr (Or.inr (Or.inl (OutputState.mem_holding.mpr
          (Or.inr (Or.inr inHand))))))
  · intro done
    rcases carrying.told done with ⟨nothing, -⟩
    rw [nothing, List.length_nil] at enough
    omega

/-! ## Steps of the server -/

/-- A step of the server on the accepted connection that neither reads the PTY
nor writes to the stream. -/
theorem Carrying.serverStep {turn : OutputAction} {server : OutputState}
    (carrying : state.Carrying) (stepped : state.server.step turn = some server)
    (online : state.link ≠ .offline) (keeps : state.server.KeepsChunks turn)
    (notRecord : ∀ data, turn ≠ .record data) (notCollect : ∀ acks, turn ≠ .collect acks)
    (notWrite : turn ≠ .write) :
    Carrying { state with server := server } := by
  have sameLog := OutputState.produced_of_step notRecord stepped
  refine
    { consistent := carrying.consistent.step stepped
      passing := carrying.passing
      read := ?_
      located := ?_
      unstarted := fun offline => absurd offline online
      told := ?_ }
  · show server.produced.flatten ++ state.ptyBuffer = state.shellOutput
    rw [sameLog, carrying.read]
  · intro chunk member
    change chunk ∈ numberFrom 1 server.produced at member
    rw [sameLog] at member
    rcases carrying.located chunk member with held | stream | writer | holding | history
    · exact Or.inl held
    · exact Or.inr (Or.inl stream)
    · exact Or.inr (Or.inr (Or.inl writer))
    · rcases OutputState.holding_of_step carrying.consistent stepped keeps holding with
        kept | ⟨written, -⟩
      · exact Or.inr (Or.inr (Or.inr (Or.inl kept)))
      · exact absurd written notWrite
    · exact absurd history.1 online
  · intro done
    rcases carrying.told done with ⟨buffer, holding, writer⟩
    exact ⟨buffer, OutputState.holding_eq_nil_of_step holding notRecord notCollect stepped, writer⟩

/-- The PTY reader may give its chunk away while the history holds it. -/
theorem Carrying.ptyForward (carrying : state.Carrying) (orderly : state.Orderly .ptyForward)
    (stepped : state.ptyForward = some next) : next.Carrying := by
  rcases Option.map_eq_some_iff.mp stepped with ⟨server, forwarded, rfl⟩
  have asStep : state.server.step .forward = some server := forwarded
  by_cases offline : state.link = .offline
  · have before := carrying.unstarted offline
    have same : server.session = state.server.session ∧ server.resume = state.server.resume ∧
        server.produced = state.server.produced := by
      rcases OutputState.forward_eq_some.mp forwarded with
        ⟨chunk, -, ⟨-, rfl⟩ | ⟨channel, sent, -, -, rfl⟩⟩
      · exact ⟨rfl, rfl, rfl⟩
      · exact ⟨rfl, rfl, rfl⟩
    have after : Unstarted server state.client state.ctrlWriter := by
      refine ⟨same.2.1.trans before.waiting, ?_, before.client, before.writer⟩
      rw [same.1, same.2.2]
      exact before.window
    refine
      { consistent := carrying.consistent.step asStep
        passing := carrying.passing
        read := ?_
        located := ?_
        unstarted := fun _ => after
        told := ?_ }
    · show server.produced.flatten ++ state.ptyBuffer = state.shellOutput
      rw [same.2.2, carrying.read]
    · intro chunk member
      refine Or.inr (Or.inr (Or.inr (Or.inr ⟨offline, ?_⟩)))
      show chunk ∈ server.session.terminal.sendHistory
      rwa [after.history]
    · intro done
      rw [before.writer] at done
      cases done
  · have keeps := orderly.resolve_left offline
    exact carrying.serverStep asStep offline keeps (by simp) (by simp) (by simp)

/-- The replays are the whole history, as the client has received nothing. -/
theorem Carrying.accept (carrying : state.Carrying) (stepped : state.accept = some next) :
    next.Carrying := by
  rcases accept_cases stepped with ⟨offline, server, notice, collected, -, rfl⟩
  have before := carrying.unstarted offline
  have asStep : state.server.step (.collect state.client.session.lastReceivedMap) = some server :=
    collected
  rcases OutputState.collect_effect carrying.consistent asStep with
    ⟨consistent, -, -, replays, sameLog, -⟩
  refine
    { consistent := consistent
      passing := carrying.passing
      read := ?_
      located := ?_
      unstarted := nofun
      told := ?_ }
  · show server.produced.flatten ++ state.ptyBuffer = state.shellOutput
    rw [sameLog, carrying.read]
  · intro chunk member
    change chunk ∈ numberFrom 1 server.produced at member
    rw [sameLog] at member
    have positive := (bounds_of_mem_numberFrom member).1
    have replayed : chunk ∈ server.pending := by
      rcases before.client with ⟨sessionId, passkey, client⟩
      have unmarked : (state.client.session.lastReceivedMap 0).getD 0 = 0 := by
        rw [client]
        rfl
      rw [replays, unmarked, StreamState.replayFrom, before.history]
      exact List.mem_filter.mpr ⟨member, decide_eq_true positive⟩
    exact Or.inr (Or.inr (Or.inr (Or.inl (OutputState.mem_holding.mpr (Or.inr (Or.inl replayed))))))
  · intro done
    rw [before.writer] at done
    cases done

theorem Carrying.ptyTake (carrying : state.Carrying) (stepped : state.ptyTake = some next) :
    next.Carrying := by
  rcases ptyTake_cases stepped with ⟨taken, server, idle, oldest, written, rfl⟩
  have asStep : state.server.step .write = some server := written
  have sameLog := OutputState.produced_of_step (by simp) asStep
  rcases OutputState.write_eq_some.mp written with ⟨channel, -, -, serving, -⟩
  have online := carrying.online_of_resume (by rw [serving]; simp)
  refine
    { consistent := carrying.consistent.step asStep
      passing := carrying.passing
      read := ?_
      located := ?_
      unstarted := fun offline => absurd offline online
      told := ?_ }
  · show server.produced.flatten ++ state.ptyBuffer = state.shellOutput
    rw [sameLog, carrying.read]
  · intro chunk member
    change chunk ∈ numberFrom 1 server.produced at member
    rw [sameLog] at member
    rcases carrying.located chunk member with held | stream | writer | holding | history
    · exact Or.inl held
    · exact Or.inr (Or.inl stream)
    · rw [idle] at writer
      cases writer
    · rcases OutputState.holding_of_step carrying.consistent asStep trivial holding with
        kept | ⟨-, first⟩
      · exact Or.inr (Or.inr (Or.inr (Or.inl kept)))
      · exact Or.inr (Or.inr (Or.inl (oldest.symm.trans first)))
    · exact absurd history.1 online
  · intro done
    rcases carrying.told done with ⟨-, holding, -⟩
    have nothing := (List.append_eq_nil_iff.mp holding).1
    rw [OutputState.oldestQueued, nothing] at oldest
    cases oldest

theorem Carrying.ptyWritten (carrying : state.Carrying) (stepped : state.ptyWritten = some next) :
    next.Carrying := by
  rcases ptyWritten_cases stepped with ⟨taken, writing, rfl⟩
  refine { carrying with located := ?_, told := ?_ }
  · intro chunk member
    rcases carrying.located chunk member with held | stream | writer | later
    · exact Or.inl held
    · exact Or.inr (Or.inl (List.mem_append_left _ stream))
    · rw [writing, Option.some.injEq] at writer
      exact Or.inr (Or.inl (by simp [writer]))
    · exact Or.inr (Or.inr (Or.inr later))
  · intro done
    rcases carrying.told done with ⟨-, -, idle⟩
    rw [writing] at idle
    cases idle

/-- The end of the control writer finds the server done. -/
theorem Carrying.serverEnds (carrying : state.Carrying) (stepped : state.serverEnds = some next) :
    next.Carrying := by
  rcases serverEnds_cases stepped with ⟨server, notice, done, closed, -, rfl⟩
  have online := carrying.online_of_writer (by rw [done]; simp)
  rcases carrying.told done with ⟨buffer, holding, idle⟩
  have queues := List.append_eq_nil_iff.mp holding
  have empty : state.server.KeepsChunks .close :=
    ⟨queues.1, (List.append_eq_nil_iff.mp queues.2).1⟩
  have asStep : state.server.step .close = some server := closed
  have closing := carrying.serverStep asStep online empty (by simp) (by simp) (by simp)
  refine { closing with located := ?_, told := fun _ => ?_ }
  · intro chunk member
    rcases closing.located chunk member with held | stream | writer | later
    · exact Or.inl held
    · exact Or.inr (Or.inl stream)
    · rw [show state.ptyWriter = none from idle] at writer
      cases writer
    · exact Or.inr (Or.inr (Or.inr later))
  · exact ⟨buffer, (closing.told done).2.1, rfl⟩

theorem Carrying.serverCloses {chunks envelopes : Nat} (carrying : state.Carrying)
    (orderly : state.Orderly (.serverCloses chunks envelopes))
    (stepped : state.serverCloses chunks envelopes = some next) : next.Carrying := by
  have result := serverCloses_cases stepped
  subst result
  refine { carrying with located := ?_ }
  intro chunk member
  rcases carrying.located chunk member with held | stream | later
  · exact Or.inl held
  · refine Or.inr (Or.inl ?_)
    show chunk ∈ state.ptyStream.take chunks
    rwa [List.take_of_length_le orderly]
  · exact Or.inr (Or.inr later)

/-- The envelope in the control writer's hand is written; a `Disconnect` only
once the server is done. -/
theorem Carrying.ctrlWritten (carrying : state.Carrying) (orderly : state.Orderly .ctrlWritten)
    (stepped : state.ctrlWritten = some next) : next.Carrying := by
  rcases ctrlWritten_cases stepped with ⟨writing, rfl⟩ | ⟨acks, writing, rfl⟩
  · have online := carrying.online_of_writer (by rw [writing]; simp)
    have done := orderly writing
    exact { carrying with
      unstarted := fun offline => absurd offline online, told := fun _ => done }
  · have online := carrying.online_of_writer (by rw [writing]; simp)
    exact { carrying with unstarted := fun offline => absurd offline online, told := nofun }

theorem Carrying.ctrlTake (carrying : state.Carrying) (stepped : state.ctrlTake = some next) :
    next.Carrying := by
  rcases ctrlTake_cases stepped with ⟨envelope, notice, serving, -, -, rfl⟩
  have online := carrying.online_of_resume (by rw [serving]; simp)
  exact { carrying with unstarted := fun offline => absurd offline online, told := nofun }

/-! ## Steps of the client -/

/-- A step of the client that stays on the connection. -/
theorem Carrying.clientStep {turn : StdoutAction} {client : StdoutState} {stream : List Chunk}
    (carrying : state.Carrying) (stepped : state.client.step turn = some client)
    (online : state.link ≠ .offline) (stays : turn ≠ .abort)
    (room : state.client.FindsRoom turn)
    (taken : ∀ chunk ∈ state.ptyStream, chunk ∈ stream ∨ turn = .read chunk) :
    Carrying { state with client := client, ptyStream := stream } := by
  rcases StdoutState.held_subset_of_step stays room stepped with ⟨kept, gained⟩
  refine
    { carrying with
      passing := carrying.passing.step stays stepped
      located := ?_
      unstarted := fun offline => absurd offline online }
  intro chunk member
  rcases carrying.located chunk member with held | arriving | later
  · exact Or.inl (kept held)
  · rcases taken chunk arriving with left | read
    · exact Or.inr (Or.inl left)
    · exact Or.inl (gained chunk read)
  · exact Or.inr (Or.inr later)

/-- The client takes no step of its own before its tasks are spawned. -/
theorem Carrying.online_of_turn {turn : StdoutAction} {client : StdoutState}
    (carrying : state.Carrying) (idle : ∀ sessionId passkey,
      (StdoutState.init sessionId passkey).step turn = none)
    (stepped : state.client.step turn = some client) : state.link ≠ .offline := by
  intro offline
  rcases (carrying.unstarted offline).client with ⟨sessionId, passkey, started⟩
  rw [started, idle] at stepped
  cases stepped

theorem Carrying.clientTurn {turn : StdoutAction} (carrying : state.Carrying)
    (stepped : state.clientTurn turn = some next)
    (idle : ∀ sessionId passkey, (StdoutState.init sessionId passkey).step turn = none)
    (stays : turn ≠ .abort) (room : state.client.FindsRoom turn) : next.Carrying := by
  rcases Option.map_eq_some_iff.mp stepped with ⟨client, turned, rfl⟩
  have online := carrying.online_of_turn idle turned
  exact carrying.clientStep turned online stays room fun _ => Or.inl

theorem Carrying.spawnTasks (carrying : state.Carrying)
    (stepped : state.spawnTasks = some next) : next.Carrying := by
  rcases spawnTasks_cases stepped with ⟨opened, client, spawned, rfl⟩
  have online : state.link ≠ .offline := by simp [opened]
  have asStep : state.client.step .spawn = some client := spawned
  exact carrying.clientStep asStep online (by simp) trivial fun _ => Or.inl

theorem Carrying.clientRead (carrying : state.Carrying)
    (stepped : state.clientRead = some next) : next.Carrying := by
  rcases clientRead_cases stepped with ⟨taken, rest, client, stream, read, rfl⟩
  have asStep : state.client.step (.read taken) = some client := read
  have online := carrying.online_of_turn (fun _ _ => rfl) asStep
  refine carrying.clientStep asStep online (by simp) trivial fun chunk member => ?_
  rw [stream] at member
  rcases List.mem_cons.mp member with rfl | later
  · exact Or.inr rfl
  · exact Or.inl later

theorem Carrying.ctrlRead (carrying : state.Carrying) (stepped : state.ctrlRead = some next) :
    next.Carrying := by
  rcases ctrlRead_cases stepped with
    ⟨envelope, rest, -, ⟨-, rfl⟩ | ⟨acks, client, -, acknowledged, spawned, rfl⟩⟩
  · exact { carrying with }
  · have online : state.link ≠ .offline := by
      intro offline
      rcases (carrying.unstarted offline).client with ⟨sessionId, passkey, started⟩
      rw [started] at spawned
      exact spawned rfl
    have asStep : state.client.step (.acknowledge acks) = some client := acknowledged
    have turned := carrying.clientStep asStep online (by simp) trivial fun _ => Or.inl
    exact { turned with }

/-! ## Every step before the client leaves -/

theorem Carrying.step {action : TeardownAction} (carrying : state.Carrying)
    (announced : state.Announced) (orderly : state.Orderly action) (stays : action ≠ .leave)
    (stepped : state.act action = some next) : next.Carrying := by
  cases action with
  | shellWrite data => exact carrying.shellWrite announced stepped
  | shellExit =>
      have result := shellExit_cases stepped
      subst result
      exact { carrying with }
  | ptyRead count => exact carrying.ptyRead orderly stepped
  | ptyForward => exact carrying.ptyForward orderly stepped
  | accept => exact carrying.accept stepped
  | publishPty =>
      rcases Option.map_eq_some_iff.mp stepped with ⟨server, published, rfl⟩
      rcases OutputState.publish_eq_some.mp published with ⟨replays, collected, -⟩
      have online := carrying.online_of_resume (by rw [collected]; simp)
      have asStep : state.server.step .publish = some server := published
      exact carrying.serverStep asStep online trivial (by simp) (by simp) (by simp)
  | publishCtrl =>
      rcases publishCtrl_cases stepped with ⟨notice, -, rfl⟩
      exact { carrying with }
  | queueReplay =>
      rcases queueReplay_cases stepped with ⟨server, queued, rfl⟩
      rcases OutputState.queueReplay_eq_some.mp queued with ⟨entry, rest, channel, queueing, -⟩
      have online := carrying.online_of_resume (by rw [queueing]; simp)
      have asStep : state.server.step .queueReplay = some server := queued
      exact carrying.serverStep asStep online orderly (by simp) (by simp) (by simp)
  | openPtyStream =>
      rcases openPtyStream_cases stepped with ⟨accepted, rfl⟩
      refine { carrying with located := ?_, unstarted := nofun }
      intro chunk member
      rcases carrying.located chunk member with held | stream | writer | holding | ⟨offline, -⟩
      · exact Or.inl held
      · exact Or.inr (Or.inl stream)
      · exact Or.inr (Or.inr (Or.inl writer))
      · exact Or.inr (Or.inr (Or.inr (Or.inl holding)))
      · rw [accepted] at offline
        cases offline
  | spawnTasks => exact carrying.spawnTasks stepped
  | startWriter =>
      rcases startWriter_cases stepped with ⟨server, started, rfl⟩
      rcases OutputState.startWriter_eq_some.mp started with ⟨queueing, -⟩
      have online := carrying.online_of_resume (by rw [queueing]; simp)
      have asStep : state.server.step .startWriter = some server := started
      exact carrying.serverStep asStep online trivial (by simp) (by simp) (by simp)
  | ptyTake => exact carrying.ptyTake stepped
  | ptyWritten => exact carrying.ptyWritten stepped
  | heartbeat acks =>
      rcases Option.map_eq_some_iff.mp stepped with ⟨server, trimmed, rfl⟩
      rcases OutputState.heartbeat_eq_some.mp trimmed with ⟨serving, -⟩
      have online := carrying.online_of_resume (by rw [serving]; simp)
      have asStep : state.server.step (.heartbeat acks) = some server := trimmed
      exact carrying.serverStep asStep online trivial (by simp) (by simp) (by simp)
  | notify =>
      rcases notify_cases stepped with ⟨-, notice, -, rfl⟩
      exact { carrying with }
  | sendHeartbeat lastReceivedSeq =>
      rcases sendHeartbeat_cases stepped with ⟨notice, -, rfl⟩
      exact { carrying with }
  | checkFlag | raiseFlag =>
      rcases Option.map_eq_some_iff.mp stepped with ⟨notice, -, rfl⟩
      exact { carrying with }
  | ctrlTake => exact carrying.ctrlTake stepped
  | ctrlWritten => exact carrying.ctrlWritten orderly stepped
  | serverEnds => exact carrying.serverEnds stepped
  | serverCloses chunks envelopes => exact carrying.serverCloses orderly stepped
  | ctrlRead => exact carrying.ctrlRead stepped
  | clientRead => exact carrying.clientRead stepped
  | clientForward =>
      exact carrying.clientTurn stepped (fun _ _ => rfl) (by simp) orderly
  | clientMark | takeStdout | writeStdout | flushed =>
      exact carrying.clientTurn stepped (fun _ _ => rfl) (by simp) trivial
  | leave => exact absurd rfl stays

/-! ## Output before the end -/

/-- Everything the shell wrote was read in chunks, and each chunk is on stdout, at
least as often as the shell printed it. -/
def Complete (state : TeardownState) : Prop :=
  state.server.produced.flatten = state.shellOutput ∧
    state.server.produced.Subperm state.client.stdout

/-- Once both ends are done, every chunk was passed on. -/
theorem Carrying.passedOn (carrying : state.Carrying) (server : state.ServerDone)
    (client : state.ClientDone) :
    numberFrom 1 state.server.produced ⊆ state.client.passedOn := by
  rcases server with ⟨-, holding, writer⟩
  rcases client with ⟨stream, reading, -⟩
  intro chunk member
  rcases carrying.located chunk member with held | arriving | writing | holds | offline
  · simpa [StdoutState.held, StdoutState.inForward, StdoutState.inRead, reading] using held
  · rw [stream] at arriving
    cases arriving
  · rw [writer] at writing
    cases writing
  · rw [holding] at holds
    cases holds
  · rcases (carrying.unstarted offline.1).client with ⟨sessionId, passkey, started⟩
    rw [started] at reading
    cases reading

theorem Carrying.leave (carrying : state.Carrying) (announced : state.Announced)
    (orderly : state.Orderly .leave) (stepped : state.leave = some next) : next.Complete := by
  rcases leave_cases stepped with ⟨disconnected, client, aborted, rfl⟩
  rcases StdoutState.abort_cases aborted with ⟨-, rfl⟩
  have server := carrying.told (announced.heard disconnected)
  constructor
  · show state.server.produced.flatten = state.shellOutput
    have read := carrying.read
    rwa [server.1, List.append_nil] at read
  · show state.server.produced.Subperm state.client.stdout
    have passed := carrying.passedOn server orderly
    rcases List.subperm_of_subset (nodup_numberFrom 1 state.server.produced) passed with
      ⟨kept, same, inPassed⟩
    rw [carrying.passing.stdout orderly.2.2]
    refine ⟨kept.map Prod.snd, ?_, inPassed.map Prod.snd⟩
    have payloads := same.map Prod.snd
    rwa [map_snd_numberFrom] at payloads

/-- The invariant of every run: the output is carried until the client leaves, and
complete when it has left. -/
structure Sound (state : TeardownState) : Prop where
  announced : state.Announced
  carrying : state.left = false → state.Carrying
  complete : state.left = true → state.shellExited = true ∧ state.Complete

theorem sound_init (sessionId : List UInt8) (passkey : String) :
    (init sessionId passkey).Sound where
  announced := announced_init sessionId passkey
  carrying := fun _ => carrying_init sessionId passkey
  complete := nofun

/-- Only `leave` ends the run. -/
theorem left_of_act {action : TeardownAction} (stays : action ≠ .leave)
    (stepped : state.act action = some next) : next.left = state.left := by
  cases action with
  | leave => exact absurd rfl stays
  | shellWrite data =>
      rcases shellWrite_cases stepped with ⟨-, rfl⟩
      rfl
  | shellExit =>
      have result := shellExit_cases stepped
      subst result
      rfl
  | ptyRead count =>
      rcases ptyRead_cases stepped with ⟨-, -, server, -, rfl⟩
      rfl
  | accept =>
      rcases accept_cases stepped with ⟨-, server, notice, -, -, rfl⟩
      rfl
  | publishCtrl =>
      rcases publishCtrl_cases stepped with ⟨notice, -, rfl⟩
      rfl
  | queueReplay =>
      rcases queueReplay_cases stepped with ⟨server, -, rfl⟩
      rfl
  | openPtyStream =>
      rcases openPtyStream_cases stepped with ⟨-, rfl⟩
      rfl
  | spawnTasks =>
      rcases spawnTasks_cases stepped with ⟨-, client, -, rfl⟩
      rfl
  | startWriter =>
      rcases startWriter_cases stepped with ⟨server, -, rfl⟩
      rfl
  | ptyTake =>
      rcases ptyTake_cases stepped with ⟨chunk, server, -, -, -, rfl⟩
      rfl
  | ptyWritten =>
      rcases ptyWritten_cases stepped with ⟨chunk, -, rfl⟩
      rfl
  | notify =>
      rcases notify_cases stepped with ⟨-, notice, -, rfl⟩
      rfl
  | sendHeartbeat lastReceivedSeq =>
      rcases sendHeartbeat_cases stepped with ⟨notice, -, rfl⟩
      rfl
  | ctrlTake =>
      rcases ctrlTake_cases stepped with ⟨envelope, notice, -, -, -, rfl⟩
      rfl
  | ctrlWritten =>
      rcases ctrlWritten_cases stepped with ⟨-, rfl⟩ | ⟨acks, -, rfl⟩
      · rfl
      · rfl
  | serverEnds =>
      rcases serverEnds_cases stepped with ⟨server, notice, -, -, -, rfl⟩
      rfl
  | serverCloses chunks envelopes =>
      have result := serverCloses_cases stepped
      subst result
      rfl
  | ctrlRead =>
      rcases ctrlRead_cases stepped with
        ⟨envelope, rest, -, ⟨-, rfl⟩ | ⟨acks, client, -, -, -, rfl⟩⟩
      · rfl
      · rfl
  | clientRead =>
      rcases clientRead_cases stepped with ⟨chunk, rest, client, -, -, rfl⟩
      rfl
  | ptyForward | publishPty | checkFlag | heartbeat _ | raiseFlag | clientMark | clientForward
  | takeStdout | writeStdout | flushed =>
      rcases Option.map_eq_some_iff.mp stepped with ⟨component, -, rfl⟩
      rfl

theorem Sound.step {action : TeardownAction} (sound : state.Sound)
    (orderly : state.Orderly action) (stepped : state.step action = some next) :
    next.Sound := by
  have announced := sound.announced.step stepped
  rcases step_cases stepped with ⟨staying, acted⟩
  have carrying := sound.carrying staying
  by_cases leaves : action = .leave
  · subst leaves
    have complete := carrying.leave sound.announced orderly acted
    rcases leave_cases acted with ⟨disconnected, client, -, rfl⟩
    exact ⟨announced, nofun, fun _ => ⟨announced.ended (announced.heard disconnected), complete⟩⟩
  · have remains := (left_of_act leaves acted).trans staying
    refine ⟨announced, fun _ => carrying.step sound.announced orderly leaves acted, fun left => ?_⟩
    rw [remains] at left
    cases left

/-- **All output of the shell reaches the user before the session ends, if every
step of the run is orderly**: when the client has left because of the
`Disconnect`, the shell has exited, every byte it wrote was read in chunks, and
each chunk is on stdout. -/
theorem shell_output_complete {sessionId : List UInt8} {passkey : String}
    {actions : List TeardownAction} {final : TeardownState}
    (orderly : Along TeardownState.step Orderly (init sessionId passkey) actions)
    (executed : run TeardownState.step (init sessionId passkey) actions = some final)
    (left : final.left = true) : final.shellExited = true ∧ final.Complete := by
  have sound := run_invariant_along
    (fun held orderly stepped => Sound.step held orderly stepped)
    (sound_init sessionId passkey) orderly executed
  exact sound.complete left

/-- The set-up of a connection with `count` replays. -/
def connecting (count : Nat) : List TeardownAction :=
  [.accept, .publishPty, .publishCtrl, .checkFlag] ++ List.replicate count .queueReplay ++
    [.openPtyStream, .startWriter, .spawnTasks]

/-- One chunk from the output queue to stdout. -/
def delivering : List TeardownAction :=
  [.ptyTake, .ptyWritten, .clientRead, .clientMark, .clientForward, .takeStdout, .writeStdout,
    .flushed]

/-- One chunk printed before the connection and replayed on it, one printed
afterwards. -/
def earlyOutput : List TeardownAction :=
  [.shellWrite [97], .ptyRead 1, .ptyForward] ++ connecting 1 ++
    [.shellWrite [98], .shellExit, .ptyRead 1, .ptyForward, .notify, .ctrlTake] ++
    delivering ++ delivering ++ [.ctrlWritten, .ctrlRead, .leave]

theorem early_output_complete :
    ∃ final, run TeardownState.step (init [] "") earlyOutput = some final ∧
      final.left = true ∧ final.shellOutput = [97, 98] ∧ final.Complete := by
  have orderly : Along TeardownState.step Orderly (init [] "") earlyOutput := by
    refine ⟨trivial, fun _ => by decide, Or.inl rfl, trivial, trivial, trivial, trivial, ?_,
      trivial, trivial, trivial, trivial, trivial, nofun, Or.inr (Or.inl rfl), trivial, trivial,
      trivial, trivial, trivial, trivial, (by decide : 0 < stdoutCapacity), trivial, trivial,
      trivial, trivial, trivial, trivial, trivial, (by decide : 0 < stdoutCapacity), trivial,
      trivial, trivial, fun _ => ⟨rfl, rfl, rfl⟩, trivial, ⟨rfl, rfl, rfl, rfl⟩, trivial⟩
    intro channel occupied
    cases occupied
    decide
  have reached : ∃ final, run TeardownState.step (init [] "") earlyOutput = some final ∧
      final.left = true ∧ final.shellOutput = [97, 98] := ⟨_, rfl, rfl, rfl⟩
  rcases reached with ⟨final, executed, left, written⟩
  exact ⟨final, executed, left, written, (shell_output_complete orderly executed left).2⟩

/-- `Disconnect` overtakes a chunk that is still queued for the PTY writer. -/
theorem disconnect_overtakes_output :
    ∃ final, run TeardownState.step (init [] "") (connecting 0 ++
        [.shellWrite [97], .ptyRead 1, .ptyForward, .shellExit, .notify, .ctrlTake,
          .ctrlWritten, .ctrlRead, .leave]) = some final ∧
      final.left = true ∧ final.shellOutput = [97] ∧ final.client.stdout = [] :=
  ⟨_, rfl, rfl, rfl, rfl⟩

end Etr.System.TeardownState
