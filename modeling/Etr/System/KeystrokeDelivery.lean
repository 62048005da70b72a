import Etr.Library.DeliveryLog
import Etr.System.Keystrokes

/-!
Contract: keystrokes are delivered exactly once and in order.

Owns the invariant that relates the client's history, the server's watermark,
the chunks in flight and every acknowledgement in flight; its preservation by
each step; and the refinement of the ordered delivery log it yields.
-/

namespace Etr.Server.InputState

open Etr.Session

/-- The chunk read from the stream and not yet marked. -/
def inRead (state : InputState) : List Chunk :=
  match state.reader with
  | .locking chunk => [chunk]
  | _ => []

/-- The chunk marked and not yet enqueued. -/
def inSend (state : InputState) : List Chunk :=
  match state.reader with
  | .sending chunk => [chunk]
  | _ => []

end Etr.Server.InputState

namespace Etr.System

open Etr.Library Etr.Session Etr.Client Etr.Server

namespace KeystrokeState

variable {watermark : Nat} {state next : KeystrokeState}

/-- What the client has still to write on this connection to have written the
whole log. -/
def Unwritten (state : KeystrokeState) (rest : List Chunk) : Prop :=
  match state.phase, state.client.task with
  | .replaying replays, _ => rest = replays
  | .running, .writing chunk => rest = [chunk]
  | .running, .finished => True
  | .running, _ => rest = []
  | _, _ => True

/-- The server has marked the first `watermark` entries of the client's log;
the client still holds all later ones; a live connection carries exactly these,
in order; and no acknowledgement is ahead of the server. -/
structure Delivering (watermark : Nat) (state : KeystrokeState) : Prop where
  cursor : state.server.nextInSeq = watermark + 1
  inside : watermark ≤ state.log.length
  opened : state.server.ptyInOpen = true
  queued : state.server.queued ++ state.server.inSend = (numberFrom 1 state.log).take watermark
  taken : state.client.taken = state.client.numbered ++ state.client.inHand
  window : ∃ dropped, dropped ≤ watermark ∧
    Window state.log dropped state.client.session.terminal
  representable : state.log.length + 1 < 2 ^ 64
  stream : state.attached = true → ∃ rest,
    state.server.inRead ++ state.inflight ++ rest = (numberFrom 1 state.log).drop watermark ∧
      state.Unwritten rest
  detached : state.attached = false → state.server.reader = .absent
  running : state.client.task ≠ .absent ↔ state.phase = .running
  accepted : ∀ serverAcks, state.phase.serverAcks? = some serverAcks →
    serverAcks 0 = some watermark ∧ state.inflight = [] ∧ state.server.inRead = []
  acknowledged : ∀ acks ∈ state.heartbeats, (acks 0).getD 0 ≤ watermark

theorem delivering_init (sessionId : List UInt8) (passkey : String) (hasRemoteCommand : Bool) :
    Delivering 0 (init sessionId passkey hasRemoteCommand) where
  cursor := rfl
  inside := Nat.le_refl 0
  opened := rfl
  queued := rfl
  taken := rfl
  window := ⟨0, Nat.le_refl 0, window_new 0 .terminal⟩
  representable := by
    show 0 + 1 < 2 ^ 64
    decide
  stream := by simp [init]
  detached := fun _ => rfl
  running := by simp [init, StdinState.init]
  accepted := by simp [init, ConnectPhase.serverAcks?]
  acknowledged := by simp [init]

/-! ## Connection setup -/

theorem Delivering.connect (delivering : Delivering watermark state)
    (stepped : state.connect = some next) : Delivering watermark next := by
  unfold KeystrokeState.connect at stepped
  split at stepped
  · rename_i offline free
    cases stepped
    have absent := delivering.detached free
    have unread : state.server.inRead = [] := by simp [InputState.inRead, absent]
    have answer : state.server.session.lastReceivedMap 0 = some watermark := by
      have cursor : state.server.session.terminal.nextInSeq = watermark + 1 := delivering.cursor
      simp [StreamState.lastReceived, cursor]
    exact
      { delivering with
        stream := fun _ => ⟨_, by rw [unread]; rfl, trivial⟩
        detached := by simp
        running := by
          have idle := delivering.running
          simpa [offline] using idle
        accepted := by
          intro serverAcks carried
          cases carried
          exact ⟨answer, rfl, unread⟩
        acknowledged := by simp }
  · contradiction

theorem Delivering.applyAccept (delivering : Delivering watermark state)
    (stepped : state.applyAccept = some next) : Delivering watermark next := by
  unfold KeystrokeState.applyAccept at stepped
  split at stepped
  · rename_i serverAcks phase
    cases stepped
    have carried : state.phase.serverAcks? = some serverAcks := by rw [phase]; rfl
    have answer := (delivering.accepted serverAcks carried).1
    exact
      { delivering with
        window := window_applyServerAcks_le (by rw [answer]; exact Nat.le_refl _)
          delivering.window
        stream := fun attached => by
          rcases delivering.stream attached with ⟨rest, split, -⟩
          exact ⟨rest, split, trivial⟩
        running := by
          have idle := delivering.running
          simpa [phase] using idle
        accepted := by
          intro other same
          cases same
          exact delivering.accepted serverAcks carried }
  · contradiction

theorem Delivering.collectReplays (delivering : Delivering watermark state)
    (stepped : state.collectReplays = some next) : Delivering watermark next := by
  unfold KeystrokeState.collectReplays at stepped
  split at stepped
  · rename_i serverAcks phase
    cases stepped
    have carried : state.phase.serverAcks? = some serverAcks := by rw [phase]; rfl
    rcases delivering.accepted serverAcks carried with ⟨answer, unsent, unread⟩
    rcases delivering.window with ⟨dropped, bounded, window⟩
    have replays : (state.client.session.collectReplays serverAcks 0).getD [] =
        (numberFrom 1 state.log).drop watermark := by
      rw [SessionState.collectReplays_zero, answer, Option.getD_some, window.replayFrom,
        Nat.max_eq_right bounded]
    exact
      { delivering with
        stream := fun attached => by
          refine ⟨_, ?_, rfl⟩
          show state.server.inRead ++ state.inflight ++ _ = _
          rw [unread, unsent]
          exact replays
        running := by
          have idle := delivering.running
          simpa [phase] using idle
        accepted := by simp [ConnectPhase.serverAcks?] }
  · contradiction

theorem Delivering.writeReplay (delivering : Delivering watermark state)
    (stepped : state.writeReplay = some next) : Delivering watermark next := by
  unfold KeystrokeState.writeReplay at stepped
  split at stepped
  · rename_i chunk rest phase
    cases stepped
    exact
      { delivering with
        stream := fun attached => by
          rcases delivering.stream attached with ⟨unwritten, split, shape⟩
          rw [Unwritten, phase] at shape
          have owed : unwritten = chunk :: rest := shape
          rw [owed] at split
          refine ⟨rest, Eq.trans ?_ split, rfl⟩
          show state.server.inRead ++ (state.inflight ++ [chunk]) ++ rest = _
          simp
        running := by
          have idle := delivering.running
          simpa [phase] using idle
        accepted := by simp [ConnectPhase.serverAcks?] }
  · contradiction

theorem Delivering.spawnTasks (delivering : Delivering watermark state)
    (stepped : state.spawnTasks = some next) : Delivering watermark next := by
  unfold KeystrokeState.spawnTasks at stepped
  split at stepped
  · rename_i phase
    simp only [Option.map_eq_some_iff] at stepped
    rcases stepped with ⟨client, spawned, rfl⟩
    rcases StdinState.spawn_eq_some.mp spawned with ⟨absent, rfl⟩
    have before := delivering.taken
    rw [StdinState.inHand, absent] at before
    exact
      { delivering with
        taken := before
        stream := fun attached => by
          rcases delivering.stream attached with ⟨unwritten, split, shape⟩
          rw [Unwritten, phase] at shape
          exact ⟨unwritten, split, shape⟩
        running := by simp
        accepted := by simp [ConnectPhase.serverAcks?] }
  · contradiction

/-! ## The stdin task -/

/-- A task that is not absent runs on a connection. -/
theorem Delivering.phase_of_task (delivering : Delivering watermark state)
    (present : state.client.task ≠ .absent) : state.phase = .running :=
  delivering.running.mp present

theorem Delivering.take (delivering : Delivering watermark state) {client : StdinState}
    (stepped : state.client.take = some client) :
    Delivering watermark { state with client := client } := by
  rcases StdinState.take_cases stepped with ⟨receiving, outcome⟩
  have phase := delivering.phase_of_task (by simp [receiving])
  have before : state.client.taken = state.client.numbered := by
    have accounted := delivering.taken
    simpa [StdinState.inHand, receiving] using accounted
  have stream : state.attached = true → state.server.inRead ++ state.inflight ++ [] =
      (numberFrom 1 state.log).drop watermark := by
    intro attached
    rcases delivering.stream attached with ⟨unwritten, split, shape⟩
    rw [Unwritten, phase, receiving] at shape
    rwa [shape] at split
  have waiting : ∀ serverAcks, state.phase.serverAcks? ≠ some serverAcks := by
    simp [phase, ConnectPhase.serverAcks?]
  rcases outcome with ⟨payload, rest, -, rfl⟩ |
    ⟨-, -, ⟨-, -, rfl⟩ | ⟨-, -, rfl⟩ | ⟨-, rfl⟩⟩
  all_goals
    exact
      { delivering with
        taken := by simp [StdinState.inHand, before]
        stream := fun attached => ⟨[], stream attached, by simp [Unwritten, phase]⟩
        running := by simp [phase]
        accepted := fun serverAcks carried => absurd carried (waiting serverAcks) }

theorem Delivering.record (delivering : Delivering watermark state) {client : StdinState}
    (admissible : state.Admissible .record) (stepped : state.client.record = some client) :
    Delivering watermark { state with client := client } := by
  rcases StdinState.record_eq_some.mp stepped with ⟨input, locking, rfl⟩
  rcases admissible input locking with ⟨fits, representable⟩
  rcases delivering.window with ⟨dropped, bounded, window⟩
  rcases window.numberAndRecord input.payload with ⟨kept, -, recorded, least⟩
  have phase := delivering.phase_of_task (by simp [locking])
  have inside := delivering.inside
  have cursor := delivering.cursor
  have number : state.client.session.terminal.nextOutSeq = 1 + state.log.length := by
    rw [window.next, Nat.add_comm]
  have grown : log { state with client := { state.client with
      session := state.client.session.updateTerminal fun stream =>
        stream.numberAndRecord input.payload
      task := .writing (state.client.session.terminal.nextOutSeq, input.payload)
      numbered := state.client.numbered ++ [input] } } = state.log ++ [input.payload] := by
    simp [log]
  have numbered : numberFrom 1 (state.log ++ [input.payload]) = numberFrom 1 state.log ++
      [(state.client.session.terminal.nextOutSeq, input.payload)] := by
    rw [numberFrom_append, number]
    rfl
  have reaches : watermark ≤ (numberFrom 1 state.log).length := by
    rw [length_numberFrom]
    exact inside
  exact
    { delivering with
      inside := by
        rw [grown, List.length_append]
        exact Nat.le_add_right_of_le inside
      queued := by
        rw [grown, numbered, List.take_append_of_le_length reaches]
        exact delivering.queued
      taken := by
        have accounted := delivering.taken
        simpa [StdinState.inHand, locking] using accounted
      window := by
        rw [grown]
        refine ⟨kept, least watermark bounded ?_, recorded⟩
        rwa [cursor] at fits
      representable := by
        rw [grown, List.length_append]
        exact representable
      stream := fun attached => by
        rcases delivering.stream attached with ⟨unwritten, split, shape⟩
        rw [Unwritten, phase, locking] at shape
        refine ⟨[(state.client.session.terminal.nextOutSeq, input.payload)], ?_,
          by simp [Unwritten, phase]⟩
        rw [grown, numbered, List.drop_append_of_le_length reaches, ← split, shape]
        simp
      running := by simp [phase]
      accepted := by simp [phase, ConnectPhase.serverAcks?] }

theorem Delivering.writeChunk (delivering : Delivering watermark state)
    (stepped : state.writeChunk = some next) : Delivering watermark next := by
  unfold KeystrokeState.writeChunk at stepped
  split at stepped
  · rename_i chunk writing
    simp only [Option.map_eq_some_iff] at stepped
    rcases stepped with ⟨client, written, rfl⟩
    rcases StdinState.written_eq_some.mp written with ⟨-, -, rfl⟩
    have phase := delivering.phase_of_task (by simp [writing])
    exact
      { delivering with
        taken := by
          have accounted := delivering.taken
          simpa [StdinState.inHand, writing] using accounted
        stream := fun attached => by
          rcases delivering.stream attached with ⟨unwritten, split, shape⟩
          rw [Unwritten, phase, writing] at shape
          refine ⟨[], ?_, by simp [Unwritten, phase]⟩
          rw [shape] at split
          show state.server.inRead ++ (state.inflight ++ [chunk]) ++ [] = _
          rw [List.append_nil, ← List.append_assoc]
          exact split
        running := by simp [phase]
        accepted := by simp [phase, ConnectPhase.serverAcks?] }
  · contradiction

theorem Delivering.writeFails (delivering : Delivering watermark state) {client : StdinState}
    (stepped : state.client.written false = some client) :
    Delivering watermark { state with client := client } := by
  rcases StdinState.written_eq_some.mp stepped with ⟨chunk, writing, rfl⟩
  have phase := delivering.phase_of_task (by simp [writing])
  exact
    { delivering with
      taken := by
        have accounted := delivering.taken
        simpa [StdinState.inHand, writing] using accounted
      stream := fun attached => by
        rcases delivering.stream attached with ⟨unwritten, split, -⟩
        exact ⟨unwritten, split, by simp [Unwritten, phase]⟩
      running := by simp [phase]
      accepted := by simp [phase, ConnectPhase.serverAcks?] }

theorem Delivering.clientLost (delivering : Delivering watermark state) {arrived : Nat}
    (admissible : state.Admissible (.clientLost arrived))
    (stepped : state.clientLost arrived = some next) : Delivering watermark next := by
  have settled : state.client.taken = state.client.numbered := by
    have accounted := delivering.taken
    cases task : state.client.task with
    | locking input => exact absurd task (admissible input)
    | _ => simpa [StdinState.inHand, task] using accounted
  have cut : state.attached = true → ∃ rest, state.server.inRead ++
      state.inflight.take arrived ++ rest = (numberFrom 1 state.log).drop watermark := by
    intro attached
    rcases delivering.stream attached with ⟨unwritten, split, -⟩
    refine ⟨state.inflight.drop arrived ++ unwritten, ?_⟩
    rw [← split, ← List.append_assoc, List.append_assoc state.server.inRead,
      List.take_append_drop]
  unfold KeystrokeState.clientLost at stepped
  split at stepped
  · contradiction
  · simp only [Option.map_eq_some_iff] at stepped
    rcases stepped with ⟨client, aborted, rfl⟩
    rcases StdinState.abort_eq_some.mp aborted with ⟨-, rfl⟩
    exact
      { delivering with
        taken := by simp [StdinState.inHand, settled]
        stream := fun attached => by
          rcases cut attached with ⟨rest, split⟩
          exact ⟨rest, split, trivial⟩
        running := by simp
        accepted := by simp [ConnectPhase.serverAcks?]
        acknowledged := by simp }
  · rename_i online notRunning
    cases stepped
    have absent : ¬ state.client.task ≠ .absent := fun present =>
      notRunning (delivering.phase_of_task present)
    exact
      { delivering with
        stream := fun attached => by
          rcases cut attached with ⟨rest, split⟩
          exact ⟨rest, split, trivial⟩
        running := iff_of_false absent (by simp)
        accepted := by simp [ConnectPhase.serverAcks?]
        acknowledged := by simp }

/-! ## The server -/

theorem Delivering.serverSpawn (delivering : Delivering watermark state)
    (attached : state.attached = true) {server : InputState}
    (stepped : state.server.spawn = some server) :
    Delivering watermark { state with server := server } := by
  rcases InputState.spawn_eq_some.mp stepped with ⟨absent, rfl⟩
  have unread : state.server.inRead = [] := by simp [InputState.inRead, absent]
  have unsent : state.server.inSend = [] := by simp [InputState.inSend, absent]
  exact
    { delivering with
      queued := by
        have accounted := delivering.queued
        rw [unsent] at accounted
        exact accounted
      stream := fun _ => by
        have carried := delivering.stream attached
        rw [unread] at carried
        exact carried
      detached := fun free => absurd (attached.symm.trans free) (by decide)
      accepted := fun serverAcks carried => by
        have quiet := delivering.accepted serverAcks carried
        rw [unread] at quiet
        exact quiet }

theorem Delivering.serverRead (delivering : Delivering watermark state)
    (stepped : state.serverRead = some next) : Delivering watermark next := by
  unfold KeystrokeState.serverRead at stepped
  split at stepped
  · rename_i chunk rest attached arrived
    simp only [Option.map_eq_some_iff] at stepped
    rcases stepped with ⟨server, read, rfl⟩
    rcases InputState.read_eq_some.mp read with ⟨reading, rfl⟩
    have unread : state.server.inRead = [] := by simp [InputState.inRead, reading]
    have unsent : state.server.inSend = [] := by simp [InputState.inSend, reading]
    exact
      { delivering with
        queued := by
          have accounted := delivering.queued
          rw [unsent] at accounted
          exact accounted
        stream := fun _ => by
          have carried := delivering.stream attached
          rw [unread, arrived] at carried
          exact carried
        detached := fun free => absurd (attached.symm.trans free) (by decide)
        accepted := fun serverAcks carried => by
          have quiet := delivering.accepted serverAcks carried
          rw [arrived] at quiet
          exact absurd quiet.2.1 (List.cons_ne_nil chunk rest) }
  · contradiction

/-- Setting the watermark moves the server one entry along the log. -/
theorem Delivering.serverMark (delivering : Delivering watermark state) {server : InputState}
    (stepped : state.server.mark = some server) :
    Delivering (watermark + 1) { state with server := server } := by
  rcases InputState.mark_eq_some.mp stepped with ⟨chunk, locking, rfl⟩
  have attached : state.attached = true := by
    by_contra free
    have absent := delivering.detached (Bool.eq_false_iff.mpr free)
    rw [locking] at absent
    contradiction
  rcases delivering.stream attached with ⟨unwritten, split, shape⟩
  have unread : state.server.inRead = [chunk] := by simp [InputState.inRead, locking]
  have unsent : state.server.inSend = [] := by simp [InputState.inSend, locking]
  rw [unread, List.append_assoc, List.singleton_append] at split
  rcases drop_numberFrom_eq_cons split.symm with ⟨number, inside, taken, rest⟩
  have accounted := delivering.queued
  rw [unsent, List.append_nil] at accounted
  rcases delivering.window with ⟨dropped, bounded, window⟩
  have representable := delivering.representable
  exact
    { delivering with
      cursor := by
        show (chunk.1 + 1) % 2 ^ 64 = _
        rw [Nat.mod_eq_of_lt (by omega)]
        omega
      inside := inside
      queued := by
        show state.server.queued ++ [chunk] = _
        rw [accounted]
        exact taken.symm
      window := ⟨dropped, Nat.le_succ_of_le bounded, window⟩
      stream := fun _ => ⟨unwritten, rest.symm, shape⟩
      detached := fun free => absurd (attached.symm.trans free) (by decide)
      accepted := fun serverAcks carried => by
        have quiet := (delivering.accepted serverAcks carried).2.2
        rw [unread] at quiet
        contradiction
      acknowledged := fun acks member =>
        Nat.le_succ_of_le (delivering.acknowledged acks member) }

theorem Delivering.serverEnqueue (delivering : Delivering watermark state) {server : InputState}
    (stepped : state.server.enqueue = some server) :
    Delivering watermark { state with server := server } := by
  rcases InputState.enqueue_eq_some.mp stepped with
    ⟨chunk, sending, ⟨-, sent, -, rfl⟩ | ⟨closed, -⟩⟩
  · have unread : state.server.inRead = [] := by simp [InputState.inRead, sending]
    have waiting : state.server.inSend = [chunk] := by simp [InputState.inSend, sending]
    exact
      { delivering with
        queued := by
          have accounted := delivering.queued
          rw [waiting] at accounted
          show state.server.queued ++ [chunk] ++ [] = _
          rw [List.append_nil]
          exact accounted
        stream := fun attached => by
          have carried := delivering.stream attached
          rw [unread] at carried
          exact carried
        detached := fun free => by
          have absent := delivering.detached free
          rw [sending] at absent
          contradiction
        accepted := fun serverAcks carried => by
          have quiet := delivering.accepted serverAcks carried
          rw [unread] at quiet
          exact quiet }
  · rw [delivering.opened] at closed
    contradiction

theorem Delivering.serverLost (delivering : Delivering watermark state)
    (admissible : state.Admissible .serverLost) (stepped : state.serverLost = some next) :
    Delivering watermark next := by
  have unsent : state.server.inSend = [] := by
    cases reader : state.server.reader with
    | sending chunk => exact absurd reader (admissible chunk)
    | _ => simp [InputState.inSend, reader]
  have stopped : state.server.abort.getD state.server =
      { state.server with reader := .absent } := by
    unfold InputState.abort
    split
    · rename_i absent
      rw [Option.getD_none, ← absent]
    · rfl
  unfold KeystrokeState.serverLost at stepped
  split at stepped
  · cases stepped
    rw [stopped]
    exact
      { delivering with
        queued := by
          have accounted := delivering.queued
          rw [unsent] at accounted
          exact accounted
        stream := by simp
        detached := fun _ => rfl
        accepted := fun serverAcks carried =>
          ⟨(delivering.accepted serverAcks carried).1, rfl, rfl⟩ }
  · contradiction

/-! ## Heartbeats -/

theorem Delivering.sendHeartbeat (delivering : Delivering watermark state)
    (stepped : state.sendHeartbeat = some next) : Delivering watermark next := by
  unfold KeystrokeState.sendHeartbeat at stepped
  split at stepped
  · cases stepped
    have answer : state.server.session.lastReceivedMap 0 = some watermark := by
      have cursor : state.server.session.terminal.nextInSeq = watermark + 1 := delivering.cursor
      simp [StreamState.lastReceived, cursor]
    exact
      { delivering with
        acknowledged := by
          intro acks member
          rcases List.mem_append.mp member with earlier | latest
          · exact delivering.acknowledged acks earlier
          · rw [List.mem_singleton.mp latest, answer]
            exact Nat.le_refl watermark }
  · contradiction

theorem Delivering.applyHeartbeat (delivering : Delivering watermark state)
    (stepped : state.applyHeartbeat = some next) : Delivering watermark next := by
  unfold KeystrokeState.applyHeartbeat at stepped
  split at stepped
  · rename_i acks rest phase oldest
    cases stepped
    have bounded := delivering.acknowledged acks (by simp [oldest])
    exact
      { delivering with
        window := window_applyServerAcks_le bounded delivering.window
        acknowledged := fun later member =>
          delivering.acknowledged later (by simp [oldest, member]) }
  · contradiction

/-! ## Whole runs -/

/-- Every admissible step keeps the invariant, at the watermark it reaches. -/
theorem delivering_step {action : KeystrokeAction}
    (held : ∃ watermark, Delivering watermark state) (admissible : state.Admissible action)
    (stepped : state.step action = some next) : ∃ watermark, Delivering watermark next := by
  rcases held with ⟨watermark, delivering⟩
  cases action with
  | readStdin payload =>
      rcases Option.map_eq_some_iff.mp stepped with ⟨client, read, rfl⟩
      rcases StdinState.readStdin_eq_some.mp read with ⟨-, sent, -, rfl⟩
      exact ⟨watermark, { delivering with }⟩
  | closeStdin =>
      cases stepped
      exact ⟨watermark, { delivering with }⟩
  | connect => exact ⟨watermark, delivering.connect stepped⟩
  | applyAccept => exact ⟨watermark, delivering.applyAccept stepped⟩
  | collectReplays => exact ⟨watermark, delivering.collectReplays stepped⟩
  | writeReplay => exact ⟨watermark, delivering.writeReplay stepped⟩
  | spawnTasks => exact ⟨watermark, delivering.spawnTasks stepped⟩
  | take =>
      rcases Option.map_eq_some_iff.mp stepped with ⟨client, taken, rfl⟩
      exact ⟨watermark, delivering.take taken⟩
  | record =>
      rcases Option.map_eq_some_iff.mp stepped with ⟨client, recorded, rfl⟩
      exact ⟨watermark, delivering.record admissible recorded⟩
  | writeChunk => exact ⟨watermark, delivering.writeChunk stepped⟩
  | writeFails =>
      rcases Option.map_eq_some_iff.mp stepped with ⟨client, failed, rfl⟩
      exact ⟨watermark, delivering.writeFails failed⟩
  | clientLost arrived => exact ⟨watermark, delivering.clientLost admissible stepped⟩
  | serverSpawn =>
      simp only [KeystrokeState.step] at stepped
      split at stepped
      · rename_i attached
        rcases Option.map_eq_some_iff.mp stepped with ⟨server, spawned, rfl⟩
        exact ⟨watermark, delivering.serverSpawn attached spawned⟩
      · contradiction
  | serverRead => exact ⟨watermark, delivering.serverRead stepped⟩
  | serverMark =>
      rcases Option.map_eq_some_iff.mp stepped with ⟨server, marked, rfl⟩
      exact ⟨watermark + 1, delivering.serverMark marked⟩
  | serverEnqueue =>
      rcases Option.map_eq_some_iff.mp stepped with ⟨server, enqueued, rfl⟩
      exact ⟨watermark, delivering.serverEnqueue enqueued⟩
  | serverConsume =>
      rcases Option.map_eq_some_iff.mp stepped with ⟨server, consumed, rfl⟩
      rcases InputState.consume_eq_some.mp consumed with ⟨payload, rest, -, rfl⟩
      exact ⟨watermark, { delivering with }⟩
  | serverLost => exact ⟨watermark, delivering.serverLost admissible stepped⟩
  | sendHeartbeat => exact ⟨watermark, delivering.sendHeartbeat stepped⟩
  | applyHeartbeat => exact ⟨watermark, delivering.applyHeartbeat stepped⟩

/-- What is enqueued to the PTY is the first part of what was taken. -/
theorem Delivering.delivered_prefix (delivering : Delivering watermark state) :
    state.delivered <+: state.taken := by
  have enqueued : state.server.queued <+: numberFrom 1 state.log := by
    have first : state.server.queued <+: (numberFrom 1 state.log).take watermark :=
      delivering.queued ▸ List.prefix_append _ _
    exact first.trans (List.take_prefix _ _)
  have logged : state.log <+: state.taken := by
    rw [log, KeystrokeState.taken, delivering.taken, List.map_append]
    exact List.prefix_append _ _
  have payloads := enqueued.map Prod.snd
  rw [map_snd_numberFrom] at payloads
  exact payloads.trans logged

/-- Once nothing is on its way, everything taken is enqueued. -/
theorem Delivering.delivered_of_drained (delivering : Delivering watermark state)
    (drained : state.Drained) : state.delivered = state.taken := by
  rcases drained with ⟨phase, attached, unread, waiting, reading⟩
  rcases delivering.stream attached with ⟨rest, split, shape⟩
  have nothing : rest = [] := by
    rcases waiting with receiving | parked
    · simpa [Unwritten, phase, receiving] using shape
    · simpa [Unwritten, phase, parked] using shape
  have settled : state.client.inHand = [] := by
    rcases waiting with receiving | parked
    · simp [StdinState.inHand, receiving]
    · simp [StdinState.inHand, parked]
  have unmarked : state.server.inRead = [] := by simp [InputState.inRead, reading]
  have unsent : state.server.inSend = [] := by simp [InputState.inSend, reading]
  rw [nothing, unmarked, unread] at split
  have reached := List.drop_eq_nil_iff.mp split.symm
  have queued := delivering.queued
  rw [unsent, List.append_nil, List.take_of_length_le reached] at queued
  rw [delivered, queued, map_snd_numberFrom, log, KeystrokeState.taken, delivering.taken, settled,
    List.append_nil]

/-! ## Refinement of the delivery log -/

/-- Only `take` and `serverEnqueue` are visible in the delivery log. -/
theorem hidden_of_not_visible {action : KeystrokeAction} (stepped : state.step action = some next)
    (notTake : action ≠ .take) (notEnqueue : action ≠ .serverEnqueue) :
    next.taken = state.taken ∧ next.delivered = state.delivered := by
  cases action with
  | take => contradiction
  | serverEnqueue => contradiction
  | readStdin payload =>
      rcases Option.map_eq_some_iff.mp stepped with ⟨client, read, rfl⟩
      rcases StdinState.readStdin_eq_some.mp read with ⟨-, sent, -, rfl⟩
      exact ⟨rfl, rfl⟩
  | record =>
      rcases Option.map_eq_some_iff.mp stepped with ⟨client, recorded, rfl⟩
      rcases StdinState.record_eq_some.mp recorded with ⟨input, -, rfl⟩
      exact ⟨rfl, rfl⟩
  | writeFails =>
      rcases Option.map_eq_some_iff.mp stepped with ⟨client, failed, rfl⟩
      rcases StdinState.written_eq_some.mp failed with ⟨chunk, -, rfl⟩
      exact ⟨rfl, rfl⟩
  | serverMark =>
      rcases Option.map_eq_some_iff.mp stepped with ⟨server, marked, rfl⟩
      rcases InputState.mark_eq_some.mp marked with ⟨chunk, -, rfl⟩
      exact ⟨rfl, rfl⟩
  | serverConsume =>
      rcases Option.map_eq_some_iff.mp stepped with ⟨server, consumed, rfl⟩
      rcases InputState.consume_eq_some.mp consumed with ⟨payload, rest, -, rfl⟩
      exact ⟨rfl, rfl⟩
  | serverSpawn =>
      simp only [KeystrokeState.step] at stepped
      split at stepped
      · rcases Option.map_eq_some_iff.mp stepped with ⟨server, spawned, rfl⟩
        rcases InputState.spawn_eq_some.mp spawned with ⟨-, rfl⟩
        exact ⟨rfl, rfl⟩
      · contradiction
  | spawnTasks =>
      simp only [KeystrokeState.step, KeystrokeState.spawnTasks] at stepped
      split at stepped
      · rcases Option.map_eq_some_iff.mp stepped with ⟨client, spawned, rfl⟩
        rcases StdinState.spawn_eq_some.mp spawned with ⟨-, rfl⟩
        exact ⟨rfl, rfl⟩
      · contradiction
  | writeChunk =>
      simp only [KeystrokeState.step, KeystrokeState.writeChunk] at stepped
      split at stepped
      · rcases Option.map_eq_some_iff.mp stepped with ⟨client, written, rfl⟩
        rcases StdinState.written_eq_some.mp written with ⟨chunk, -, rfl⟩
        exact ⟨rfl, rfl⟩
      · contradiction
  | clientLost arrived =>
      simp only [KeystrokeState.step, KeystrokeState.clientLost] at stepped
      split at stepped
      · contradiction
      · rcases Option.map_eq_some_iff.mp stepped with ⟨client, aborted, rfl⟩
        rcases StdinState.abort_eq_some.mp aborted with ⟨-, rfl⟩
        exact ⟨rfl, rfl⟩
      · cases stepped
        exact ⟨rfl, rfl⟩
  | serverRead =>
      simp only [KeystrokeState.step, KeystrokeState.serverRead] at stepped
      split at stepped
      · rcases Option.map_eq_some_iff.mp stepped with ⟨server, read, rfl⟩
        rcases InputState.read_eq_some.mp read with ⟨-, rfl⟩
        exact ⟨rfl, rfl⟩
      · contradiction
  | serverLost =>
      simp only [KeystrokeState.step, KeystrokeState.serverLost] at stepped
      split at stepped
      · cases stepped
        refine ⟨rfl, ?_⟩
        simp only [KeystrokeState.delivered, InputState.abort]
        split <;> rfl
      · contradiction
  | closeStdin | connect | applyAccept | collectReplays | writeReplay | sendHeartbeat
  | applyHeartbeat =>
      simp only [KeystrokeState.step, StdinState.closeStdin, KeystrokeState.connect,
        KeystrokeState.applyAccept, KeystrokeState.collectReplays, KeystrokeState.writeReplay,
        KeystrokeState.sendHeartbeat, KeystrokeState.applyHeartbeat] at stepped
      try split at stepped
      all_goals first
        | contradiction
        | (cases stepped; exact ⟨rfl, rfl⟩)

/-- A taken payload is offered, an enqueued one is delivered. -/
def moves (state : KeystrokeState) : KeystrokeAction → List (DeliveryLog.Move Payload)
  | .take =>
      match state.client.take with
      | some client =>
          ((client.taken.drop state.client.taken.length).map Input.payload).map .offer
      | none => []
  | .serverEnqueue => [.deliver]
  | _ => []

theorem moves_of_hidden {action : KeystrokeAction} (notTake : action ≠ .take)
    (notEnqueue : action ≠ .serverEnqueue) : state.moves action = [] := by
  cases action <;> first | rfl | contradiction

/-- Taking only ever appends to what was taken. -/
theorem taken_of_take {client : StdinState} (stepped : state.client.take = some client) :
    KeystrokeState.taken { state with client := client } = state.taken ++
      (client.taken.drop state.client.taken.length).map Input.payload := by
  rcases StdinState.take_cases stepped with ⟨-, outcome⟩
  rcases outcome with ⟨payload, rest, -, rfl⟩ |
    ⟨-, -, ⟨-, -, rfl⟩ | ⟨-, -, rfl⟩ | ⟨-, rfl⟩⟩
  all_goals simp [KeystrokeState.taken]

/-- Enqueueing only ever appends to what was delivered. -/
theorem delivered_of_enqueue {server : InputState}
    (held : ∃ watermark, Delivering watermark state)
    (stepped : state.server.enqueue = some server) :
    ∃ payload, KeystrokeState.delivered { state with server := server } =
      state.delivered ++ [payload] := by
  rcases held with ⟨watermark, delivering⟩
  rcases InputState.enqueue_eq_some.mp stepped with
    ⟨chunk, -, ⟨-, sent, -, rfl⟩ | ⟨closed, -⟩⟩
  · exact ⟨chunk.2, by simp [KeystrokeState.delivered]⟩
  · rw [delivering.opened] at closed
    contradiction

/-- The keystroke system refines the ordered delivery log. -/
def deliverySimulation :
    Simulation KeystrokeState.step Admissible (DeliveryLog.step (α := Payload)) where
  related state image := (∃ watermark, Delivering watermark state) ∧
    image.offered = state.taken ∧ image.delivered = state.delivered
  answer := moves
  answers := by
    rintro state action next image ⟨held, offered, delivered⟩ admissible stepped
    have nextHeld := delivering_step held admissible stepped
    by_cases takes : action = .take
    · subst takes
      rcases Option.map_eq_some_iff.mp stepped with ⟨client, taken, rfl⟩
      rcases image.run_offer ((client.taken.drop state.client.taken.length).map Input.payload)
        with ⟨nextImage, executed, nextOffered, nextDelivered⟩
      refine ⟨nextImage, ?_, nextHeld, ?_, ?_⟩
      · simpa only [moves, taken] using executed
      · rw [nextOffered, offered, taken_of_take taken]
      · rw [nextDelivered, delivered]
        rcases StdinState.take_cases taken with ⟨-, outcome⟩
        rfl
    · by_cases enqueues : action = .serverEnqueue
      · subst enqueues
        rcases nextHeld with ⟨watermark, delivering⟩
        rcases Option.map_eq_some_iff.mp stepped with ⟨server, enqueued, rfl⟩
        rcases delivered_of_enqueue held enqueued with ⟨payload, appended⟩
        have extended := delivering.delivered_prefix
        rw [appended, ← delivered] at extended
        rcases DeliveryLog.step_deliver_of_prefix (offered ▸ extended) with
          ⟨nextImage, executed, nextOffered, nextDelivered⟩
        refine ⟨nextImage, run_cons_eq_some.mpr ⟨nextImage, executed, rfl⟩,
          ⟨watermark, delivering⟩, ?_, ?_⟩
        · rw [nextOffered, offered]
          rfl
        · rw [nextDelivered, appended, delivered]
      · rcases hidden_of_not_visible stepped takes enqueues with ⟨sameTaken, sameDelivered⟩
        rw [moves_of_hidden takes enqueues]
        exact ⟨image, rfl, nextHeld, by rw [offered, sameTaken],
          by rw [delivered, sameDelivered]⟩

/-- **Keystrokes are delivered exactly once and in order across any number of
reconnections**: the data enqueued to the PTY is always the first part of what
was taken from stdin, and all of it once a connection is drained. -/
theorem keystrokes_delivered_once_in_order {sessionId : List UInt8} {passkey : String}
    {hasRemoteCommand : Bool} {actions : List KeystrokeAction} {final : KeystrokeState}
    (admissible : Along KeystrokeState.step Admissible (init sessionId passkey hasRemoteCommand)
      actions)
    (executed : run KeystrokeState.step (init sessionId passkey hasRemoteCommand) actions =
      some final) :
    final.delivered <+: final.taken ∧ (final.Drained → final.delivered = final.taken) := by
  have start : deliverySimulation.related (init sessionId passkey hasRemoteCommand)
      DeliveryLog.empty :=
    ⟨⟨0, delivering_init sessionId passkey hasRemoteCommand⟩, rfl, rfl⟩
  rcases deliverySimulation.run_answered start admissible executed with
    ⟨moves, image, -, ⟨watermark, delivering⟩, offered, delivered⟩
  constructor
  · have inOrder := image.inOrder
    rwa [offered, delivered] at inOrder
  · intro drained
    exact delivering.delivered_of_drained drained

/-- A keystroke recorded before the connection was lost, then replayed. -/
def replayedKeystroke : List KeystrokeAction :=
  [.readStdin [97], .connect, .applyAccept, .collectReplays, .spawnTasks, .take, .record,
    .clientLost 0, .serverLost, .connect, .applyAccept, .collectReplays, .writeReplay,
    .spawnTasks, .serverSpawn, .serverRead, .serverMark, .serverEnqueue]

theorem replayed_keystroke_delivered :
    ∃ final, run KeystrokeState.step (init [] "" false) replayedKeystroke = some final ∧
      final.delivered = final.taken ∧ final.taken = [[97]] := by
  have admissible : Along KeystrokeState.step Admissible (init [] "" false)
      replayedKeystroke := by
    refine ⟨trivial, trivial, trivial, trivial, trivial, trivial, ?_, ?_, ?_, trivial, trivial,
      trivial, trivial, trivial, trivial, trivial, trivial, trivial, trivial⟩
    · intro input locking
      cases locking
      exact ⟨by decide, by decide⟩
    · intro input locking
      cases locking
    · intro chunk sending
      cases sending
  have drained : ∃ final, run KeystrokeState.step (init [] "" false) replayedKeystroke =
      some final ∧ final.Drained ∧ final.taken = [[97]] :=
    ⟨_, rfl, ⟨rfl, rfl, rfl, Or.inl rfl, rfl⟩, rfl⟩
  rcases drained with ⟨final, executed, drained, taken⟩
  exact ⟨final, executed,
    (keystrokes_delivered_once_in_order admissible executed).2 drained, taken⟩

end KeystrokeState

end Etr.System
