import Etr.Client.StdoutOutlet
import Etr.Library.DeliveryLog
import Etr.System.Output

/-!
Contract: shell output is delivered exactly once and in order.

Owns the invariant that relates the server's history, the client's watermark,
the chunks on the client's connection and every request and acknowledgement in
flight; its preservation by each step; the refinement of the ordered delivery
log it yields; and what every run keeps without any precondition.
-/

namespace Etr.System

open Etr.Library Etr.Session Etr.Client Etr.Server

namespace ScreenState

variable {watermark : Nat} {state next : ScreenState}

/-- The connection was resumed at entry `start` of the log: everything enqueued
on it is in order, and what was written is what the client has marked since,
then what is on its way. -/
def Carried (watermark : Nat) (state : ScreenState) : Prop :=
  ∃ base start received,
    base.length = state.collected ∧ start ≤ base.length ∧
      start + received.length = watermark ∧ OutputState.Resuming base start state.server ∧
      state.server.Ordered base start ∧
      state.server.written = received ++ (state.client.inRead ++ state.inflight)

/-- The client has marked the first `watermark` entries of the server's log; the
server still holds all later ones; what is on its way comes next; and no
acknowledgement is ahead of the client. -/
structure Delivering (watermark : Nat) (state : ScreenState) : Prop where
  cursor : state.client.session.terminal.nextInSeq = watermark + 1
  inside : watermark ≤ state.log.length
  passed : state.client.passedOn ++ state.client.inForward =
    (numberFrom 1 state.log).take watermark
  written : state.shown ++ state.client.unwritten = state.client.passedOn.map Prod.snd
  /-- No stdout task was aborted in the middle of a write with anything left. -/
  quiet : ∀ task ∈ state.client.lingering, task = []
  consistent : state.server.Consistent
  window : ∃ dropped, dropped ≤ watermark ∧
    Window state.log dropped state.server.session.terminal
  representable : state.log.length + 1 < 2 ^ 64
  arriving : state.client.inRead ++ state.inflight <+: (numberFrom 1 state.log).drop watermark
  carried : state.linked = true → state.Carried watermark
  idle : state.phase ≠ .running →
    state.client.receiver = .absent ∧ state.client.unwritten = []
  unanswered : state.phase = .opening false → state.linked = false ∧ state.inflight = []
  requested : ∀ request ∈ state.requests,
    request.attempt ≤ state.attempt ∧ (request.lastReceivedSeq 0).getD 0 ≤ watermark
  latest : state.phase = .opening false → ∀ request ∈ state.requests,
    request.attempt = state.attempt → request.lastReceivedSeq 0 = some watermark
  acknowledged : ∀ acks ∈ state.heartbeats, (acks 0).getD 0 ≤ watermark

theorem delivering_init (sessionId : List UInt8) (passkey : String) :
    Delivering 0 (init sessionId passkey) where
  cursor := rfl
  inside := Nat.le_refl 0
  passed := rfl
  written := rfl
  quiet := nofun
  consistent := OutputState.consistent_init sessionId passkey
  window := ⟨0, Nat.le_refl 0, window_new 0 .terminal⟩
  representable := (by decide : 0 + 1 < 2 ^ 64)
  arriving := List.nil_prefix
  carried := by simp [init]
  idle := fun _ => ⟨rfl, rfl⟩
  unanswered := by simp [init]
  requested := by simp [init]
  latest := by simp [init]
  acknowledged := by simp [init]

/-- The client's watermark as it is reported. -/
theorem Delivering.reported (delivering : Delivering watermark state) :
    state.client.session.lastReceivedMap 0 = some watermark := by
  simp [StreamState.lastReceived, delivering.cursor]

/-- A busy receiver means that the client's tasks run. -/
theorem Delivering.phase_of_receiver (delivering : Delivering watermark state)
    (busy : state.client.receiver ≠ .absent) : state.phase = .running := by
  by_contra stopped
  exact busy (delivering.idle stopped).1

/-! ## The server's connection -/

/-- What is on its way on the client's connection is the next part of the log. -/
theorem Carried.arriving (carried : Carried watermark state) :
    state.client.inRead ++ state.inflight <+: (numberFrom 1 state.log).drop watermark := by
  rcases carried with ⟨base, start, received, -, -, reaches, resuming, ordered, split⟩
  have enqueued := OutputState.enqueued_prefix resuming ordered
  have whole : received ++ (state.client.inRead ++ state.inflight) <+:
      (numberFrom 1 state.log).drop start := by
    rw [← split]
    exact (List.prefix_append state.server.written _).trans enqueued
  have dropped := whole.drop received.length
  rwa [List.drop_left, List.drop_drop, reaches] at dropped

/-- A step of the server that stays on the connection and writes nothing. -/
theorem Carried.serverStep (carried : Carried watermark state) {action : OutputAction}
    {server : OutputState} (stays : state.server.StaysConnected action)
    (turn : state.server.InTurn state.collected action)
    (stepped : state.server.step action = some server)
    (unwritten : server.written = state.server.written) :
    Carried watermark { state with server := server } := by
  rcases carried with ⟨base, start, received, collected, inBase, reaches, resuming, ordered, split⟩
  have covered : max base.length start = state.collected := by
    rw [Nat.max_eq_left inBase, collected]
  have inOrder := (OutputState.ordered_step_iff resuming stays stepped).mpr
    ⟨ordered, covered ▸ turn⟩
  exact ⟨base, start, received, collected, inBase, reaches, resuming.step stays stepped, inOrder,
    unwritten.trans split⟩

/-- Another state of the server over the same log. -/
theorem Delivering.replaceServer (delivering : Delivering watermark state)
    {server : OutputState} {inflight : List Chunk} {linked : Bool}
    {heartbeats : List WatermarkMap} (consistent : server.Consistent)
    (sameLog : server.produced = state.log)
    (window : ∃ dropped, dropped ≤ watermark ∧
      Window state.log dropped server.session.terminal)
    (arriving : state.client.inRead ++ inflight <+: (numberFrom 1 state.log).drop watermark)
    (carried : linked = true → Carried watermark { state with
      server := server, inflight := inflight, linked := linked, heartbeats := heartbeats })
    (unanswered : state.phase = .opening false → linked = false ∧ inflight = [])
    (acknowledged : ∀ acks ∈ heartbeats, (acks 0).getD 0 ≤ watermark) :
    Delivering watermark { state with
      server := server, inflight := inflight, linked := linked, heartbeats := heartbeats } where
  cursor := delivering.cursor
  inside := by
    show watermark ≤ server.produced.length
    rw [sameLog]
    exact delivering.inside
  passed := by
    show _ = (numberFrom 1 server.produced).take watermark
    rw [sameLog]
    exact delivering.passed
  written := delivering.written
  quiet := delivering.quiet
  consistent := consistent
  window := by
    show ∃ dropped, _ ∧ Window server.produced dropped server.session.terminal
    rw [sameLog]
    exact window
  representable := by
    show server.produced.length + 1 < 2 ^ 64
    rw [sameLog]
    exact delivering.representable
  arriving := by
    show _ <+: (numberFrom 1 server.produced).drop watermark
    rw [sameLog]
    exact arriving
  carried := carried
  idle := delivering.idle
  unanswered := unanswered
  requested := delivering.requested
  latest := delivering.latest
  acknowledged := acknowledged

/-- A step of the server that touches neither the log nor the history. -/
theorem Delivering.serverStep (delivering : Delivering watermark state) {action : OutputAction}
    {server : OutputState} (stepped : state.server.step action = some server)
    (sameSession : server.session = state.server.session)
    (sameLog : server.produced = state.server.produced)
    (unwritten : server.written = state.server.written)
    (stays : state.linked = true → state.server.StaysConnected action)
    (turn : state.linked = true → state.server.InTurn state.collected action) :
    Delivering watermark { state with server := server } := by
  have held := delivering.window
  rw [← sameSession] at held
  exact delivering.replaceServer (delivering.consistent.step stepped) sameLog held
    delivering.arriving
    (fun linked =>
      (delivering.carried linked).serverStep (stays linked) (turn linked) stepped unwritten)
    delivering.unanswered delivering.acknowledged

theorem Delivering.record (delivering : Delivering watermark state) {data : Payload}
    {server : OutputState} (admissible : state.Admissible (.record data))
    (stepped : state.server.record data = some server) :
    Delivering watermark { state with server := server } := by
  rcases admissible with ⟨fits, representable⟩
  have asStep : state.server.step (.record data) = some server := stepped
  have nextConsistent := delivering.consistent.step asStep
  have carried : state.linked = true → Carried watermark { state with server := server } := by
    intro linked
    rcases OutputState.record_eq_some.mp stepped with ⟨-, result⟩
    have stays : state.server.StaysConnected (.record data) := trivial
    exact (delivering.carried linked).serverStep stays trivial asStep (by rw [result])
  rcases OutputState.record_eq_some.mp stepped with ⟨-, rfl⟩
  rcases delivering.window with ⟨dropped, bounded, window⟩
  rcases window.numberAndRecord data with ⟨kept, -, recorded, least⟩
  have reaches : watermark ≤ (numberFrom 1 state.log).length := by
    rw [length_numberFrom]
    exact delivering.inside
  have grown : numberFrom 1 (state.log ++ [data]) =
      numberFrom 1 state.log ++ numberFrom (1 + state.log.length) [data] :=
    numberFrom_append 1 state.log [data]
  exact
    { delivering with
      inside := by
        show watermark ≤ (state.log ++ [data]).length
        rw [List.length_append]
        exact Nat.le_add_right_of_le delivering.inside
      passed := by
        show _ = (numberFrom 1 (state.log ++ [data])).take watermark
        rw [grown, List.take_append_of_le_length reaches]
        exact delivering.passed
      consistent := nextConsistent
      window := by
        refine ⟨kept, least watermark bounded ?_, recorded⟩
        rwa [delivering.cursor, Nat.add_sub_cancel] at fits
      representable := by
        show (state.log ++ [data]).length + 1 < 2 ^ 64
        rw [List.length_append]
        exact representable
      arriving := by
        show _ <+: (numberFrom 1 (state.log ++ [data])).drop watermark
        rw [grown, List.drop_append_of_le_length reaches]
        exact delivering.arriving.trans (List.prefix_append _ _)
      carried := carried }

theorem Delivering.forward (delivering : Delivering watermark state) {server : OutputState}
    (admissible : state.Admissible .forward) (stepped : state.server.forward = some server) :
    Delivering watermark { state with server := server } := by
  have unchanged : server.session = state.server.session ∧
      server.produced = state.server.produced ∧ server.written = state.server.written := by
    rcases OutputState.forward_eq_some.mp stepped with
      ⟨chunk, -, ⟨-, rfl⟩ | ⟨channel, sent, -, -, rfl⟩⟩
    · exact ⟨rfl, rfl, rfl⟩
    · exact ⟨rfl, rfl, rfl⟩
  have asStep : state.server.step .forward = some server := stepped
  exact delivering.serverStep asStep unchanged.1 unchanged.2.1 unchanged.2.2 (fun _ => trivial)
    admissible

theorem Delivering.publish (delivering : Delivering watermark state) {server : OutputState}
    (stepped : state.server.publish = some server) :
    Delivering watermark { state with server := server } := by
  have asStep : state.server.step .publish = some server := stepped
  rcases OutputState.publish_eq_some.mp stepped with ⟨replays, -, result⟩
  exact delivering.serverStep asStep (by rw [result]) (by rw [result]) (by rw [result])
    (fun _ => trivial) fun _ => trivial

theorem Delivering.queueReplay (delivering : Delivering watermark state) {server : OutputState}
    (admissible : state.Admissible .queueReplay)
    (stepped : state.server.queueReplay = some server) :
    Delivering watermark { state with server := server } := by
  have asStep : state.server.step .queueReplay = some server := stepped
  rcases OutputState.queueReplay_eq_some.mp stepped with ⟨entry, rest, channel, -, -, result⟩
  exact delivering.serverStep asStep (by rw [result]) (by rw [result]) (by rw [result])
    admissible fun _ => trivial

theorem Delivering.startWriter (delivering : Delivering watermark state) {server : OutputState}
    (stepped : state.server.startWriter = some server) :
    Delivering watermark { state with server := server } := by
  have asStep : state.server.step .startWriter = some server := stepped
  rcases OutputState.startWriter_eq_some.mp stepped with ⟨-, result⟩
  exact delivering.serverStep asStep (by rw [result]) (by rw [result]) (by rw [result])
    (fun _ => trivial) fun _ => trivial

/-- Writing moves the oldest queued chunk to the stream. -/
theorem Carried.serverWrite (carried : Carried watermark state) {server : OutputState}
    (stepped : state.server.write = some server) :
    Carried watermark { state with
      server := server
      inflight := state.inflight ++ server.written.drop state.server.written.length } := by
  rcases carried with ⟨base, start, received, collected, inBase, reaches, resuming, ordered, split⟩
  have asStep : state.server.step .write = some server := stepped
  have stays : state.server.StaysConnected .write := trivial
  have inOrder := (OutputState.ordered_step_iff resuming stays asStep).mpr ⟨ordered, trivial⟩
  refine ⟨base, start, received, collected, inBase, reaches, resuming.step stays asStep, inOrder,
    ?_⟩
  rcases OutputState.write_eq_some.mp stepped with ⟨channel, chunk, rest, -, -, -, rfl⟩
  show state.server.written ++ [chunk] = received ++ (state.client.inRead ++ (state.inflight ++
    (state.server.written ++ [chunk]).drop state.server.written.length))
  rw [List.drop_left, split]
  simp

theorem Delivering.serverWrite (delivering : Delivering watermark state)
    (stepped : state.serverWrite = some next) : Delivering watermark next := by
  rcases Option.map_eq_some_iff.mp stepped with ⟨server, written, rfl⟩
  have asStep : state.server.step .write = some server := written
  have unchanged : server.session = state.server.session ∧
      server.produced = state.log := by
    rcases OutputState.write_eq_some.mp written with ⟨channel, chunk, rest, -, -, -, rfl⟩
    exact ⟨rfl, rfl⟩
  have held := delivering.window
  rw [← unchanged.1] at held
  have consistent := delivering.consistent.step asStep
  cases linked : state.linked with
  | true =>
      have carried := (delivering.carried linked).serverWrite written
      have arriving := carried.arriving
      have sameLog : log { state with
          server := server
          inflight := state.inflight ++ server.written.drop state.server.written.length } =
        state.log := unchanged.2
      rw [sameLog] at arriving
      exact delivering.replaceServer consistent unchanged.2 held arriving
        (fun _ => carried)
        (fun opening => absurd (linked.symm.trans (delivering.unanswered opening).1) (by decide))
        delivering.acknowledged
  | false =>
      exact delivering.replaceServer consistent unchanged.2 held delivering.arriving
        (fun impossible => absurd impossible Bool.false_ne_true)
        (fun opening => ⟨rfl, (delivering.unanswered opening).2⟩) delivering.acknowledged

/-! ## Connections -/

theorem Delivering.connect (delivering : Delivering watermark state)
    (stepped : state.connect = some next) : Delivering watermark next := by
  unfold ScreenState.connect at stepped
  split at stepped
  · rename_i offline
    cases stepped
    have resting := delivering.idle (by simp [offline])
    have unread : state.client.inRead = [] := by simp [StdoutState.inRead, resting.1]
    exact
      { delivering with
        arriving := by
          show state.client.inRead ++ [] <+: _
          rw [unread]
          exact List.nil_prefix
        carried := by simp
        idle := fun _ => resting
        unanswered := fun _ => ⟨rfl, rfl⟩
        requested := by
          intro request member
          rcases List.mem_append.mp member with earlier | latest
          · have held := delivering.requested request earlier
            exact ⟨Nat.le_succ_of_le held.1, held.2⟩
          · rw [List.mem_singleton.mp latest]
            refine ⟨Nat.le_refl _, ?_⟩
            show (state.client.session.lastReceivedMap 0).getD 0 ≤ watermark
            rw [delivering.reported]
            exact Nat.le_refl watermark
        latest := by
          intro _ request member same
          rcases List.mem_append.mp member with earlier | latest
          · have held := delivering.requested request earlier
            have same : request.attempt = state.attempt + 1 := same
            omega
          · rw [List.mem_singleton.mp latest]
            exact delivering.reported }
  · contradiction

theorem Delivering.requestLost (delivering : Delivering watermark state) {index : Nat}
    (stepped : state.requestLost index = some next) : Delivering watermark next := by
  cases stepped
  exact
    { delivering with
      requested := fun request member =>
        delivering.requested request (List.mem_of_mem_eraseIdx member)
      latest := fun opening request member =>
        delivering.latest opening request (List.mem_of_mem_eraseIdx member) }

/-- Handling the client's latest request resumes exactly behind its watermark. -/
theorem Delivering.carried_of_collect (delivering : Delivering watermark state)
    {acks : WatermarkMap} {server : OutputState} (answer : acks 0 = some watermark)
    (quiet : state.client.inRead ++ state.inflight = [])
    (collected : state.server.step (.collect acks) = some server) :
    ∀ phase requests linked heartbeats, Carried watermark { state with
      server := server, phase := phase, requests := requests, linked := linked,
      heartbeats := heartbeats, collected := state.server.produced.length } := by
  intro phase requests linked heartbeats
  rcases delivering.window with ⟨dropped, bounded, window⟩
  have intact : ∀ entry ∈ numberFrom 1 state.server.produced, (acks 0).getD 0 < entry.1 →
      entry ∈ state.server.session.terminal.sendHistory := by
    intro entry member above
    rw [answer, Option.getD_some] at above
    have selected := filter_above_numberFrom dropped 1 state.server.produced
    rw [Nat.add_sub_cancel] at selected
    rw [window.history]
    show entry ∈ (numberFrom 1 state.server.produced).drop dropped
    rw [← selected]
    exact List.mem_filter.mpr ⟨member, decide_eq_true (Nat.lt_of_le_of_lt bounded above)⟩
  have resumed := OutputState.resuming_of_collect delivering.consistent collected intact
  rw [answer, Option.getD_some] at resumed
  rcases OutputState.collect_eq_some.mp collected with ⟨-, result⟩
  refine ⟨state.server.produced, watermark, [], rfl, delivering.inside, Nat.add_zero watermark,
    resumed.1, resumed.2, ?_⟩
  show server.written = [] ++ (state.client.inRead ++ state.inflight)
  rw [quiet, result]
  rfl

theorem Delivering.accept (delivering : Delivering watermark state) {index : Nat}
    (stepped : state.accept index = some next) : Delivering watermark next := by
  unfold ScreenState.accept at stepped
  split at stepped
  · contradiction
  · rename_i request found
    rcases Option.map_eq_some_iff.mp stepped with ⟨server, collected, rfl⟩
    have member : request ∈ state.requests := List.mem_of_getElem? found
    have asStep : state.server.step (.collect request.lastReceivedSeq) = some server := collected
    have consistent := delivering.consistent.step asStep
    rcases OutputState.collect_eq_some.mp collected with ⟨waiting, result⟩
    have sameLog : server.produced = state.server.produced := by rw [result]
    have window : ∃ dropped, dropped ≤ watermark ∧
        Window state.log dropped server.session.terminal := by
      rw [result]
      exact window_applyServerAcks_le (delivering.requested request member).2 delivering.window
    have handled : Delivering watermark { state with
        server := server, inflight := state.inflight, linked := false, heartbeats := [] } :=
      delivering.replaceServer consistent sameLog window delivering.arriving
        (fun impossible => absurd impossible Bool.false_ne_true)
        (fun opening => ⟨rfl, (delivering.unanswered opening).2⟩) (by simp)
    by_cases live : state.phase = .opening false ∧ request.attempt = state.attempt
    · have answer := delivering.latest live.1 request member live.2
      have resting := delivering.idle (by simp [live.1])
      have quiet : state.client.inRead ++ state.inflight = [] := by
        simp [StdoutState.inRead, resting.1, (delivering.unanswered live.1).2]
      have carried := delivering.carried_of_collect answer quiet asStep
      rw [decide_eq_true live]
      exact
        { handled with
          carried := fun _ => carried _ _ _ _
          idle := fun _ => resting
          unanswered := by simp
          requested := fun other inside =>
            delivering.requested other (List.mem_of_mem_eraseIdx inside)
          latest := by simp }
    · rw [decide_eq_false live]
      exact
        { handled with
          carried := by simp
          requested := fun other inside =>
            delivering.requested other (List.mem_of_mem_eraseIdx inside)
          latest := fun opening other inside =>
            delivering.latest opening other (List.mem_of_mem_eraseIdx inside) }

theorem Delivering.spawnTasks (delivering : Delivering watermark state)
    (stepped : state.spawnTasks = some next) : Delivering watermark next := by
  unfold ScreenState.spawnTasks at stepped
  split at stepped
  · rename_i answered
    rcases Option.map_eq_some_iff.mp stepped with ⟨client, spawned, rfl⟩
    rcases StdoutState.spawn_eq_some.mp spawned with ⟨absent, rfl⟩
    have resting := delivering.idle (by simp [answered])
    have unread : state.client.inRead = [] := by simp [StdoutState.inRead, absent]
    have unforwarded : state.client.inForward = [] := by simp [StdoutState.inForward, absent]
    exact
      { delivering with
        passed := by
          have passed := delivering.passed
          rw [unforwarded] at passed
          exact passed
        written := by
          have written := delivering.written
          rw [resting.2] at written
          exact written
        quiet := delivering.quiet
        arriving := by
          have arriving := delivering.arriving
          rw [unread] at arriving
          exact arriving
        carried := fun linked => by
          rcases delivering.carried linked with
            ⟨base, start, received, collected, inBase, reaches, resuming, ordered, split⟩
          rw [unread] at split
          exact ⟨base, start, received, collected, inBase, reaches, resuming, ordered, split⟩
        idle := by simp
        unanswered := by simp
        latest := by simp }
  · contradiction

theorem Delivering.clientLost (delivering : Delivering watermark state)
    (admissible : state.Admissible .clientLost) (stepped : state.clientLost = some next) :
    Delivering watermark next := by
  unfold ScreenState.clientLost at stepped
  split at stepped
  · contradiction
  · rename_i answered opening
    cases stepped
    have resting := delivering.idle (by simp [opening])
    exact
      { delivering with
        arriving := by
          have unread : state.client.inRead = [] := by simp [StdoutState.inRead, resting.1]
          show state.client.inRead ++ [] <+: _
          rw [unread]
          exact List.nil_prefix
        carried := by simp
        idle := fun _ => resting
        unanswered := by simp
        latest := by simp }
  · rcases Option.map_eq_some_iff.mp stepped with ⟨client, aborted, rfl⟩
    rcases StdoutState.abort_cases aborted with ⟨handed, rfl⟩
    have unforwarded : state.client.inForward = [] := by
      cases receiver : state.client.receiver with
      | forwarding chunk => exact absurd receiver (handed chunk)
      | _ => simp [StdoutState.inForward, receiver]
    exact
      { delivering with
        passed := by
          have passed := delivering.passed
          rw [unforwarded] at passed
          exact passed
        written := by
          have written := delivering.written
          rw [StdoutState.flushed_iff.mp admissible] at written
          exact written
        quiet := by
          intro task member
          rcases List.mem_append.mp member with earlier | latest
          · exact delivering.quiet task earlier
          · exact StdoutState.nil_of_mem_unfinished admissible latest
        arriving := List.nil_prefix
        carried := by simp
        idle := fun _ => ⟨rfl, rfl⟩
        unanswered := by simp
        latest := by simp }

theorem Delivering.serverLost (delivering : Delivering watermark state) {arrived : Nat}
    (stepped : state.serverLost arrived = some next) : Delivering watermark next := by
  rcases Option.map_eq_some_iff.mp stepped with ⟨server, closed, rfl⟩
  have asStep : state.server.step .close = some server := closed
  have consistent := delivering.consistent.step asStep
  rcases OutputState.close_eq_some.mp closed with ⟨-, result⟩
  have window : ∃ dropped, dropped ≤ watermark ∧
      Window state.log dropped server.session.terminal := by
    rw [result]
    exact delivering.window
  have shorter : (if state.linked = true then state.inflight.take arrived else state.inflight) <+:
      state.inflight := by
    split
    · exact List.take_prefix arrived state.inflight
    · exact List.prefix_refl state.inflight
  refine delivering.replaceServer consistent (by rw [result]; rfl) window ?_
    (fun impossible => absurd impossible Bool.false_ne_true) ?_ (by simp)
  · exact ((List.prefix_append_right_inj _).mpr shorter).trans delivering.arriving
  · intro opening
    refine ⟨rfl, List.prefix_nil.mp ?_⟩
    have empty := (delivering.unanswered opening).2
    rwa [empty] at shorter ⊢

/-! ## The client -/

theorem Delivering.clientRead (delivering : Delivering watermark state)
    (stepped : state.clientRead = some next) : Delivering watermark next := by
  unfold ScreenState.clientRead at stepped
  split at stepped
  · rename_i chunk rest running arrived
    rcases Option.map_eq_some_iff.mp stepped with ⟨client, read, rfl⟩
    rcases StdoutState.read_eq_some.mp read with ⟨reading, -, rfl⟩
    have unread : state.client.inRead = [] := by simp [StdoutState.inRead, reading]
    have unforwarded : state.client.inForward = [] := by simp [StdoutState.inForward, reading]
    exact
      { delivering with
        passed := by
          have passed := delivering.passed
          rw [unforwarded] at passed
          exact passed
        arriving := by
          have arriving := delivering.arriving
          rw [unread, arrived] at arriving
          exact arriving
        carried := fun linked => by
          rcases delivering.carried linked with
            ⟨base, start, received, collected, inBase, reaches, resuming, ordered, split⟩
          rw [unread, arrived] at split
          exact ⟨base, start, received, collected, inBase, reaches, resuming, ordered, split⟩
        idle := fun stopped => absurd running stopped
        unanswered := by simp [running] }
  · contradiction

/-- Setting the watermark moves the client one entry along the log. -/
theorem Delivering.clientMark (delivering : Delivering watermark state) {client : StdoutState}
    (stepped : state.client.mark = some client) :
    Delivering (watermark + 1) { state with client := client } := by
  rcases StdoutState.mark_eq_some.mp stepped with ⟨chunk, locking, rfl⟩
  have running := delivering.phase_of_receiver (by simp [locking])
  have unread : state.client.inRead = [chunk] := by simp [StdoutState.inRead, locking]
  have unforwarded : state.client.inForward = [] := by simp [StdoutState.inForward, locking]
  rcases delivering.arriving with ⟨later, split⟩
  rw [unread, List.append_assoc, List.singleton_append] at split
  rcases drop_numberFrom_eq_cons split.symm with ⟨number, inside, taken, rest⟩
  have passed := delivering.passed
  rw [unforwarded, List.append_nil] at passed
  rcases delivering.window with ⟨dropped, bounded, window⟩
  have representable := delivering.representable
  exact
    { delivering with
      cursor := by
        show (chunk.1 + 1) % 2 ^ 64 = _
        rw [Nat.mod_eq_of_lt (by omega)]
        omega
      inside := inside
      passed := by
        show state.client.passedOn ++ [chunk] = _
        rw [passed]
        exact taken.symm
      window := ⟨dropped, Nat.le_succ_of_le bounded, window⟩
      arriving := ⟨later, rest.symm⟩
      carried := fun linked => by
        rcases delivering.carried linked with
          ⟨base, start, received, collected, inBase, reaches, resuming, ordered, written⟩
        refine ⟨base, start, received ++ [chunk], collected, inBase, ?_, resuming, ordered, ?_⟩
        · rw [List.length_append, List.length_singleton]
          omega
        · rw [unread] at written
          show state.server.written = received ++ [chunk] ++ ([] ++ state.inflight)
          rw [written]
          simp
      idle := fun stopped => absurd running stopped
      unanswered := by simp [running]
      requested := fun request member =>
        ⟨(delivering.requested request member).1,
          Nat.le_succ_of_le (delivering.requested request member).2⟩
      latest := by simp [running]
      acknowledged := fun acks member =>
        Nat.le_succ_of_le (delivering.acknowledged acks member) }

theorem Delivering.clientForward (delivering : Delivering watermark state)
    {client : StdoutState} (admissible : state.Admissible .clientForward)
    (stepped : state.client.forward = some client) :
    Delivering watermark { state with client := client } := by
  rcases StdoutState.forward_eq_some.mp stepped with
    ⟨chunk, handing, ⟨sent, accepted, rfl⟩ | ⟨refused, -⟩⟩
  · have running := delivering.phase_of_receiver (by simp [handing])
    have unread : state.client.inRead = [] := by simp [StdoutState.inRead, handing]
    have inHand : state.client.inForward = [chunk] := by simp [StdoutState.inForward, handing]
    exact
      { delivering with
        passed := by
          have passed := delivering.passed
          rw [inHand] at passed
          show state.client.passedOn ++ [chunk] ++ [] = _
          rw [List.append_nil]
          exact passed
        written := by
          show state.client.stdout ++ (state.client.writer.buffer ++ sent.items) =
            (state.client.passedOn ++ [chunk]).map Prod.snd
          rw [(Channel.trySend_eq_some.mp accepted).2, ← List.append_assoc, ← List.append_assoc,
            List.append_assoc state.client.stdout, List.map_append]
          exact congrArg (fun earlier => earlier ++ [chunk.2]) delivering.written
        arriving := by
          have arriving := delivering.arriving
          rw [unread] at arriving
          exact arriving
        carried := fun linked => by
          rcases delivering.carried linked with
            ⟨base, start, received, collected, inBase, reaches, resuming, ordered, split⟩
          rw [unread] at split
          exact ⟨base, start, received, collected, inBase, reaches, resuming, ordered, split⟩
        idle := fun stopped => absurd running stopped
        unanswered := by simp [running] }
  · have full := Channel.trySend_eq_none.mp refused
    exact absurd admissible (Nat.not_lt.mpr full)

/-- The stdout task moves what it was handed along. -/
theorem Delivering.stdoutTask (delivering : Delivering watermark state) {client : StdoutState}
    (session : client.session = state.client.session)
    (receiver : client.receiver = state.client.receiver)
    (passedOn : client.passedOn = state.client.passedOn)
    (lingering : client.lingering = state.client.lingering)
    (moved : client.stdout ++ client.unwritten = state.shown ++ state.client.unwritten)
    (fewer : state.client.unwritten = [] → client.unwritten = []) :
    Delivering watermark { state with client := client } := by
  have inRead : client.inRead = state.client.inRead := by
    simp only [StdoutState.inRead, receiver]
  have inForward : client.inForward = state.client.inForward := by
    simp only [StdoutState.inForward, receiver]
  exact
    { delivering with
      cursor := by
        show client.session.terminal.nextInSeq = watermark + 1
        rw [session]
        exact delivering.cursor
      passed := by
        show client.passedOn ++ client.inForward = _
        rw [passedOn, inForward]
        exact delivering.passed
      written := by
        show client.stdout ++ client.unwritten = client.passedOn.map Prod.snd
        rw [moved, passedOn]
        exact delivering.written
      quiet := by
        show ∀ task ∈ client.lingering, task = []
        rw [lingering]
        exact delivering.quiet
      arriving := by
        show client.inRead ++ state.inflight <+: _
        rw [inRead]
        exact delivering.arriving
      carried := fun linked => by
        rcases delivering.carried linked with
          ⟨base, start, received, collected, inBase, reaches, resuming, ordered, split⟩
        refine ⟨base, start, received, collected, inBase, reaches, resuming, ordered, ?_⟩
        show state.server.written = received ++ (client.inRead ++ state.inflight)
        rw [inRead]
        exact split
      idle := fun stopped => by
        have resting := delivering.idle stopped
        exact ⟨receiver.trans resting.1, fewer resting.2⟩
      latest := delivering.latest }

theorem Delivering.takeStdout (delivering : Delivering watermark state)
    {client : StdoutState} (stepped : state.client.takeStdout = some client) :
    Delivering watermark { state with client := client } := by
  rcases StdoutState.takeStdout_eq_some.mp stepped with ⟨payload, rest, oldest, rfl⟩
  have same : state.client.writer.buffer ++ [payload] ++ rest.items = state.client.unwritten := by
    rw [StdoutState.unwritten, oldest, List.append_assoc, List.singleton_append]
  exact delivering.stdoutTask rfl rfl rfl rfl (congrArg (state.shown ++ ·) same)
    fun nothing => same.trans nothing

theorem Delivering.writeStdout (delivering : Delivering watermark state)
    {client : StdoutState} (stepped : state.client.writeStdout = some client) :
    Delivering watermark { state with client := client } := by
  rcases StdoutState.writeStdout_eq_some.mp stepped with ⟨payload, rest, writing, rfl⟩
  have same : state.client.unwritten = payload :: (rest ++ state.client.stdoutTx.items) := by
    rw [StdoutState.unwritten, writing]
    rfl
  refine delivering.stdoutTask rfl rfl rfl rfl ?_ fun nothing => ?_
  · show state.client.stdout ++ [payload] ++ (rest ++ state.client.stdoutTx.items) = _
    rw [same, List.append_assoc]
    rfl
  · rw [same] at nothing
    cases nothing

theorem Delivering.flushed (delivering : Delivering watermark state)
    {client : StdoutState} (stepped : state.client.flushed = some client) :
    Delivering watermark { state with client := client } := by
  rcases StdoutState.flushed_eq_some.mp stepped with ⟨writing, rfl⟩
  have same : state.client.unwritten = state.client.stdoutTx.items := by
    rw [StdoutState.unwritten, writing]
    rfl
  exact delivering.stdoutTask rfl rfl rfl rfl (congrArg (state.shown ++ ·) same.symm)
    fun nothing => same.symm.trans nothing

/-- No aborted stdout task has anything left to write. -/
theorem Delivering.no_lingering (delivering : Delivering watermark state) {index : Nat}
    {client : StdoutState} : state.client.writeLingering index ≠ some client := by
  intro stepped
  rcases StdoutState.writeLingering_eq_some.mp stepped with ⟨payload, rest, member, -⟩
  have nothing := delivering.quiet _ (List.mem_of_getElem? member)
  cases nothing

theorem Delivering.acknowledgeInput (delivering : Delivering watermark state)
    {acks : WatermarkMap} {client : StdoutState}
    (stepped : state.client.acknowledge acks = some client) :
    Delivering watermark { state with client := client } := by
  cases stepped
  exact
    { delivering with
      cursor := by
        rw [SessionState.nextInSeq_applyServerAcks]
        exact delivering.cursor
      latest := delivering.latest }

theorem Delivering.recordInput (delivering : Delivering watermark state) {data : Payload}
    {client : StdoutState} (stepped : state.client.recordInput data = some client) :
    Delivering watermark { state with client := client } := by
  cases stepped
  exact { delivering with latest := delivering.latest }

/-! ## Heartbeats -/

theorem Delivering.sendHeartbeat (delivering : Delivering watermark state)
    (stepped : state.sendHeartbeat = some next) : Delivering watermark next := by
  unfold ScreenState.sendHeartbeat at stepped
  split at stepped
  · cases stepped
    exact
      { delivering with
        acknowledged := by
          intro acks member
          cases linked : state.linked with
          | false =>
              rw [linked, if_neg Bool.false_ne_true] at member
              exact delivering.acknowledged acks member
          | true =>
              rw [linked, if_pos rfl] at member
              rcases List.mem_append.mp member with earlier | latest
              · exact delivering.acknowledged acks earlier
              · rw [List.mem_singleton.mp latest, delivering.reported]
                exact Nat.le_refl watermark }
  · contradiction

theorem Delivering.applyHeartbeat (delivering : Delivering watermark state)
    (stepped : state.applyHeartbeat = some next) : Delivering watermark next := by
  unfold ScreenState.applyHeartbeat at stepped
  split at stepped
  · rename_i acks rest oldest
    rcases Option.map_eq_some_iff.mp stepped with ⟨server, applied, rfl⟩
    have asStep : state.server.step (.heartbeat acks) = some server := applied
    have consistent := delivering.consistent.step asStep
    have bounded := delivering.acknowledged acks (by simp [oldest])
    have stays : state.server.StaysConnected (.heartbeat acks) := trivial
    have carried : state.linked = true → Carried watermark { state with server := server } := by
      intro linked
      rcases OutputState.heartbeat_eq_some.mp applied with ⟨-, result⟩
      exact (delivering.carried linked).serverStep stays trivial asStep (by rw [result])
    rcases OutputState.heartbeat_eq_some.mp applied with ⟨-, rfl⟩
    exact delivering.replaceServer consistent rfl
      (window_applyServerAcks_le bounded delivering.window) delivering.arriving carried
      delivering.unanswered fun later member =>
        delivering.acknowledged later (by simp [oldest, member])
  · contradiction

/-! ## Whole runs -/

theorem delivering_step {action : ScreenAction} (held : ∃ watermark, Delivering watermark state)
    (admissible : state.Admissible action) (stepped : state.step action = some next) :
    ∃ watermark, Delivering watermark next := by
  rcases held with ⟨watermark, delivering⟩
  cases action with
  | connect => exact ⟨watermark, delivering.connect stepped⟩
  | requestLost index => exact ⟨watermark, delivering.requestLost stepped⟩
  | accept index => exact ⟨watermark, delivering.accept stepped⟩
  | spawnTasks => exact ⟨watermark, delivering.spawnTasks stepped⟩
  | clientLost => exact ⟨watermark, delivering.clientLost admissible stepped⟩
  | serverLost arrived => exact ⟨watermark, delivering.serverLost stepped⟩
  | record data =>
      rcases Option.map_eq_some_iff.mp stepped with ⟨server, recorded, rfl⟩
      exact ⟨watermark, delivering.record admissible recorded⟩
  | forward =>
      rcases Option.map_eq_some_iff.mp stepped with ⟨server, forwarded, rfl⟩
      exact ⟨watermark, delivering.forward admissible forwarded⟩
  | publish =>
      rcases Option.map_eq_some_iff.mp stepped with ⟨server, published, rfl⟩
      exact ⟨watermark, delivering.publish published⟩
  | queueReplay =>
      rcases Option.map_eq_some_iff.mp stepped with ⟨server, queued, rfl⟩
      exact ⟨watermark, delivering.queueReplay admissible queued⟩
  | startWriter =>
      rcases Option.map_eq_some_iff.mp stepped with ⟨server, started, rfl⟩
      exact ⟨watermark, delivering.startWriter started⟩
  | serverWrite => exact ⟨watermark, delivering.serverWrite stepped⟩
  | clientRead => exact ⟨watermark, delivering.clientRead stepped⟩
  | clientMark =>
      rcases Option.map_eq_some_iff.mp stepped with ⟨client, marked, rfl⟩
      exact ⟨watermark + 1, delivering.clientMark marked⟩
  | clientForward =>
      rcases Option.map_eq_some_iff.mp stepped with ⟨client, forwarded, rfl⟩
      exact ⟨watermark, delivering.clientForward admissible forwarded⟩
  | takeStdout =>
      rcases Option.map_eq_some_iff.mp stepped with ⟨client, taken, rfl⟩
      exact ⟨watermark, delivering.takeStdout taken⟩
  | writeStdout =>
      rcases Option.map_eq_some_iff.mp stepped with ⟨client, written, rfl⟩
      exact ⟨watermark, delivering.writeStdout written⟩
  | flushed =>
      rcases Option.map_eq_some_iff.mp stepped with ⟨client, flushed, rfl⟩
      exact ⟨watermark, delivering.flushed flushed⟩
  | writeLingering index =>
      rcases Option.map_eq_some_iff.mp stepped with ⟨client, written, -⟩
      exact absurd written delivering.no_lingering
  | sendHeartbeat => exact ⟨watermark, delivering.sendHeartbeat stepped⟩
  | applyHeartbeat => exact ⟨watermark, delivering.applyHeartbeat stepped⟩
  | acknowledgeInput acks =>
      cases stepped
      exact ⟨watermark, delivering.acknowledgeInput rfl⟩
  | recordInput data =>
      cases stepped
      exact ⟨watermark, delivering.recordInput rfl⟩

/-- What was passed on is the first part of the log. -/
theorem Delivering.shown_prefix (delivering : Delivering watermark state) :
    state.shown <+: state.log := by
  have passed : state.client.passedOn <+: numberFrom 1 state.log := by
    have marked := List.prefix_append state.client.passedOn state.client.inForward
    rw [delivering.passed] at marked
    exact marked.trans (List.take_prefix watermark _)
  have written := List.prefix_append state.shown state.client.unwritten
  rw [delivering.written] at written
  have payloads := passed.map Prod.snd
  rw [map_snd_numberFrom] at payloads
  exact written.trans payloads

/-- Once the connection is drained, the client has marked the whole log. -/
theorem Delivering.watermark_of_drained (delivering : Delivering watermark state)
    (drained : state.Drained) : watermark = state.log.length := by
  rcases drained with ⟨linked, ⟨rests, serving⟩, emptyQueue, emptyStream, reading, -⟩
  rcases delivering.carried linked with
    ⟨base, start, received, -, inBase, reaches, resuming, ordered, split⟩
  have unread : state.client.inRead = [] := by simp [StdoutState.inRead, reading]
  have enqueued : state.server.enqueued = state.server.written := by
    cases slot : state.server.outboundPtyTx with
    | none => simp [OutputState.enqueued, slot]
    | some channel => simp [OutputState.enqueued, slot, emptyQueue channel slot]
  rw [unread, emptyStream, List.append_nil, List.append_nil] at split
  rw [OutputState.Ordered, OutputState.pending_of_serving serving, List.append_nil,
    OutputState.due_of_rested resuming rests, enqueued, split] at ordered
  have lengths := congrArg List.length ordered
  rw [List.length_drop, length_numberFrom] at lengths
  have grown := resuming.grown.length_le
  show watermark = state.server.produced.length
  omega

theorem Delivering.shown_of_drained (delivering : Delivering watermark state)
    (drained : state.Drained) : state.shown = state.log := by
  have marked := delivering.watermark_of_drained drained
  rcases drained with ⟨-, -, -, -, reading, flushed⟩
  have unforwarded : state.client.inForward = [] := by simp [StdoutState.inForward, reading]
  have passed := delivering.passed
  have written := delivering.written
  rw [unforwarded, List.append_nil, marked, List.take_of_length_le (by rw [length_numberFrom])]
    at passed
  rwa [StdoutState.flushed_iff.mp flushed, List.append_nil, passed, map_snd_numberFrom]
    at written

/-! ## Refinement of the delivery log -/

/-- Any other step changes neither end of the delivery log. -/
theorem hidden_of_not_visible {action : ScreenAction} (stepped : state.step action = some next)
    (notRecord : ∀ data, action ≠ .record data) (notWrite : action ≠ .writeStdout)
    (noOther : ∀ index, action ≠ .writeLingering index) :
    next.log = state.log ∧ next.shown = state.shown := by
  rcases turns_of_step stepped with ⟨client, server, -⟩
  constructor
  · refine server.keeps (fun server => server.produced = state.log) rfl ?_
    intro turn isTurn turned
    refine OutputState.produced_of_step (fun data records => ?_) turned
    subst records
    exact notRecord data (record_of_serverTurn isTurn)
  · refine client.keeps (fun client => client.stdout = state.shown) rfl ?_
    intro turn isTurn turned
    refine StdoutState.stdout_of_step (fun writes => ?_) (fun index writes => ?_) turned
    · subst writes
      exact notWrite (writeStdout_of_clientTurn isTurn)
    · subst writes
      exact noOther index (writeLingering_of_clientTurn isTurn)

/-- A payload read from the PTY is offered, one written to stdout by the task of
the connection is delivered. -/
def moves : ScreenAction → List (DeliveryLog.Move Payload)
  | .record data => [.offer data]
  | .writeStdout => [.deliver]
  | _ => []

theorem moves_of_hidden {action : ScreenAction} (notRecord : ∀ data, action ≠ .record data)
    (notWrite : action ≠ .writeStdout) : moves action = [] := by
  cases action <;> first | rfl | simp at notRecord notWrite

/-- The output system refines the ordered delivery log. -/
def deliverySimulation :
    Simulation ScreenState.step Admissible (DeliveryLog.step (α := Payload)) where
  related state image := (∃ watermark, Delivering watermark state) ∧
    image.offered = state.log ∧ image.delivered = state.shown
  answer := fun _ action => moves action
  answers := by
    rintro state action next image ⟨held, offered, delivered⟩ admissible stepped
    have nextHeld := delivering_step held admissible stepped
    by_cases records : ∃ data, action = .record data
    · rcases records with ⟨data, rfl⟩
      rcases Option.map_eq_some_iff.mp stepped with ⟨server, recorded, rfl⟩
      rcases OutputState.record_eq_some.mp recorded with ⟨-, rfl⟩
      rcases image.run_offer [data] with ⟨nextImage, executed, nextOffered, nextDelivered⟩
      refine ⟨nextImage, executed, nextHeld, ?_, ?_⟩
      · rw [nextOffered, offered]
        rfl
      · rw [nextDelivered, delivered]
        rfl
    · by_cases writes : action = .writeStdout
      · subst writes
        rcases nextHeld with ⟨watermark, delivering⟩
        rcases Option.map_eq_some_iff.mp stepped with ⟨client, written, rfl⟩
        rcases StdoutState.writeStdout_eq_some.mp written with ⟨payload, rest, writing, rfl⟩
        have extended : state.shown ++ [payload] <+: state.log := delivering.shown_prefix
        rw [← offered, ← delivered] at extended
        rcases DeliveryLog.step_deliver_of_prefix extended with
          ⟨nextImage, executed, nextOffered, nextDelivered⟩
        refine ⟨nextImage, run_cons_eq_some.mpr ⟨nextImage, executed, rfl⟩,
          ⟨watermark, delivering⟩, ?_, ?_⟩
        · rw [nextOffered, offered]
          rfl
        · rw [nextDelivered, delivered]
          rfl
      · have notRecord : ∀ data, action ≠ .record data := fun data same => records ⟨data, same⟩
        have noOther : ∀ index, action ≠ .writeLingering index := by
          rintro index rfl
          rcases held with ⟨watermark, delivering⟩
          rcases Option.map_eq_some_iff.mp stepped with ⟨client, written, -⟩
          exact delivering.no_lingering written
        rcases hidden_of_not_visible stepped notRecord writes noOther with ⟨sameLog, sameShown⟩
        rw [moves_of_hidden notRecord writes]
        exact ⟨image, rfl, nextHeld, by rw [offered, sameLog], by rw [delivered, sameShown]⟩

/-- **Shell output is delivered exactly once and in order across any number of
reconnections, where the preconditions hold at every step**: stdout always shows
the first part of what was read from the PTY, and all of it once a connection is
drained. -/
theorem output_delivered_once_in_order {sessionId : List UInt8} {passkey : String}
    {actions : List ScreenAction} {final : ScreenState}
    (admissible : Along ScreenState.step Admissible (init sessionId passkey) actions)
    (executed : run ScreenState.step (init sessionId passkey) actions = some final) :
    final.shown <+: final.log ∧ (final.Drained → final.shown = final.log) := by
  have start : deliverySimulation.related (init sessionId passkey) DeliveryLog.empty :=
    ⟨⟨0, delivering_init sessionId passkey⟩, rfl, rfl⟩
  rcases deliverySimulation.run_answered start admissible executed with
    ⟨moves, image, -, ⟨watermark, delivering⟩, offered, delivered⟩
  constructor
  · have inOrder := image.inOrder
    rwa [offered, delivered] at inOrder
  · intro drained
    exact delivering.shown_of_drained drained

/-- One chunk shown live; one read while the client was away, then replayed. -/
def resumedOutput : List ScreenAction :=
  [.connect, .accept 0, .publish, .startWriter, .spawnTasks, .record [97], .forward,
    .serverWrite, .clientRead, .clientMark, .clientForward, .takeStdout, .writeStdout, .flushed,
    .sendHeartbeat, .clientLost, .serverLost 0, .record [98], .forward, .connect, .accept 0,
    .publish, .queueReplay, .startWriter, .spawnTasks, .serverWrite, .clientRead, .clientMark,
    .clientForward, .takeStdout, .writeStdout]

theorem resumed_output_delivered :
    ∃ final, run ScreenState.step (init [] "") resumedOutput = some final ∧
      final.shown = final.log ∧ final.log = [[97], [98]] := by
  have admissible : Along ScreenState.step Admissible (init [] "") resumedOutput := by
    refine ⟨trivial, trivial, trivial, trivial, trivial, ⟨by decide, by decide⟩,
      fun _ => (by decide : 0 < 1), trivial, trivial, trivial,
      (by decide : 0 < stdoutCapacity), trivial, trivial, trivial, trivial, ⟨rfl, rfl⟩, trivial,
      ⟨by decide, by decide⟩, ?_, trivial, trivial, trivial, ?_, trivial, trivial, trivial,
      trivial, trivial, (by decide : 0 < stdoutCapacity), trivial, trivial, trivial⟩
    · intro linked
      exact absurd (linked : false = true) Bool.false_ne_true
    · intro _ channel occupied
      cases occupied
      decide
  have drained : ∃ final, run ScreenState.step (init [] "") resumedOutput = some final ∧
      final.Drained ∧ final.log = [[97], [98]] := by
    refine ⟨_, rfl, ⟨rfl, ⟨rfl, rfl⟩, ?_, rfl, rfl, ⟨rfl, rfl⟩⟩, rfl⟩
    intro channel occupied
    cases occupied
    rfl
  rcases drained with ⟨final, executed, drained, log⟩
  exact ⟨final, executed, (output_delivered_once_in_order admissible executed).2 drained, log⟩

end ScreenState

end Etr.System
