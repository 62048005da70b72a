import Mathlib.Data.List.TakeDrop
import Etr.Server.PtyOutput

/-!
Contract: the replay of a resume, from the watermark to the output channel.

Owns what `collect` selects and when the replay loop queues all of it. The
history is bounded in bytes and the channel in entries, so how the output was
cut into reads decides.

Does not own output that arrives during the resume.
-/

namespace Etr.Server

open Etr.Library Etr.Session

/-- The steps of a resume that no PTY output disturbs. -/
def OutputAction.Resumes : OutputAction → Prop
  | .publish | .queueReplay | .startWriter => True
  | _ => False

namespace OutputState

variable {watermark : Nat} {state next : OutputState}

/-- Replays still to be queued. -/
def pending (state : OutputState) : List Chunk :=
  match state.resume with
  | .collected replays => replays
  | .queueing rest => rest
  | .waiting | .serving => []

theorem pending_of_collected {replays : List Chunk}
    (collected : state.resume = .collected replays) :
    state.pending = replays := by
  simp [pending, collected]

theorem pending_of_queueing {rest : List Chunk} (queueing : state.resume = .queueing rest) :
    state.pending = rest := by
  simp [pending, queueing]

theorem pending_of_serving (serving : state.resume = .serving) : state.pending = [] := by
  simp [pending, serving]

theorem enqueued_of_slot {channel : Channel Chunk ptyOutputCapacity}
    (occupied : state.outboundPtyTx = some channel) :
    state.enqueued = state.written ++ channel.items := by
  simp [enqueued, occupied]

theorem slot_of_unpublished (consistent : state.Consistent)
    (unpublished : state.resume.published = false) : state.outboundPtyTx = none := by
  rw [← Option.not_isSome_iff_eq_none, consistent.slot, unpublished]
  exact Bool.false_ne_true

theorem enqueued_of_unpublished (consistent : state.Consistent)
    (empty : state.outboundPtyTx = none) : state.enqueued = [] := by
  have notServing : state.resume ≠ .serving := by
    intro serving
    have slot := consistent.slot
    simp [empty, serving, Resume.published] at slot
  simp [enqueued, empty, consistent.unwritten notServing]

/-! ## Collecting the replays -/

/-- Applying a watermark map before collecting by it changes no replay. -/
theorem replayFrom_applyServerAcks {log : List Payload} {dropped : Nat}
    {session : SessionState} (window : Window log dropped session.terminal)
    (acks : WatermarkMap) :
    (session.applyServerAcks acks).terminal.replayFrom ((acks 0).getD 0) =
      session.terminal.replayFrom ((acks 0).getD 0) := by
  cases acknowledged : acks 0 with
  | none => rw [SessionState.terminal_applyServerAcks_of_none session acknowledged]
  | some ackSeq =>
      rw [SessionState.terminal_applyServerAcks_of_some session acknowledged,
        (window.acknowledgeUpTo ackSeq).replayFrom, window.replayFrom, Option.getD_some]
      have inLog := window.inLog
      by_cases inside : ackSeq ≤ log.length
      · congr 1
        omega
      · rw [List.drop_eq_nil_of_le (by rw [length_numberFrom]; omega),
          List.drop_eq_nil_of_le (by rw [length_numberFrom]; omega)]

/-- When no entry above the watermark is missing, the replays are the numbered
output above it. -/
theorem replayFrom_of_intact {log : List Payload} {stream : StreamState}
    (held : ∃ dropped, Window log dropped stream)
    (intact : ∀ entry ∈ numberFrom 1 log, watermark < entry.1 → entry ∈ stream.sendHistory) :
    stream.replayFrom watermark = (numberFrom 1 log).drop watermark := by
  obtain ⟨dropped, window⟩ := held
  rw [window.replayFrom]
  by_cases covered : dropped ≤ watermark
  · rw [Nat.max_eq_right covered]
  · -- The first entry above the watermark would be missing from the window.
    have inLog := window.inLog
    cases above : log.drop watermark with
    | nil =>
        have short := List.drop_eq_nil_iff.mp above
        omega
    | cons head tail =>
        have first : (1 + watermark, head) ∈ numberFrom 1 log := by
          apply List.mem_of_mem_drop (i := watermark)
          rw [drop_numberFrom, above, numberFrom_cons]
          exact List.mem_cons_self
        have kept := intact _ first (by simp only; omega)
        rw [window.history, drop_numberFrom] at kept
        have bounds := bounds_of_mem_numberFrom kept
        simp only at bounds
        omega

/-- The entries a history holds above a watermark ascend. -/
theorem replayFrom_ascends {log : List Payload} {stream : StreamState}
    (held : ∃ dropped, Window log dropped stream) :
    ((stream.replayFrom watermark).map Prod.fst).Pairwise (· < ·) := by
  obtain ⟨dropped, window⟩ := held
  rw [window.replayFrom, List.map_drop, map_fst_numberFrom]
  exact (List.pairwise_lt_range' 1 (by decide)).drop

/-- Collecting selects the retained entries above the watermark and leaves the
channel of the connection empty. -/
theorem collect_effect {acks : WatermarkMap} (consistent : state.Consistent)
    (snapshot : state.step (.collect acks) = some next) :
    next.Consistent ∧ next.resume ≠ .waiting ∧ next.enqueued = [] ∧
      next.pending = state.session.terminal.replayFrom ((acks 0).getD 0) ∧
      next.produced = state.produced ∧ next.reader = state.reader := by
  have nextConsistent := consistent.step snapshot
  obtain ⟨dropped, window⟩ := consistent.window
  obtain ⟨idle, rfl⟩ := collect_eq_some.mp snapshot
  have empty := slot_of_unpublished consistent (by rw [idle]; rfl)
  refine ⟨nextConsistent, by simp, ?_, ?_, rfl, rfl⟩
  · exact enqueued_of_unpublished nextConsistent empty
  · exact replayFrom_applyServerAcks window acks

/-! ## Queueing the replays -/

/-- The channel holds as much of the replays already offered as fits. -/
structure Replaying (replays : List Chunk) (state : OutputState) : Prop where
  consistent : state.Consistent
  connected : state.resume ≠ .waiting
  queued : ∃ offered, replays = offered ++ state.pending ∧
    state.enqueued = offered.take ptyOutputCapacity

theorem Replaying.step {replays : List Chunk} {action : OutputAction}
    (replaying : Replaying replays state) (resumes : action.Resumes)
    (stepped : state.step action = some next) : Replaying replays next := by
  have consistent := replaying.consistent.step stepped
  obtain ⟨offered, split, fits⟩ := replaying.queued
  cases action with
  | publish =>
      obtain ⟨rest, collected, rfl⟩ := publish_eq_some.mp stepped
      refine ⟨consistent, by simp, offered, ?_, ?_⟩
      · rwa [pending_of_collected collected] at split
      · have empty := slot_of_unpublished replaying.consistent (by rw [collected]; rfl)
        have unwritten := replaying.consistent.unwritten (by simp [collected])
        rw [enqueued_of_unpublished replaying.consistent empty] at fits
        rw [enqueued_of_slot rfl, ← fits, unwritten]
        rfl
  | queueReplay =>
      obtain ⟨entry, rest, channel, queueing, occupied, rfl⟩ := queueReplay_eq_some.mp stepped
      have unwritten := replaying.consistent.unwritten (by simp [queueing])
      refine ⟨consistent, by simp, offered ++ [entry], ?_, ?_⟩
      · rw [split, pending_of_queueing queueing, pending_of_queueing rfl]
        simp
      · rw [enqueued_of_slot occupied, unwritten, List.nil_append] at fits
        rw [enqueued_of_slot rfl, unwritten, List.nil_append]
        exact Channel.items_offer_of_take fits
  | startWriter =>
      obtain ⟨queueing, rfl⟩ := startWriter_eq_some.mp stepped
      refine ⟨consistent, by simp, offered, ?_, fits⟩
      rw [split, pending_of_queueing queueing, pending_of_serving rfl]
  | record | forward | heartbeat | collect | write | close => exact absurd resumes id

/-! ## Runs that reach a given history and complete a resume -/

/-- The PTY reader's steps while no client is connected. -/
def readUnattended (payloads : List Payload) : List OutputAction :=
  payloads.flatMap fun data => [.record data, .forward]

/-- The steps of a resume with `count` replays. -/
def resumeSteps (count : Nat) : List OutputAction :=
  .publish :: (List.replicate count .queueReplay ++ [.startWriter])

theorem resumes_of_mem_resumeSteps (count : Nat) :
    ∀ action ∈ resumeSteps count, action.Resumes := by
  intro action member
  simp only [resumeSteps, List.mem_cons, List.mem_append, List.mem_replicate,
    List.not_mem_nil, or_false] at member
  rcases member with rfl | ⟨-, rfl⟩ | rfl <;> trivial

/-- Output that fits under the cap is retained in full. -/
theorem run_readUnattended (state : OutputState) (payloads : List Payload)
    (idle : state.resume = .waiting) (rests : state.reader = none)
    (empty : state.outboundPtyTx = none)
    (window : Window state.produced 0 state.session.terminal)
    (fits : totalBytes (numberFrom 1 (state.produced ++ payloads)) ≤ maxHistoryBytes) :
    ∃ reached, run OutputState.step state (readUnattended payloads) = some reached ∧
      reached.resume = .waiting ∧
      reached.session.terminal.sendHistory = numberFrom 1 (state.produced ++ payloads) := by
  induction payloads generalizing state with
  | nil =>
      rw [List.append_nil]
      exact ⟨state, rfl, idle, window.history⟩
  | cons data rest inductionHypothesis =>
      obtain ⟨kept, -, recorded, least⟩ := window.numberAndRecord data
      rw [List.append_cons] at fits
      have whole : kept = 0 := by
        refine Nat.le_zero.mp (least 0 (Nat.le_refl 0) ?_)
        rw [numberFrom_append, totalBytes_append] at fits
        exact Nat.le_of_add_right_le fits
      subst whole
      have stepped : state.step (.record data) = some { state with
          session := state.session.updateTerminal fun stream => stream.numberAndRecord data
          reader := some (state.session.terminal.nextOutSeq, data)
          produced := state.produced ++ [data] } := record_eq_some.mpr ⟨rests, rfl⟩
      obtain ⟨reached, executed, stillIdle, history⟩ := inductionHypothesis
        { state with
          session := state.session.updateTerminal fun stream => stream.numberAndRecord data
          reader := none
          produced := state.produced ++ [data] } idle rfl empty recorded fits
      refine ⟨reached, ?_, stillIdle, ?_⟩
      · refine run_cons_eq_some.mpr ⟨_, stepped, run_cons_eq_some.mpr ⟨_, ?_, executed⟩⟩
        exact forward_eq_some.mpr ⟨_, rfl, Or.inl ⟨empty, rfl⟩⟩
      · rw [history, List.append_assoc, List.singleton_append]

/-- The replay loop ends whatever it has to queue. -/
theorem run_queueReplay (state : OutputState) {rest : List Chunk}
    {channel : Channel Chunk ptyOutputCapacity}
    (queueing : state.resume = .queueing rest) (occupied : state.outboundPtyTx = some channel) :
    ∃ final, run OutputState.step state
        (List.replicate rest.length .queueReplay ++ [.startWriter]) = some final ∧
      final.resume = .serving := by
  induction rest generalizing state channel with
  | nil => exact ⟨_, run_cons_eq_some.mpr ⟨_, startWriter_eq_some.mpr ⟨queueing, rfl⟩, rfl⟩, rfl⟩
  | cons entry rest inductionHypothesis =>
      obtain ⟨final, executed, serving⟩ := inductionHypothesis { state with
        outboundPtyTx := some (channel.offer entry), resume := .queueing rest } rfl rfl
      refine ⟨final, run_cons_eq_some.mpr ⟨_, ?_, executed⟩, serving⟩
      exact queueReplay_eq_some.mpr ⟨entry, rest, channel, queueing, occupied, rfl⟩

theorem run_resumeSteps {replays : List Chunk} (collected : state.resume = .collected replays) :
    ∃ final, run OutputState.step state (resumeSteps replays.length) = some final ∧
      final.resume = .serving := by
  obtain ⟨final, executed, serving⟩ := run_queueReplay { state with
    outboundPtyTx := some Channel.empty, resume := .queueing replays } rfl rfl
  exact ⟨final, run_cons_eq_some.mpr
    ⟨_, publish_eq_some.mpr ⟨replays, collected, rfl⟩, executed⟩, serving⟩

/-! ## When a resume replays everything -/

/-- With no output in between, the channel keeps the first entries that fit. -/
theorem enqueued_of_quiet_resume {during : List OutputAction} {lastReceivedSeq : WatermarkMap}
    {collected final : OutputState} (consistent : state.Consistent)
    (snapshot : state.step (.collect lastReceivedSeq) = some collected)
    (quiet : ∀ action ∈ during, action.Resumes)
    (executed : run OutputState.step collected during = some final)
    (serving : final.resume = .serving) :
    final.enqueued =
      (state.session.terminal.replayFrom ((lastReceivedSeq 0).getD 0)).take
        ptyOutputCapacity := by
  obtain ⟨collectedConsistent, connected, nothing, selected, -, -⟩ :=
    collect_effect consistent snapshot
  have start : Replaying (state.session.terminal.replayFrom ((lastReceivedSeq 0).getD 0))
      collected :=
    ⟨collectedConsistent, connected, [], selected.symm, by rw [nothing, List.take_nil]⟩
  have replaying := run_invariant_along (fun held resumes stepped => held.step resumes stepped)
    start (along_of_forall_mem fun action member _ => quiet action member) executed
  obtain ⟨offered, split, fits⟩ := replaying.queued
  rw [pending_of_serving serving, List.append_nil] at split
  rw [fits, split]

/-- Every output that fits under the cap is the history of some server that
resumes its client. -/
theorem exists_resumed (payloads : List Payload)
    (fits : totalBytes (numberFrom 1 payloads) ≤ maxHistoryBytes) :
    ∃ state collected final,
      run OutputState.step (init [] "") (readUnattended payloads) = some state ∧
      state.step (.collect fun _ => none) = some collected ∧
      run OutputState.step collected (resumeSteps payloads.length) = some final ∧
      final.resume = .serving ∧
      state.session.terminal.sendHistory = numberFrom 1 payloads ∧
      final.enqueued = (numberFrom 1 payloads).take ptyOutputCapacity := by
  obtain ⟨state, reached, idle, history⟩ :=
    run_readUnattended (init [] "") payloads rfl rfl rfl (window_new 0 .terminal) fits
  have consistent := consistent_of_run reached
  have whole : state.session.terminal.replayFrom 0 = numberFrom 1 payloads := by
    obtain ⟨dropped, window⟩ := consistent.window
    rw [window.replayFrom, Nat.max_zero, ← window.history, history]
    rfl
  obtain ⟨collected, snapshot⟩ :
      ∃ collected, state.step (.collect fun _ => none) = some collected :=
    ⟨_, collect_eq_some.mpr ⟨idle, rfl⟩⟩
  have selected : collected.resume = .collected (numberFrom 1 payloads) := by
    obtain ⟨dropped, window⟩ := consistent.window
    have unchanged := replayFrom_applyServerAcks window fun _ => none
    obtain ⟨-, rfl⟩ := collect_eq_some.mp snapshot
    exact congrArg Resume.collected (unchanged.trans whole)
  obtain ⟨final, executed, serving⟩ := run_resumeSteps selected
  rw [length_numberFrom] at executed
  have queued := enqueued_of_quiet_resume consistent snapshot
    (resumes_of_mem_resumeSteps payloads.length) executed serving
  rw [Option.getD_none, whole] at queued
  exact ⟨state, collected, final, reached, snapshot, executed, serving, history, queued⟩

/-- **A resume replays every retained entry above the watermark exactly if
there are at most as many as the channel holds.** -/
theorem resume_queues_all_iff {sessionId : List UInt8} {passkey : String}
    {before during : List OutputAction} {lastReceivedSeq : WatermarkMap}
    {state collected final : OutputState}
    (reached : run OutputState.step (init sessionId passkey) before = some state)
    (snapshot : state.step (.collect lastReceivedSeq) = some collected)
    (quiet : ∀ action ∈ during, action.Resumes)
    (executed : run OutputState.step collected during = some final)
    (serving : final.resume = .serving) :
    (final.enqueued = state.session.terminal.sendHistory.filter
          (fun entry => decide ((lastReceivedSeq 0).getD 0 < entry.1)) ∧
        (final.enqueued.map Prod.fst).Pairwise (· < ·)) ↔
      (state.session.terminal.sendHistory.filter
        (fun entry => decide ((lastReceivedSeq 0).getD 0 < entry.1))).length ≤
          ptyOutputCapacity := by
  have consistent := consistent_of_run reached
  have ascends : ((state.session.terminal.replayFrom
      ((lastReceivedSeq 0).getD 0)).map Prod.fst).Pairwise (· < ·) :=
    replayFrom_ascends consistent.window
  rw [enqueued_of_quiet_resume consistent snapshot quiet executed serving]
  constructor
  · rintro ⟨whole, -⟩
    exact (List.take_eq_self_iff _).mp whole
  · intro short
    have whole := List.take_of_length_le short
    exact ⟨whole, whole.symm ▸ ascends⟩

/-- The iff at two retained chunks and a client that received nothing. -/
theorem resume_queues_two_chunks :
    ∃ state collected final,
      run OutputState.step (init [] "") (readUnattended [[1], [2]]) = some state ∧
      state.step (.collect fun _ => none) = some collected ∧
      run OutputState.step collected (resumeSteps 2) = some final ∧
      ((final.enqueued = state.session.terminal.sendHistory.filter
            (fun entry => decide (0 < entry.1)) ∧
          (final.enqueued.map Prod.fst).Pairwise (· < ·)) ↔
        (state.session.terminal.sendHistory.filter
          (fun entry => decide (0 < entry.1))).length ≤ ptyOutputCapacity) := by
  exact ⟨_, _, _, rfl, rfl, rfl,
    @resume_queues_all_iff [] "" (readUnattended [[1], [2]]) (resumeSteps 2) (fun _ => none)
      _ _ _ rfl rfl (resumes_of_mem_resumeSteps 2) rfl rfl⟩

/-- 1001 one-byte chunks fit in the history and not in the channel. -/
theorem resume_drops_last_of_1001 :
    ∃ state collected final,
      run OutputState.step (init [] "") (readUnattended (List.replicate 1001 [0])) = some state ∧
      state.step (.collect fun _ => none) = some collected ∧
      run OutputState.step collected (resumeSteps 1001) = some final ∧
      final.resume = .serving ∧
      final.enqueued ≠ state.session.terminal.sendHistory.filter
        (fun entry => decide (0 < entry.1)) := by
  have fits : totalBytes (numberFrom 1 (List.replicate 1001 [(0 : UInt8)])) ≤
      maxHistoryBytes := by
    rw [totalBytes_numberFrom, List.map_replicate, List.sum_replicate_nat]
    decide
  obtain ⟨state, collected, final, reached, snapshot, executed, serving, history, queued⟩ :=
    exists_resumed _ fits
  rw [List.length_replicate] at executed
  refine ⟨state, collected, final, reached, snapshot, executed, serving, fun whole => ?_⟩
  have lengths := congrArg List.length whole
  rw [queued, history, filter_above_numberFrom, List.drop_zero, List.length_take,
    length_numberFrom, List.length_replicate] at lengths
  exact absurd lengths (by decide)

end OutputState

end Etr.Server
