import Etr.Server.Replay

/-!
Contract: what a resuming client is sent, over every interleaving of the PTY
reader with the resume.

Owns the exact schedules under which the chunks enqueued on the new connection
are the numbered output above the client's watermark.

Does not own what happens to the chunks after the PTY stream.
-/

namespace Etr.Server

open Etr.Library Etr.Session

namespace OutputState

variable {base : List Payload} {watermark : Nat} {state next : OutputState}

/-- The PTY reader rests and the PTY writer runs. -/
def Settled (state : OutputState) : Prop :=
  state.reader = none ∧ state.resume = .serving

/-- The step stays on the connection and no replay meets a full queue. -/
def StaysConnected (state : OutputState) : OutputAction → Prop
  | .close => False
  | .queueReplay => ∀ channel, state.outboundPtyTx = some channel →
      channel.items.length < ptyOutputCapacity
  | _ => True

/-- The reader hands its chunk over in its turn: a chunk numbered at most
`covered`, which was replayed or had been received, goes nowhere else, and a
later one follows all replays. -/
def InTurn (covered : Nat) (state : OutputState) : OutputAction → Prop
  | .forward =>
      match state.reader, state.resume with
      | none, _ => True
      | some _, .waiting => True
      | some chunk, .collected _ => chunk.1 ≤ covered
      | some chunk, .queueing rest => rest = [] ∧ covered < chunk.1
      | some chunk, .serving => covered < chunk.1
  | _ => True

/-- Payloads read since the replays were collected that have left the reader. -/
def forwarded (base : List Payload) (state : OutputState) : List Payload :=
  if state.reader.isSome then
    (state.produced.drop base.length).dropLast
  else
    state.produced.drop base.length

/-- The replays, and the later numbered output above the watermark that has
left the reader. -/
def due (base : List Payload) (watermark : Nat) (state : OutputState) : List Chunk :=
  (numberFrom 1 base).drop watermark ++
    (numberFrom (base.length + 1) (state.forwarded base)).drop (watermark - base.length)

/-- Nothing enqueued or still to be queued is out of place. -/
def Ordered (base : List Payload) (watermark : Nat) (state : OutputState) : Prop :=
  state.enqueued ++ state.pending = state.due base watermark

/-- What every schedule keeps after the replays were collected from `base`:
each replay is still to be queued or was enqueued, in order. -/
structure Resuming (base : List Payload) (watermark : Nat) (state : OutputState) : Prop where
  consistent : state.Consistent
  grown : base <+: state.produced
  connected : state.resume ≠ .waiting
  replays : ∃ queued, (numberFrom 1 base).drop watermark = queued ++ state.pending ∧
    queued.Sublist state.enqueued

/-! ## One step of a resumed connection -/

/-- A step other than the end of the connection keeps every replay. -/
theorem Resuming.step {action : OutputAction} (resuming : Resuming base watermark state)
    (stays : state.StaysConnected action) (stepped : state.step action = some next) :
    Resuming base watermark next := by
  have consistent := resuming.consistent.step stepped
  obtain ⟨queued, replays, kept⟩ := resuming.replays
  cases action with
  | record data =>
      obtain ⟨-, rfl⟩ := record_eq_some.mp stepped
      exact ⟨consistent, resuming.grown.trans (List.prefix_append _ _), resuming.connected,
        queued, replays, kept⟩
  | forward =>
      obtain ⟨chunk, -, ⟨-, rfl⟩ | ⟨channel, sent, occupied, accepted, rfl⟩⟩ :=
        forward_eq_some.mp stepped
      · exact ⟨consistent, resuming.grown, resuming.connected, queued, replays, kept⟩
      · refine ⟨consistent, resuming.grown, resuming.connected, queued, replays, ?_⟩
        rw [enqueued_of_slot occupied] at kept
        rw [enqueued_of_slot rfl, (Channel.trySend_eq_some.mp accepted).2, ← List.append_assoc]
        exact kept.trans (List.sublist_append_left _ _)
  | heartbeat acks =>
      obtain ⟨-, rfl⟩ := heartbeat_eq_some.mp stepped
      exact ⟨consistent, resuming.grown, resuming.connected, queued, replays, kept⟩
  | collect lastReceivedSeq =>
      obtain ⟨idle, -⟩ := collect_eq_some.mp stepped
      exact absurd idle resuming.connected
  | publish =>
      obtain ⟨replayed, collected, rfl⟩ := publish_eq_some.mp stepped
      refine ⟨consistent, resuming.grown, by simp, queued, ?_, ?_⟩
      · rwa [pending_of_collected collected] at replays
      · have empty := slot_of_unpublished resuming.consistent (by rw [collected]; rfl)
        rw [enqueued_of_unpublished resuming.consistent empty] at kept
        exact kept.trans (List.nil_sublist _)
  | queueReplay =>
      obtain ⟨entry, rest, channel, queueing, occupied, rfl⟩ := queueReplay_eq_some.mp stepped
      have room := stays channel occupied
      have offered : (channel.offer entry).items = channel.items ++ [entry] := by
        rw [Channel.items_offer, List.take_of_length_le]
        rw [List.length_append]
        exact room
      refine ⟨consistent, resuming.grown, by simp, queued ++ [entry], ?_, ?_⟩
      · rw [replays, pending_of_queueing queueing, pending_of_queueing rfl]
        simp
      · rw [enqueued_of_slot occupied] at kept
        rw [enqueued_of_slot rfl, offered, ← List.append_assoc]
        exact kept.append (List.Sublist.refl _)
  | startWriter =>
      obtain ⟨queueing, rfl⟩ := startWriter_eq_some.mp stepped
      refine ⟨consistent, resuming.grown, by simp, queued, ?_, kept⟩
      rw [replays, pending_of_queueing queueing, pending_of_serving rfl]
  | write =>
      obtain ⟨channel, chunk, rest, serving, occupied, oldest, rfl⟩ := write_eq_some.mp stepped
      refine ⟨consistent, resuming.grown, resuming.connected, queued, replays, ?_⟩
      rw [enqueued_of_slot occupied, oldest] at kept
      rw [enqueued_of_slot rfl, List.append_assoc]
      exact kept
  | close => exact absurd stays id

/-! ## When the hand-off is in order -/

/-- The chunk in the reader's hand is the last one read. -/
theorem length_fresh (resuming : Resuming base watermark state) {chunk : Chunk}
    (inHand : state.reader = some chunk) :
    (state.produced.drop base.length).length = chunk.1 - base.length := by
  obtain ⟨earlier, produced, number⟩ := resuming.consistent.inHand chunk inHand
  rw [List.length_drop, produced, List.length_append, List.length_singleton, number]

/-- Only the replays are due while the chunk in the reader's hand is covered. -/
theorem due_of_covered (resuming : Resuming base watermark state) {chunk : Chunk}
    (inHand : state.reader = some chunk) (covered : chunk.1 ≤ max base.length watermark)
    {reached : OutputState}
    (left : (reached.forwarded base).length ≤ (state.produced.drop base.length).length) :
    reached.due base watermark = (numberFrom 1 base).drop watermark := by
  rw [length_fresh resuming inHand] at left
  have received : (numberFrom (base.length + 1) (reached.forwarded base)).length ≤
      watermark - base.length := by
    rw [length_numberFrom]
    omega
  rw [due, List.drop_eq_nil_of_le received, List.append_nil]

/-- A chunk that is not covered is due once it leaves the reader's hand. -/
theorem due_of_new (resuming : Resuming base watermark state) {chunk : Chunk}
    (inHand : state.reader = some chunk) (new : max base.length watermark < chunk.1)
    (left : next.forwarded base = state.produced.drop base.length) :
    next.due base watermark = state.due base watermark ++ [chunk] := by
  have fresh := length_fresh resuming inHand
  have held : state.forwarded base = (state.produced.drop base.length).dropLast := by
    simp [forwarded, inHand]
  obtain ⟨earlier, produced, number⟩ := resuming.consistent.inHand chunk inHand
  have inside : base.length ≤ earlier.length := by omega
  have last : state.produced.drop base.length = earlier.drop base.length ++ [chunk.2] := by
    rw [produced, List.drop_append_of_le_length inside]
  rw [due, due, left, held, last, List.dropLast_concat, numberFrom_append, numberFrom_cons,
    numberFrom_nil, List.length_drop,
    show base.length + 1 + (earlier.length - base.length) = chunk.1 by omega,
    List.drop_append_of_le_length, List.append_assoc]
  rw [length_numberFrom, List.length_drop]
  omega

/-- A replay carries a number at most that of the last chunk collected. -/
theorem pending_le (resuming : Resuming base watermark state) {entry : Chunk}
    (member : entry ∈ state.pending) : entry.1 ≤ base.length := by
  obtain ⟨queued, replays, -⟩ := resuming.replays
  have numbered : entry ∈ (numberFrom 1 base).drop watermark :=
    replays ▸ List.mem_append_right queued member
  have bounds := bounds_of_mem_numberFrom (List.mem_of_mem_drop numbered)
  omega

/-- A live chunk in front of a pending replay is out of order. -/
theorem not_ordered_of_overtaken (resuming : Resuming base watermark state) {chunk : Chunk}
    {front earlier : List Chunk} (new : base.length < chunk.1) (waiting : state.pending ≠ []) :
    front ++ [chunk] ++ state.pending ≠ earlier ++ [chunk] := by
  intro equal
  obtain ⟨leading, last, split⟩ := List.eq_nil_or_concat state.pending |>.resolve_left waiting
  rw [List.concat_eq_append] at split
  have lastMember : last ∈ state.pending := by simp [split]
  have lastLe := pending_le resuming lastMember
  rw [split, ← List.append_assoc] at equal
  have same := (List.append_inj' equal rfl).2
  simp only [List.cons.injEq, and_true] at same
  rw [same] at lastLe
  omega

/-- Enqueueing a replayed chunk once more makes the list too long. -/
theorem not_ordered_of_repeated (resuming : Resuming base watermark state) {chunk : Chunk} :
    state.enqueued ++ [chunk] ++ state.pending ≠ (numberFrom 1 base).drop watermark := by
  intro equal
  obtain ⟨queued, replays, kept⟩ := resuming.replays
  have lengths := congrArg List.length equal
  have keptLength := kept.length_le
  rw [replays] at lengths
  simp only [List.length_append, List.length_singleton] at lengths
  omega

/-- A hand-over moves the chunk out of the reader; with the slot set it goes to
the end of the queue, with the slot empty it goes nowhere. -/
theorem forward_effect (resuming : Resuming base watermark state)
    (stepped : state.forward = some next) :
    ∃ chunk, state.reader = some chunk ∧ next.pending = state.pending ∧
      next.forwarded base = state.produced.drop base.length ∧
      ((∃ replays, state.resume = .collected replays ∧ state.enqueued = [] ∧
          next.enqueued = []) ∨
        state.resume.published = true ∧ next.enqueued = state.enqueued ++ [chunk]) := by
  obtain ⟨chunk, inHand, ⟨empty, rfl⟩ | ⟨channel, sent, occupied, accepted, rfl⟩⟩ :=
    forward_eq_some.mp stepped
  · refine ⟨chunk, inHand, rfl, rfl, Or.inl ?_⟩
    have nothing := enqueued_of_unpublished resuming.consistent empty
    have slot := resuming.consistent.slot
    cases progress : state.resume with
    | collected replays => exact ⟨replays, rfl, nothing, nothing⟩
    | waiting => exact absurd progress resuming.connected
    | _ => simp [empty, progress, Resume.published] at slot
  · refine ⟨chunk, inHand, rfl, rfl, Or.inr ⟨?_, ?_⟩⟩
    · rw [← resuming.consistent.slot, occupied, Option.isSome_some]
    · rw [enqueued_of_slot rfl, (Channel.trySend_eq_some.mp accepted).2,
        enqueued_of_slot occupied, List.append_assoc]

theorem inTurn_iff_of_published {chunk : Chunk} {covered : Nat}
    (inHand : state.reader = some chunk) (published : state.resume.published = true) :
    state.InTurn covered .forward ↔ state.pending = [] ∧ covered < chunk.1 := by
  cases progress : state.resume with
  | waiting => simp [progress, Resume.published] at published
  | collected replays => simp [progress, Resume.published] at published
  | queueing rest => simp [InTurn, inHand, progress, pending]
  | serving => simp [InTurn, inHand, progress, pending]

/-- A hand-over to an empty slot keeps the order exactly if the chunk is
covered. -/
theorem ordered_iff_of_collected (resuming : Resuming base watermark state) {chunk : Chunk}
    (inHand : state.reader = some chunk) (nothing : state.enqueued = [])
    (nothingNext : next.enqueued = []) (samePending : next.pending = state.pending)
    (left : next.forwarded base = state.produced.drop base.length) :
    next.Ordered base watermark ↔
      state.Ordered base watermark ∧ chunk.1 ≤ max base.length watermark := by
  rw [Ordered, Ordered, nothing, nothingNext, samePending]
  by_cases covered : chunk.1 ≤ max base.length watermark
  · have before : (state.forwarded base).length ≤ (state.produced.drop base.length).length := by
      simp [forwarded, inHand]
    rw [due_of_covered resuming inHand covered before,
      due_of_covered resuming inHand covered (Nat.le_of_eq (congrArg List.length left))]
    exact (and_iff_left covered).symm
  · -- The chunk is neither replayed nor enqueued.
    refine iff_of_false (fun lost => ?_) fun both => covered both.2
    obtain ⟨queued, replays, kept⟩ := resuming.replays
    rw [nothing, List.sublist_nil] at kept
    rw [kept, List.nil_append] at replays
    have lengths := congrArg List.length lost
    rw [due_of_new resuming inHand (Nat.not_le.mp covered) left, due, replays] at lengths
    simp only [List.length_append, List.length_singleton, List.nil_append] at lengths
    omega

/-- A hand-over to the published sender keeps the order exactly if the chunk is
not covered and every replay is queued. -/
theorem ordered_iff_of_published (resuming : Resuming base watermark state) {chunk : Chunk}
    (inHand : state.reader = some chunk) (appended : next.enqueued = state.enqueued ++ [chunk])
    (samePending : next.pending = state.pending)
    (left : next.forwarded base = state.produced.drop base.length) :
    next.Ordered base watermark ↔ state.Ordered base watermark ∧
      state.pending = [] ∧ max base.length watermark < chunk.1 := by
  rw [Ordered, appended, samePending]
  by_cases new : max base.length watermark < chunk.1
  · rw [due_of_new resuming inHand new left]
    by_cases done : state.pending = []
    · rw [Ordered, done, List.append_nil, List.append_nil, List.append_left_inj]
      simp [new]
    · have later : base.length < chunk.1 := Nat.lt_of_le_of_lt (Nat.le_max_left _ _) new
      exact iff_of_false (not_ordered_of_overtaken resuming later done) fun both => done both.2.1
  · rw [due_of_covered resuming inHand (Nat.not_lt.mp new)
      (Nat.le_of_eq (congrArg List.length left))]
    exact iff_of_false (not_ordered_of_repeated resuming) fun both => new both.2.2

/-- A step that only moves replays along the queue keeps the order. -/
theorem ordered_congr (moved : next.enqueued ++ next.pending = state.enqueued ++ state.pending)
    (sameReader : next.reader = state.reader) (sameProduced : next.produced = state.produced) :
    next.Ordered base watermark ↔ state.Ordered base watermark := by
  rw [Ordered, Ordered, moved, due, due, forwarded, forwarded, sameReader, sameProduced]

/-- One step keeps the order exactly if a hand-over happens in its turn, and no
step restores it. -/
theorem ordered_step_iff {action : OutputAction} (resuming : Resuming base watermark state)
    (stays : state.StaysConnected action) (stepped : state.step action = some next) :
    next.Ordered base watermark ↔
      state.Ordered base watermark ∧ state.InTurn (max base.length watermark) action := by
  cases action with
  | record data =>
      obtain ⟨idle, rfl⟩ := record_eq_some.mp stepped
      have inside := resuming.grown.length_le
      have held : OutputState.forwarded base { state with
          session := state.session.updateTerminal fun stream => stream.numberAndRecord data
          reader := some (state.session.terminal.nextOutSeq, data)
          produced := state.produced ++ [data] } = state.forwarded base := by
        simp only [forwarded, Option.isSome_some, if_true, idle, Option.isSome_none,
          Bool.false_eq_true, if_false]
        rw [List.drop_append_of_le_length inside, List.dropLast_concat]
      rw [Ordered, due, held]
      exact (and_iff_left trivial).symm
  | forward =>
      obtain ⟨chunk, inHand, samePending, left, outcome⟩ := forward_effect resuming stepped
      rcases outcome with ⟨replays, collected, nothing, nothingNext⟩ | ⟨published, appended⟩
      · rw [ordered_iff_of_collected resuming inHand nothing nothingNext samePending left]
        simp [InTurn, inHand, collected]
      · rw [ordered_iff_of_published resuming inHand appended samePending left,
          inTurn_iff_of_published inHand published]
  | heartbeat acks =>
      obtain ⟨-, rfl⟩ := heartbeat_eq_some.mp stepped
      exact (and_iff_left trivial).symm
  | collect lastReceivedSeq =>
      obtain ⟨idle, -⟩ := collect_eq_some.mp stepped
      exact absurd idle resuming.connected
  | publish =>
      obtain ⟨replays, collected, result⟩ := publish_eq_some.mp stepped
      have empty := slot_of_unpublished resuming.consistent (by rw [collected]; rfl)
      have unwritten := resuming.consistent.unwritten (by simp [collected])
      refine (ordered_congr ?_ (by rw [result]) (by rw [result])).trans (and_iff_left trivial).symm
      subst result
      rw [enqueued_of_unpublished resuming.consistent empty, pending_of_collected collected,
        pending_of_queueing rfl, enqueued_of_slot rfl, unwritten]
      rfl
  | queueReplay =>
      obtain ⟨entry, rest, channel, queueing, occupied, result⟩ := queueReplay_eq_some.mp stepped
      have room := stays channel occupied
      have offered : (channel.offer entry).items = channel.items ++ [entry] := by
        rw [Channel.items_offer, List.take_of_length_le]
        rw [List.length_append]
        exact room
      refine (ordered_congr ?_ (by rw [result]) (by rw [result])).trans (and_iff_left trivial).symm
      subst result
      rw [enqueued_of_slot occupied, pending_of_queueing queueing, pending_of_queueing rfl,
        enqueued_of_slot rfl, offered]
      simp
  | startWriter =>
      obtain ⟨queueing, result⟩ := startWriter_eq_some.mp stepped
      refine (ordered_congr ?_ (by rw [result]) (by rw [result])).trans (and_iff_left trivial).symm
      subst result
      rw [pending_of_queueing queueing, pending_of_serving rfl]
      rfl
  | write =>
      obtain ⟨channel, chunk, rest, serving, occupied, oldest, result⟩ := write_eq_some.mp stepped
      refine (ordered_congr ?_ (by rw [result]) (by rw [result])).trans (and_iff_left trivial).symm
      subst result
      rw [enqueued_of_slot occupied, oldest, enqueued_of_slot rfl]
      show state.written ++ [chunk] ++ rest.items ++ state.pending = _
      rw [List.append_assoc state.written, List.singleton_append]
  | close => exact absurd stays id

/-! ## Whole resumes -/

/-- Collecting starts a resume with nothing out of place. -/
theorem resuming_of_collect {acks : WatermarkMap} (consistent : state.Consistent)
    (snapshot : state.step (.collect acks) = some next)
    (intact : ∀ entry ∈ numberFrom 1 state.produced, (acks 0).getD 0 < entry.1 →
      entry ∈ state.session.terminal.sendHistory) :
    Resuming state.produced ((acks 0).getD 0) next ∧
      next.Ordered state.produced ((acks 0).getD 0) := by
  obtain ⟨nextConsistent, connected, nothing, selected, sameProduced, -⟩ :=
    collect_effect consistent snapshot
  rw [replayFrom_of_intact consistent.window intact] at selected
  have notRead : next.forwarded state.produced = [] := by
    simp [forwarded, sameProduced]
  refine ⟨⟨nextConsistent, ?_, connected, [], selected.symm, List.nil_sublist _⟩, ?_⟩
  · simp only [sameProduced, List.prefix_refl]
  · rw [Ordered, due, notRead, nothing, selected]
    simp

/-- The numbered output above the watermark is the replays and what came since. -/
theorem drop_produced (resuming : Resuming base watermark state) :
    (numberFrom 1 state.produced).drop watermark = (numberFrom 1 base).drop watermark ++
      (numberFrom (base.length + 1) (state.produced.drop base.length)).drop
        (watermark - base.length) := by
  obtain ⟨fresh, produced⟩ := resuming.grown
  rw [← produced, List.drop_left, numberFrom_append, List.drop_append, length_numberFrom,
    Nat.add_comm 1]

/-- Once the reader rests, all of it is due. -/
theorem due_of_rested (resuming : Resuming base watermark state) (rests : state.reader = none) :
    state.due base watermark = (numberFrom 1 state.produced).drop watermark := by
  rw [drop_produced resuming, due, forwarded, rests, Option.isSome_none,
    if_neg Bool.false_ne_true]

/-- What is enqueued in order is the first part of it. -/
theorem enqueued_prefix (resuming : Resuming base watermark state)
    (ordered : state.Ordered base watermark) :
    state.enqueued <+: (numberFrom 1 state.produced).drop watermark := by
  have held : state.forwarded base <+: state.produced.drop base.length := by
    rw [forwarded]
    split
    · exact List.dropLast_prefix _
    · exact List.prefix_refl _
  have dueInside : state.due base watermark <+: (numberFrom 1 state.produced).drop watermark := by
    obtain ⟨unread, split⟩ := held
    rw [drop_produced resuming, due, List.prefix_append_right_inj, ← split, numberFrom_append,
      List.drop_append]
    exact List.prefix_append _ _
  have enqueuedInside : state.enqueued <+: state.due base watermark :=
    ordered ▸ List.prefix_append state.enqueued state.pending
  exact enqueuedInside.trans dueInside

/-- **The hand-off of a resume is exactly-once and in order precisely when
every hand-over of the PTY reader happens in its turn.** In such a run the
chunks enqueued so far are at every moment the first ones above the watermark. -/
theorem handoff_exactly_once_iff {sessionId : List UInt8} {passkey : String}
    {before during : List OutputAction} {lastReceivedSeq : WatermarkMap}
    {state collected final : OutputState}
    (reached : run OutputState.step (init sessionId passkey) before = some state)
    (snapshot : state.step (.collect lastReceivedSeq) = some collected)
    (intact : ∀ entry ∈ numberFrom 1 state.produced, (lastReceivedSeq 0).getD 0 < entry.1 →
      entry ∈ state.session.terminal.sendHistory)
    (connected : Along OutputState.step StaysConnected collected during)
    (executed : run OutputState.step collected during = some final) :
    (Along OutputState.step (InTurn (max state.produced.length ((lastReceivedSeq 0).getD 0)))
        collected during →
      Throughout OutputState.step (fun reached => reached.enqueued <+:
        (numberFrom 1 reached.produced).drop ((lastReceivedSeq 0).getD 0)) collected during) ∧
    (final.Settled →
      (final.enqueued = (numberFrom 1 final.produced).drop ((lastReceivedSeq 0).getD 0) ↔
        Along OutputState.step (InTurn (max state.produced.length ((lastReceivedSeq 0).getD 0)))
          collected during)) := by
  have consistent := consistent_of_run reached
  obtain ⟨start, ordered⟩ := resuming_of_collect consistent snapshot intact
  constructor
  · intro inTurn
    have kept : ∀ {earlier action later}, Resuming state.produced
          ((lastReceivedSeq 0).getD 0) earlier ∧ earlier.Ordered state.produced
          ((lastReceivedSeq 0).getD 0) →
        earlier.StaysConnected action ∧
          earlier.InTurn (max state.produced.length ((lastReceivedSeq 0).getD 0)) action →
        earlier.step action = some later →
        Resuming state.produced ((lastReceivedSeq 0).getD 0) later ∧
          later.Ordered state.produced ((lastReceivedSeq 0).getD 0) := by
      rintro earlier action later ⟨resuming, inOrder⟩ ⟨stays, turn⟩ stepped
      exact ⟨resuming.step stays stepped,
        (ordered_step_iff resuming stays stepped).mpr ⟨inOrder, turn⟩⟩
    exact throughout_of_along kept (fun held => enqueued_prefix held.1 held.2) ⟨start, ordered⟩
      (along_and.mpr ⟨connected, inTurn⟩)
  · rintro ⟨rests, serving⟩
    have preserved := run_invariant_along
      (fun held stays stepped => Resuming.step held stays stepped) start connected executed
    have latched := run_latch_along
      (fun held stays stepped => Resuming.step held stays stepped)
      (fun held stays stepped => ordered_step_iff held stays stepped) start connected executed
    rw [Ordered, pending_of_serving serving, List.append_nil, due_of_rested preserved rests]
      at latched
    exact latched.trans (and_iff_right ordered)

/-- One replayed and one live chunk, each handed over in its turn. -/
theorem handoff_of_replay_and_live_chunk :
    ∃ state collected final,
      run OutputState.step (init [] "") [.record [1], .forward] = some state ∧
      state.step (.collect fun _ => none) = some collected ∧
      run OutputState.step collected
        [.publish, .queueReplay, .startWriter, .record [2], .forward] = some final ∧
      final.enqueued = (numberFrom 1 final.produced).drop 0 := by
  obtain ⟨state, collected, final, reached, snapshot, intact, connected, inTurn, executed,
      settled⟩ :
      ∃ state collected final,
        run OutputState.step (init [] "") [.record [1], .forward] = some state ∧
        state.step (.collect fun _ => none) = some collected ∧
        state.session.terminal.sendHistory = numberFrom 1 state.produced ∧
        Along OutputState.step StaysConnected collected
          [.publish, .queueReplay, .startWriter, .record [2], .forward] ∧
        Along OutputState.step (InTurn (max state.produced.length 0)) collected
          [.publish, .queueReplay, .startWriter, .record [2], .forward] ∧
        run OutputState.step collected
          [.publish, .queueReplay, .startWriter, .record [2], .forward] = some final ∧
        final.Settled := by
    refine ⟨_, _, _, rfl, rfl, rfl, ?_, ?_, rfl, rfl, rfl⟩
    · exact ⟨trivial, fun _ occupied => by cases occupied; decide, trivial, trivial, trivial,
        trivial⟩
    · exact ⟨trivial, trivial, trivial, trivial, (by decide : 1 < 2), trivial⟩
  have exact := handoff_exactly_once_iff reached snapshot
    (fun entry member _ => intact ▸ member) connected executed
  exact ⟨state, collected, final, reached, snapshot, executed, (exact.2 settled).mpr inTurn⟩

/-- A chunk recorded after the replays were collected and handed over before
the sender is published is never enqueued on the new connection. -/
theorem handoff_loses_chunk :
    ∃ collected final,
      (init [] "").step (.collect fun _ => none) = some collected ∧
      Along OutputState.step StaysConnected collected
        [.record [1], .forward, .publish, .startWriter] ∧
      run OutputState.step collected [.record [1], .forward, .publish, .startWriter] =
        some final ∧
      final.Settled ∧ final.enqueued ≠ (numberFrom 1 final.produced).drop 0 := by
  refine ⟨_, _, rfl, ⟨trivial, trivial, trivial, trivial, trivial⟩, rfl, ⟨rfl, rfl⟩, ?_⟩
  decide

end OutputState

end Etr.Server
