import Etr.Server.Replay

/-!
Contract: which chunks the server holds for its connection.

Owns the places a chunk can be in between the PTY and the PTY stream, and the
exact steps that take a chunk out of them without writing it.

Does not own the order of the chunks, or the send history behind them.
-/

namespace Etr.Server.OutputState

open Etr.Library Etr.Session

variable {state next : OutputState}

/-- The chunks of the connection's output queue. -/
def queued (state : OutputState) : List Chunk :=
  (state.outboundPtyTx.map Channel.items).getD []

/-- The chunk the PTY writer takes next. -/
def oldestQueued (state : OutputState) : Option Chunk := state.queued.head?

/-- Queued, still to be replayed, or in the reader's hand. -/
def holding (state : OutputState) : List Chunk :=
  state.queued ++ (state.pending ++ state.reader.toList)

/-- The step leaves nothing behind: the reader's chunk is enqueued or is among
the replays, a replay finds room, and a connection ends with its queue empty. -/
def KeepsChunks (state : OutputState) : OutputAction → Prop
  | .forward => state.outboundPtyTx.isSome = true ∨
      ∀ chunk, state.reader = some chunk → chunk ∈ state.pending
  | .queueReplay => ∀ channel, state.outboundPtyTx = some channel →
      channel.items.length < ptyOutputCapacity
  | .close => state.queued = [] ∧ state.pending = []
  | _ => True

theorem queued_of_slot {channel : Channel Chunk ptyOutputCapacity}
    (occupied : state.outboundPtyTx = some channel) : state.queued = channel.items := by
  rw [queued, occupied]
  rfl

theorem mem_holding {chunk : Chunk} : chunk ∈ state.holding ↔
    chunk ∈ state.queued ∨ chunk ∈ state.pending ∨ state.reader = some chunk := by
  simp [holding]

/-- A chunk that is handed over is enqueued, or was among the replays. -/
theorem holding_of_forward (keeps : state.KeepsChunks .forward)
    (stepped : state.forward = some next) {chunk : Chunk} (member : chunk ∈ state.holding) :
    chunk ∈ next.holding := by
  rw [mem_holding] at member
  rcases forward_eq_some.mp stepped with
    ⟨taken, inHand, ⟨cleared, rfl⟩ | ⟨channel, sent, occupied, accepted, rfl⟩⟩
  · have replayed : taken ∈ state.pending := by
      rcases keeps with published | among
      · rw [cleared] at published
        cases published
      · exact among taken inHand
    rcases member with queue | pending | reader
    · exact mem_holding.mpr (Or.inl queue)
    · exact mem_holding.mpr (Or.inr (Or.inl pending))
    · rw [inHand, Option.some.injEq] at reader
      exact mem_holding.mpr (Or.inr (Or.inl (reader ▸ replayed)))
  · have appended := (Channel.trySend_eq_some.mp accepted).2
    rcases member with queue | pending | reader
    · rw [queued_of_slot occupied] at queue
      refine mem_holding.mpr (Or.inl ?_)
      rw [queued_of_slot rfl, appended]
      exact List.mem_append_left _ queue
    · exact mem_holding.mpr (Or.inr (Or.inl pending))
    · rw [inHand, Option.some.injEq] at reader
      refine mem_holding.mpr (Or.inl ?_)
      rw [queued_of_slot rfl, appended, reader]
      exact List.mem_append_right _ List.mem_cons_self

/-- A replay that finds room is enqueued. -/
theorem holding_of_queueReplay (keeps : state.KeepsChunks .queueReplay)
    (stepped : state.queueReplay = some next) {chunk : Chunk} (member : chunk ∈ state.holding) :
    chunk ∈ next.holding := by
  rcases queueReplay_eq_some.mp stepped with ⟨entry, rest, channel, queueing, occupied, rfl⟩
  have offered : (channel.offer entry).items = channel.items ++ [entry] := by
    rw [Channel.items_offer, List.take_of_length_le]
    rw [List.length_append]
    exact keeps channel occupied
  rw [mem_holding, queued_of_slot occupied, pending_of_queueing queueing] at member
  rw [mem_holding, queued_of_slot rfl, pending_of_queueing rfl, offered]
  rcases member with queue | replay | reader
  · exact Or.inl (List.mem_append_left _ queue)
  · rcases List.mem_cons.mp replay with rfl | later
    · exact Or.inl (List.mem_append_right _ List.mem_cons_self)
    · exact Or.inr (Or.inl later)
  · exact Or.inr (Or.inr reader)

/-- A chunk the server holds stays with it until the PTY writer takes it. -/
theorem holding_of_step {action : OutputAction} (consistent : state.Consistent)
    (stepped : state.step action = some next) (keeps : state.KeepsChunks action) {chunk : Chunk}
    (member : chunk ∈ state.holding) :
    chunk ∈ next.holding ∨ (action = .write ∧ state.oldestQueued = some chunk) := by
  cases action with
  | record data =>
      rcases record_eq_some.mp stepped with ⟨idle, rfl⟩
      rw [mem_holding, idle] at member
      rcases member with queue | pending | reader
      · exact Or.inl (mem_holding.mpr (Or.inl queue))
      · exact Or.inl (mem_holding.mpr (Or.inr (Or.inl pending)))
      · cases reader
  | forward => exact Or.inl (holding_of_forward keeps stepped member)
  | heartbeat acks =>
      rcases heartbeat_eq_some.mp stepped with ⟨-, rfl⟩
      exact Or.inl member
  | collect lastReceivedSeq =>
      rcases collect_eq_some.mp stepped with ⟨idle, rfl⟩
      have empty := slot_of_unpublished consistent (by rw [idle]; rfl)
      rw [mem_holding, queued, empty, pending, idle] at member
      rcases member with queue | replay | reader
      · cases queue
      · cases replay
      · exact Or.inl (mem_holding.mpr (Or.inr (Or.inr reader)))
  | publish =>
      rcases publish_eq_some.mp stepped with ⟨replays, collected, rfl⟩
      have empty := slot_of_unpublished consistent (by rw [collected]; rfl)
      rw [mem_holding, queued, empty, pending_of_collected collected] at member
      rcases member with queue | replay | reader
      · cases queue
      · exact Or.inl (mem_holding.mpr (Or.inr (Or.inl replay)))
      · exact Or.inl (mem_holding.mpr (Or.inr (Or.inr reader)))
  | queueReplay => exact Or.inl (holding_of_queueReplay keeps stepped member)
  | startWriter =>
      rcases startWriter_eq_some.mp stepped with ⟨queueing, rfl⟩
      rw [mem_holding, pending_of_queueing queueing] at member
      exact Or.inl (mem_holding.mpr member)
  | write =>
      rcases write_eq_some.mp stepped with ⟨channel, taken, rest, serving, occupied, oldest, rfl⟩
      rw [mem_holding, queued_of_slot occupied, oldest] at member
      rcases member with queue | replay | reader
      · rcases List.mem_cons.mp queue with rfl | later
        · right
          exact ⟨rfl, by rw [oldestQueued, queued_of_slot occupied, oldest]; rfl⟩
        · exact Or.inl (mem_holding.mpr (Or.inl later))
      · exact Or.inl (mem_holding.mpr (Or.inr (Or.inl replay)))
      · exact Or.inl (mem_holding.mpr (Or.inr (Or.inr reader)))
  | close =>
      rcases close_eq_some.mp stepped with ⟨-, rfl⟩
      rw [mem_holding, keeps.1, keeps.2] at member
      rcases member with queue | replay | reader
      · cases queue
      · cases replay
      · exact Or.inl (mem_holding.mpr (Or.inr (Or.inr reader)))

/-- A server that holds nothing gets something only by reading the PTY or by
collecting replays. -/
theorem holding_eq_nil_of_step {action : OutputAction} (empty : state.holding = [])
    (notRecord : ∀ data, action ≠ .record data) (notCollect : ∀ acks, action ≠ .collect acks)
    (stepped : state.step action = some next) : next.holding = [] := by
  simp only [holding, List.append_eq_nil_iff, Option.toList_eq_nil_iff] at empty ⊢
  rcases empty with ⟨queue, replays, reader⟩
  cases action with
  | record data => exact absurd rfl (notRecord data)
  | collect acks => exact absurd rfl (notCollect acks)
  | forward =>
      rcases forward_eq_some.mp stepped with ⟨chunk, inHand, -⟩
      rw [reader] at inHand
      cases inHand
  | heartbeat acks =>
      rcases heartbeat_eq_some.mp stepped with ⟨-, rfl⟩
      exact ⟨queue, replays, reader⟩
  | publish =>
      rcases publish_eq_some.mp stepped with ⟨rest, collected, rfl⟩
      rw [pending_of_collected collected] at replays
      exact ⟨rfl, replays, reader⟩
  | queueReplay =>
      rcases queueReplay_eq_some.mp stepped with ⟨entry, rest, channel, queueing, -, -⟩
      rw [pending_of_queueing queueing] at replays
      cases replays
  | startWriter =>
      rcases startWriter_eq_some.mp stepped with ⟨-, rfl⟩
      exact ⟨queue, rfl, reader⟩
  | write =>
      rcases write_eq_some.mp stepped with ⟨channel, chunk, rest, -, occupied, oldest, -⟩
      rw [queued_of_slot occupied, oldest] at queue
      cases queue
  | close =>
      rcases close_eq_some.mp stepped with ⟨-, rfl⟩
      exact ⟨rfl, rfl, reader⟩

/-- What a step adds to the log is in the reader's hand. -/
theorem log_of_step {action : OutputAction} (consistent : state.Consistent)
    (stepped : state.step action = some next) {chunk : Chunk}
    (member : chunk ∈ numberFrom 1 next.produced) :
    chunk ∈ numberFrom 1 state.produced ∨ next.reader = some chunk := by
  by_cases records : ∃ data, action = .record data
  · rcases records with ⟨data, rfl⟩
    rcases record_eq_some.mp stepped with ⟨-, rfl⟩
    rcases consistent.window with ⟨dropped, window⟩
    rw [numberFrom_append] at member
    rcases List.mem_append.mp member with earlier | latest
    · exact Or.inl earlier
    · right
      rw [List.mem_singleton.mp latest, window.next, Nat.add_comm]
  · rw [produced_of_step (fun data same => records ⟨data, same⟩) stepped] at member
    exact Or.inl member

/-- A record that stays within the cap evicts nothing. -/
theorem window_of_record {data : Payload} (window : Window state.produced 0 state.session.terminal)
    (fits : state.session.terminal.historyBytes + data.length ≤ maxHistoryBytes)
    (stepped : state.record data = some next) :
    Window next.produced 0 next.session.terminal := by
  rcases record_eq_some.mp stepped with ⟨-, rfl⟩
  rcases window.numberAndRecord data with ⟨kept, -, recorded, least⟩
  have counted : totalBytes (numberFrom 1 (state.produced ++ [data])) ≤ maxHistoryBytes := by
    have held := window.bytes
    rw [window.history, List.drop_zero] at held
    rw [numberFrom_append, totalBytes_append, ← held]
    exact fits
  have nothing := least 0 (Nat.le_refl 0) counted
  rw [Nat.le_zero.mp nothing] at recorded
  exact recorded

end Etr.Server.OutputState
