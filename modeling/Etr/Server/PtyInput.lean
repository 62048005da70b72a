import Etr.Library.Channel
import Etr.Library.Transition
import Etr.Session.State

/-!
Contract: the server's PTY input, from the PTY stream to the PTY input queue.

Owns the transition system of `pty_reader_task` of `handle_connection` and of
the queue's consumer, across any number of connections, and the exact
cancellations under which the watermark stays truthful.

Does not own the stream the chunks arrive on; a run says which chunk each read
returns.
-/

namespace Etr.Server

open Etr.Library Etr.Session

/-- Payloads the PTY input queue holds. -/
def ptyInputCapacity : Nat := 1000

/-- Where `pty_reader_task` is. -/
inductive InputReader where
  /-- No connection runs the task. -/
  | absent
  /-- Waiting in `read_pty_chunk`. -/
  | reading
  /-- Waiting for the session lock with a chunk in local variables. -/
  | locking (chunk : Chunk)
  /-- Waiting for room in the PTY input queue; the watermark is already set. -/
  | sending (chunk : Chunk)
deriving DecidableEq, Repr

/-- Server state the PTY input passes through. -/
structure InputState where
  session : SessionState
  reader : InputReader
  ptyIn : Channel Payload ptyInputCapacity
  /-- The PTY input consumer still holds the receiver. -/
  ptyInOpen : Bool
  /-- History variable: every chunk enqueued to `pty_in`. -/
  queued : List Chunk

namespace InputState

/-- State of `run_session` before its first connection. -/
def init (sessionId : List UInt8) (passkey : String) : InputState where
  session := SessionState.new sessionId passkey
  reader := .absent
  ptyIn := Channel.empty
  ptyInOpen := true
  queued := []

/-- The number the next chunk is expected to carry. -/
def nextInSeq (state : InputState) : Nat := state.session.terminal.nextInSeq

/-! ## Steps -/

/-- `handle_connection` spawns the task. -/
def spawn (state : InputState) : Option InputState :=
  match state.reader with
  | .absent => some { state with reader := .reading }
  | _ => none

/-- `read_pty_chunk` returns a chunk. -/
def read (state : InputState) (chunk : Chunk) : Option InputState :=
  match state.reader with
  | .reading => some { state with reader := .locking chunk }
  | _ => none

/-- The session lock is granted: set `next_in_seq`. -/
def mark (state : InputState) : Option InputState :=
  match state.reader with
  | .locking chunk =>
      some { state with
        session := state.session.updateTerminal fun stream => stream.markReceived chunk.1
        reader := .sending chunk }
  | _ => none

/-- `pty_in_tx2.send(data)` returns. It waits while the queue is full and fails
once the consumer is gone; its result is ignored. -/
def enqueue (state : InputState) : Option InputState :=
  match state.reader with
  | .sending chunk =>
      if state.ptyInOpen then
        (state.ptyIn.trySend chunk.2).map fun sent =>
          { state with reader := .reading, ptyIn := sent, queued := state.queued ++ [chunk] }
      else
        some { state with reader := .reading }
  | _ => none

/-- The task ends by itself at a failed or finished read, or is aborted at
whichever await point it is. -/
def abort (state : InputState) : Option InputState :=
  match state.reader with
  | .absent => none
  | _ => some { state with reader := .absent }

/-- Consumer: take the oldest payload and write it to the PTY. -/
def consume (state : InputState) : Option InputState :=
  state.ptyIn.recv.map fun taken => { state with ptyIn := taken.2 }

/-- Consumer: a failed PTY write drops the receiver with what it holds. -/
def consumerEnds (state : InputState) : Option InputState :=
  some { state with ptyIn := Channel.empty, ptyInOpen := false }

/-- Control reader: a heartbeat trims the history of the other direction. -/
def acknowledge (state : InputState) (acks : WatermarkMap) : Option InputState :=
  some { state with session := state.session.applyServerAcks acks }

/-- PTY reader: record output under the session lock. -/
def recordOutput (state : InputState) (data : Payload) : Option InputState :=
  some { state with
    session := state.session.updateTerminal fun stream => stream.numberAndRecord data }

end InputState

/-- One atomic step of the task, of the queue's consumer or of a task it shares
the session lock with. -/
inductive InputAction where
  | spawn
  | read (chunk : Chunk)
  | mark
  | enqueue
  | abort
  | consume
  | consumerEnds
  | acknowledge (acks : WatermarkMap)
  | recordOutput (data : Payload)

/-- Take one step, if it is enabled. -/
def InputState.step (state : InputState) : InputAction → Option InputState
  | .spawn => state.spawn
  | .read chunk => state.read chunk
  | .mark => state.mark
  | .enqueue => state.enqueue
  | .abort => state.abort
  | .consume => state.consume
  | .consumerEnds => state.consumerEnds
  | .acknowledge acks => state.acknowledge acks
  | .recordOutput data => state.recordOutput data

/-! ## What each step can do -/

namespace InputState

variable {state next : InputState}

theorem spawn_eq_some :
    state.spawn = some next ↔ state.reader = .absent ∧
      next = { state with reader := .reading } := by
  unfold spawn
  cases state.reader <;> simp [eq_comm]

theorem read_eq_some {chunk : Chunk} :
    state.read chunk = some next ↔ state.reader = .reading ∧
      next = { state with reader := .locking chunk } := by
  unfold read
  cases state.reader <;> simp [eq_comm]

theorem mark_eq_some :
    state.mark = some next ↔ ∃ chunk, state.reader = .locking chunk ∧
      next = { state with
        session := state.session.updateTerminal fun stream => stream.markReceived chunk.1
        reader := .sending chunk } := by
  unfold mark
  cases state.reader <;> simp [eq_comm]

theorem enqueue_eq_some :
    state.enqueue = some next ↔ ∃ chunk, state.reader = .sending chunk ∧
      ((state.ptyInOpen = true ∧ ∃ sent, state.ptyIn.trySend chunk.2 = some sent ∧
          next = { state with
            reader := .reading, ptyIn := sent, queued := state.queued ++ [chunk] }) ∨
        (state.ptyInOpen = false ∧ next = { state with reader := .reading })) := by
  unfold enqueue
  cases state.reader with
  | sending chunk =>
      cases opened : state.ptyInOpen with
      | false => simp [eq_comm]
      | true =>
          simp only [if_true, Option.map_eq_some_iff, InputReader.sending.injEq, true_and,
            Bool.true_eq_false, false_and, or_false, exists_eq_left']
          exact exists_congr fun _ => and_congr_right fun _ => eq_comm
  | _ => simp

theorem abort_eq_some :
    state.abort = some next ↔ state.reader ≠ .absent ∧
      next = { state with reader := .absent } := by
  unfold abort
  cases state.reader <;> simp [eq_comm]

theorem consume_eq_some :
    state.consume = some next ↔ ∃ payload rest, state.ptyIn.items = payload :: rest.items ∧
      next = { state with ptyIn := rest } := by
  unfold consume
  simp only [Option.map_eq_some_iff, Prod.exists, Channel.recv_eq_some]
  exact exists_congr fun _ => exists_congr fun _ => and_congr_right fun _ => eq_comm

/-! ## The invariant of every run -/

variable {log : Nat → Payload}

/-- The client sends its payloads under consecutive numbers and resumes behind
the server's watermark: each read returns the next expected chunk. -/
def Expected (log : Nat → Payload) (state : InputState) : InputAction → Prop
  | .read chunk => chunk = (state.nextInSeq, log state.nextInSeq) ∧ state.nextInSeq + 1 < 2 ^ 64
  | _ => True

/-- The watermark follows the chunks in the reader's hand, and nothing above it
was enqueued. -/
structure Marked (log : Nat → Payload) (state : InputState) : Prop where
  positive : 0 < state.nextInSeq
  below : ∀ chunk ∈ state.queued, chunk.1 < state.nextInSeq
  locked : ∀ chunk, state.reader = .locking chunk →
    chunk = (state.nextInSeq, log state.nextInSeq) ∧ state.nextInSeq + 1 < 2 ^ 64
  sent : ∀ chunk, state.reader = .sending chunk →
    state.nextInSeq = chunk.1 + 1 ∧ 0 < chunk.1 ∧ chunk.2 = log chunk.1 ∧
      ∀ earlier ∈ state.queued, earlier.1 < chunk.1

theorem marked_init (sessionId : List UInt8) (passkey : String) :
    (init sessionId passkey).Marked log where
  positive := Nat.one_pos
  below := by simp [init]
  locked := by simp [init]
  sent := by simp [init]

/-- Below the last 64-bit number, marking a chunk expects the next one. -/
theorem nextInSeq_mark (state : InputState) {chunk : Chunk} (representable : chunk.1 + 1 < 2 ^ 64) :
    nextInSeq { state with
      session := state.session.updateTerminal fun stream => stream.markReceived chunk.1
      reader := .sending chunk } = chunk.1 + 1 :=
  Nat.mod_eq_of_lt representable

theorem Marked.step {action : InputAction} (marked : state.Marked log)
    (expected : state.Expected log action) (stepped : state.step action = some next) :
    next.Marked log := by
  obtain ⟨positive, below, locked, sent⟩ := marked
  cases action with
  | spawn =>
      obtain ⟨-, rfl⟩ := spawn_eq_some.mp stepped
      exact ⟨positive, below, by simp, by simp⟩
  | read chunk =>
      obtain ⟨-, rfl⟩ := read_eq_some.mp stepped
      refine ⟨positive, below, ?_, by simp⟩
      rintro taken holding
      cases holding
      exact expected
  | mark =>
      obtain ⟨chunk, locking, rfl⟩ := mark_eq_some.mp stepped
      obtain ⟨numbered, representable⟩ := locked chunk locking
      have number : chunk.1 = state.nextInSeq := congrArg Prod.fst numbered
      have data : chunk.2 = log chunk.1 := by rw [number]; exact congrArg Prod.snd numbered
      have moved := nextInSeq_mark state (number ▸ representable)
      refine ⟨?_, ?_, by simp, ?_⟩
      · rw [moved]
        exact Nat.succ_pos _
      · intro earlier member
        rw [moved, number]
        exact Nat.lt_succ_of_lt (below earlier member)
      · rintro taken holding
        cases holding
        exact ⟨moved, number ▸ positive, data, fun earlier member => number ▸ below earlier member⟩
  | enqueue =>
      obtain ⟨chunk, sending, ⟨-, queue, -, rfl⟩ | ⟨-, rfl⟩⟩ := enqueue_eq_some.mp stepped
      · obtain ⟨reached, -, -, -⟩ := sent chunk sending
        refine ⟨positive, ?_, by simp, by simp⟩
        intro earlier member
        rcases List.mem_append.mp member with old | new
        · exact below earlier old
        · rw [List.mem_singleton.mp new]
          exact reached ▸ Nat.lt_succ_self _
      · exact ⟨positive, below, by simp, by simp⟩
  | abort =>
      obtain ⟨-, rfl⟩ := abort_eq_some.mp stepped
      exact ⟨positive, below, by simp, by simp⟩
  | consume =>
      obtain ⟨payload, rest, -, rfl⟩ := consume_eq_some.mp stepped
      exact ⟨positive, below, locked, sent⟩
  | consumerEnds =>
      cases stepped
      exact ⟨positive, below, locked, sent⟩
  | acknowledge acks =>
      cases stepped
      have same : nextInSeq { state with session := state.session.applyServerAcks acks } =
          state.nextInSeq := SessionState.nextInSeq_applyServerAcks state.session acks
      exact ⟨same ▸ positive, same ▸ below, same ▸ locked, same ▸ sent⟩
  | recordOutput data =>
      cases stepped
      exact ⟨positive, below, locked, sent⟩

/-! ## Cancellation -/

/-- Every chunk the watermark covers was enqueued, or waits in the send. -/
def Acknowledged (log : Nat → Payload) (state : InputState) : Prop :=
  ∀ seq, 0 < seq → seq < state.nextInSeq →
    (seq, log seq) ∈ state.queued ∨ state.reader = .sending (seq, log seq)

/-- The step neither cancels the send to the PTY input queue nor finds the
queue's consumer gone. -/
def KeepsMarked (state : InputState) : InputAction → Prop
  | .abort => ∀ chunk, state.reader ≠ .sending chunk
  | .enqueue => state.ptyInOpen = true
  | _ => True

/-- Outside the send, only the watermark and the queue matter. -/
theorem acknowledged_congr (state next : InputState)
    (before : ∀ chunk, state.reader ≠ .sending chunk)
    (after : ∀ chunk, next.reader ≠ .sending chunk) (sameCursor : next.nextInSeq = state.nextInSeq)
    (sameQueued : next.queued = state.queued) :
    next.Acknowledged log ↔ state.Acknowledged log := by
  simp only [Acknowledged, sameCursor, sameQueued, before _, after _]

/-- A marked chunk that leaves the reader's hand without being enqueued is
acknowledged and missing. -/
theorem not_acknowledged_of_dropped (marked : state.Marked log) {chunk : Chunk}
    (sending : state.reader = .sending chunk) (sameCursor : next.nextInSeq = state.nextInSeq)
    (sameQueued : next.queued = state.queued) (after : ∀ chunk, next.reader ≠ .sending chunk) :
    ¬ next.Acknowledged log := by
  obtain ⟨reached, positive, -, earlier⟩ := marked.sent chunk sending
  intro acknowledged
  rcases acknowledged chunk.1 positive (by rw [sameCursor, reached]; exact Nat.lt_succ_self _) with
    member | held
  · rw [sameQueued] at member
    exact Nat.lt_irrefl chunk.1 (earlier (chunk.1, log chunk.1) member)
  · exact after _ held

theorem acknowledged_mark_iff (marked : state.Marked log) (stepped : state.mark = some next) :
    next.Acknowledged log ↔ state.Acknowledged log := by
  obtain ⟨chunk, locking, rfl⟩ := mark_eq_some.mp stepped
  obtain ⟨numbered, representable⟩ := marked.locked chunk locking
  subst numbered
  have moved :=
    nextInSeq_mark state (show (state.nextInSeq, log state.nextInSeq).1 + 1 < 2 ^ 64 from
      representable)
  rw [Acknowledged, moved]
  constructor
  · intro acknowledged seq positive below
    rcases acknowledged seq positive (Nat.lt_succ_of_lt below) with member | held
    · exact Or.inl member
    · simp only [InputReader.sending.injEq, Prod.mk.injEq] at held
      exact absurd held.1 (Nat.ne_of_gt below)
  · intro acknowledged seq positive below
    rcases Nat.lt_succ_iff_lt_or_eq.mp below with covered | last
    · rcases acknowledged seq positive covered with member | held
      · exact Or.inl member
      · rw [locking] at held
        contradiction
    · exact Or.inr (by rw [last])

theorem acknowledged_enqueue_iff (marked : state.Marked log)
    (stepped : state.enqueue = some next) :
    next.Acknowledged log ↔ state.Acknowledged log ∧ state.ptyInOpen = true := by
  obtain ⟨chunk, sending, ⟨opened, queue, -, rfl⟩ | ⟨closed, rfl⟩⟩ := enqueue_eq_some.mp stepped
  · obtain ⟨-, -, data, -⟩ := marked.sent chunk sending
    rw [and_iff_left opened]
    refine forall_congr' fun seq => forall_congr' fun _ => forall_congr' fun _ => ?_
    have same : (seq, log seq) = chunk ↔ chunk = (seq, log seq) := eq_comm
    simp [sending, same]
  · refine iff_of_false ?_ fun both => by simp [closed] at both
    exact not_acknowledged_of_dropped marked sending rfl rfl (by simp)

theorem acknowledged_step_iff {action : InputAction} (marked : state.Marked log)
    (stepped : state.step action = some next) :
    next.Acknowledged log ↔ state.Acknowledged log ∧ state.KeepsMarked action := by
  cases action with
  | spawn =>
      obtain ⟨absent, result⟩ := spawn_eq_some.mp stepped
      rw [acknowledged_congr state next (by simp [absent]) (by simp [result]) (by rw [result]; rfl)
        (by rw [result])]
      exact (and_iff_left trivial).symm
  | read chunk =>
      obtain ⟨reading, result⟩ := read_eq_some.mp stepped
      rw [acknowledged_congr state next (by simp [reading]) (by simp [result]) (by rw [result]; rfl)
        (by rw [result])]
      exact (and_iff_left trivial).symm
  | mark => exact (acknowledged_mark_iff marked stepped).trans (and_iff_left trivial).symm
  | enqueue => exact acknowledged_enqueue_iff marked stepped
  | abort =>
      obtain ⟨-, result⟩ := abort_eq_some.mp stepped
      have sameCursor : next.nextInSeq = state.nextInSeq := by rw [result]; rfl
      have sameQueued : next.queued = state.queued := by rw [result]
      have after : ∀ chunk, next.reader ≠ .sending chunk := by simp [result]
      by_cases waiting : ∃ chunk, state.reader = .sending chunk
      · obtain ⟨chunk, sending⟩ := waiting
        refine iff_of_false ?_ fun both => both.2 chunk sending
        exact not_acknowledged_of_dropped marked sending sameCursor sameQueued after
      · have idle := not_exists.mp waiting
        rw [acknowledged_congr state next idle after sameCursor sameQueued]
        exact (and_iff_left idle).symm
  | consume =>
      obtain ⟨payload, rest, -, rfl⟩ := consume_eq_some.mp stepped
      exact (and_iff_left trivial).symm
  | acknowledge acks =>
      cases stepped
      have same : nextInSeq { state with session := state.session.applyServerAcks acks } =
          state.nextInSeq := SessionState.nextInSeq_applyServerAcks state.session acks
      rw [Acknowledged, same]
      exact (and_iff_left trivial).symm
  | consumerEnds | recordOutput =>
      cases stepped
      exact (and_iff_left trivial).symm

/-- **Once the reader is gone, every chunk the watermark covers was enqueued
exactly if along the run no abort cancelled the send of a marked chunk and no
send found the consumer gone.** -/
theorem acknowledged_keystrokes_queued_iff {sessionId : List UInt8} {passkey : String}
    {actions : List InputAction} {final : InputState}
    (expected : Along InputState.step (Expected log) (init sessionId passkey) actions)
    (executed : run InputState.step (init sessionId passkey) actions = some final)
    (aborted : final.reader = .absent) :
    (∀ seq, 0 < seq → seq < final.nextInSeq → (seq, log seq) ∈ final.queued) ↔
      Along InputState.step KeepsMarked (init sessionId passkey) actions := by
  have initially : (init sessionId passkey).Acknowledged log := by
    intro seq positive below
    exact absurd below (Nat.not_lt.mpr positive)
  have latched := run_latch_along (fun held met stepped => Marked.step held met stepped)
    (fun held _ stepped => acknowledged_step_iff held stepped)
    (marked_init sessionId passkey) expected executed
  rw [Acknowledged, aborted] at latched
  simpa only [reduceCtorEq, or_false, initially, true_and] using latched

/-- A chunk whose wait for the session lock is cancelled is not acknowledged. -/
theorem unmarked_chunk_not_acknowledged :
    ∃ final,
      run InputState.step (init [] "")
        [.spawn, .read (1, [97]), .mark, .enqueue, .read (2, [97]), .abort] = some final ∧
      ∀ seq, 0 < seq → seq < final.nextInSeq → (seq, [97]) ∈ final.queued := by
  have kept : Along InputState.step KeepsMarked (init [] "")
      [.spawn, .read (1, [97]), .mark, .enqueue, .read (2, [97]), .abort] := by
    refine ⟨trivial, trivial, trivial, rfl, trivial, ?_, trivial⟩
    intro chunk sending
    cases sending
  have expected : Along InputState.step (Expected fun _ => [97]) (init [] "")
      [.spawn, .read (1, [97]), .mark, .enqueue, .read (2, [97]), .abort] :=
    ⟨trivial, ⟨rfl, by decide⟩, trivial, trivial, ⟨rfl, by decide⟩, trivial, trivial⟩
  exact ⟨_, rfl, (acknowledged_keystrokes_queued_iff expected rfl rfl).mpr kept⟩

/-- A marked chunk whose send is cancelled is acknowledged and never enqueued. -/
theorem marked_chunk_lost_to_abort :
    Along InputState.step (Expected fun _ => [97]) (init [] "")
        [.spawn, .read (1, [97]), .mark, .abort] ∧
      ∃ final,
        run InputState.step (init [] "") [.spawn, .read (1, [97]), .mark, .abort] =
          some final ∧
        final.reader = .absent ∧ final.session.terminal.lastReceived = some 1 ∧
        ¬ ∀ seq, 0 < seq → seq < final.nextInSeq → (seq, [97]) ∈ final.queued := by
  refine ⟨⟨trivial, ⟨rfl, by decide⟩, trivial, trivial, trivial⟩, _, rfl, rfl, rfl, ?_⟩
  intro everything
  have queued := everything 1 (by decide) (by decide)
  exact absurd queued List.not_mem_nil

end InputState

end Etr.Server
