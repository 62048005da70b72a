import Etr.Library.Channel
import Etr.Library.Numbering
import Etr.Library.Transition
import Etr.Session.State

/-!
Contract: the client's PTY output, from the PTY stream to stdout.

Owns the transition system of `pty_recv_task` and `stdout_task` of
`run_session`, with the stdout tasks of earlier connections that an abort found
in the middle of a write, and the exact schedules under which the watermark
covers only chunks that were passed on.

Does not own the stream the chunks arrive on: any chunk may be read at any
time, under any number. A payload counts as written once its last byte is out
(tasks that write at the same time may mix the bytes of theirs), and stdout does
not fail.
-/

namespace Etr.Client

open Etr.Library Etr.Session

/-- Payloads the stdout queue holds. -/
def stdoutCapacity : Nat := 512

/-- Where `pty_recv_task` is. -/
inductive PtyReceiver where
  | absent
  /-- Waiting in `read_pty_chunk`. -/
  | reading
  /-- Waiting for the session lock. -/
  | locking (chunk : Chunk)
  /-- Between the watermark update and `try_send`, which no await separates. -/
  | forwarding (chunk : Chunk)
deriving DecidableEq, Repr

/-- Where `stdout_task` is. -/
inductive StdoutWriter where
  /-- Waiting in `recv`, the one place where an abort ends it. -/
  | waiting
  /-- Between two calls of `recv`, with the payloads of its `BufWriter` that are
  not written out. -/
  | writing (buffer : List Payload)
deriving DecidableEq, Repr

def StdoutWriter.buffer : StdoutWriter → List Payload
  | .waiting => []
  | .writing buffer => buffer

/-- Client state the PTY output passes through. The last four fields are
history variables. -/
structure StdoutState where
  session : SessionState
  receiver : PtyReceiver
  stdoutTx : Channel Payload stdoutCapacity
  writer : StdoutWriter
  /-- What aborted stdout tasks still write before they come back to `recv`. -/
  lingering : List (List Payload)
  /-- Payloads written to stdout. -/
  stdout : List Payload
  /-- Chunks whose number was taken into the watermark. -/
  marked : List Chunk
  /-- Chunks enqueued to stdout. -/
  passedOn : List Chunk
  /-- Chunks refused by a full stdout queue. -/
  dropped : List Chunk

namespace StdoutState

def init (sessionId : List UInt8) (passkey : String) : StdoutState where
  session := SessionState.new sessionId passkey
  receiver := .absent
  stdoutTx := Channel.empty
  writer := .waiting
  lingering := []
  stdout := []
  marked := []
  passedOn := []
  dropped := []

/-! ## Steps -/

/-- `run_session` spawns both tasks over a new queue. -/
def spawn (state : StdoutState) : Option StdoutState :=
  match state.receiver with
  | .absent =>
      some { state with receiver := .reading, stdoutTx := Channel.empty, writer := .waiting }
  | _ => none

/-- `read_pty_chunk` returns a chunk; its number is read from eight bytes. -/
def read (state : StdoutState) (chunk : Chunk) : Option StdoutState :=
  match state.receiver with
  | .reading => if chunk.1 < 2 ^ 64 then some { state with receiver := .locking chunk } else none
  | _ => none

/-- The session lock is granted: set `next_in_seq`. -/
def mark (state : StdoutState) : Option StdoutState :=
  match state.receiver with
  | .locking chunk =>
      some { state with
        session := state.session.updateTerminal fun stream => stream.markReceived chunk.1
        receiver := .forwarding chunk
        marked := state.marked ++ [chunk] }
  | _ => none

/-- `stdout_tx2.try_send(data)`; its result is ignored. -/
def forward (state : StdoutState) : Option StdoutState :=
  match state.receiver with
  | .forwarding chunk =>
      match state.stdoutTx.trySend chunk.2 with
      | some sent =>
          some { state with
            receiver := .reading, stdoutTx := sent, passedOn := state.passedOn ++ [chunk] }
      | none =>
          some { state with receiver := .reading, dropped := state.dropped ++ [chunk] }
  | _ => none

/-- Stdout task: `recv` or `try_recv` takes the oldest queued payload into the
buffer. -/
def takeStdout (state : StdoutState) : Option StdoutState :=
  state.stdoutTx.recv.map fun taken =>
    { state with
      stdoutTx := taken.2, writer := .writing (state.writer.buffer ++ [taken.1]) }

/-- Stdout task: the oldest payload of the buffer is written out, by `flush` or
because the buffer is full. -/
def writeStdout (state : StdoutState) : Option StdoutState :=
  match state.writer with
  | .writing (payload :: rest) =>
      some { state with writer := .writing rest, stdout := state.stdout ++ [payload] }
  | .writing [] | .waiting => none

/-- Stdout task: `flush` returns, and the task is back in `recv`. -/
def flushed (state : StdoutState) : Option StdoutState :=
  match state.writer with
  | .writing [] => some { state with writer := .waiting }
  | .writing (_ :: _) | .waiting => none

/-- What the stdout task goes on to write if it is aborted now: in `recv` it
ends with its queue, between two calls of `recv` it drains both first. -/
def unfinished (state : StdoutState) : List (List Payload) :=
  match state.writer with
  | .waiting => []
  | .writing buffer => [buffer ++ state.stdoutTx.items]

/-- The connection ends and both tasks are aborted, the receive task at an await
point. -/
def abort (state : StdoutState) : Option StdoutState :=
  match state.receiver with
  | .reading | .locking _ =>
      some { state with
        receiver := .absent
        stdoutTx := Channel.empty
        writer := .waiting
        lingering := state.lingering ++ state.unfinished }
  | .absent | .forwarding _ => none

/-- Everything the stdout task was handed is written out. -/
def Flushed (state : StdoutState) : Prop :=
  state.stdoutTx.items = [] ∧ state.writer.buffer = []

/-- An aborted stdout task writes the next of its payloads. -/
def writeLingering (state : StdoutState) (index : Nat) : Option StdoutState :=
  match state.lingering[index]? with
  | some (payload :: rest) =>
      some { state with
        lingering := state.lingering.set index rest, stdout := state.stdout ++ [payload] }
  | some [] | none => none

/-- Control reader or connection setup: trim the history of the other direction. -/
def acknowledge (state : StdoutState) (acks : WatermarkMap) : Option StdoutState :=
  some { state with session := state.session.applyServerAcks acks }

/-- Stdin task: record input under the session lock. -/
def recordInput (state : StdoutState) (data : Payload) : Option StdoutState :=
  some { state with
    session := state.session.updateTerminal fun stream => stream.numberAndRecord data }

end StdoutState

/-- One atomic step of the two tasks or of a task they share the session lock
with. -/
inductive StdoutAction where
  | spawn
  | read (chunk : Chunk)
  | mark
  | forward
  | takeStdout
  | writeStdout
  | flushed
  | abort
  | writeLingering (index : Nat)
  | acknowledge (acks : WatermarkMap)
  | recordInput (data : Payload)

def StdoutState.step (state : StdoutState) : StdoutAction → Option StdoutState
  | .spawn => state.spawn
  | .read chunk => state.read chunk
  | .mark => state.mark
  | .forward => state.forward
  | .takeStdout => state.takeStdout
  | .writeStdout => state.writeStdout
  | .flushed => state.flushed
  | .abort => state.abort
  | .writeLingering index => state.writeLingering index
  | .acknowledge acks => state.acknowledge acks
  | .recordInput data => state.recordInput data

/-! ## What each step can do -/

namespace StdoutState

variable {state next : StdoutState}

theorem spawn_eq_some :
    state.spawn = some next ↔ state.receiver = .absent ∧
      next = { state with
        receiver := .reading, stdoutTx := Channel.empty, writer := .waiting } := by
  unfold spawn
  cases state.receiver <;> simp [eq_comm]

theorem read_eq_some {chunk : Chunk} :
    state.read chunk = some next ↔ state.receiver = .reading ∧ chunk.1 < 2 ^ 64 ∧
      next = { state with receiver := .locking chunk } := by
  unfold read
  cases state.receiver with
  | reading =>
      by_cases small : chunk.1 < 2 ^ 64
      · rw [if_pos small, Option.some.injEq, eq_comm]
        exact ⟨fun result => ⟨rfl, small, result⟩, fun every => every.2.2⟩
      · rw [if_neg small]
        exact ⟨nofun, fun every => absurd every.2.1 small⟩
  | _ => simp

theorem mark_eq_some :
    state.mark = some next ↔ ∃ chunk, state.receiver = .locking chunk ∧
      next = { state with
        session := state.session.updateTerminal fun stream => stream.markReceived chunk.1
        receiver := .forwarding chunk
        marked := state.marked ++ [chunk] } := by
  unfold mark
  cases state.receiver <;> simp [eq_comm]

theorem forward_eq_some :
    state.forward = some next ↔ ∃ chunk, state.receiver = .forwarding chunk ∧
      ((∃ sent, state.stdoutTx.trySend chunk.2 = some sent ∧
          next = { state with
            receiver := .reading, stdoutTx := sent, passedOn := state.passedOn ++ [chunk] }) ∨
        (state.stdoutTx.trySend chunk.2 = none ∧
          next = { state with receiver := .reading, dropped := state.dropped ++ [chunk] })) := by
  unfold forward
  cases state.receiver with
  | forwarding chunk =>
      cases answer : state.stdoutTx.trySend chunk.2 with
      | some sent => simp [answer, eq_comm]
      | none => simp [answer, eq_comm]
  | _ => simp

theorem takeStdout_eq_some :
    state.takeStdout = some next ↔ ∃ payload rest,
      state.stdoutTx.items = payload :: rest.items ∧
      next = { state with
        stdoutTx := rest, writer := .writing (state.writer.buffer ++ [payload]) } := by
  unfold takeStdout
  simp only [Option.map_eq_some_iff, Prod.exists, Channel.recv_eq_some]
  exact exists_congr fun _ => exists_congr fun _ => and_congr_right fun _ => eq_comm

theorem writeStdout_eq_some :
    state.writeStdout = some next ↔ ∃ payload rest,
      state.writer = .writing (payload :: rest) ∧
      next = { state with
        writer := .writing rest, stdout := state.stdout ++ [payload] } := by
  unfold writeStdout
  cases state.writer with
  | waiting => simp
  | writing buffer => cases buffer <;> simp [eq_comm]

theorem flushed_eq_some :
    state.flushed = some next ↔ state.writer = .writing [] ∧
      next = { state with writer := .waiting } := by
  unfold flushed
  cases state.writer with
  | waiting => simp
  | writing buffer => cases buffer <;> simp [eq_comm]

theorem abort_cases (stepped : state.abort = some next) :
    (∀ chunk, state.receiver ≠ .forwarding chunk) ∧
      next = { state with
        receiver := .absent
        stdoutTx := Channel.empty
        writer := .waiting
        lingering := state.lingering ++ state.unfinished } := by
  unfold abort at stepped
  cases receiver : state.receiver with
  | absent => simp [receiver] at stepped
  | forwarding chunk => simp [receiver] at stepped
  | reading =>
      simp only [receiver, Option.some.injEq] at stepped
      exact ⟨by simp, stepped.symm⟩
  | locking chunk =>
      simp only [receiver, Option.some.injEq] at stepped
      exact ⟨by simp, stepped.symm⟩

theorem writeLingering_eq_some {index : Nat} :
    state.writeLingering index = some next ↔ ∃ payload rest,
      state.lingering[index]? = some (payload :: rest) ∧
      next = { state with
        lingering := state.lingering.set index rest, stdout := state.stdout ++ [payload] } := by
  unfold writeLingering
  cases state.lingering[index]? with
  | none => simp
  | some task => cases task <;> simp [eq_comm]

/-! ## The invariant of every run -/

/-- A marked chunk was passed on, was dropped or is being handed over, and the
hand-over follows its watermark. -/
structure Accounted (state : StdoutState) : Prop where
  outcome : ∀ chunk ∈ state.marked,
    chunk ∈ state.passedOn ∨ chunk ∈ state.dropped ∨ state.receiver = .forwarding chunk
  locked : ∀ chunk, state.receiver = .locking chunk → chunk.1 < 2 ^ 64
  inHand : ∀ chunk, state.receiver = .forwarding chunk → chunk ∈ state.marked ∧
    chunk.1 < 2 ^ 64 ∧ state.session.terminal.nextInSeq = (chunk.1 + 1) % 2 ^ 64

theorem accounted_init (sessionId : List UInt8) (passkey : String) :
    (init sessionId passkey).Accounted where
  outcome := by simp [init]
  locked := by simp [init]
  inHand := by simp [init]

/-- No chunk is handed over outside `forwarding`. -/
theorem Accounted.idle (accounted : state.Accounted)
    (idle : ∀ chunk, state.receiver ≠ .forwarding chunk) :
    ∀ chunk ∈ state.marked, chunk ∈ state.passedOn ∨ chunk ∈ state.dropped := by
  intro chunk member
  rcases accounted.outcome chunk member with passed | lost | handing
  · exact Or.inl passed
  · exact Or.inr lost
  · exact absurd handing (idle chunk)

theorem Accounted.step {action : StdoutAction} (accounted : state.Accounted)
    (stepped : state.step action = some next) : next.Accounted := by
  cases action with
  | spawn =>
      rcases spawn_eq_some.mp stepped with ⟨absent, rfl⟩
      have settled := accounted.idle (by simp [absent])
      exact ⟨fun chunk member => (settled chunk member).imp_right Or.inl, by simp, by simp⟩
  | read chunk =>
      rcases read_eq_some.mp stepped with ⟨reading, small, rfl⟩
      have settled := accounted.idle (by simp [reading])
      refine ⟨fun chunk member => (settled chunk member).imp_right Or.inl, ?_, by simp⟩
      intro taken holding
      cases holding
      exact small
  | mark =>
      rcases mark_eq_some.mp stepped with ⟨chunk, locking, rfl⟩
      have settled := accounted.idle (by simp [locking])
      refine ⟨?_, by simp, ?_⟩
      · intro other member
        rcases List.mem_append.mp member with earlier | latest
        · exact (settled other earlier).imp_right Or.inl
        · exact Or.inr (Or.inr (by rw [List.mem_singleton.mp latest]))
      · intro taken holding
        cases holding
        exact ⟨by simp, accounted.locked chunk locking, rfl⟩
  | forward =>
      rcases forward_eq_some.mp stepped with ⟨chunk, handing, ⟨sent, -, rfl⟩ | ⟨-, rfl⟩⟩
      · refine ⟨?_, by simp, by simp⟩
        intro other member
        rcases accounted.outcome other member with passed | lost | same
        · exact Or.inl (List.mem_append_left _ passed)
        · exact Or.inr (Or.inl lost)
        · rw [handing, PtyReceiver.forwarding.injEq] at same
          exact Or.inl (by simp [same])
      · refine ⟨?_, by simp, by simp⟩
        intro other member
        rcases accounted.outcome other member with passed | lost | same
        · exact Or.inl passed
        · exact Or.inr (Or.inl (List.mem_append_left _ lost))
        · rw [handing, PtyReceiver.forwarding.injEq] at same
          exact Or.inr (Or.inl (by simp [same]))
  | takeStdout =>
      rcases takeStdout_eq_some.mp stepped with ⟨payload, rest, -, rfl⟩
      exact ⟨accounted.outcome, accounted.locked, accounted.inHand⟩
  | writeStdout =>
      rcases writeStdout_eq_some.mp stepped with ⟨payload, rest, -, rfl⟩
      exact ⟨accounted.outcome, accounted.locked, accounted.inHand⟩
  | flushed =>
      rcases flushed_eq_some.mp stepped with ⟨-, rfl⟩
      exact ⟨accounted.outcome, accounted.locked, accounted.inHand⟩
  | abort =>
      rcases abort_cases stepped with ⟨idle, rfl⟩
      have settled := accounted.idle idle
      exact ⟨fun chunk member => (settled chunk member).imp_right Or.inl, by simp, by simp⟩
  | writeLingering index =>
      rcases writeLingering_eq_some.mp stepped with ⟨payload, rest, -, rfl⟩
      exact ⟨accounted.outcome, accounted.locked, accounted.inHand⟩
  | acknowledge acks =>
      cases stepped
      refine ⟨accounted.outcome, accounted.locked, ?_⟩
      intro chunk handing
      rw [SessionState.nextInSeq_applyServerAcks]
      exact accounted.inHand chunk handing
  | recordInput data =>
      cases stepped
      exact ⟨accounted.outcome, accounted.locked, accounted.inHand⟩

/-! ## Acknowledged output -/

/-- The step finds room in the stdout queue if it hands a chunk over. -/
def FindsRoom (state : StdoutState) : StdoutAction → Prop
  | .forward => state.stdoutTx.items.length < stdoutCapacity
  | _ => True

theorem dropped_step_iff {action : StdoutAction} (stepped : state.step action = some next) :
    next.dropped = [] ↔ state.dropped = [] ∧ state.FindsRoom action := by
  cases action with
  | forward =>
      rcases forward_eq_some.mp stepped with ⟨chunk, -, ⟨sent, accepted, rfl⟩ | ⟨refused, rfl⟩⟩
      · have room := (Channel.trySend_eq_some.mp accepted).1
        exact (and_iff_left room).symm
      · have full := Channel.trySend_eq_none.mp refused
        refine iff_of_false (by simp) ?_
        rintro ⟨-, room⟩
        exact absurd room (Nat.not_lt.mpr full)
  | spawn =>
      rcases spawn_eq_some.mp stepped with ⟨-, rfl⟩
      exact (and_iff_left trivial).symm
  | read chunk =>
      rcases read_eq_some.mp stepped with ⟨-, -, rfl⟩
      exact (and_iff_left trivial).symm
  | mark =>
      rcases mark_eq_some.mp stepped with ⟨chunk, -, rfl⟩
      exact (and_iff_left trivial).symm
  | takeStdout =>
      rcases takeStdout_eq_some.mp stepped with ⟨payload, rest, -, rfl⟩
      exact (and_iff_left trivial).symm
  | writeStdout =>
      rcases writeStdout_eq_some.mp stepped with ⟨payload, rest, -, rfl⟩
      exact (and_iff_left trivial).symm
  | flushed =>
      rcases flushed_eq_some.mp stepped with ⟨-, rfl⟩
      exact (and_iff_left trivial).symm
  | abort =>
      rcases abort_cases stepped with ⟨-, rfl⟩
      exact (and_iff_left trivial).symm
  | writeLingering index =>
      rcases writeLingering_eq_some.mp stepped with ⟨payload, rest, -, rfl⟩
      exact (and_iff_left trivial).symm
  | acknowledge | recordInput =>
      cases stepped
      exact (and_iff_left trivial).symm

/-- While nothing was dropped, the only chunk the watermark can cover too early
is the one between its mark and its hand-over. -/
theorem covered_passedOn_iff (accounted : state.Accounted) (nothing : state.dropped = []) :
    (∀ chunk ∈ state.marked, ∀ watermark, state.session.lastReceivedMap 0 = some watermark →
        chunk.1 ≤ watermark → chunk ∈ state.passedOn) ↔
      ∀ chunk, state.receiver = .forwarding chunk →
        chunk ∈ state.passedOn ∨ chunk.1 + 1 = 2 ^ 64 := by
  constructor
  · intro covered chunk handing
    rcases accounted.inHand chunk handing with ⟨member, small, cursor⟩
    by_cases last : chunk.1 + 1 = 2 ^ 64
    · exact Or.inr last
    · apply Or.inl
      apply covered chunk member chunk.1 _ (Nat.le_refl _)
      rw [SessionState.lastReceivedMap_zero, StreamState.lastReceived, cursor,
        Nat.mod_eq_of_lt (by omega)]
      simp
  · intro handed chunk member watermark reported below
    rcases accounted.outcome chunk member with passed | lost | handing
    · exact passed
    · rw [nothing] at lost
      contradiction
    · rcases handed chunk handing with passed | last
      · exact passed
      · -- The last 64-bit number wraps the cursor to zero: nothing is reported.
        rcases accounted.inHand chunk handing with ⟨-, -, cursor⟩
        rw [last, Nat.mod_self] at cursor
        simp [StreamState.lastReceived, cursor] at reported

/-- **The watermark covers only chunks that were passed on, and nothing was
dropped, exactly if every hand-over found room in the stdout queue and the
receive task is not between setting the watermark and handing the chunk over.** -/
theorem acknowledged_output_passed_on_iff {sessionId : List UInt8} {passkey : String}
    {actions : List StdoutAction} {final : StdoutState}
    (executed : run StdoutState.step (init sessionId passkey) actions = some final) :
    ((∀ chunk ∈ final.marked, ∀ watermark, final.session.lastReceivedMap 0 = some watermark →
        chunk.1 ≤ watermark → chunk ∈ final.passedOn) ∧ final.dropped = []) ↔
      Along StdoutState.step FindsRoom (init sessionId passkey) actions ∧
        ∀ chunk, final.receiver = .forwarding chunk →
          chunk ∈ final.passedOn ∨ chunk.1 + 1 = 2 ^ 64 := by
  have accounted := run_invariant (fun held stepped => Accounted.step held stepped)
    (accounted_init sessionId passkey) executed
  have latched := run_latch (fun held stepped => Accounted.step held stepped)
    (fun _ stepped => dropped_step_iff stepped) (accounted_init sessionId passkey) executed
  have initially : (init sessionId passkey).dropped = [] := rfl
  have kept := latched.trans (and_iff_right initially)
  rw [and_comm, and_congr_left fun _ => kept.symm]
  exact and_congr_right fun nothing => covered_passedOn_iff accounted nothing

/-- One chunk, passed on as soon as it is marked. -/
theorem acknowledged_chunk_passed_on :
    ∃ final,
      run StdoutState.step (init [] "") [.spawn, .read (1, [97]), .mark, .forward] = some final ∧
      final.marked = [(1, [97])] ∧
      ∀ chunk ∈ final.marked, ∀ watermark, final.session.lastReceivedMap 0 = some watermark →
        chunk.1 ≤ watermark → chunk ∈ final.passedOn := by
  have rooms : Along StdoutState.step FindsRoom (init [] "")
      [.spawn, .read (1, [97]), .mark, .forward] :=
    ⟨trivial, trivial, trivial, (by decide : 0 < stdoutCapacity), trivial⟩
  have reached : ∃ final,
      run StdoutState.step (init [] "") [.spawn, .read (1, [97]), .mark, .forward] =
        some final ∧ final.marked = [(1, [97])] ∧ final.receiver = .reading :=
    ⟨_, rfl, rfl, rfl⟩
  rcases reached with ⟨final, executed, marked, reading⟩
  have passed := (acknowledged_output_passed_on_iff executed).mpr
    ⟨rooms, by simp [reading]⟩
  exact ⟨final, executed, marked, passed.1⟩

/-! ## A stdout that does not keep up -/

/-- The steps of the receive task for a list of chunks, with the stdout task
blocked throughout. -/
def receiveAll (chunks : List Chunk) : List StdoutAction :=
  chunks.flatMap fun chunk => [.read chunk, .mark, .forward]

/-- A hand-over queues the chunk or drops it. -/
theorem exists_forward (state : StdoutState) {chunk : Chunk}
    (handing : state.receiver = .forwarding chunk) :
    ∃ next, state.forward = some next ∧ next.receiver = .reading ∧
      next.stdoutTx.items.length + next.dropped.length =
        state.stdoutTx.items.length + state.dropped.length + 1 := by
  cases answer : state.stdoutTx.trySend chunk.2 with
  | some sent =>
      have appended := (Channel.trySend_eq_some.mp answer).2
      refine ⟨_, forward_eq_some.mpr ⟨chunk, handing, Or.inl ⟨sent, answer, rfl⟩⟩, rfl, ?_⟩
      show sent.items.length + state.dropped.length = _
      rw [appended, List.length_append, List.length_singleton]
      omega
  | none =>
      refine ⟨_, forward_eq_some.mpr ⟨chunk, handing, Or.inr ⟨answer, rfl⟩⟩, rfl, ?_⟩
      show state.stdoutTx.items.length + (state.dropped ++ [chunk]).length = _
      rw [List.length_append, List.length_singleton]
      omega

/-- Every received chunk ends up queued or dropped. -/
theorem run_receiveAll (state : StdoutState) (chunks : List Chunk)
    (reading : state.receiver = .reading) (small : ∀ chunk ∈ chunks, chunk.1 < 2 ^ 64) :
    ∃ final, run StdoutState.step state (receiveAll chunks) = some final ∧
      final.receiver = .reading ∧
      final.stdoutTx.items.length + final.dropped.length =
        state.stdoutTx.items.length + state.dropped.length + chunks.length := by
  induction chunks generalizing state with
  | nil => exact ⟨state, rfl, reading, rfl⟩
  | cons chunk rest inductionHypothesis =>
      rcases List.forall_mem_cons.mp small with ⟨smallHead, smallTail⟩
      have readStep : state.step (.read chunk) =
          some { state with receiver := .locking chunk } :=
        read_eq_some.mpr ⟨reading, smallHead, rfl⟩
      rcases exists_forward { state with
          session := state.session.updateTerminal fun stream => stream.markReceived chunk.1
          receiver := .forwarding chunk
          marked := state.marked ++ [chunk] } rfl with ⟨next, forwarded, nextReading, counted⟩
      rcases inductionHypothesis next nextReading smallTail with
        ⟨final, executed, finalReading, total⟩
      refine ⟨final, ?_, finalReading, ?_⟩
      · apply run_cons_eq_some.mpr
        refine ⟨_, readStep, run_cons_eq_some.mpr ⟨_, rfl, ?_⟩⟩
        exact run_cons_eq_some.mpr ⟨next, forwarded, executed⟩
      · rw [total, counted, List.length_cons]
        show state.stdoutTx.items.length + state.dropped.length + 1 + rest.length = _
        omega

/-- A new connection that receives `chunks` while the stdout task is blocked. -/
theorem exists_receiveAll (chunks : List Chunk) (small : ∀ chunk ∈ chunks, chunk.1 < 2 ^ 64) :
    ∃ final, run StdoutState.step (init [] "") (.spawn :: receiveAll chunks) = some final ∧
      final.receiver = .reading ∧
      final.stdoutTx.items.length + final.dropped.length = chunks.length := by
  rcases run_receiveAll { init [] "" with receiver := .reading } chunks rfl small with
    ⟨final, executed, reading, total⟩
  refine ⟨final, run_cons_eq_some.mpr ⟨_, rfl, executed⟩, reading, ?_⟩
  rw [total]
  exact Nat.zero_add _

/-- 513 chunks are received while the stdout task is blocked: one is dropped. -/
theorem chunk_dropped_of_513 :
    ∃ final,
      run StdoutState.step (init [] "")
        (.spawn :: receiveAll (numberFrom 1 (List.replicate 513 [0]))) = some final ∧
      final.receiver = .reading ∧ final.dropped ≠ [] := by
  have small : ∀ chunk ∈ numberFrom 1 (List.replicate 513 [(0 : UInt8)]), chunk.1 < 2 ^ 64 := by
    intro chunk member
    have bounds := bounds_of_mem_numberFrom member
    rw [List.length_replicate] at bounds
    omega
  rcases exists_receiveAll _ small with ⟨final, executed, reading, total⟩
  refine ⟨final, executed, reading, fun nothing => ?_⟩
  have bounded : final.stdoutTx.items.length ≤ 512 := final.stdoutTx.bounded
  rw [nothing, List.length_nil, length_numberFrom, List.length_replicate] at total
  omega

end StdoutState

end Etr.Client
