import Etr.Library.Channel
import Etr.Library.Transition
import Etr.Protocol.Messages

/-!
Contract: the terminal size on its way from the kernel to the control stream.

Owns the transition system of `sigwinch_task` and `ctrl_send_task` of
`run_session` on one connection, and the exact schedules under which the last
size written is the current one.

Does not own what the server makes of a size. A task that ends takes the
connection with it, so only running tasks are modeled.
-/

namespace Etr.Client

open Etr.Library Etr.Protocol

/-- Sizes the resize queue holds. -/
def resizeCapacity : Nat := 4

/-- What `terminal::size` gives. -/
structure TerminalSize where
  cols : UInt16
  rows : UInt16
deriving DecidableEq, Repr

/-- `rows as u32`, `cols as u32`. -/
def TerminalSize.message (size : TerminalSize) : TerminalResize where
  rows := size.rows.toUInt32
  cols := size.cols.toUInt32

/-- Where `sigwinch_task` is. -/
inductive SigwinchTask where
  /-- Before `signal` made the stream. -/
  | starting
  /-- Waiting in `recv`. -/
  | waiting
  /-- Behind `recv`, before `terminal::size` answers. -/
  | reading
  /-- Between the answer and `try_send`. -/
  | sending (size : TerminalSize)
deriving DecidableEq, Repr

/-- Where `ctrl_send_task` is. -/
inductive CtrlSendTask where
  /-- Before the initial size is read. -/
  | starting
  /-- Writing a size, for as long as the stream takes. -/
  | writing (message : TerminalResize)
  /-- Waiting in `select!`. -/
  | selecting
  /-- Writing a heartbeat. -/
  | beating
deriving DecidableEq, Repr

/-- What the two tasks work on. -/
structure ResizeState where
  terminal : TerminalSize
  /-- A signal that the stream has not reported yet; signals are merged. -/
  signalled : Bool
  sigwinch : SigwinchTask
  resizeTx : Channel TerminalResize resizeCapacity
  ctrlSend : CtrlSendTask
  /-- Sizes written to the control stream. -/
  written : List TerminalResize
deriving DecidableEq

namespace ResizeState

/-- Both tasks are spawned. -/
def init (terminal : TerminalSize) : ResizeState where
  terminal := terminal
  signalled := false
  sigwinch := .starting
  resizeTx := Channel.empty
  ctrlSend := .starting
  written := []

/-! ## Steps -/

/-- The terminal changes its size; a stream there is records the signal. -/
def resize (state : ResizeState) (size : TerminalSize) : Option ResizeState :=
  some { state with
    terminal := size
    signalled := state.signalled || state.sigwinch != .starting }

/-- `signal(SignalKind::window_change())`: a stream without a past. -/
def register (state : ResizeState) : Option ResizeState :=
  match state.sigwinch with
  | .starting => some { state with sigwinch := .waiting, signalled := false }
  | _ => none

/-- `sigwinch.recv()` returns. -/
def receive (state : ResizeState) : Option ResizeState :=
  match state.sigwinch with
  | .waiting =>
      if state.signalled then some { state with sigwinch := .reading, signalled := false } else none
  | _ => none

/-- `terminal::size()`. -/
def readSize (state : ResizeState) : Option ResizeState :=
  match state.sigwinch with
  | .reading => some { state with sigwinch := .sending state.terminal }
  | _ => none

/-- `terminal::size()` fails, and the change is passed over. -/
def readFails (state : ResizeState) : Option ResizeState :=
  match state.sigwinch with
  | .reading => some { state with sigwinch := .waiting }
  | _ => none

/-- `resize_tx.try_send`; its result is ignored. -/
def offer (state : ResizeState) : Option ResizeState :=
  match state.sigwinch with
  | .sending size =>
      some { state with sigwinch := .waiting, resizeTx := state.resizeTx.offer size.message }
  | _ => none

/-- The control task reads the initial size. -/
def readInitial (state : ResizeState) : Option ResizeState :=
  match state.ctrlSend with
  | .starting => some { state with ctrlSend := .writing state.terminal.message }
  | _ => none

/-- There is no initial size, and nothing is written. -/
def readInitialFails (state : ResizeState) : Option ResizeState :=
  match state.ctrlSend with
  | .starting => some { state with ctrlSend := .selecting }
  | _ => none

/-- `select!` takes the resize branch. -/
def take (state : ResizeState) : Option ResizeState :=
  match state.ctrlSend with
  | .selecting => state.resizeTx.recv.map fun taken =>
      { state with ctrlSend := .writing taken.1, resizeTx := taken.2 }
  | _ => none

/-- `write_msg` returns. -/
def write (state : ResizeState) : Option ResizeState :=
  match state.ctrlSend with
  | .writing message =>
      some { state with ctrlSend := .selecting, written := state.written ++ [message] }
  | _ => none

/-- `select!` takes the heartbeat branch. -/
def beat (state : ResizeState) : Option ResizeState :=
  match state.ctrlSend with
  | .selecting => some { state with ctrlSend := .beating }
  | _ => none

/-- The heartbeat is written. -/
def writeBeat (state : ResizeState) : Option ResizeState :=
  match state.ctrlSend with
  | .beating => some { state with ctrlSend := .selecting }
  | _ => none

end ResizeState

/-- One atomic step of the terminal or of a task. -/
inductive ResizeAction where
  | resize (size : TerminalSize)
  | register
  | receive
  | readSize
  | readFails
  | offer
  | readInitial
  | readInitialFails
  | take
  | write
  | beat
  | writeBeat
deriving DecidableEq, Repr

def ResizeState.step (state : ResizeState) : ResizeAction → Option ResizeState
  | .resize size => state.resize size
  | .register => state.register
  | .receive => state.receive
  | .readSize => state.readSize
  | .readFails => state.readFails
  | .offer => state.offer
  | .readInitial => state.readInitial
  | .readInitialFails => state.readInitialFails
  | .take => state.take
  | .write => state.write
  | .beat => state.beat
  | .writeBeat => state.writeBeat

/-- The steps of a control task that goes on writing. -/
def ResizeAction.Writes (action : ResizeAction) : Prop :=
  action = .readInitial ∨ action = .take ∨ action = .write ∨ action = .beat ∨ action = .writeBeat

instance (action : ResizeAction) : Decidable action.Writes :=
  inferInstanceAs (Decidable (_ ∨ _))

/-! ## The last size written -/

namespace ResizeState

/-- A size change is not taken up yet. -/
def Outstanding (state : ResizeState) : Prop :=
  state.sigwinch ≠ .waiting ∨ state.signalled = true

instance (state : ResizeState) : Decidable state.Outstanding :=
  inferInstanceAs (Decidable (_ ∨ _))

/-- No size is on its way. -/
def Drained (state : ResizeState) : Prop :=
  state.resizeTx.items = [] ∧ (state.ctrlSend = .selecting ∨ state.ctrlSend = .beating)

/-- The last size written is the current one, unless one is still to come. -/
def Settles (state : ResizeState) : Prop :=
  ¬state.Outstanding → state.Drained → state.written.getLast? = some state.terminal.message

/-- It settles now, and whatever the control task still writes. -/
def LastWins (state : ResizeState) : Prop :=
  ∀ actions final, (∀ action ∈ actions, action.Writes) →
    run step state actions = some final → final.Settles

/-- The last size that the control task has written, is writing, or is to read. -/
def underway (state : ResizeState) : Option TerminalResize :=
  match state.ctrlSend with
  | .starting => some state.terminal.message
  | .writing message => some message
  | .selecting | .beating => state.written.getLast?

/-- The last of these and of the sizes that are queued. -/
def newest (state : ResizeState) : Option TerminalResize :=
  state.resizeTx.items.getLast?.or state.underway

/-- The newest size is the current one. -/
def UpToDate (state : ResizeState) : Prop :=
  state.newest = some state.terminal.message

instance (state : ResizeState) : Decidable state.UpToDate :=
  inferInstanceAs (Decidable (_ = _))

/-- The condition on a step. A stream that is made, and a size that cannot be
read or finds the queue full, must leave no change behind: another signal is
waiting, or the newest size is the current one. Where the initial size cannot be
read, a change is to follow. -/
def Keeps (state : ResizeState) : ResizeAction → Prop
  | .register => state.UpToDate
  | .readFails => state.signalled = true ∨ state.UpToDate
  | .offer => state.resizeTx.items.length < resizeCapacity ∨ state.signalled = true ∨
      state.UpToDate
  | .readInitialFails => state.Outstanding ∨ state.resizeTx.items ≠ []
  | _ => True

instance (state : ResizeState) : (action : ResizeAction) → Decidable (state.Keeps action)
  | .register => inferInstanceAs (Decidable state.UpToDate)
  | .readFails => inferInstanceAs (Decidable (_ ∨ _))
  | .offer => inferInstanceAs (Decidable (_ ∨ _))
  | .readInitialFails => inferInstanceAs (Decidable (_ ∨ _))
  | .resize _ | .receive | .readSize | .readInitial | .take | .write | .beat | .writeBeat =>
      isTrue trivial

/-! ## What each step can do -/

variable {state next : ResizeState}

theorem register_eq_some :
    state.register = some next ↔ state.sigwinch = .starting ∧
      next = { state with sigwinch := .waiting, signalled := false } := by
  unfold register
  cases state.sigwinch <;> simp [eq_comm]

theorem receive_eq_some :
    state.receive = some next ↔ state.sigwinch = .waiting ∧ state.signalled = true ∧
      next = { state with sigwinch := .reading, signalled := false } := by
  unfold receive
  cases state.sigwinch with
  | waiting =>
      by_cases signalled : state.signalled = true
      · simp [signalled, eq_comm]
      · simp [signalled]
  | _ => simp

theorem readSize_eq_some :
    state.readSize = some next ↔ state.sigwinch = .reading ∧
      next = { state with sigwinch := .sending state.terminal } := by
  unfold readSize
  cases state.sigwinch <;> simp [eq_comm]

theorem readFails_eq_some :
    state.readFails = some next ↔ state.sigwinch = .reading ∧
      next = { state with sigwinch := .waiting } := by
  unfold readFails
  cases state.sigwinch <;> simp [eq_comm]

theorem offer_eq_some :
    state.offer = some next ↔ ∃ size, state.sigwinch = .sending size ∧
      next = { state with
        sigwinch := .waiting, resizeTx := state.resizeTx.offer size.message } := by
  unfold offer
  cases state.sigwinch <;> simp [eq_comm]

theorem readInitial_eq_some :
    state.readInitial = some next ↔ state.ctrlSend = .starting ∧
      next = { state with ctrlSend := .writing state.terminal.message } := by
  unfold readInitial
  cases state.ctrlSend <;> simp [eq_comm]

theorem readInitialFails_eq_some :
    state.readInitialFails = some next ↔ state.ctrlSend = .starting ∧
      next = { state with ctrlSend := .selecting } := by
  unfold readInitialFails
  cases state.ctrlSend <;> simp [eq_comm]

theorem take_eq_some :
    state.take = some next ↔ state.ctrlSend = .selecting ∧ ∃ message rest,
      state.resizeTx.items = message :: rest.items ∧
      next = { state with ctrlSend := .writing message, resizeTx := rest } := by
  unfold take
  cases state.ctrlSend with
  | selecting =>
      simp only [true_and, Option.map_eq_some_iff, Prod.exists, Channel.recv_eq_some]
      exact exists_congr fun _ => exists_congr fun _ => and_congr_right fun _ => eq_comm
  | _ => simp

theorem write_eq_some :
    state.write = some next ↔ ∃ message, state.ctrlSend = .writing message ∧
      next = { state with ctrlSend := .selecting, written := state.written ++ [message] } := by
  unfold write
  cases state.ctrlSend <;> simp [eq_comm]

theorem beat_eq_some :
    state.beat = some next ↔ state.ctrlSend = .selecting ∧
      next = { state with ctrlSend := .beating } := by
  unfold beat
  cases state.ctrlSend <;> simp [eq_comm]

theorem writeBeat_eq_some :
    state.writeBeat = some next ↔ state.ctrlSend = .beating ∧
      next = { state with ctrlSend := .selecting } := by
  unfold writeBeat
  cases state.ctrlSend <;> simp [eq_comm]

/-! ## The control task only passes sizes on -/

theorem newest_of_queued {message : TerminalResize}
    (queued : state.resizeTx.items.getLast? = some message) : state.newest = some message := by
  rw [newest, queued, Option.some_or]

theorem newest_of_drained (drained : state.Drained) : state.newest = state.written.getLast? := by
  rw [newest, drained.1, List.getLast?_nil, Option.none_or, underway]
  rcases drained.2 with selecting | beating
  · rw [selecting]
  · rw [beating]

/-- A step of the control task, which neither changes the terminal nor a size
on its way. -/
theorem newest_of_writes {action : ResizeAction} (writes : action.Writes)
    (stepped : state.step action = some next) :
    next.newest = state.newest ∧ next.terminal = state.terminal ∧
      (next.Outstanding ↔ state.Outstanding) := by
  rcases writes with rfl | rfl | rfl | rfl | rfl
  · obtain ⟨starting, rfl⟩ := readInitial_eq_some.mp stepped
    refine ⟨?_, rfl, Iff.rfl⟩
    simp only [newest, underway, starting]
  · obtain ⟨selecting, message, rest, queued, rfl⟩ := take_eq_some.mp stepped
    refine ⟨?_, rfl, Iff.rfl⟩
    simp only [newest, underway, queued, List.getLast?_cons, Option.some_or]
    cases rest.items.getLast? <;> rfl
  · obtain ⟨message, writing, rfl⟩ := write_eq_some.mp stepped
    refine ⟨?_, rfl, Iff.rfl⟩
    simp only [newest, underway, writing, List.getLast?_concat]
  · obtain ⟨selecting, rfl⟩ := beat_eq_some.mp stepped
    refine ⟨?_, rfl, Iff.rfl⟩
    simp only [newest, underway, selecting]
  · obtain ⟨beating, rfl⟩ := writeBeat_eq_some.mp stepped
    refine ⟨?_, rfl, Iff.rfl⟩
    simp only [newest, underway, beating]

/-- However much the control task writes. -/
theorem newest_of_run {actions : List ResizeAction} {final : ResizeState}
    (writes : ∀ action ∈ actions, action.Writes) (executed : run step state actions = some final) :
    final.newest = state.newest ∧ final.terminal = state.terminal ∧
      (final.Outstanding ↔ state.Outstanding) := by
  induction actions generalizing state with
  | nil =>
      rw [run_nil, Option.some.injEq] at executed
      exact executed ▸ ⟨rfl, rfl, Iff.rfl⟩
  | cons action rest inductionHypothesis =>
      have parts := List.forall_mem_cons.mp writes
      obtain ⟨next, stepped, tailRun⟩ := run_cons_eq_some.mp executed
      have first := newest_of_writes parts.1 stepped
      have others := inductionHypothesis parts.2 tailRun
      exact ⟨others.1.trans first.1, others.2.1.trans first.2.1, others.2.2.trans first.2.2⟩

/-- What the control task still has to do, without new heartbeats. -/
def workLeft (state : ResizeState) : Nat :=
  2 * state.resizeTx.items.length +
    match state.ctrlSend with
    | .starting => 2
    | .writing _ => 1
    | .selecting => 0
    | .beating => 1

theorem workLeft_decreases {action : ResizeAction} (writes : action.Writes ∧ action ≠ .beat)
    (stepped : state.step action = some next) : next.workLeft < state.workLeft := by
  obtain ⟨rfl | rfl | rfl | rfl | rfl, noBeat⟩ := writes
  · obtain ⟨starting, rfl⟩ := readInitial_eq_some.mp stepped
    simp only [workLeft, starting]
    omega
  · obtain ⟨selecting, message, rest, queued, rfl⟩ := take_eq_some.mp stepped
    simp only [workLeft, selecting, queued, List.length_cons]
    omega
  · obtain ⟨message, writing, rfl⟩ := write_eq_some.mp stepped
    simp only [workLeft, writing]
    omega
  · contradiction
  · obtain ⟨beating, rfl⟩ := writeBeat_eq_some.mp stepped
    simp only [workLeft, beating]
    omega

/-- A control task that is not kept from writing drains the queue. -/
theorem exists_drained (state : ResizeState) :
    ∃ actions final, (∀ action ∈ actions, action.Writes) ∧
      run step state actions = some final ∧ final.Drained := by
  have decreases : ∀ {before action next}, (action.Writes ∧ action ≠ .beat) →
      step before action = some next → next.workLeft < before.workLeft := workLeft_decreases
  obtain ⟨actions, final, allowed, executed, quiet⟩ := exists_quiescent decreases state
  refine ⟨actions, final, fun action member => (allowed action member).1, executed, ?_⟩
  cases task : final.ctrlSend with
  | starting =>
      have stuck := quiet .readInitial (by decide)
      rw [step, readInitial, task] at stuck
      contradiction
  | writing message =>
      have stuck := quiet .write (by decide)
      rw [step, write, task] at stuck
      contradiction
  | selecting =>
      have stuck := quiet .take (by decide)
      rw [step, take, task] at stuck
      exact ⟨Channel.recv_eq_none.mp (Option.map_eq_none_iff.mp stuck), Or.inl task⟩
  | beating =>
      have stuck := quiet .writeBeat (by decide)
      rw [step, writeBeat, task] at stuck
      contradiction

/-- The last size wins exactly where the newest one is the current one. -/
theorem lastWins_iff : state.LastWins ↔ (¬state.Outstanding → state.UpToDate) := by
  constructor
  · intro lastWins settled
    obtain ⟨actions, final, writes, executed, drained⟩ := exists_drained state
    have kept := newest_of_run writes executed
    have written := lastWins actions final writes executed (mt kept.2.2.mp settled) drained
    rw [← newest_of_drained drained, kept.1, kept.2.1] at written
    exact written
  · intro upToDate actions final writes executed settled drained
    have kept := newest_of_run writes executed
    rw [← newest_of_drained drained, kept.1, kept.2.1]
    exact upToDate (mt kept.2.2.mpr settled)

/-! ## Every run -/

/-- A size that was read is the current one or will be read again, and before
the initial size nothing is written. -/
structure Consistent (state : ResizeState) : Prop where
  sent : ∀ size, state.sigwinch = .sending size → state.signalled = true ∨ size = state.terminal
  unwritten : state.ctrlSend = .starting → state.written = []

theorem consistent_init (terminal : TerminalSize) : (init terminal).Consistent where
  sent := by
    intro size sending
    cases sending
  unwritten := fun _ => rfl

theorem Consistent.step {action : ResizeAction} (consistent : state.Consistent)
    (stepped : state.step action = some next) : next.Consistent := by
  cases action with
  | resize size =>
      obtain rfl := Option.some.inj stepped
      refine ⟨?_, consistent.unwritten⟩
      intro read sending
      have started : state.sigwinch = .sending read := sending
      left
      show (state.signalled || state.sigwinch != .starting) = true
      rw [started]
      exact Bool.or_true _
  | register =>
      obtain ⟨-, rfl⟩ := register_eq_some.mp stepped
      refine ⟨?_, consistent.unwritten⟩
      intro read sending
      cases sending
  | receive =>
      obtain ⟨-, -, rfl⟩ := receive_eq_some.mp stepped
      refine ⟨?_, consistent.unwritten⟩
      intro read sending
      cases sending
  | readSize =>
      obtain ⟨-, rfl⟩ := readSize_eq_some.mp stepped
      refine ⟨?_, consistent.unwritten⟩
      intro size sending
      cases sending
      exact Or.inr rfl
  | readFails =>
      obtain ⟨-, rfl⟩ := readFails_eq_some.mp stepped
      refine ⟨?_, consistent.unwritten⟩
      intro read sending
      cases sending
  | offer =>
      obtain ⟨size, -, rfl⟩ := offer_eq_some.mp stepped
      refine ⟨?_, consistent.unwritten⟩
      intro read sending
      cases sending
  | readInitial =>
      obtain ⟨-, rfl⟩ := readInitial_eq_some.mp stepped
      refine ⟨consistent.sent, ?_⟩
      intro starting
      cases starting
  | readInitialFails =>
      obtain ⟨-, rfl⟩ := readInitialFails_eq_some.mp stepped
      refine ⟨consistent.sent, ?_⟩
      intro starting
      cases starting
  | take =>
      obtain ⟨-, message, rest, -, rfl⟩ := take_eq_some.mp stepped
      refine ⟨consistent.sent, ?_⟩
      intro starting
      cases starting
  | write =>
      obtain ⟨message, -, rfl⟩ := write_eq_some.mp stepped
      refine ⟨consistent.sent, ?_⟩
      intro starting
      cases starting
  | beat =>
      obtain ⟨-, rfl⟩ := beat_eq_some.mp stepped
      refine ⟨consistent.sent, ?_⟩
      intro starting
      cases starting
  | writeBeat =>
      obtain ⟨-, rfl⟩ := writeBeat_eq_some.mp stepped
      refine ⟨consistent.sent, ?_⟩
      intro starting
      cases starting

/-! ## What each step does to the newest size -/

/-- While a change is outstanding nothing is asked of the sizes. -/
theorem lastWins_of_outstanding (outstanding : state.Outstanding) : state.LastWins :=
  lastWins_iff.mpr fun settled => absurd outstanding settled

/-- Behind an answered signal it is asked unless another signal is waiting. -/
theorem lastWins_of_waiting (waiting : state.sigwinch = .waiting) :
    state.LastWins ↔ state.signalled = true ∨ state.UpToDate := by
  have settled : ¬state.Outstanding ↔ ¬state.signalled = true := by
    rw [Outstanding, waiting]
    simp only [ne_eq, not_true_eq_false, false_or]
  rw [lastWins_iff, settled, ← or_iff_not_imp_left]

theorem offer_lastWins_iff {size : TerminalSize} (consistent : state.Consistent)
    (sending : state.sigwinch = .sending size)
    (offered : next = { state with
      sigwinch := .waiting, resizeTx := state.resizeTx.offer size.message }) :
    next.LastWins ↔ state.Keeps .offer := by
  have waiting : next.sigwinch = .waiting := by rw [offered]
  have signalled : next.signalled = state.signalled := by rw [offered]
  have items : next.resizeTx.items =
      (state.resizeTx.items ++ [size.message]).take resizeCapacity := by
    rw [offered]
    exact Channel.items_offer
  rw [lastWins_of_waiting waiting, signalled, Keeps]
  by_cases room : state.resizeTx.items.length < resizeCapacity
  · -- the size that was read is the newest one, and the current one unless it changed since
    have queued : next.resizeTx.items.getLast? = some size.message := by
      rw [items, List.take_of_length_le (by rw [List.length_append]; exact room),
        List.getLast?_concat]
    simp only [room, true_or, iff_true]
    rcases consistent.sent size sending with again | current
    · exact Or.inl again
    · right
      rw [UpToDate, newest_of_queued queued, current, offered]
  · -- the queue is as it was, and its last size is the newest one
    have full : state.resizeTx.items.length = resizeCapacity :=
      Nat.le_antisymm state.resizeTx.bounded (not_lt.mp room)
    have same : next.resizeTx.items = state.resizeTx.items := by
      rw [items, List.take_append_of_le_length (Nat.le_of_eq full.symm),
        List.take_of_length_le state.resizeTx.bounded]
    have kept : next.UpToDate ↔ state.UpToDate := by
      rw [UpToDate, UpToDate, newest, newest, same, underway, underway, offered]
    rw [kept]
    simp only [room, false_or]

/-- **A step keeps the last size winning exactly where it meets its condition.** -/
theorem lastWins_step {action : ResizeAction} (consistent : state.Consistent)
    (lastWins : state.LastWins) (stepped : state.step action = some next) :
    next.LastWins ↔ state.Keeps action := by
  have current := lastWins_iff.mp lastWins
  have byControl : action.Writes → next.LastWins := by
    intro writes
    have kept := newest_of_writes writes stepped
    rw [lastWins_iff, kept.2.2, UpToDate, kept.1, kept.2.1]
    exact current
  cases action with
  | resize size =>
      obtain rfl := Option.some.inj stepped
      refine iff_of_true (lastWins_of_outstanding ?_) trivial
      by_cases starting : state.sigwinch = .starting
      · left
        show state.sigwinch ≠ .waiting
        rw [starting]
        decide
      · right
        show (state.signalled || state.sigwinch != .starting) = true
        rw [bne_iff_ne.mpr starting]
        exact Bool.or_true _
  | register =>
      obtain ⟨-, rfl⟩ := register_eq_some.mp stepped
      rw [lastWins_of_waiting rfl]
      simp only [Bool.false_eq_true, false_or]
      exact Iff.rfl
  | receive =>
      obtain ⟨-, -, rfl⟩ := receive_eq_some.mp stepped
      exact iff_of_true (lastWins_of_outstanding (Or.inl (by simp))) trivial
  | readSize =>
      obtain ⟨-, rfl⟩ := readSize_eq_some.mp stepped
      exact iff_of_true (lastWins_of_outstanding (Or.inl (by simp))) trivial
  | readFails =>
      obtain ⟨-, rfl⟩ := readFails_eq_some.mp stepped
      rw [lastWins_of_waiting rfl]
      exact Iff.rfl
  | offer =>
      obtain ⟨size, sending, rfl⟩ := offer_eq_some.mp stepped
      exact offer_lastWins_iff consistent sending rfl
  | readInitialFails =>
      obtain ⟨starting, rfl⟩ := readInitialFails_eq_some.mp stepped
      rw [lastWins_iff, Keeps]
      by_cases empty : state.resizeTx.items = []
      · -- nothing was written yet, so only a change that follows helps
        have unwritten := consistent.unwritten starting
        simp only [empty, ne_eq, not_true_eq_false, or_false, UpToDate, newest, underway,
          List.getLast?_nil, unwritten, Option.none_or, reduceCtorEq, imp_false, not_not]
        exact Iff.rfl
      · have queued : state.resizeTx.items.getLast? ≠ none := mt List.getLast?_eq_none_iff.mp empty
        obtain ⟨message, last⟩ := Option.ne_none_iff_exists'.mp queued
        simp only [ne_eq, empty, not_false_eq_true, or_true, iff_true]
        intro settled
        have newestBefore : state.newest = some message := newest_of_queued last
        have upToDate := current settled
        rw [UpToDate, newestBefore] at upToDate
        have newestAfter :
            ({ state with ctrlSend := .selecting } : ResizeState).newest = some message :=
          newest_of_queued last
        exact newestAfter.trans upToDate
  | readInitial => exact iff_of_true (byControl (by decide)) trivial
  | take => exact iff_of_true (byControl (by decide)) trivial
  | write => exact iff_of_true (byControl (by decide)) trivial
  | beat => exact iff_of_true (byControl (by decide)) trivial
  | writeBeat => exact iff_of_true (byControl (by decide)) trivial

/-! ## The exact schedules -/

theorem lastWins_init (terminal : TerminalSize) : (init terminal).LastWins :=
  lastWins_of_outstanding (Or.inl SigwinchTask.noConfusion)

/-- **The last resize wins in every state of a connection exactly if each step
meets its condition.** -/
theorem last_resize_wins_iff {terminal : TerminalSize} {actions : List ResizeAction}
    {final : ResizeState} (executed : run step (init terminal) actions = some final) :
    Throughout step LastWins (init terminal) actions ↔ Along step Keeps (init terminal) actions :=
  throughout_iff_along Consistent.step lastWins_step (consistent_init terminal)
    (lastWins_init terminal) executed

/-- A change that is read, offered and written. -/
theorem quietChange_wins :
    ∃ final, run step (init ⟨80, 24⟩) [.readInitial, .register, .write, .resize ⟨100, 30⟩,
        .receive, .readSize, .offer, .take, .write] = some final ∧
      final.written.getLast? = some ⟨30, 100⟩ ∧
      Throughout step LastWins (init ⟨80, 24⟩) [.readInitial, .register, .write,
        .resize ⟨100, 30⟩, .receive, .readSize, .offer, .take, .write] :=
  ⟨_, rfl, rfl, (last_resize_wins_iff rfl).mpr (by decide)⟩

/-- One size change after another, while the control task is held up. -/
def drag (sizes : List TerminalSize) : List ResizeAction :=
  sizes.flatMap fun size => [.resize size, .receive, .readSize, .offer]

/-- The fifth of five quick changes finds the queue full and is never written. -/
theorem fifthChange_lost :
    ∃ final, run step (init ⟨80, 24⟩)
        ([.readInitial, .register] ++
          drag [⟨81, 24⟩, ⟨82, 24⟩, ⟨83, 24⟩, ⟨84, 24⟩, ⟨85, 24⟩] ++
          [.write, .take, .write, .take, .write, .take, .write, .take, .write]) = some final ∧
      ¬final.Outstanding ∧ final.Drained ∧ final.terminal = ⟨85, 24⟩ ∧
      final.written.getLast? = some ⟨24, 84⟩ ∧ ¬final.Settles := by
  refine ⟨_, rfl, by decide, ⟨rfl, Or.inl rfl⟩, rfl, rfl, ?_⟩
  intro settles
  have last := settles (by decide) ⟨rfl, Or.inl rfl⟩
  contradiction

end ResizeState

end Etr.Client
