import Etr.Library.Channel
import Etr.Library.Transition
import Etr.Session.History
import Etr.Session.State

/-!
Contract: the client's stdin, from the shared channel to the send history.

Owns the transition system of the stdin thread and of the per-connection
`stdin_task` of `run_session`, across any number of connections, and the exact
cancellations under which a payload taken from the channel reaches the history.

Does not own the PTY stream the task writes to.
-/

namespace Etr.Client

open Etr.Library Etr.Session

/-- Payloads the shared stdin channel holds. -/
def stdinCapacity : Nat := 1000

/-- What the task takes in one turn of its loop. -/
inductive Input where
  | typed (payload : Payload)
  | endOfStdin
deriving DecidableEq, Repr

/-- The bytes relayed; the end of stdin is relayed as `VEOF`. -/
def Input.payload : Input → Payload
  | .typed payload => payload
  | .endOfStdin => [0x04]

/-- The payload that came out of the shared channel. -/
def Input.typed? : Input → Option Payload
  | .typed payload => some payload
  | .endOfStdin => none

/-- Where `stdin_task` is. -/
inductive StdinTask where
  /-- No connection runs the task. -/
  | absent
  /-- Waiting for the shared channel. -/
  | receiving
  /-- Waiting for the session lock with an input in a local variable. -/
  | locking (input : Input)
  /-- Writing a recorded chunk to the PTY stream. -/
  | writing (chunk : Chunk)
  /-- Holding the PTY stream open after the end of stdin. -/
  | parked
  | finished
deriving DecidableEq, Repr

/-- Client state the keystrokes pass through. -/
structure StdinState where
  session : SessionState
  hasRemoteCommand : Bool
  stdin : Channel Payload stdinCapacity
  /-- The stdin thread still holds the sender. -/
  stdinOpen : Bool
  task : StdinTask
  eofSignalled : Bool
  /-- History variable: every input the task took. -/
  taken : List Input
  /-- History variable: every input that was numbered and recorded. -/
  numbered : List Input

namespace StdinState

/-- State of `run_connection_loop` before the first connection. -/
def init (sessionId : List UInt8) (passkey : String) (hasRemoteCommand : Bool) : StdinState where
  session := SessionState.new sessionId passkey
  hasRemoteCommand := hasRemoteCommand
  stdin := Channel.empty
  stdinOpen := true
  task := .absent
  eofSignalled := false
  taken := []
  numbered := []

/-- The input held in a local variable of the task. -/
def inHand (state : StdinState) : List Input :=
  match state.task with
  | .locking input => [input]
  | _ => []

/-! ## Steps -/

/-- Stdin thread: send one payload, blocking while the channel is full. -/
def readStdin (state : StdinState) (payload : Payload) : Option StdinState :=
  if state.stdinOpen then
    (state.stdin.trySend payload).map fun sent => { state with stdin := sent }
  else
    none

/-- Stdin thread: end of input drops the sender. -/
def closeStdin (state : StdinState) : Option StdinState :=
  some { state with stdinOpen := false }

/-- `run_session` spawns the task. -/
def spawn (state : StdinState) : Option StdinState :=
  match state.task with
  | .absent => some { state with task := .receiving, eofSignalled := false }
  | _ => none

/-- `rx.recv()`: the oldest payload, or the end of stdin once the channel is
closed and drained. -/
def take (state : StdinState) : Option StdinState :=
  match state.task with
  | .receiving =>
      match state.stdin.recv with
      | some (payload, rest) =>
          some { state with
            stdin := rest
            task := .locking (.typed payload)
            taken := state.taken ++ [.typed payload] }
      | none =>
          if state.stdinOpen then
            none
          else if state.hasRemoteCommand then
            if state.eofSignalled then
              some { state with task := .parked }
            else
              some { state with
                task := .locking .endOfStdin
                eofSignalled := true
                taken := state.taken ++ [.endOfStdin] }
          else
            some { state with task := .finished }
  | _ => none

/-- The session lock is granted: number and record the payload. -/
def record (state : StdinState) : Option StdinState :=
  match state.task with
  | .locking input =>
      some { state with
        session := state.session.updateTerminal fun stream => stream.numberAndRecord input.payload
        task := .writing (state.session.terminal.nextOutSeq, input.payload)
        numbered := state.numbered ++ [input] }
  | _ => none

/-- `write_pty_chunk` returns; an error breaks the loop. -/
def written (state : StdinState) (accepted : Bool) : Option StdinState :=
  match state.task with
  | .writing _ => some { state with task := if accepted then .receiving else .finished }
  | _ => none

/-- `stdin_task.abort()` at whichever await point the task is. -/
def abort (state : StdinState) : Option StdinState :=
  match state.task with
  | .absent => none
  | _ => some { state with task := .absent }

/-- Connection setup or control reader: trim the history by the server's map. -/
def acknowledge (state : StdinState) (acks : WatermarkMap) : Option StdinState :=
  some { state with session := state.session.applyServerAcks acks }

/-- PTY receive task: advance the watermark of the other direction. -/
def receive (state : StdinState) (seq : Nat) : Option StdinState :=
  some { state with session := state.session.updateTerminal fun stream => stream.markReceived seq }

end StdinState

/-- One atomic step of the stdin thread, of the task or of a task it shares the
session lock with. -/
inductive StdinAction where
  | readStdin (payload : Payload)
  | closeStdin
  | spawn
  | take
  | record
  | written (accepted : Bool)
  | abort
  | acknowledge (acks : WatermarkMap)
  | receive (seq : Nat)

/-- Take one step, if it is enabled. -/
def StdinState.step (state : StdinState) : StdinAction → Option StdinState
  | .readStdin payload => state.readStdin payload
  | .closeStdin => state.closeStdin
  | .spawn => state.spawn
  | .take => state.take
  | .record => state.record
  | .written accepted => state.written accepted
  | .abort => state.abort
  | .acknowledge acks => state.acknowledge acks
  | .receive seq => state.receive seq

/-! ## What each step can do -/

namespace StdinState

variable {state next : StdinState}

theorem readStdin_eq_some {payload : Payload} :
    state.readStdin payload = some next ↔ state.stdinOpen = true ∧
      ∃ sent, state.stdin.trySend payload = some sent ∧ next = { state with stdin := sent } := by
  unfold readStdin
  by_cases opened : state.stdinOpen = true
  · rw [if_pos opened, Option.map_eq_some_iff]
    simp only [opened, true_and]
    exact exists_congr fun _ => and_congr_right fun _ => eq_comm
  · simp [opened]

theorem spawn_eq_some :
    state.spawn = some next ↔ state.task = .absent ∧
      next = { state with task := .receiving, eofSignalled := false } := by
  unfold spawn
  cases state.task <;> simp [eq_comm]

/-- The task takes the oldest payload, or relays the end of a closed and drained
channel once, then parks; without a remote command it finishes instead. -/
theorem take_cases (stepped : state.take = some next) :
    state.task = .receiving ∧
      ((∃ payload rest, state.stdin.items = payload :: rest.items ∧
          next = { state with
            stdin := rest
            task := .locking (.typed payload)
            taken := state.taken ++ [.typed payload] }) ∨
        (state.stdin.items = [] ∧ state.stdinOpen = false ∧
          ((state.hasRemoteCommand = true ∧ state.eofSignalled = false ∧
              next = { state with
                task := .locking .endOfStdin
                eofSignalled := true
                taken := state.taken ++ [.endOfStdin] }) ∨
            (state.hasRemoteCommand = true ∧ state.eofSignalled = true ∧
              next = { state with task := .parked }) ∨
            (state.hasRemoteCommand = false ∧ next = { state with task := .finished })))) := by
  unfold take at stepped
  cases progress : state.task with
  | receiving =>
      refine ⟨rfl, ?_⟩
      simp only [progress] at stepped
      cases received : state.stdin.recv with
      | some oldest =>
          obtain ⟨payload, rest⟩ := oldest
          simp only [received, Option.some.injEq] at stepped
          exact Or.inl ⟨payload, rest, Channel.recv_eq_some.mp received, stepped.symm⟩
      | none =>
          simp only [received] at stepped
          refine Or.inr ⟨Channel.recv_eq_none.mp received, ?_⟩
          cases opened : state.stdinOpen <;> cases remote : state.hasRemoteCommand <;>
            cases signalled : state.eofSignalled <;> simp_all
  | _ => simp [progress] at stepped

theorem record_eq_some :
    state.record = some next ↔ ∃ input, state.task = .locking input ∧
      next = { state with
        session := state.session.updateTerminal fun stream => stream.numberAndRecord input.payload
        task := .writing (state.session.terminal.nextOutSeq, input.payload)
        numbered := state.numbered ++ [input] } := by
  unfold record
  cases state.task <;> simp [eq_comm]

theorem written_eq_some {accepted : Bool} :
    state.written accepted = some next ↔ ∃ chunk, state.task = .writing chunk ∧
      next = { state with task := if accepted then .receiving else .finished } := by
  unfold written
  cases state.task <;> simp [eq_comm]

theorem abort_eq_some :
    state.abort = some next ↔ state.task ≠ .absent ∧ next = { state with task := .absent } := by
  unfold abort
  cases state.task <;> simp [eq_comm]

/-! ## The invariant of every run -/

/-- The history is a suffix of what was numbered, and what was numbered or is
in hand was taken, in order. -/
structure Tracked (state : StdinState) : Prop where
  window : ∃ dropped, Window (state.numbered.map Input.payload) dropped state.session.terminal
  accounted : (state.numbered ++ state.inHand).Sublist state.taken

theorem Tracked.step {action : StdinAction} (tracked : state.Tracked)
    (stepped : state.step action = some next) : next.Tracked := by
  obtain ⟨window, accounted⟩ := tracked
  cases action with
  | readStdin payload =>
      obtain ⟨-, sent, -, rfl⟩ := readStdin_eq_some.mp stepped
      exact ⟨window, accounted⟩
  | closeStdin =>
      cases stepped
      exact ⟨window, accounted⟩
  | spawn =>
      obtain ⟨absent, rfl⟩ := spawn_eq_some.mp stepped
      exact ⟨window, by simpa [inHand, absent] using accounted⟩
  | take =>
      obtain ⟨receiving, outcome⟩ := take_cases stepped
      have before : state.numbered.Sublist state.taken := by
        simpa [inHand, receiving] using accounted
      rcases outcome with ⟨payload, rest, -, rfl⟩ |
        ⟨-, -, ⟨-, -, rfl⟩ | ⟨-, -, rfl⟩ | ⟨-, rfl⟩⟩
      · exact ⟨window, before.append (List.Sublist.refl _)⟩
      · exact ⟨window, before.append (List.Sublist.refl _)⟩
      · exact ⟨window, by simpa [inHand] using before⟩
      · exact ⟨window, by simpa [inHand] using before⟩
  | record =>
      obtain ⟨input, locking, rfl⟩ := record_eq_some.mp stepped
      obtain ⟨dropped, held⟩ := window
      obtain ⟨kept, -, recorded, -⟩ := held.numberAndRecord input.payload
      refine ⟨⟨kept, ?_⟩, ?_⟩
      · rw [List.map_append]
        exact recorded
      · simpa [inHand, locking] using accounted
  | written accepted =>
      obtain ⟨chunk, writing, rfl⟩ := written_eq_some.mp stepped
      refine ⟨window, ?_⟩
      cases accepted <;> simpa [inHand, writing] using accounted
  | abort =>
      obtain ⟨-, rfl⟩ := abort_eq_some.mp stepped
      refine ⟨window, ?_⟩
      rw [inHand, List.append_nil]
      exact (List.sublist_append_left _ _).trans accounted
  | acknowledge acks =>
      cases stepped
      exact ⟨window_applyServerAcks window acks, accounted⟩
  | receive seq =>
      cases stepped
      obtain ⟨dropped, held⟩ := window
      exact ⟨⟨dropped, held.markReceived seq⟩, accounted⟩

/-! ## Cancellation -/

/-- The payloads that came out of the shared channel. -/
def typedPayloads (inputs : List Input) : List Payload := inputs.filterMap Input.typed?

/-- Every payload removed from the channel is recorded or still in hand. -/
def Recorded (state : StdinState) : Prop :=
  typedPayloads state.taken = typedPayloads (state.numbered ++ state.inHand)

end StdinState

end Etr.Client
