import Etr.Session.Stream

/-!
Contract: the relay between one local stream and one QUIC stream.

Owns the two tasks of a relay function, the `select!` that ends it, the relay
functions of both programs, and what one step of a relay does to the bytes it
carries.

Does not own what is connected to a relay.
-/

namespace Etr.Forward

/-- One direction of a stream, as its reader sees it. -/
structure ByteStream where
  /-- Written and not yet read, oldest first. -/
  bytes : List UInt8
  /-- Nothing is written behind `bytes`. -/
  finished : Bool

/-- Where a task of a relay is. -/
inductive RelayTask where
  | reading
  /-- Inside `write_all`, with the rest still to be written. -/
  | writing (rest : List UInt8) (unwritten : rest ≠ [])
  /-- Ended, or aborted. -/
  | done

/-- One task of a relay, between the stream it reads and the one it writes. -/
structure RelayHalf where
  input : ByteStream
  task : RelayTask
  output : ByteStream

theorem take_ne_nil {bytes : List UInt8} {count : Nat} (positive : 0 < count)
    (available : count ≤ bytes.length) : bytes.take count ≠ [] := by
  apply List.ne_nil_of_length_pos
  rw [List.length_take, Nat.min_eq_left available]
  exact positive

namespace RelayHalf

/-! ## Steps of one task -/

/-- `read` returns up to a buffer full of what has arrived. -/
def read (bufferSize : Nat) (half : RelayHalf) (count : Nat) : Option RelayHalf :=
  match half.task with
  | .reading =>
      if allowed : 0 < count ∧ count ≤ bufferSize ∧ count ≤ half.input.bytes.length then
        some { half with
          input := { half.input with bytes := half.input.bytes.drop count }
          task := .writing (half.input.bytes.take count) (take_ne_nil allowed.1 allowed.2.2) }
      else
        none
  | .writing _ _ | .done => none

/-- `write_all` gets some of the rest written, and returns once it is all. -/
def write (half : RelayHalf) (count : Nat) : Option RelayHalf :=
  match half.task with
  | .writing rest _ =>
      if 0 < count ∧ count ≤ rest.length then
        some { half with
          task :=
            if unwritten : rest.drop count ≠ [] then .writing (rest.drop count) unwritten
            else .reading
          output := { half.output with bytes := half.output.bytes ++ rest.take count } }
      else
        none
  | .reading | .done => none

/-- `read` meets the end of the stream: finish the output and end. -/
def endOfInput (half : RelayHalf) : Option RelayHalf :=
  match half.task, half.input.bytes, half.input.finished with
  | .reading, [], true =>
      some { half with task := .done, output := { half.output with finished := true } }
  | _, _, _ => none

/-- Abort the task. Dropping its writer finishes the output. -/
def abort (half : RelayHalf) : RelayHalf :=
  { half with task := .done, output := { half.output with finished := true } }

/-- `write_all` fails: leave the loop, finish the output and end. -/
def writeFails (half : RelayHalf) : Option RelayHalf :=
  match half.task with
  | .writing _ _ => some half.abort
  | .reading | .done => none

end RelayHalf

/-- The two tasks of a relay. -/
inductive RelayDirection where
  /-- `t1`: from the local stream to the QUIC stream. -/
  | outgoing
  /-- `t2`: from the QUIC stream to the local stream. -/
  | incoming
deriving DecidableEq, Repr

structure RelayState where
  outgoing : RelayHalf
  incoming : RelayHalf
  /-- The relay function has returned. -/
  returned : Bool

inductive RelayAction where
  | read (direction : RelayDirection) (count : Nat)
  | write (direction : RelayDirection) (count : Nat)
  | endOfInput (direction : RelayDirection)
  /-- The peer stopped the QUIC stream. -/
  | writeFails
  | select
deriving DecidableEq, Repr

namespace RelayState

/-- A step of one of the two tasks. -/
def onHalf (state : RelayState) (direction : RelayDirection)
    (advance : RelayHalf → Option RelayHalf) : Option RelayState :=
  match direction with
  | .outgoing => (advance state.outgoing).map fun half => { state with outgoing := half }
  | .incoming => (advance state.incoming).map fun half => { state with incoming := half }

/-- The `select!` takes the first task that ended, both are aborted and the
relay returns. -/
def select (state : RelayState) : Option RelayState :=
  match state.outgoing.task, state.incoming.task with
  | .done, _ | _, .done =>
      some { outgoing := state.outgoing.abort, incoming := state.incoming.abort, returned := true }
  | _, _ => none

end RelayState

/-- A relay with read buffers of `bufferSize` bytes. -/
def relay (bufferSize : Nat) (state : RelayState) (action : RelayAction) : Option RelayState :=
  match state.returned, action with
  | true, _ => none
  | false, .read direction count =>
      state.onHalf direction fun half => half.read bufferSize count
  | false, .write direction count => state.onHalf direction fun half => half.write count
  | false, .endOfInput direction => state.onHalf direction RelayHalf.endOfInput
  | false, .writeFails => state.onHalf .outgoing RelayHalf.writeFails
  | false, .select => state.select

/-! ## The relay functions -/

/-- Client: a forwarded TCP connection. -/
def runTcpConnectionQuic : RelayState → RelayAction → Option RelayState := relay (256 * 1024)

/-- Server: a forwarded TCP connection. -/
def pipeTcpQuic : RelayState → RelayAction → Option RelayState := relay (256 * 1024)

/-- Server: an X11 connection, behind its setup block. -/
def pipeGenericQuic : RelayState → RelayAction → Option RelayState := relay (256 * 1024)

/-- How the client reaches the local X server. -/
inductive X11Stream where
  | unix
  | tcp
deriving DecidableEq, Repr

/-- Client: an X11 connection. -/
def runX11ConnectionQuic : X11Stream → RelayState → RelayAction → Option RelayState
  | .unix => relay (256 * 1024)
  | .tcp => relay (256 * 1024)

/-! ## What each step can do -/

/-- The bytes a task has read and not written. -/
def RelayTask.hand : RelayTask → List UInt8
  | .writing rest _ => rest
  | .reading | .done => []

/-- How often the task can still end. -/
def RelayTask.turns : RelayTask → Nat
  | .reading | .writing _ _ => 1
  | .done => 0

@[simp] theorem RelayTask.hand_done : RelayTask.done.hand = [] := rfl

@[simp] theorem RelayTask.turns_done : RelayTask.done.turns = 0 := rfl

namespace RelayHalf

variable {half next : RelayHalf}

/-- Everything on the way through one half, oldest first. -/
def carried (half : RelayHalf) : List UInt8 :=
  half.output.bytes ++ half.task.hand ++ half.input.bytes

/-- One task moves bytes forward or ends, and keeps what it carries. -/
structure Moves (half next : RelayHalf) : Prop where
  carries : next.carried = half.carried
  lengths : ∃ taken put, next.input.bytes.length + taken = half.input.bytes.length ∧
    next.task.hand.length + put = half.task.hand.length + taken ∧
    next.output.bytes.length = half.output.bytes.length + put ∧
    next.task.turns ≤ half.task.turns ∧ next.task.turns < half.task.turns + taken + put

theorem read_moves {bufferSize count : Nat} (stepped : half.read bufferSize count = some next) :
    half.Moves next := by
  unfold read at stepped
  split at stepped
  · rename_i reading
    split at stepped
    · rename_i allowed
      cases stepped
      refine ⟨?_, count, 0, ?_⟩
      · simp [carried, reading, RelayTask.hand]
      · simp only [reading, RelayTask.hand, RelayTask.turns, List.length_drop, List.length_take,
          List.length_nil, Nat.le_refl, true_and]
        omega
    · contradiction
  · contradiction
  · contradiction

theorem write_moves {count : Nat} (stepped : half.write count = some next) :
    half.Moves next := by
  unfold write at stepped
  split at stepped
  · rename_i rest unwritten writing
    split at stepped
    · rename_i allowed
      cases stepped
      by_cases more : rest.drop count ≠ []
      · refine ⟨?_, 0, count, ?_⟩
        · simp [carried, writing, more, RelayTask.hand]
        · simp only [writing, dif_pos more, RelayTask.hand, RelayTask.turns, List.length_append,
            List.length_take, List.length_drop, Nat.le_refl, true_and]
          omega
      · have all : rest.length ≤ count := List.drop_eq_nil_iff.mp (Classical.not_not.mp more)
        refine ⟨?_, 0, count, ?_⟩
        · simp [carried, writing, more, RelayTask.hand, List.take_of_length_le all]
        · simp only [writing, dif_neg more, RelayTask.hand, RelayTask.turns, List.length_append,
            List.length_take, List.length_nil, Nat.le_refl, true_and]
          omega
    · contradiction
  · contradiction
  · contradiction

theorem endOfInput_moves (stepped : half.endOfInput = some next) : half.Moves next := by
  unfold endOfInput at stepped
  split at stepped
  · rename_i reading empty finished
    cases stepped
    refine ⟨?_, 0, 0, ?_⟩
    · simp [carried, reading, RelayTask.hand]
    · simp [reading, RelayTask.hand, RelayTask.turns]
  · contradiction

theorem writeFails_cases (stepped : half.writeFails = some next) :
    half.task.turns = 1 ∧ next = half.abort := by
  unfold writeFails at stepped
  split at stepped
  · rename_i rest unwritten writing
    cases stepped
    rw [writing]
    exact ⟨rfl, rfl⟩
  · contradiction
  · contradiction

/-- A running task that can neither read nor write holds nothing. -/
theorem idle_of_stuck {bufferSize : Nat} (roomy : 0 < bufferSize)
    (running : half.task ≠ .done) (noRead : ∀ count, half.read bufferSize count = none)
    (noWrite : ∀ count, half.write count = none) :
    half.task.hand = [] ∧ half.input.bytes = [] := by
  cases task : half.task with
  | done => exact absurd task running
  | reading =>
      refine ⟨rfl, ?_⟩
      cases bytes : half.input.bytes with
      | nil => rfl
      | cons byte rest =>
          have stuck := noRead 1
          have allowed : 1 ≤ bufferSize ∧ 1 ≤ half.input.bytes.length := by
            rw [bytes, List.length_cons]
            omega
          simp [read, task, allowed] at stuck
  | writing rest unwritten =>
      have stuck := noWrite rest.length
      have positive : 0 < rest.length := List.length_pos_iff.mpr unwritten
      simp [write, task, positive] at stuck

end RelayHalf

namespace RelayState

variable {state next : RelayState}

/-- A step that moves one of the halves. -/
def MovesHalf (state next : RelayState) : Prop :=
  (∃ half, state.outgoing.Moves half ∧ next = { state with outgoing := half }) ∨
    ∃ half, state.incoming.Moves half ∧ next = { state with incoming := half }

theorem onHalf_movesHalf {direction : RelayDirection} {advance : RelayHalf → Option RelayHalf}
    (moves : ∀ {half moved}, advance half = some moved → half.Moves moved)
    (stepped : state.onHalf direction advance = some next) : state.MovesHalf next := by
  cases direction with
  | outgoing =>
      rcases Option.map_eq_some_iff.mp stepped with ⟨half, advanced, rfl⟩
      exact Or.inl ⟨half, moves advanced, rfl⟩
  | incoming =>
      rcases Option.map_eq_some_iff.mp stepped with ⟨half, advanced, rfl⟩
      exact Or.inr ⟨half, moves advanced, rfl⟩

theorem select_cases (stepped : state.select = some next) : next =
    { outgoing := state.outgoing.abort, incoming := state.incoming.abort, returned := true } := by
  unfold select at stepped
  split at stepped
  · cases stepped
    rfl
  · cases stepped
    rfl
  · contradiction

/-- A relay cannot select while both of its tasks run. -/
theorem running_of_select_none (stuck : state.select = none) :
    state.outgoing.task ≠ .done ∧ state.incoming.task ≠ .done := by
  unfold select at stuck
  split at stuck
  · contradiction
  · contradiction
  · rename_i outgoing incoming
    exact ⟨outgoing, incoming⟩

end RelayState

section Relay

variable {bufferSize : Nat} {state next : RelayState} {action : RelayAction}

/-- A relay that has not returned moves one of its halves, has its QUIC write
fail, or returns. -/
theorem relay_cases (stepped : relay bufferSize state action = some next) :
    state.returned = false ∧
      ((action ≠ .writeFails ∧ action ≠ .select ∧ state.MovesHalf next) ∨
        (action = .writeFails ∧ state.outgoing.task.turns = 1 ∧
          next = { state with outgoing := state.outgoing.abort }) ∨
        (action = .select ∧ next =
          { outgoing := state.outgoing.abort, incoming := state.incoming.abort,
            returned := true })) := by
  unfold relay at stepped
  split at stepped
  · contradiction
  · rename_i returned
    have moved := RelayState.onHalf_movesHalf RelayHalf.read_moves stepped
    exact ⟨returned, Or.inl ⟨nofun, nofun, moved⟩⟩
  · rename_i returned
    have moved := RelayState.onHalf_movesHalf RelayHalf.write_moves stepped
    exact ⟨returned, Or.inl ⟨nofun, nofun, moved⟩⟩
  · rename_i returned
    have moved := RelayState.onHalf_movesHalf RelayHalf.endOfInput_moves stepped
    exact ⟨returned, Or.inl ⟨nofun, nofun, moved⟩⟩
  · rename_i returned
    rcases Option.map_eq_some_iff.mp stepped with ⟨half, failed, rfl⟩
    rcases RelayHalf.writeFails_cases failed with ⟨running, rfl⟩
    exact ⟨returned, Or.inr (Or.inl ⟨rfl, running, rfl⟩)⟩
  · rename_i returned
    exact ⟨returned, Or.inr (Or.inr ⟨rfl, RelayState.select_cases stepped⟩)⟩

/-- A relay that cannot take a step of its own holds nothing. -/
theorem idle_of_relay_stuck (roomy : 0 < bufferSize) (running : state.returned = false)
    (stuck : ∀ action, action ≠ .writeFails → relay bufferSize state action = none) :
    (state.outgoing.task.hand = [] ∧ state.outgoing.input.bytes = []) ∧
      (state.incoming.task.hand = [] ∧ state.incoming.input.bytes = []) := by
  have noSelect := stuck .select nofun
  simp only [relay, running] at noSelect
  rcases RelayState.running_of_select_none noSelect with ⟨outgoing, incoming⟩
  constructor
  · apply RelayHalf.idle_of_stuck roomy outgoing
    · intro count
      have noRead := stuck (.read .outgoing count) nofun
      simpa only [relay, running, RelayState.onHalf, Option.map_eq_none_iff] using noRead
    · intro count
      have noWrite := stuck (.write .outgoing count) nofun
      simpa only [relay, running, RelayState.onHalf, Option.map_eq_none_iff] using noWrite
  · apply RelayHalf.idle_of_stuck roomy incoming
    · intro count
      have noRead := stuck (.read .incoming count) nofun
      simpa only [relay, running, RelayState.onHalf, Option.map_eq_none_iff] using noRead
    · intro count
      have noWrite := stuck (.write .incoming count) nofun
      simpa only [relay, running, RelayState.onHalf, Option.map_eq_none_iff] using noWrite

end Relay

end Etr.Forward
