import Etr.Library.Transition
import Etr.Session.State
import Etr.Wire.Framing

/-!
Contract: what ends a client session and what the client does then.

Owns the transition system of one `run_session`: its setup operations, the
completion of its per-connection tasks, the `select!` over them, and how
`run_connection_loop` classifies the result. Owns exactly which first
completion makes a lost connection reconnect.

Does not own the payload the tasks relay.
-/

namespace Etr.Client

open Etr.Library Etr.Session Etr.Wire

/-- What the server sends on the control stream, as the client tells it apart. -/
inductive ServerEnvelope where
  | sessionAccept (lastReceivedSeq : WatermarkMap)
  | disconnect
  | heartbeat (lastReceivedSeq : WatermarkMap)
  | other

/-- `io::Result<()>`. -/
abbrev SessionResult := Except ErrorKind Unit

/-- The tasks `run_session` waits for. -/
inductive SessionTask where
  | ctrlReader
  | stdin
  | ptyRecv
  | ctrlSend
  | sigwinch
  | stdout
deriving DecidableEq, Repr

/-- What a task saw when it completed. -/
inductive Sighting where
  | readFailed (kind : ErrorKind)
  | streamEnded
  | writeFailed
  | disconnected
  | stdinEnded
  | signalsUnavailable
deriving DecidableEq, Repr

/-- How far `run_session` is. -/
inductive SessionStage where
  | openControl
  | writeControlTag
  | writeSessionOpen
  | readAccept
  | openPty (serverAcks : WatermarkMap)
  | writePtyTag (serverAcks : WatermarkMap)
  | replaying (rest : List Chunk)
  | running
  | returned (result : SessionResult)

structure SessionRun where
  session : SessionState
  hasRemoteCommand : Bool
  stage : SessionStage
  /-- What each completed task saw. -/
  saw : SessionTask → Option Sighting

/-- What `run_connection_loop` does with the result of a session. -/
inductive LoopStep where
  | exit (code : Nat)
  | reconnect
deriving DecidableEq, Repr

/-- The `match result` of `run_connection_loop`. -/
def afterSession (hasRemoteCommand : Bool) : SessionResult → LoopStep
  | .ok () => .exit 0
  | .error .connectionAborted => .exit 0
  | .error _ => if hasRemoteCommand then .exit 1 else .reconnect

namespace SessionRun

def init (session : SessionState) (hasRemoteCommand : Bool) : SessionRun where
  session := session
  hasRemoteCommand := hasRemoteCommand
  stage := .openControl
  saw := fun _ => none

/-- The result the arm of `select!` yields for a completed task. -/
def armResult : SessionTask → Sighting → SessionResult
  | .ctrlReader, .readFailed kind => .error kind
  | .ctrlReader, .disconnected => .error .connectionAborted
  | .ctrlReader, _ => .ok ()
  | .ptyRecv, .readFailed _ => .error .brokenPipe
  | .ptyRecv, _ => .ok ()
  | .stdin, _ | .ctrlSend, _ | .sigwinch, _ | .stdout, _ => .ok ()

/-! ## Steps -/

/-- A setup operation on a stream returns: `open_bi` and the tag writes map
every error to `Other`, the framed writes to `BrokenPipe`. -/
def streamOp (state : SessionRun) (succeeded : Bool) : Option SessionRun :=
  match state.stage, succeeded with
  | .openControl, true => some { state with stage := .writeControlTag }
  | .openControl, false => some { state with stage := .returned (.error .other) }
  | .writeControlTag, true => some { state with stage := .writeSessionOpen }
  | .writeControlTag, false => some { state with stage := .returned (.error .other) }
  | .writeSessionOpen, true => some { state with stage := .readAccept }
  | .writeSessionOpen, false => some { state with stage := .returned (.error .brokenPipe) }
  | .openPty serverAcks, true => some { state with stage := .writePtyTag serverAcks }
  | .openPty _, false => some { state with stage := .returned (.error .other) }
  | .writePtyTag serverAcks, true =>
      some { state with
        stage := .replaying ((state.session.collectReplays serverAcks 0).getD []) }
  | .writePtyTag _, false => some { state with stage := .returned (.error .other) }
  | .replaying (_ :: rest), true => some { state with stage := .replaying rest }
  | .replaying (_ :: _), false => some { state with stage := .returned (.error .brokenPipe) }
  | _, _ => none

/-- Read `SessionAccept` and trim the history by it. -/
def readAccept (decode : List UInt8 → Option ServerEnvelope) (state : SessionRun)
    (stream : RecvStream) : Option SessionRun :=
  match state.stage with
  | .readAccept =>
      match stream.readMsg decode with
      | .ok (some (.sessionAccept serverAcks, _)) =>
          some { state with
            session := state.session.applyServerAcks serverAcks
            stage := .openPty serverAcks }
      | .ok (some _) => some { state with stage := .returned (.error .invalidData) }
      | .ok none => some { state with stage := .returned (.error .unexpectedEof) }
      | .error kind => some { state with stage := .returned (.error kind) }
  | _ => none

/-- Everything is replayed: spawn the tasks. -/
def spawnTasks (state : SessionRun) : Option SessionRun :=
  match state.stage with
  | .replaying [] => some { state with stage := .running }
  | _ => none

/-- The task is spawned and has not completed. -/
def runs (state : SessionRun) (task : SessionTask) : Bool :=
  match state.stage, state.saw task with
  | .running, none => true
  | _, _ => false

def complete (state : SessionRun) (task : SessionTask) (sighting : Sighting) : SessionRun :=
  { state with
    saw := fun other => if other = task then some sighting else state.saw other }

/-- Control reader: one `read_msg`. -/
def ctrlRead (decode : List UInt8 → Option ServerEnvelope) (state : SessionRun)
    (stream : RecvStream) : Option SessionRun :=
  if state.runs .ctrlReader then
    match stream.readMsg decode with
    | .ok (some (.disconnect, _)) => some (state.complete .ctrlReader .disconnected)
    | .ok (some (.heartbeat acks, _)) =>
        some { state with session := state.session.applyServerAcks acks }
    | .ok (some _) => some state
    | .ok none => some (state.complete .ctrlReader .streamEnded)
    | .error kind => some (state.complete .ctrlReader (.readFailed kind))
  else
    none

/-- PTY receive task: one `read_pty_chunk`. -/
def ptyRead (state : SessionRun) (stream : RecvStream) : Option SessionRun :=
  if state.runs .ptyRecv then
    match stream.readPtyChunk with
    | .ok (some (chunk, _)) =>
        some { state with
          session := state.session.updateTerminal fun stream => stream.markReceived chunk.1 }
    | .ok none => some (state.complete .ptyRecv .streamEnded)
    | .error kind => some (state.complete .ptyRecv (.readFailed kind))
  else
    none

/-- Stdin task: one `write_pty_chunk`. -/
def stdinWrite (state : SessionRun) (succeeded : Bool) : Option SessionRun :=
  if state.runs .stdin then
    some (if succeeded then state else state.complete .stdin .writeFailed)
  else
    none

/-- Stdin task: the shared channel closed. With a remote command it parks. -/
def stdinEof (state : SessionRun) : Option SessionRun :=
  if state.runs .stdin then
    some (if state.hasRemoteCommand then state else state.complete .stdin .stdinEnded)
  else
    none

/-- Heartbeat and resize writer: one `write_msg`. -/
def ctrlWrite (state : SessionRun) (succeeded : Bool) : Option SessionRun :=
  if state.runs .ctrlSend then
    some (if succeeded then state else state.complete .ctrlSend .writeFailed)
  else
    none

/-- The window-change signal cannot be listened to. -/
def loseSignals (state : SessionRun) : Option SessionRun :=
  if state.runs .sigwinch then
    some (state.complete .sigwinch .signalsUnavailable)
  else
    none

/-- The `select!` takes a completed task; the stdin arm is disabled while a
remote command runs. -/
def select (state : SessionRun) (task : SessionTask) : Option SessionRun :=
  match state.stage, state.saw task with
  | .running, some sighting =>
      if task = .stdin ∧ state.hasRemoteCommand = true then
        none
      else
        some { state with stage := .returned (armResult task sighting) }
  | _, _ => none

end SessionRun

inductive SessionAction where
  | streamOp (succeeded : Bool)
  | readAccept (stream : RecvStream)
  | spawnTasks
  | ctrlRead (stream : RecvStream)
  | ptyRead (stream : RecvStream)
  | stdinWrite (succeeded : Bool)
  | stdinEof
  | ctrlWrite (succeeded : Bool)
  | loseSignals
  | select (task : SessionTask)
deriving DecidableEq, Repr

namespace SessionRun

variable {decode : List UInt8 → Option ServerEnvelope}

def step (decode : List UInt8 → Option ServerEnvelope) (state : SessionRun) :
    SessionAction → Option SessionRun
  | .streamOp succeeded => state.streamOp succeeded
  | .readAccept stream => state.readAccept decode stream
  | .spawnTasks => state.spawnTasks
  | .ctrlRead stream => state.ctrlRead decode stream
  | .ptyRead stream => state.ptyRead stream
  | .stdinWrite succeeded => state.stdinWrite succeeded
  | .stdinEof => state.stdinEof
  | .ctrlWrite succeeded => state.ctrlWrite succeeded
  | .loseSignals => state.loseSignals
  | .select task => state.select task

variable {state next : SessionRun}

/-! ## What each step can do -/

/-- A setup operation moves on without returning, or returns an error that is
not a clean disconnect. -/
def MovesOn (state next : SessionRun) : Prop :=
  next.hasRemoteCommand = state.hasRemoteCommand ∧ next.saw = state.saw ∧
    ((∀ result, next.stage ≠ .returned result) ∨
      ∃ kind, next.stage = .returned (.error kind) ∧ kind ≠ .connectionAborted)

theorem streamOp_movesOn {succeeded : Bool} (stepped : state.streamOp succeeded = some next) :
    state.MovesOn next := by
  unfold streamOp at stepped
  split at stepped
  all_goals first
    | contradiction
    | (cases stepped; exact ⟨rfl, rfl, Or.inr ⟨_, rfl, nofun⟩⟩)
    | (cases stepped; exact ⟨rfl, rfl, Or.inl nofun⟩)

theorem readAccept_movesOn {stream : RecvStream}
    (stepped : state.readAccept decode stream = some next) : state.MovesOn next := by
  unfold readAccept at stepped
  split at stepped
  · split at stepped
    · cases stepped
      exact ⟨rfl, rfl, Or.inl nofun⟩
    · cases stepped
      exact ⟨rfl, rfl, Or.inr ⟨_, rfl, nofun⟩⟩
    · cases stepped
      exact ⟨rfl, rfl, Or.inr ⟨_, rfl, nofun⟩⟩
    · rename_i kind failed
      cases stepped
      exact ⟨rfl, rfl, Or.inr ⟨kind, rfl, readMsg_error_kind failed⟩⟩
  · contradiction

theorem spawnTasks_movesOn (stepped : state.spawnTasks = some next) : state.MovesOn next := by
  unfold spawnTasks at stepped
  split at stepped
  · cases stepped
    exact ⟨rfl, rfl, Or.inl nofun⟩
  · contradiction

theorem running_of_runs {task : SessionTask} (running : state.runs task = true) :
    state.stage = .running := by
  unfold runs at running
  split at running
  · assumption
  · contradiction

/-- A step of a task leaves the session running and may complete the task. -/
def Works (state : SessionRun) (task : SessionTask) (possible : Sighting → Prop)
    (next : SessionRun) : Prop :=
  state.stage = .running ∧ next.stage = .running ∧
    next.hasRemoteCommand = state.hasRemoteCommand ∧
    (next.saw = state.saw ∨
      ∃ sighting, possible sighting ∧ next.saw = (state.complete task sighting).saw)

theorem ctrlRead_works {stream : RecvStream}
    (stepped : state.ctrlRead decode stream = some next) :
    state.Works .ctrlReader (fun sighting => sighting = .streamEnded ∨
      (∃ kind, sighting = .readFailed kind ∧ kind ≠ .connectionAborted) ∨
      (sighting = .disconnected ∧ ∃ rest, stream.readMsg decode = .ok (some (.disconnect, rest))))
      next := by
  unfold ctrlRead at stepped
  split at stepped
  · rename_i runs
    have running := running_of_runs runs
    split at stepped
    · rename_i rest read
      cases stepped
      exact ⟨running, running, rfl, Or.inr ⟨_, Or.inr (Or.inr ⟨rfl, rest, read⟩), rfl⟩⟩
    · cases stepped
      exact ⟨running, running, rfl, Or.inl rfl⟩
    · cases stepped
      exact ⟨running, running, rfl, Or.inl rfl⟩
    · cases stepped
      exact ⟨running, running, rfl, Or.inr ⟨_, Or.inl rfl, rfl⟩⟩
    · rename_i kind failed
      cases stepped
      exact ⟨running, running, rfl,
        Or.inr ⟨_, Or.inr (Or.inl ⟨kind, rfl, readMsg_error_kind failed⟩), rfl⟩⟩
  · contradiction

theorem ptyRead_works {stream : RecvStream} (stepped : state.ptyRead stream = some next) :
    state.Works .ptyRecv (fun sighting => sighting = .streamEnded ∨
      ∃ kind, sighting = .readFailed kind) next := by
  unfold ptyRead at stepped
  split at stepped
  · rename_i runs
    have running := running_of_runs runs
    split at stepped
    · cases stepped
      exact ⟨running, running, rfl, Or.inl rfl⟩
    · cases stepped
      exact ⟨running, running, rfl, Or.inr ⟨_, Or.inl rfl, rfl⟩⟩
    · rename_i kind failed
      cases stepped
      exact ⟨running, running, rfl, Or.inr ⟨_, Or.inr ⟨kind, rfl⟩, rfl⟩⟩
  · contradiction

/-- A task that works and, unless it goes on, completes with one sighting. -/
theorem works_of_ite (goesOn : Bool) {task : SessionTask} {sighting : Sighting}
    (stepped : (if state.runs task then
      some (if goesOn then state else state.complete task sighting) else none) = some next) :
    state.Works task (· = sighting) next := by
  split at stepped
  · rename_i runs
    have running := running_of_runs runs
    cases stepped
    cases goesOn
    · exact ⟨running, running, rfl, Or.inr ⟨sighting, rfl, rfl⟩⟩
    · exact ⟨running, running, rfl, Or.inl rfl⟩
  · contradiction

theorem select_cases {task : SessionTask} (stepped : state.select task = some next) :
    state.stage = .running ∧ ∃ sighting, state.saw task = some sighting ∧
      next = { state with stage := .returned (armResult task sighting) } := by
  unfold select at stepped
  split at stepped
  · rename_i sighting running seen
    split at stepped
    · contradiction
    · cases stepped
      exact ⟨running, sighting, seen, rfl⟩
  · contradiction

/-! ## The invariant of a failing session -/

/-- The session does not end in order: no `Disconnect` is read and stdin does
not end. -/
def NoOrdinaryEnd (decode : List UInt8 → Option ServerEnvelope) (_ : SessionRun) :
    SessionAction → Prop
  | .ctrlRead stream => ∀ rest, stream.readMsg decode ≠ .ok (some (.disconnect, rest))
  | .stdinEof => False
  | _ => True

/-- Only the two readers see read errors, none of them a clean disconnect, and
no completion is a disconnect or the end of stdin. -/
structure Failing (state : SessionRun) : Prop where
  interactive : state.hasRemoteCommand = false
  failed : ∀ task kind, state.saw task = some (.readFailed kind) →
    task = .ptyRecv ∨ task = .ctrlReader ∧ kind ≠ .connectionAborted
  seen : ∀ task sighting, state.saw task = some sighting →
    (∃ kind, sighting = .readFailed kind) ∨ sighting = .streamEnded ∨
      sighting = .writeFailed ∨ sighting = .signalsUnavailable

theorem Failing.movesOn (failing : state.Failing) (moved : state.MovesOn next) :
    next.Failing := by
  rcases moved with ⟨sameKind, sameSaw, -⟩
  exact ⟨sameKind.trans failing.interactive, sameSaw ▸ failing.failed, sameSaw ▸ failing.seen⟩

theorem Failing.works {task : SessionTask} {possible : Sighting → Prop}
    (failing : state.Failing) (worked : state.Works task possible next)
    (fails : ∀ kind, possible (.readFailed kind) →
      task = .ptyRecv ∨ task = .ctrlReader ∧ kind ≠ .connectionAborted)
    (sees : ∀ sighting, possible sighting →
      (∃ kind, sighting = .readFailed kind) ∨ sighting = .streamEnded ∨
        sighting = .writeFailed ∨ sighting = .signalsUnavailable) : next.Failing := by
  rcases worked with ⟨-, -, sameKind, sameSaw | ⟨sighting, allowed, completed⟩⟩
  · exact ⟨sameKind.trans failing.interactive, sameSaw ▸ failing.failed,
      sameSaw ▸ failing.seen⟩
  · refine ⟨sameKind.trans failing.interactive, ?_, ?_⟩
    · intro other kind saw
      rw [completed] at saw
      by_cases same : other = task
      · simp only [complete, if_pos same, Option.some.injEq] at saw
        subst saw same
        exact fails kind allowed
      · simp only [complete, if_neg same] at saw
        exact failing.failed other kind saw
    · intro other shown saw
      rw [completed] at saw
      by_cases same : other = task
      · simp only [complete, if_pos same, Option.some.injEq] at saw
        subst saw
        exact sees sighting allowed
      · simp only [complete, if_neg same] at saw
        exact failing.seen other shown saw

/-- A task that completes with a failed write, or without signals. -/
theorem Failing.works_unread {task : SessionTask} {sighting : Sighting}
    (failing : state.Failing) (worked : state.Works task (· = sighting) next)
    (unread : sighting = .writeFailed ∨ sighting = .signalsUnavailable) : next.Failing := by
  apply failing.works worked
  · intro kind possible
    rw [← possible] at unread
    rcases unread with failed | lost <;> contradiction
  · intro shown same
    rw [same]
    exact Or.inr (Or.inr unread)

theorem Failing.step {action : SessionAction} (failing : state.Failing)
    (unended : NoOrdinaryEnd decode state action)
    (stepped : step decode state action = some next) : next.Failing := by
  cases action with
  | streamOp succeeded => exact failing.movesOn (streamOp_movesOn stepped)
  | readAccept stream => exact failing.movesOn (readAccept_movesOn stepped)
  | spawnTasks => exact failing.movesOn (spawnTasks_movesOn stepped)
  | ctrlRead stream =>
      apply failing.works (ctrlRead_works stepped)
      · intro kind possible
        rcases possible with ended | ⟨same, named, fine⟩ | ⟨disconnected, -⟩
        · contradiction
        · cases named
          exact Or.inr ⟨rfl, fine⟩
        · contradiction
      · intro sighting possible
        rcases possible with ended | ⟨kind, failed, -⟩ | ⟨-, rest, read⟩
        · exact Or.inr (Or.inl ended)
        · exact Or.inl ⟨kind, failed⟩
        · exact absurd read (unended rest)
  | ptyRead stream =>
      apply failing.works (ptyRead_works stepped)
      · intro kind _
        exact Or.inl rfl
      · intro sighting possible
        rcases possible with ended | failed
        · exact Or.inr (Or.inl ended)
        · exact Or.inl failed
  | stdinWrite succeeded => exact failing.works_unread (works_of_ite _ stepped) (Or.inl rfl)
  | ctrlWrite succeeded => exact failing.works_unread (works_of_ite _ stepped) (Or.inl rfl)
  | stdinEof => exact absurd unended id
  | loseSignals => exact failing.works_unread (works_of_ite false stepped) (Or.inr rfl)
  | select task =>
      rcases select_cases stepped with ⟨-, sighting, -, rfl⟩
      exact ⟨failing.interactive, failing.failed, failing.seen⟩

/-! ## Reconnecting -/

/-- A decoder that reads every message as an empty `SessionAccept`. -/
def acceptOnly : List UInt8 → Option ServerEnvelope := fun _ => some (.sessionAccept fun _ => none)

/-- The setup of a session with nothing to replay. -/
def establish : List SessionAction :=
  [.streamOp true, .streamOp true, .streamOp true, .readAccept ⟨[0, 0, 0, 0], .lost⟩,
    .streamOp true, .streamOp true, .spawnTasks]

/-- A new session that has been set up: all of its tasks run. -/
def established : SessionRun where
  session := (SessionState.new [] "").applyServerAcks fun _ => none
  hasRemoteCommand := false
  stage := .running
  saw := fun _ => none

end SessionRun

end Etr.Client
