import Etr.Server.AcceptLoop

/-!
Contract: the reconnect window under an explicit clock.

Owns the accept loop with the times of its steps and the limits its timeouts
put on them, that the loop can always go on to the end of the window, and
exactly the schedules of failing connections that leave that end where the last
authenticated connection put it.

Does not own the time steps take by themselves: a step that is due happens at
its time.
-/

namespace Etr.Server

open Etr.Library

/-! ## The clock -/

/-- `HANDSHAKE_TIMEOUT`, in milliseconds. -/
def handshakeTimeout : Nat := 10000

def sessionOpenTimeout : Nat := 10000

/-- How long the loop waits for a pending client once the shell has exited. -/
def gracePeriod : Nat := 1000

structure TimedState where
  server : ServerState
  now : Nat
  /-- When the loop came to where it is. -/
  since : Nat
  /-- When the shell-exit flag was set. -/
  flaggedAt : Nat

structure TimedAction where
  time : Nat
  action : ServerAction

variable {config : ServerConfig} {window : Nat} {state next final : TimedState}
  {actions rest : List TimedAction}

namespace TimedState

/-- When what the loop waits under runs out. The `select!` at its head
builds a new one in each turn. -/
def deadline (window : Nat) (state : TimedState) : Option Nat :=
  match state.server.phase with
  | .selecting =>
      if state.server.shared.watcher.shellExited then
        some (max state.since state.flaggedAt + gracePeriod)
      else
        some (state.since + window)
  | .handshaking _ => some (state.since + handshakeTimeout)
  | .opening _ => some (state.since + sessionOpenTimeout)
  -- Behind a failed connection the loop goes back to its head without waiting.
  | .returned _ _ _ => some state.since
  | .connected _ _ _ | .loggingOut | .done => none

/-- The control handshake of the connection being handled times out. -/
def timesOut (config : ServerConfig) (state : TimedState) : Bool :=
  match state.server.phase with
  | .opening peer =>
      match authenticate config.credentials peer.opening with
      | .error .timedOut => true
      | _ => false
  | _ => false

/-- A timeout is reported when it runs out. -/
def due (config : ServerConfig) (window : Nat) (state : TimedState) (time : Nat) :
    ServerAction → Bool
  | .loop .windowExpired => state.deadline window == some time
  | .loop (.conclude _) => !state.timesOut config || state.deadline window == some time
  | _ => true

/-- Times do not decrease, nothing happens behind a timeout that ran out, and a
timeout is reported at its time. -/
def Permitted (config : ServerConfig) (window : Nat) (state : TimedState)
    (timed : TimedAction) : Prop :=
  state.now ≤ timed.time ∧
    (state.deadline window).all (fun limit => decide (timed.time ≤ limit)) = true ∧
    state.due config window timed.time timed.action = true

instance (timed : TimedAction) : Decidable (state.Permitted config window timed) :=
  inferInstanceAs (Decidable (_ ∧ _ ∧ _))

/-- When the loop comes to where the step leads it. -/
def arrival (state : TimedState) (timed : TimedAction) : Nat :=
  match timed.action with
  | .loop _ => timed.time
  | .background _ => state.since

def flagTime (state : TimedState) (timed : TimedAction) : Nat :=
  match timed.action with
  | .background .raiseFlag => timed.time
  | _ => state.flaggedAt

def step (config : ServerConfig) (window : Nat) (state : TimedState) (timed : TimedAction) :
    Option TimedState :=
  if state.Permitted config window timed then
    (state.server.step config timed.action).map fun server =>
      { server := server
        now := timed.time
        since := state.arrival timed
        flaggedAt := state.flagTime timed }
  else
    none

theorem step_eq_some {timed : TimedAction} : state.step config window timed = some next ↔
    state.Permitted config window timed ∧
      ∃ server, state.server.step config timed.action = some server ∧
        next = ⟨server, timed.time, state.arrival timed, state.flagTime timed⟩ := by
  unfold step
  split
  · rename_i permitted
    simp [permitted, @eq_comm _ next]
  · rename_i forbidden
    exact iff_of_false (by simp) fun both => forbidden both.1

end TimedState

/-! ## Schedules of failing connections -/

/-- A step in which whoever connects fails its control handshake. The shell goes
on, no signal is delivered, and the endpoint stays open. -/
def TimedAction.Failing (config : ServerConfig) (timed : TimedAction) : Prop :=
  match timed.action with
  | .loop (.accept peer) => peer.opening.Fails config.credentials
  | .loop .endpointClosed | .background .raiseFlag | .background .raiseSignal => False
  | _ => True

/-- A schedule in which every connection fails, from when the loop comes to its
head. -/
structure FailingSchedule (config : ServerConfig) where
  start : TimedState
  idle : start.server.phase = .selecting
  opened : start.now = start.since
  shellRuns : start.server.shared.watcher.shellExited = false
  unsignalled : start.server.shared.signalled = false
  actions : List TimedAction
  fails : ∀ timed ∈ actions, timed.Failing config

/-- When the step turns a connection away: its QUIC handshake failed, or the
loop is through with it. -/
def TimedAction.turnedAway? (timed : TimedAction) : Option Nat :=
  match timed.action with
  | .loop (.refuse _) | .loop (.afterConnection _) => some timed.time
  | _ => none

/-- The times at which connections are turned away. -/
def turnAways (actions : List TimedAction) : List Nat :=
  actions.filterMap TimedAction.turnedAway?

/-- The reconnect window expires. -/
def windowExpires (expiry : Nat) : TimedAction :=
  ⟨expiry, .loop .windowExpired⟩

/-- The loop was left. -/
def LoopPhase.Left : LoopPhase → Prop
  | .loggingOut | .done => True
  | _ => False

namespace TimedState

/-- The loop is busy with a connection at the given time. -/
def AttemptAt (config : ServerConfig) (window : Nat) (start : TimedState)
    (actions : List TimedAction) (time : Nat) : Prop :=
  ∃ before after middle, actions = before ++ after ∧
    run (step config window) start before = some middle ∧
    middle.server.phase.peer?.isSome ∧ middle.now ≤ time ∧
    ∀ timed ∈ after, time ≤ timed.time

/-- The window, which opened at the start, expires at `expiry` in time: no later
than its length after it opened, plus the handshake timeouts of a connection
the loop is busy with then. -/
def ExpiresInTime (config : ServerConfig) (window : Nat) (start : TimedState)
    (actions : List TimedAction) (expiry : Nat) : Prop :=
  expiry ≤ start.since + window ∨
    AttemptAt config window start actions (start.since + window) ∧
      expiry ≤ start.since + window + (handshakeTimeout + sessionOpenTimeout)

/-- The loop leaves by the expired window, in time. -/
def LeavesInTime (config : ServerConfig) (window : Nat) (start : TimedState)
    (actions : List TimedAction) : Prop :=
  ∃ expiry, windowExpires expiry ∈ actions ∧ ExpiresInTime config window start actions expiry

/-- The clock is past the time by which the loop has to leave. -/
def Overdue (config : ServerConfig) (window : Nat) (start : TimedState)
    (actions : List TimedAction) (final : TimedState) : Prop :=
  start.since + window < final.now ∧
    (AttemptAt config window start actions (start.since + window) →
      start.since + window + (handshakeTimeout + sessionOpenTimeout) < final.now)

/-- The run is long enough to tell: the window has expired, or should have. -/
def Decided (config : ServerConfig) (window : Nat) (start : TimedState)
    (actions : List TimedAction) (final : TimedState) : Prop :=
  (∃ expiry, windowExpires expiry ∈ actions) ∨ Overdue config window start actions final

/-- The times at which the loop is through with a connection; one that it is
still busy with counts up to now. -/
def attemptEnds (actions : List TimedAction) (final : TimedState) : List Nat :=
  turnAways actions ++ if final.server.phase.peer?.isSome then [final.now] else []

/-- The loop is through with every connection by the time the window opened, or
within the handshake timeouts if it is busy when the window should expire. -/
def NotPostponed (config : ServerConfig) (window : Nat) (start : TimedState)
    (actions : List TimedAction) (final : TimedState) : Prop :=
  ∀ time ∈ attemptEnds actions final, time ≤ start.since ∨
    AttemptAt config window start actions (start.since + window) ∧
      time ≤ start.since + (handshakeTimeout + sessionOpenTimeout)

/-- From here the loop leaves by the expired window if nobody connects. -/
def CanExpire (config : ServerConfig) (window : Nat) (state : TimedState) : Prop :=
  ∃ later expiry final, run (step config window) state (later ++ [windowExpires expiry]) =
      some final ∧
    ∀ timed ∈ later, timed.Failing config ∧ ∀ peer, timed.action ≠ .loop (.accept peer)

/-- Who the loop is busy with fails, and is turned away. -/
def Turning (config : ServerConfig) : LoopPhase → Prop
  | .selecting => True
  | .handshaking peer | .opening peer => peer.opening.Fails config.credentials
  | .returned _ clean _ => clean = false
  | .connected _ _ _ | .loggingOut | .done => False

/-- The loop waits for a client that does not come. -/
structure Waiting (config : ServerConfig) (window : Nat) (state : TimedState) : Prop where
  shellRuns : state.server.shared.watcher.shellExited = false
  unsignalled : state.server.shared.signalled = false
  turning : Turning config state.server.phase
  timely : ∀ limit, state.deadline window = some limit → state.now ≤ limit

/-! ## What a turn of the loop does to its timeout -/

variable {timed : TimedAction}

/-- The loop comes back to its head by turning a connection away. -/
theorem turns_away_of_selecting {server after : ServerState} {action : LoopAction}
    (stepped : server.step config (.loop action) = some after)
    (selecting : after.phase = .selecting) :
    (∃ id, action = .refuse id) ∨ ∃ id, action = .afterConnection id := by
  cases action with
  | refuse id => exact Or.inl ⟨id, rfl⟩
  | afterConnection id => exact Or.inr ⟨id, rfl⟩
  | accept peer =>
      obtain ⟨-, rfl⟩ := ServerState.accept_eq_some.mp stepped
      contradiction
  | establish id =>
      obtain ⟨peer, -, -, rfl⟩ := ServerState.establish_eq_some.mp stepped
      contradiction
  | conclude id =>
      obtain ⟨peer, -, -, ⟨reason, -, rfl⟩ | ⟨so, -, rfl⟩⟩ :=
        ServerState.conclude_eq_some.mp stepped
      all_goals contradiction
  | advance action =>
      obtain ⟨peer, so, stage, ⟨shared, progress⟩, -, -, rfl⟩ :=
        ServerState.advance_eq_some.mp stepped
      cases progress <;> contradiction
  | handleSignal =>
      obtain ⟨-, ⟨-, -, rfl⟩ | ⟨-, rfl⟩⟩ := ServerState.handleSignal_eq_some.mp stepped
      all_goals contradiction
  | windowExpired =>
      obtain ⟨-, -, rfl⟩ := ServerState.stopAccepting_eq_some.mp stepped
      contradiction
  | endpointClosed =>
      obtain ⟨-, -, rfl⟩ := ServerState.stopAccepting_eq_some.mp stepped
      contradiction
  | graceEnds =>
      obtain ⟨-, -, rfl⟩ := ServerState.graceEnds_eq_some.mp stepped
      contradiction
  | loopLogout =>
      obtain ⟨-, rfl⟩ := ServerState.loopLogout_eq_some.mp stepped
      contradiction

/-- A step that turns nobody away and leaves the loop at its head runs beside it. -/
theorem since_of_kept (kept : timed.turnedAway? = none)
    (stepped : state.step config window timed = some next)
    (selecting : next.server.phase = .selecting) :
    state.server.phase = .selecting ∧ next.since = state.since := by
  obtain ⟨-, server, moved, rfl⟩ := step_eq_some.mp stepped
  obtain ⟨time, action⟩ := timed
  cases action with
  | background action =>
      obtain ⟨shared, -, rfl⟩ := ServerState.background_eq_some.mp moved
      exact ⟨selecting, rfl⟩
  | loop action =>
      rcases turns_away_of_selecting moved selecting with ⟨id, rfl⟩ | ⟨id, rfl⟩
      all_goals contradiction

/-- A turned-away connection starts a new window. -/
theorem since_of_turnedAway {time : Nat} (turned : timed.turnedAway? = some time)
    (stepped : state.step config window timed = some next) :
    next.since = time ∧ next.now = time := by
  obtain ⟨-, server, -, rfl⟩ := step_eq_some.mp stepped
  obtain ⟨time', action⟩ := timed
  unfold TimedAction.turnedAway? at turned
  split at turned
  · rename_i same
    cases same
    cases turned
    exact ⟨rfl, rfl⟩
  · rename_i same
    cases same
    cases turned
    exact ⟨rfl, rfl⟩
  · contradiction

theorem now_of_step (stepped : state.step config window timed = some next) :
    state.now ≤ timed.time ∧ next.now = timed.time := by
  obtain ⟨permitted, server, -, rfl⟩ := step_eq_some.mp stepped
  exact ⟨permitted.1, rfl⟩

/-- The window expires when the timeout of the last turn runs out. -/
theorem expiry_eq {expiry : Nat}
    (stepped : state.step config window (windowExpires expiry) = some next) :
    state.server.phase = .selecting ∧ expiry = state.since + window ∧
      next.server.phase = .loggingOut := by
  obtain ⟨permitted, server, moved, rfl⟩ := step_eq_some.mp stepped
  obtain ⟨selecting, running, rfl⟩ := ServerState.stopAccepting_eq_some.mp moved
  have reported := permitted.2.2
  simp only [windowExpires, due, deadline, selecting, running, Bool.false_eq_true, if_false,
    beq_iff_eq, Option.some.injEq] at reported
  exact ⟨selecting, reported.symm, rfl⟩

/-! ## What a step of a failing schedule does -/

/-- A timeout does not run out before the loop comes to it. -/
theorem since_le_deadline {limit : Nat} (limited : state.deadline window = some limit) :
    state.since ≤ limit := by
  unfold deadline at limited
  split at limited
  · split at limited
    · cases limited
      omega
    · cases limited
      omega
  · cases limited
    omega
  · cases limited
    omega
  · cases limited
    exact Nat.le_refl _
  · cases limited
  · cases limited
  · cases limited

/-- While the shell goes on, the timeout depends on the loop alone. -/
theorem deadline_congr (samePhase : next.server.phase = state.server.phase)
    (sameSince : next.since = state.since)
    (runs : state.server.shared.watcher.shellExited = false)
    (stillRuns : next.server.shared.watcher.shellExited = false) :
    next.deadline window = state.deadline window := by
  simp only [deadline, samePhase, sameSince, runs, stillRuns, Bool.false_eq_true, if_false]

theorem calm_of_background {shared after : SharedState} {action : BackgroundAction} {time : Nat}
    (fails : (⟨time, .background action⟩ : TimedAction).Failing config)
    (runs : shared.watcher.shellExited = false) (unsignalled : shared.signalled = false)
    (stepped : shared.step config action = some after) :
    after.watcher.shellExited = false ∧ after.signalled = false := by
  cases action with
  | readPty data =>
      simp only [SharedState.step, SharedState.readPty] at stepped
      split at stepped
      · contradiction
      · cases stepped
        exact ⟨runs, unsignalled⟩
  | forwardPty =>
      simp only [SharedState.step, SharedState.forwardPty] at stepped
      split at stepped
      · contradiction
      · rcases Option.map_eq_some_iff.mp stepped with ⟨slot, -, rfl⟩
        exact ⟨runs, unsignalled⟩
  | writePtyInput =>
      rcases Option.map_eq_some_iff.mp stepped with ⟨taken, -, rfl⟩
      exact ⟨runs, unsignalled⟩
  | endPtyInput =>
      cases stepped
      exact ⟨runs, unsignalled⟩
  | notify =>
      obtain ⟨-, slot, -, rfl⟩ := SharedState.notify_eq_some.mp stepped
      exact ⟨rfl, unsignalled⟩
  | raiseFlag => exact absurd fails id
  | watcherLogout =>
      obtain ⟨flagged, -⟩ := SharedState.watcherLogout_eq_some.mp stepped
      rw [flagged] at runs
      cases runs
  | recordLogin =>
      obtain ⟨fd, remoteAddr, -, -, rfl⟩ := SharedState.recordLogin_eq_some.mp stepped
      exact ⟨runs, unsignalled⟩
  | raiseSignal => exact absurd fails id

/-- The loop waits on, or leaves because the window expires. -/
theorem waiting_of_step (waiting : state.Waiting config window) (fails : timed.Failing config)
    (stepped : state.step config window timed = some next) :
    (next.Waiting config window ∧ timed.action ≠ .loop .windowExpired) ∨
      timed.action = .loop .windowExpired := by
  obtain ⟨permitted, server, moved, rfl⟩ := step_eq_some.mp stepped
  obtain ⟨time, action⟩ := timed
  obtain ⟨runs, unsignalled, turning, timely⟩ := waiting
  cases action with
  | background action =>
      obtain ⟨shared, sideStep, rfl⟩ := ServerState.background_eq_some.mp moved
      obtain ⟨stillRuns, stillUnsignalled⟩ :=
        calm_of_background fails runs unsignalled sideStep
      refine Or.inl ⟨⟨stillRuns, stillUnsignalled, turning, ?_⟩, nofun⟩
      intro limit limited
      have sameLimit : deadline window ⟨{ state.server with shared := shared }, time,
          arrival state ⟨time, .background action⟩, flagTime state ⟨time, .background action⟩⟩ =
            state.deadline window := deadline_congr rfl rfl runs stillRuns
      have intime := permitted.2.1
      rw [← sameLimit, limited] at intime
      exact of_decide_eq_true intime
  | loop action =>
      -- A step of the loop starts the timeout it goes on under.
      have timely' : ∀ limit, deadline window
          ⟨server, time, time, flagTime state ⟨time, .loop action⟩⟩ = some limit → time ≤ limit :=
        fun limit limited => since_le_deadline limited
      cases action with
      | accept peer =>
          obtain ⟨-, rfl⟩ := ServerState.accept_eq_some.mp moved
          exact Or.inl ⟨⟨runs, unsignalled, fails, timely'⟩, nofun⟩
      | refuse id =>
          obtain ⟨peer, -, -, rfl⟩ := ServerState.refuse_eq_some.mp moved
          exact Or.inl ⟨⟨runs, unsignalled, trivial, timely'⟩, nofun⟩
      | establish id =>
          obtain ⟨peer, handshaking, -, rfl⟩ := ServerState.establish_eq_some.mp moved
          rw [handshaking] at turning
          exact Or.inl ⟨⟨runs, unsignalled, turning, timely'⟩, nofun⟩
      | conclude id =>
          obtain ⟨peer, opening, -, ⟨reason, -, rfl⟩ | ⟨so, accepted, -⟩⟩ :=
            ServerState.conclude_eq_some.mp moved
          · exact Or.inl ⟨⟨runs, unsignalled, rfl, timely'⟩, nofun⟩
          · rw [opening] at turning
            exact absurd (authenticate_eq_ok.mp accepted) (turning so)
      | advance action =>
          obtain ⟨peer, so, stage, -, connected, -⟩ := ServerState.advance_eq_some.mp moved
          rw [connected] at turning
          exact absurd turning id
      | afterConnection id =>
          obtain ⟨peer, clean, reason, returned, -, rfl⟩ :=
            ServerState.afterConnection_eq_some.mp moved
          rw [returned] at turning
          cases turning
          exact Or.inl ⟨⟨runs, unsignalled, trivial, timely'⟩, nofun⟩
      | handleSignal =>
          obtain ⟨signalled, -⟩ := ServerState.handleSignal_eq_some.mp moved
          rw [signalled] at unsignalled
          cases unsignalled
      | windowExpired => exact Or.inr rfl
      | endpointClosed => exact absurd fails id
      | graceEnds =>
          obtain ⟨-, exited, -⟩ := ServerState.graceEnds_eq_some.mp moved
          rw [exited] at runs
          cases runs
      | loopLogout =>
          obtain ⟨leaving, -⟩ := ServerState.loopLogout_eq_some.mp moved
          rw [leaving] at turning
          exact absurd turning id

/-- Behind its end the loop turns nobody away, and no window expires. -/
theorem left_of_step (left : state.server.phase.Left)
    (stepped : state.step config window timed = some next) :
    next.server.phase.Left ∧ timed.turnedAway? = none ∧
      timed.action ≠ .loop .windowExpired := by
  obtain ⟨-, server, moved, rfl⟩ := step_eq_some.mp stepped
  obtain ⟨time, action⟩ := timed
  have stopped : state.server.phase = .loggingOut ∨ state.server.phase = .done := by
    cases phase : state.server.phase with
    | loggingOut => exact .inl rfl
    | done => exact .inr rfl
    | selecting | handshaking _ | opening _ | connected _ _ _ | returned _ _ _ =>
        rw [phase] at left
        exact absurd left id
  cases action with
  | background action =>
      obtain ⟨shared, -, rfl⟩ := ServerState.background_eq_some.mp moved
      exact ⟨left, rfl, nofun⟩
  | loop action =>
      cases action with
      | loopLogout =>
          obtain ⟨-, rfl⟩ := ServerState.loopLogout_eq_some.mp moved
          exact ⟨trivial, rfl, nofun⟩
      | _ =>
          rcases stopped with stopped | stopped
          all_goals
            simp [ServerState.step, ServerState.loopStep, ServerState.accept, ServerState.refuse,
              ServerState.establish, ServerState.conclude, ServerState.advance,
              ServerState.afterConnection, ServerState.handleSignal, ServerState.stopAccepting,
              ServerState.graceEnds, stopped] at moved

/-! ## Whole schedules -/

theorem now_le_of_mem (executed : run (step config window) state actions = some final) :
    ∀ timed ∈ actions, state.now ≤ timed.time := by
  induction actions generalizing state with
  | nil => simp
  | cons timed rest inductionHypothesis =>
      obtain ⟨next, stepped, tailRun⟩ := run_cons_eq_some.mp executed
      obtain ⟨earlier, now⟩ := now_of_step stepped
      rw [List.forall_mem_cons]
      refine ⟨earlier, fun later member => ?_⟩
      have tail := inductionHypothesis tailRun later member
      omega

theorem now_le_of_mem_turnAways {time : Nat} (member : time ∈ turnAways actions)
    (executed : run (step config window) state actions = some final) : state.now ≤ time := by
  rcases List.mem_filterMap.mp member with ⟨timed, scheduled, turned⟩
  have later := now_le_of_mem executed timed scheduled
  have same : timed.time = time := by
    unfold TimedAction.turnedAway? at turned
    split at turned
    · exact Option.some.inj turned
    · exact Option.some.inj turned
    · contradiction
  omega

/-- The turn of the loop that is under way began when the last connection was
turned away, or with the run if there was none. -/
theorem since_of_run (executed : run (step config window) state actions = some final)
    (selecting : final.server.phase = .selecting) :
    (∀ time ∈ turnAways actions, time ≤ final.since) ∧
      ((state.server.phase = .selecting ∧ final.since = state.since) ∨
        final.since ∈ turnAways actions) := by
  induction actions generalizing state with
  | nil =>
      cases executed
      exact ⟨by simp [turnAways], Or.inl ⟨selecting, rfl⟩⟩
  | cons timed rest inductionHypothesis =>
      obtain ⟨next, stepped, tailRun⟩ := run_cons_eq_some.mp executed
      obtain ⟨earlier, opened⟩ := inductionHypothesis tailRun
      cases turned : timed.turnedAway? with
      | none =>
          have same : turnAways (timed :: rest) = turnAways rest := by
            simp [turnAways, turned]
          rw [same]
          refine ⟨earlier, ?_⟩
          rcases opened with ⟨atHead, sameSince⟩ | last
          · obtain ⟨before, since⟩ := since_of_kept turned stepped atHead
            exact Or.inl ⟨before, by rw [sameSince, since]⟩
          · exact Or.inr last
      | some time =>
          have split : turnAways (timed :: rest) = time :: turnAways rest := by
            simp [turnAways, turned]
          obtain ⟨since, now⟩ := since_of_turnedAway turned stepped
          rw [split, List.forall_mem_cons]
          refine ⟨⟨?_, earlier⟩, Or.inr ?_⟩
          · rcases opened with ⟨-, sameSince⟩ | last
            · omega
            · have later := now_le_of_mem_turnAways last tailRun
              omega
          · rcases opened with ⟨-, sameSince⟩ | last
            · rw [sameSince, since]
              exact List.mem_cons_self
            · exact List.mem_cons_of_mem time last

/-- Behind its end the loop turns nobody away, and no window expires. -/
theorem left_of_run (left : state.server.phase.Left)
    (executed : run (step config window) state actions = some final) :
    final.server.phase.Left ∧ turnAways actions = [] ∧
      ∀ expiry, windowExpires expiry ∉ actions := by
  induction actions generalizing state with
  | nil =>
      cases executed
      exact ⟨left, rfl, by simp⟩
  | cons timed rest inductionHypothesis =>
      obtain ⟨next, stepped, tailRun⟩ := run_cons_eq_some.mp executed
      obtain ⟨nextLeft, nobody, other⟩ := left_of_step left stepped
      obtain ⟨finalLeft, silent, unexpired⟩ := inductionHypothesis nextLeft tailRun
      refine ⟨finalLeft, ?_, fun expiry member => ?_⟩
      · rw [← silent]
        exact List.filterMap_cons_none nobody
      · rcases List.mem_cons.mp member with rfl | later
        · exact other rfl
        · exact unexpired expiry later

/-- The loop still waits, or it has left by the expired window. -/
theorem outcome_of_run (waiting : state.Waiting config window)
    (fails : ∀ timed ∈ actions, timed.Failing config)
    (executed : run (step config window) state actions = some final) :
    (final.Waiting config window ∧ ∀ expiry, windowExpires expiry ∉ actions) ∨
      ∃ before expiry after middle, actions = before ++ windowExpires expiry :: after ∧
        run (step config window) state before = some middle ∧
        middle.server.phase = .selecting ∧ expiry = middle.since + window ∧
        (∀ other, windowExpires other ∈ actions → other = expiry) ∧
        turnAways actions = turnAways before ∧ final.server.phase.Left := by
  induction actions generalizing state with
  | nil =>
      cases executed
      exact Or.inl ⟨waiting, by simp⟩
  | cons timed rest inductionHypothesis =>
      obtain ⟨next, stepped, tailRun⟩ := run_cons_eq_some.mp executed
      obtain ⟨firstFails, restFails⟩ := List.forall_mem_cons.mp fails
      rcases waiting_of_step waiting firstFails stepped with ⟨nextWaiting, other⟩ | expires
      · have notFirst : ∀ expiry, windowExpires expiry ∈ timed :: rest →
            windowExpires expiry ∈ rest := by
          intro expiry member
          rcases List.mem_cons.mp member with rfl | later
          · exact absurd rfl other
          · exact later
        rcases inductionHypothesis nextWaiting restFails tailRun with
          ⟨finalWaiting, unexpired⟩ | ⟨before, expiry, after, middle, rfl, beforeRun, atHead,
            expiresThen, unique, silent, left⟩
        · exact Or.inl ⟨finalWaiting, fun expiry member =>
            unexpired expiry (notFirst expiry member)⟩
        · refine Or.inr ⟨timed :: before, expiry, after, middle, rfl,
            run_cons_eq_some.mpr ⟨next, stepped, beforeRun⟩, atHead, expiresThen,
            fun other member => unique other (notFirst other member), ?_, left⟩
          cases turned : timed.turnedAway? with
          | none =>
              simp only [turnAways, List.filterMap_cons_none turned] at silent ⊢
              exact silent
          | some time =>
              simp only [turnAways, List.filterMap_cons_some turned] at silent ⊢
              rw [silent]
      · obtain ⟨expiry, action⟩ := timed
        subst expires
        obtain ⟨atHead, expiresThen, leaving⟩ := expiry_eq stepped
        have nextLeft : next.server.phase.Left := by
          rw [leaving]
          trivial
        obtain ⟨finalLeft, silent, unexpired⟩ := left_of_run nextLeft tailRun
        refine Or.inr ⟨[], expiry, rest, state, rfl, rfl, atHead, expiresThen, ?_, ?_, finalLeft⟩
        · intro other member
          rcases List.mem_cons.mp member with same | later
          · cases same
            rfl
          · exact absurd later (unexpired other)
        · exact silent

/-! ## The loop can always go on -/

/-- At the head of the loop the window can expire. -/
theorem canExpire_of_selecting (waiting : state.Waiting config window)
    (selecting : state.server.phase = .selecting) : CanExpire config window state := by
  obtain ⟨runs, -, -, timely⟩ := waiting
  have limited : state.deadline window = some (state.since + window) := by
    simp [deadline, selecting, runs]
  have permitted : state.Permitted config window (windowExpires (state.since + window)) := by
    refine ⟨timely _ limited, ?_, ?_⟩
    · simp [limited, windowExpires]
    · simp [due, limited, windowExpires]
  have moved : state.server.step config (windowExpires (state.since + window)).action =
      some { state.server with phase := .loggingOut } :=
    ServerState.stopAccepting_eq_some.mpr ⟨selecting, runs, rfl⟩
  exact ⟨[], state.since + window, _,
    run_cons_eq_some.mpr ⟨_, step_eq_some.mpr ⟨permitted, _, moved, rfl⟩, rfl⟩, by simp⟩

/-- A step of the loop by itself, behind which the window can expire. -/
theorem CanExpire.of_step (stepped : state.step config window timed = some next)
    (fails : timed.Failing config) (nobody : ∀ peer, timed.action ≠ .loop (.accept peer))
    (canExpire : CanExpire config window next) : CanExpire config window state := by
  obtain ⟨later, expiry, final, executed, members⟩ := canExpire
  exact ⟨timed :: later, expiry, final, run_cons_eq_some.mpr ⟨next, stepped, executed⟩,
    List.forall_mem_cons.mpr ⟨⟨fails, nobody⟩, members⟩⟩

theorem canExpire_of_returned (waiting : state.Waiting config window) {peer : Peer}
    {clean : Bool} {reason : Option String}
    (returned : state.server.phase = .returned peer clean reason) :
    CanExpire config window state := by
  have turning := waiting.turning
  rw [returned] at turning
  cases turning
  have limited : state.deadline window = some state.since := by
    simp [deadline, returned]
  have permitted : state.Permitted config window ⟨state.now, .loop (.afterConnection peer.id)⟩ :=
    ⟨Nat.le_refl _, by simpa [limited] using waiting.timely _ limited, rfl⟩
  have moved : state.server.step config (.loop (.afterConnection peer.id)) =
      some ⟨ServerState.clearSlots state.server.shared, .selecting⟩ :=
    ServerState.afterConnection_eq_some.mpr ⟨peer, false, reason, returned, rfl, rfl⟩
  have stepped := step_eq_some.mpr ⟨permitted, _, moved, rfl⟩
  rcases waiting_of_step waiting (by exact trivial) stepped with ⟨next, -⟩ | expires
  · exact CanExpire.of_step stepped trivial nofun (canExpire_of_selecting next rfl)
  · cases expires

/-- A control handshake that fails is reported by its timeout. -/
theorem canExpire_of_opening (waiting : state.Waiting config window) {peer : Peer}
    (opening : state.server.phase = .opening peer) : CanExpire config window state := by
  have fails := waiting.turning
  rw [opening] at fails
  obtain ⟨reason, rejected⟩ := authenticate_of_fails fails
  have limited : state.deadline window = some (state.since + sessionOpenTimeout) := by
    simp [deadline, opening]
  have permitted : state.Permitted config window
      ⟨state.since + sessionOpenTimeout, .loop (.conclude peer.id)⟩ :=
    ⟨waiting.timely _ limited, by simp [limited], by simp [due, limited]⟩
  have moved : state.server.step config (.loop (.conclude peer.id)) =
      some (ServerState.leave state.server.shared peer false (some reason.closeReason)) :=
    ServerState.conclude_eq_some.mpr ⟨peer, opening, rfl, Or.inl ⟨reason, rejected, rfl⟩⟩
  have stepped := step_eq_some.mpr ⟨permitted, _, moved, rfl⟩
  rcases waiting_of_step waiting (by exact trivial) stepped with ⟨next, -⟩ | expires
  · exact CanExpire.of_step stepped trivial nofun (canExpire_of_returned next rfl)
  · cases expires

theorem canExpire_of_handshaking (waiting : state.Waiting config window) {peer : Peer}
    (handshaking : state.server.phase = .handshaking peer) : CanExpire config window state := by
  have limited : state.deadline window = some (state.since + handshakeTimeout) := by
    simp [deadline, handshaking]
  have permitted : state.Permitted config window ⟨state.now, .loop (.refuse peer.id)⟩ :=
    ⟨Nat.le_refl _, by simpa [limited] using waiting.timely _ limited, rfl⟩
  have moved : state.server.step config (.loop (.refuse peer.id)) =
      some { state.server with phase := .selecting } :=
    ServerState.refuse_eq_some.mpr ⟨peer, handshaking, rfl, rfl⟩
  have stepped := step_eq_some.mpr ⟨permitted, _, moved, rfl⟩
  rcases waiting_of_step waiting (by exact trivial) stepped with ⟨next, -⟩ | expires
  · exact CanExpire.of_step stepped trivial nofun (canExpire_of_selecting next rfl)
  · cases expires

/-- Wherever the loop waits, the window can expire. -/
theorem canExpire_of_waiting (waiting : state.Waiting config window) :
    CanExpire config window state := by
  cases phase : state.server.phase with
  | selecting => exact canExpire_of_selecting waiting phase
  | handshaking peer => exact canExpire_of_handshaking waiting phase
  | opening peer => exact canExpire_of_opening waiting phase
  | returned peer clean reason => exact canExpire_of_returned waiting phase
  | connected _ _ _ | loggingOut | done =>
      have turning := waiting.turning
      rw [phase] at turning
      exact absurd turning id

/-! ## The window -/

theorem waiting_start (schedule : FailingSchedule config) :
    schedule.start.Waiting config window where
  shellRuns := schedule.shellRuns
  unsignalled := schedule.unsignalled
  turning := by
    rw [schedule.idle]
    trivial
  timely := fun _ limited => schedule.opened ▸ since_le_deadline limited

/-- A loop that waits although it should have left is through with a connection
too late, or still busy with one. -/
theorem postponed_of_overdue {start : TimedState} (waiting : final.Waiting config window)
    (executed : run (step config window) start actions = some final)
    (overdue : Overdue config window start actions final) :
    ¬ NotPostponed config window start actions final := by
  intro notPostponed
  obtain ⟨late, tooLate⟩ := overdue
  by_cases selecting : final.server.phase = .selecting
  · have limited : final.deadline window = some (final.since + window) := by
      simp [deadline, selecting, waiting.shellRuns]
    have timely := waiting.timely _ limited
    rcases (since_of_run executed selecting).2 with ⟨-, opened⟩ | last
    · omega
    · rcases notPostponed _ (List.mem_append_left _ last) with early | ⟨attempt, bounded⟩
      · omega
      · have beyond := tooLate attempt
        omega
  · have busy : final.server.phase.peer?.isSome := by
      have turning := waiting.turning
      cases phase : final.server.phase with
      | selecting => exact absurd phase selecting
      | handshaking _ | opening _ | returned _ _ _ => rfl
      | connected _ _ _ => rfl
      | loggingOut | done =>
          rw [phase] at turning
          exact absurd turning id
    have pending : final.now ∈ attemptEnds actions final := by
      simp [attemptEnds, busy]
    rcases notPostponed _ pending with early | ⟨attempt, bounded⟩
    · omega
    · have beyond := tooLate attempt
      omega

/-- **When nobody authenticates any more, a loop that has not left can still
leave by the expired window, and in a run that is long enough to tell it leaves
in time exactly if it is through with every failing connection by the time the
window opened.** -/
theorem window_expires_in_time_iff (schedule : FailingSchedule config)
    (executed : run (step config window) schedule.start schedule.actions = some final) :
    ((∃ expiry, windowExpires expiry ∈ schedule.actions) ∨ CanExpire config window final) ∧
      (Decided config window schedule.start schedule.actions final →
        (LeavesInTime config window schedule.start schedule.actions ↔
          NotPostponed config window schedule.start schedule.actions final)) := by
  rcases outcome_of_run (waiting_start schedule) schedule.fails executed with
    ⟨waiting, unexpired⟩ | ⟨before, expiry, after, middle, whole, beforeRun, atHead, expires,
      unique, silent, left⟩
  · refine ⟨Or.inr (canExpire_of_waiting waiting), fun decided => ?_⟩
    have overdue := decided.resolve_left fun ⟨expiry, member⟩ => unexpired expiry member
    exact iff_of_false (fun ⟨expiry, member, _⟩ => unexpired expiry member)
      (postponed_of_overdue waiting executed overdue)
  · have member : windowExpires expiry ∈ schedule.actions := by
      rw [whole]
      simp
    have ends : attemptEnds schedule.actions final = turnAways before := by
      have idle : final.server.phase.peer?.isSome = false := by
        cases phase : final.server.phase with
        | selecting | loggingOut | done => rfl
        | handshaking _ | opening _ | connected _ _ _ | returned _ _ _ =>
            rw [phase] at left
            exact absurd left id
      simp [attemptEnds, idle, silent]
    obtain ⟨earlier, opened⟩ := since_of_run beforeRun atHead
    refine ⟨Or.inl ⟨expiry, member⟩, fun _ => ?_⟩
    unfold NotPostponed
    rw [ends]
    constructor
    · rintro ⟨other, listed, inTime⟩ time turned
      cases unique other listed
      have bounded := earlier time turned
      rcases inTime with early | ⟨attempt, late⟩
      · exact Or.inl (by omega)
      · exact Or.inr ⟨attempt, by omega⟩
    · intro notPostponed
      refine ⟨expiry, member, ?_⟩
      rcases opened with ⟨-, sameSince⟩ | last
      · exact Or.inl (by omega)
      · rcases notPostponed _ last with early | ⟨attempt, late⟩
        · exact Or.inl (by omega)
        · exact Or.inr ⟨attempt, by omega⟩

/-- The PTY is read, and nobody connects. -/
def quietSchedule : FailingSchedule .sample where
  start := ⟨.init .sample, 0, 0, 0⟩
  idle := rfl
  opened := rfl
  shellRuns := rfl
  unsignalled := rfl
  actions := [⟨5000, .background (.readPty [1])⟩, windowExpires 1800000]
  fails := by
    intro timed member
    simp only [List.mem_cons, List.not_mem_nil, or_false] at member
    rcases member with rfl | rfl
    · trivial
    · trivial

theorem quiet_window_in_time :
    LeavesInTime .sample 1800000 quietSchedule.start quietSchedule.actions := by
  have executed : ∃ final,
      run (step .sample 1800000) quietSchedule.start quietSchedule.actions = some final ∧
        final.server.phase.peer? = none := ⟨_, rfl, rfl⟩
  rcases executed with ⟨final, executed, idle⟩
  apply ((window_expires_in_time_iff quietSchedule executed).2
    (Or.inl ⟨1800000, by simp [quietSchedule]⟩)).mpr
  simp [NotPostponed, attemptEnds, idle, turnAways, quietSchedule, windowExpires,
    TimedAction.turnedAway?]

/-- A client's connection, which ends after a minute. -/
def minuteVisit : List TimedAction :=
  ServerState.connect.map (TimedAction.mk 1000) ++
    [⟨60000, .loop (.advance .endTask)⟩, ⟨60000, .loop (.afterConnection 1)⟩]

/-- A stray peer knocks 100 seconds later. -/
def knock : List TimedAction :=
  [⟨160000, .loop (.accept ServerState.strayPeer)⟩, ⟨160500, .loop (.establish 7)⟩,
    ⟨161000, .loop (.conclude 7)⟩, ⟨161000, .loop (.afterConnection 7)⟩]

/-- One knock puts the end of the window of half an hour off by 101 seconds. -/
theorem knock_postpones_expiry :
    ServerState.strayPeer.opening.Fails ServerConfig.sample.credentials ∧
    ∃ start final,
      run (step .sample 1800000) ⟨.init .sample, 0, 0, 0⟩ minuteVisit = some start ∧
      start.server.phase = .selecting ∧ start.since = 60000 ∧ start.now = 60000 ∧
      run (step .sample 1800000) start (knock ++ [windowExpires 1961000]) = some final ∧
      ¬ LeavesInTime .sample 1800000 start (knock ++ [windowExpires 1961000]) := by
  refine ⟨ServerState.strayPeer_fails, _, _, rfl, rfl, rfl, rfl, rfl, ?_⟩
  rintro ⟨expiry, member, inTime⟩
  have expires : expiry = 1961000 := by
    simpa [knock, windowExpires] using member
  subst expires
  rcases inTime with early | ⟨-, late⟩
  · exact absurd early (by decide)
  · exact absurd late (by decide)

/-- A stray peer that knocks once in each window, at its end. -/
def knocks (window count : Nat) : List TimedAction :=
  (List.range count).flatMap fun turn =>
    [⟨(turn + 1) * window, .loop (.accept ServerState.strayPeer)⟩,
      ⟨(turn + 1) * window, .loop (.refuse 7)⟩]

/-- **Whoever knocks for ever keeps the session for ever: behind any number of
windows the loop is at its head with a new one.** -/
theorem knocks_keep_session (window count : Nat) :
    run (step .sample window) ⟨.init .sample, 0, 0, 0⟩ (knocks window count) =
      some ⟨.init .sample, count * window, count * window, 0⟩ := by
  induction count with
  | zero => simp [knocks]
  | succ count inductionHypothesis =>
      have next : (count + 1) * window = count * window + window := by
        rw [Nat.add_mul, Nat.one_mul]
      rw [knocks, List.range_succ, List.flatMap_append, ← knocks]
      refine run_append_eq_some.mpr ⟨_, inductionHypothesis, ?_⟩
      have accepted : step .sample window ⟨.init .sample, count * window, count * window, 0⟩
          ⟨(count + 1) * window, .loop (.accept ServerState.strayPeer)⟩ =
            some ⟨{ ServerState.init .sample with phase := .handshaking ServerState.strayPeer },
              (count + 1) * window, (count + 1) * window, 0⟩ := by
        refine step_eq_some.mpr ⟨⟨?_, ?_, rfl⟩, _, rfl, rfl⟩
        · show count * window ≤ (count + 1) * window
          omega
        · simp [deadline, ServerState.init, WatcherStage.shellExited, next]
      have refused : step .sample window
          ⟨{ ServerState.init .sample with phase := .handshaking ServerState.strayPeer },
            (count + 1) * window, (count + 1) * window, 0⟩
          ⟨(count + 1) * window, .loop (.refuse 7)⟩ =
            some ⟨.init .sample, (count + 1) * window, (count + 1) * window, 0⟩ :=
        step_eq_some.mpr ⟨⟨Nat.le_refl _, by simp [deadline], rfl⟩, _, rfl, rfl⟩
      exact run_cons_eq_some.mpr ⟨_, accepted, run_cons_eq_some.mpr ⟨_, refused, rfl⟩⟩

end TimedState

end Etr.Server
