import Etr.Library.Unwinding
import Etr.Server.AcceptLoop

/-!
Contract: connections that never authenticate.

Owns the view of the accept loop in which the connections of some peers do not
exist, the invariant that makes it a run of the loop, and the one schedule on
which a rejected peer leaves a trace.

Does not own how long the loop takes.
-/

namespace Etr.Server

open Etr.Library Etr.Session Etr.Wire

/-- The connection a step of the loop belongs to until it is authenticated. -/
def ServerAction.connection? : ServerAction → Option Nat
  | .loop (.accept peer) => some peer.id
  | .loop (.refuse id) | .loop (.establish id) | .loop (.conclude id)
  | .loop (.afterConnection id) => some id
  | _ => none

/-- The step is one of an intruder's connection. -/
def ServerAction.intrudes (intruder : Nat → Bool) (action : ServerAction) : Bool :=
  action.connection?.any intruder

/-- The loop is busy with an intruder. -/
def LoopPhase.intruded (intruder : Nat → Bool) (phase : LoopPhase) : Bool :=
  phase.peer?.any fun peer => intruder peer.id

/-- No connection has left anything in the slots. -/
structure SharedState.Vacant (shared : SharedState) : Prop where
  pty : shared.outboundPtyTx = .vacant
  ctrl : shared.outboundCtrlTx = .vacant
  active : shared.activeConn = none

namespace ServerState

/-- The state as it is without the intruders: the loop is still selecting. -/
def withoutIntruders (intruder : Nat → Bool) (state : ServerState) : ServerState :=
  if state.phase.intruded intruder then { state with phase := .selecting } else state

/-- The intruder's connection fails its control handshake. -/
def Rejected (config : ServerConfig) (intruder : Nat → Bool) : ServerAction → Prop
  | .loop (.accept peer) => intruder peer.id = true → peer.opening.Fails config.credentials
  | _ => True

/-- Once the shell has exited, no signal cuts an intruder's connection short. -/
def SignalSpares (intruder : Nat → Bool) (state : ServerState) : ServerAction → Prop
  | .loop .handleSignal =>
      state.shared.watcher.shellExited = true → state.phase.intruded intruder = false
  | _ => True

/-- What every run keeps while the intruders' handshakes fail. -/
structure Guarded (config : ServerConfig) (intruder : Nat → Bool) (state : ServerState) :
    Prop where
  fails : ∀ peer, state.phase.peer? = some peer → intruder peer.id = true →
    peer.opening.Fails config.credentials
  shut : ∀ peer so stage, state.phase = .connected peer so stage → intruder peer.id = false
  unclean : ∀ peer clean closeReason, state.phase = .returned peer clean closeReason →
    intruder peer.id = true → clean = false
  vacant : state.phase = .selecting ∨ (∃ peer, state.phase = .handshaking peer) ∨
    (∃ peer, state.phase = .opening peer) ∨ state.phase.intruded intruder = true →
      state.shared.Vacant

end ServerState

/-! ## The slots -/

namespace SharedState

variable {config : ServerConfig} {shared next : SharedState}

theorem Vacant.recordLogout (config : ServerConfig) (vacant : shared.Vacant) :
    (shared.recordLogout config).Vacant := by
  unfold SharedState.recordLogout
  split
  · exact ⟨vacant.pty, vacant.ctrl, vacant.active⟩
  · exact vacant

/-- The tasks beside the loop put nothing in the slots. -/
theorem Vacant.step {action : BackgroundAction} (vacant : shared.Vacant)
    (stepped : shared.step config action = some next) : next.Vacant := by
  obtain ⟨pty, ctrl, active⟩ := vacant
  cases action with
  | readPty data =>
      simp only [SharedState.step, readPty] at stepped
      split at stepped
      · contradiction
      · cases stepped
        exact ⟨pty, ctrl, active⟩
  | forwardPty =>
      simp only [SharedState.step, forwardPty, pty] at stepped
      split at stepped
      · contradiction
      · cases stepped
        exact ⟨rfl, ctrl, active⟩
  | writePtyInput =>
      rcases Option.map_eq_some_iff.mp stepped with ⟨taken, -, rfl⟩
      exact ⟨pty, ctrl, active⟩
  | endPtyInput =>
      cases stepped
      exact ⟨pty, ctrl, active⟩
  | notify =>
      simp only [SharedState.step, notify, ctrl] at stepped
      split at stepped
      · cases stepped
        exact ⟨pty, rfl, active⟩
      · contradiction
  | raiseFlag =>
      simp only [SharedState.step, raiseFlag] at stepped
      split at stepped
      · cases stepped
        exact ⟨pty, ctrl, active⟩
      · contradiction
  | watcherLogout =>
      have recorded := Vacant.recordLogout config ⟨pty, ctrl, active⟩
      simp only [SharedState.step, watcherLogout] at stepped
      split at stepped
      · cases stepped
        exact ⟨recorded.pty, recorded.ctrl, recorded.active⟩
      · contradiction
  | recordLogin =>
      simp only [SharedState.step, recordLogin] at stepped
      split at stepped
      · cases stepped
        exact ⟨pty, ctrl, active⟩
      · contradiction
  | raiseSignal =>
      cases stepped
      exact ⟨pty, ctrl, active⟩

end SharedState

namespace ServerState

variable {config : ServerConfig} {intruder : Nat → Bool} {state next final : ServerState}
  {actions : List ServerAction}

theorem vacant_leave {shared : SharedState} {peer : Peer} {clean : Bool}
    {closeReason : Option String} (vacant : shared.Vacant) :
    (leave shared peer clean closeReason).shared.Vacant :=
  ⟨by simp [leave, vacant.pty, SenderSlot.close], by simp [leave, vacant.ctrl, SenderSlot.close],
    vacant.active⟩

theorem leave_of_vacant {shared : SharedState} {peer : Peer} {clean : Bool}
    {closeReason : Option String} (vacant : shared.Vacant) :
    (leave shared peer clean closeReason).shared = shared := by
  simp only [leave, vacant.pty, vacant.ctrl, SenderSlot.close]
  rw [← vacant.pty, ← vacant.ctrl]

theorem vacant_clearSlots (shared : SharedState) : (clearSlots shared).Vacant :=
  ⟨rfl, rfl, rfl⟩

theorem clearSlots_of_vacant {shared : SharedState} (vacant : shared.Vacant) :
    clearSlots shared = shared := by
  simp only [clearSlots]
  rw [← vacant.pty, ← vacant.ctrl, ← vacant.active]

/-! ## What the loop keeps -/

theorem guarded_init : Guarded config intruder (init config) where
  fails := by simp [init, LoopPhase.peer?]
  shut := by simp [init]
  unclean := by simp [init]
  vacant := fun _ => ⟨rfl, rfl, rfl⟩

/-- Without a connection to speak of, only the slots matter. -/
theorem guarded_of_idle (idle : state.phase.peer? = none) (vacant : state.phase = .selecting →
    state.shared.Vacant) : Guarded config intruder state := by
  obtain ⟨shared, phase⟩ := state
  cases phase with
  | selecting =>
      exact ⟨by simp [LoopPhase.peer?], by simp, by simp, fun _ => vacant rfl⟩
  | loggingOut =>
      refine ⟨by simp [LoopPhase.peer?], by simp, by simp, fun busy => ?_⟩
      simp [LoopPhase.intruded, LoopPhase.peer?] at busy
  | done =>
      refine ⟨by simp [LoopPhase.peer?], by simp, by simp, fun busy => ?_⟩
      simp [LoopPhase.intruded, LoopPhase.peer?] at busy
  | handshaking peer => contradiction
  | opening peer => contradiction
  | connected peer so stage => contradiction
  | returned peer clean closeReason => contradiction

theorem Guarded.step {action : ServerAction} (guarded : Guarded config intruder state)
    (rejected : Rejected config intruder action)
    (stepped : state.step config action = some next) : Guarded config intruder next := by
  cases action with
  | background action =>
      obtain ⟨shared, moved, rfl⟩ := background_eq_some.mp stepped
      exact ⟨guarded.fails, guarded.shut, guarded.unclean,
        fun busy => (guarded.vacant busy).step moved⟩
  | loop action =>
      cases action with
      | accept peer =>
          obtain ⟨selecting, rfl⟩ := accept_eq_some.mp stepped
          have vacant := guarded.vacant (Or.inl selecting)
          refine ⟨?_, by simp, by simp, fun _ => vacant⟩
          intro peer' same isIntruder
          cases same
          exact rejected isIntruder
      | refuse id =>
          obtain ⟨peer, handshaking, -, rfl⟩ := refuse_eq_some.mp stepped
          have vacant := guarded.vacant (Or.inr (Or.inl ⟨peer, handshaking⟩))
          exact guarded_of_idle rfl fun _ => vacant
      | establish id =>
          obtain ⟨peer, handshaking, -, rfl⟩ := establish_eq_some.mp stepped
          have vacant := guarded.vacant (Or.inr (Or.inl ⟨peer, handshaking⟩))
          refine ⟨?_, by simp, by simp, fun _ => vacant⟩
          intro peer' same
          cases same
          exact guarded.fails peer (by rw [handshaking]; rfl)
      | conclude id =>
          obtain ⟨peer, waiting, -, outcome⟩ := conclude_eq_some.mp stepped
          have vacant := guarded.vacant (Or.inr (Or.inr (Or.inl ⟨peer, waiting⟩)))
          have fails := guarded.fails peer (by rw [waiting]; rfl)
          rcases outcome with ⟨reason, -, rfl⟩ | ⟨so, accepted, rfl⟩
          · refine ⟨?_, by simp [leave], ?_, fun _ => vacant_leave vacant⟩
            · intro peer' same
              cases same
              exact fails
            · intro peer' clean closeReason same _
              cases same
              rfl
          · have friendly : intruder peer.id = false := by
              apply Bool.eq_false_iff.mpr
              intro isIntruder
              exact fails isIntruder so (authenticate_eq_ok.mp accepted)
            refine ⟨?_, ?_, by simp, ?_⟩
            · intro peer' same
              cases same
              exact fails
            · intro peer' so' stage same
              cases same
              exact friendly
            · simp [LoopPhase.intruded, LoopPhase.peer?, friendly]
      | advance action =>
          obtain ⟨peer, so, stage, advanced, connected, -, rfl⟩ := advance_eq_some.mp stepped
          have friendly := guarded.shut peer so stage connected
          have fails := guarded.fails peer (by rw [connected]; rfl)
          obtain ⟨shared, progress⟩ := advanced
          cases progress with
          | proceed stage' =>
              refine ⟨?_, ?_, by simp [follow], ?_⟩
              · intro peer' same
                cases same
                exact fails
              · intro peer' so' stage'' same
                cases same
                exact friendly
              · simp [follow, LoopPhase.intruded, LoopPhase.peer?, friendly]
          | finish clean =>
              refine ⟨?_, by simp [follow, leave], ?_, ?_⟩
              · intro peer' same
                cases same
                exact fails
              · intro peer' clean' closeReason same isIntruder
                cases same
                exact absurd isIntruder (by simp [friendly])
              · simp [follow, leave, LoopPhase.intruded, LoopPhase.peer?, friendly]
      | afterConnection id =>
          obtain ⟨peer, clean, closeReason, -, -, rfl⟩ := afterConnection_eq_some.mp stepped
          have vacant := vacant_clearSlots state.shared
          cases clean with
          | true => exact guarded_of_idle rfl fun _ => vacant
          | false => exact guarded_of_idle rfl fun _ => vacant
      | handleSignal =>
          obtain ⟨-, ⟨-, -, rfl⟩ | ⟨-, rfl⟩⟩ := handleSignal_eq_some.mp stepped
          all_goals exact guarded_of_idle rfl (by simp)
      | windowExpired =>
          obtain ⟨-, -, rfl⟩ := stopAccepting_eq_some.mp stepped
          exact guarded_of_idle rfl (by simp)
      | endpointClosed =>
          obtain ⟨-, -, rfl⟩ := stopAccepting_eq_some.mp stepped
          exact guarded_of_idle rfl (by simp)
      | graceEnds =>
          obtain ⟨-, -, rfl⟩ := graceEnds_eq_some.mp stepped
          exact guarded_of_idle rfl (by simp)
      | loopLogout =>
          obtain ⟨-, rfl⟩ := loopLogout_eq_some.mp stepped
          exact guarded_of_idle rfl (by simp)

/-! ## The view without intruders -/

theorem withoutIntruders_of_friendly (friendly : state.phase.intruded intruder = false) :
    state.withoutIntruders intruder = state := by
  rw [withoutIntruders, if_neg (by simp [friendly])]

theorem withoutIntruders_of_intruded (intruded : state.phase.intruded intruder = true) :
    state.withoutIntruders intruder = { state with phase := .selecting } :=
  if_pos intruded

/-- The loop has just become busy with an intruder. -/
theorem withoutIntruders_mk {shared : SharedState} {phase : LoopPhase}
    (intruded : phase.intruded intruder = true) :
    withoutIntruders intruder ⟨shared, phase⟩ = ⟨shared, .selecting⟩ :=
  if_pos intruded

theorem withoutIntruders_of_idle (idle : state.phase.peer? = none) :
    state.withoutIntruders intruder = state := by
  apply withoutIntruders_of_friendly
  rw [LoopPhase.intruded, idle]
  rfl

@[simp] theorem shared_withoutIntruders :
    (state.withoutIntruders intruder).shared = state.shared := by
  unfold withoutIntruders
  split <;> rfl

/-- A step of an intruder's connection cannot be seen. -/
theorem intrusion_invisible {action : ServerAction} (guarded : Guarded config intruder state)
    (intrudes : action.intrudes intruder = true)
    (stepped : state.step config action = some next) :
    next.withoutIntruders intruder = state.withoutIntruders intruder := by
  cases action with
  | background action => contradiction
  | loop action =>
      cases action with
      | accept peer =>
          obtain ⟨selecting, rfl⟩ := accept_eq_some.mp stepped
          have intruded : (LoopPhase.handshaking peer).intruded intruder = true := intrudes
          rw [withoutIntruders_mk intruded, withoutIntruders_of_idle (by rw [selecting]; rfl),
            ← selecting]
      | refuse id =>
          obtain ⟨peer, handshaking, rfl, rfl⟩ := refuse_eq_some.mp stepped
          have intruded : state.phase.intruded intruder = true := by
            rw [handshaking]
            exact intrudes
          rw [withoutIntruders_of_intruded intruded, withoutIntruders_of_idle rfl]
      | establish id =>
          obtain ⟨peer, handshaking, rfl, rfl⟩ := establish_eq_some.mp stepped
          have intruded : state.phase.intruded intruder = true := by
            rw [handshaking]
            exact intrudes
          have intrudedNext : (LoopPhase.opening peer).intruded intruder = true := intrudes
          rw [withoutIntruders_of_intruded intruded, withoutIntruders_mk intrudedNext]
      | conclude id =>
          obtain ⟨peer, waiting, rfl, outcome⟩ := conclude_eq_some.mp stepped
          have vacant := guarded.vacant (Or.inr (Or.inr (Or.inl ⟨peer, waiting⟩)))
          have fails := guarded.fails peer (by rw [waiting]; rfl) intrudes
          have intruded : state.phase.intruded intruder = true := by
            rw [waiting]
            exact intrudes
          rcases outcome with ⟨reason, -, rfl⟩ | ⟨so, accepted, rfl⟩
          · have intrudedNext :
                (leave state.shared peer false (some reason.closeReason)).phase.intruded intruder =
                  true := intrudes
            rw [withoutIntruders_of_intruded intruded, withoutIntruders_of_intruded intrudedNext,
              leave_of_vacant vacant]
          · exact absurd (authenticate_eq_ok.mp accepted) (fails so)
      | afterConnection id =>
          obtain ⟨peer, clean, closeReason, returned, rfl, rfl⟩ :=
            afterConnection_eq_some.mp stepped
          have unclean := guarded.unclean peer clean closeReason returned intrudes
          have intruded : state.phase.intruded intruder = true := by
            rw [returned]
            exact intrudes
          have vacant := guarded.vacant (Or.inr (Or.inr (Or.inr intruded)))
          subst unclean
          rw [withoutIntruders_of_intruded intruded, clearSlots_of_vacant vacant]
          exact withoutIntruders_of_idle rfl
      | advance action => contradiction
      | handleSignal => contradiction
      | windowExpired => contradiction
      | endpointClosed => contradiction
      | graceEnds => contradiction
      | loopLogout => contradiction

/-- Any other step can be taken in the view. -/
theorem step_withoutIntruders {action : ServerAction} (guarded : Guarded config intruder state)
    (spares : SignalSpares intruder state action)
    (friendly : action.intrudes intruder = false)
    (stepped : state.step config action = some next) :
    (state.withoutIntruders intruder).step config action =
      some (next.withoutIntruders intruder) := by
  cases action with
  | background action =>
      obtain ⟨shared, moved, rfl⟩ := background_eq_some.mp stepped
      apply background_eq_some.mpr
      refine ⟨shared, by rwa [shared_withoutIntruders], ?_⟩
      cases intruded : state.phase.intruded intruder with
      | true =>
          rw [withoutIntruders_of_intruded intruded]
          exact withoutIntruders_of_intruded intruded
      | false =>
          rw [withoutIntruders_of_friendly intruded]
          exact withoutIntruders_of_friendly intruded
  | loop action =>
      cases action with
      | accept peer =>
          obtain ⟨selecting, rfl⟩ := accept_eq_some.mp stepped
          have after : ({ state with phase := .handshaking peer } : ServerState).phase.intruded
              intruder = false := friendly
          rw [withoutIntruders_of_idle (by rw [selecting]; rfl),
            withoutIntruders_of_friendly after]
          exact stepped
      | refuse id =>
          obtain ⟨peer, handshaking, rfl, rfl⟩ := refuse_eq_some.mp stepped
          have unintruded : state.phase.intruded intruder = false := by
            rw [handshaking]
            exact friendly
          rw [withoutIntruders_of_friendly unintruded, withoutIntruders_of_idle rfl]
          exact stepped
      | establish id =>
          obtain ⟨peer, handshaking, rfl, rfl⟩ := establish_eq_some.mp stepped
          have unintruded : state.phase.intruded intruder = false := by
            rw [handshaking]
            exact friendly
          have after : ({ state with phase := .opening peer } : ServerState).phase.intruded
              intruder = false := friendly
          rw [withoutIntruders_of_friendly unintruded, withoutIntruders_of_friendly after]
          exact stepped
      | conclude id =>
          obtain ⟨peer, waiting, rfl, outcome⟩ := conclude_eq_some.mp stepped
          have unintruded : state.phase.intruded intruder = false := by
            rw [waiting]
            exact friendly
          have after : next.phase.intruded intruder = false := by
            rcases outcome with ⟨reason, -, rfl⟩ | ⟨so, -, rfl⟩
            all_goals exact friendly
          rw [withoutIntruders_of_friendly unintruded, withoutIntruders_of_friendly after]
          exact stepped
      | advance action =>
          obtain ⟨peer, so, stage, advanced, connected, -, rfl⟩ := advance_eq_some.mp stepped
          have shut := guarded.shut peer so stage connected
          have unintruded : state.phase.intruded intruder = false := by
            rw [connected]
            exact shut
          have after : (follow peer so advanced.1 advanced.2).phase.intruded intruder = false := by
            cases advanced.2 <;> exact shut
          rw [withoutIntruders_of_friendly unintruded, withoutIntruders_of_friendly after]
          exact stepped
      | afterConnection id =>
          obtain ⟨peer, clean, closeReason, returned, rfl, rfl⟩ :=
            afterConnection_eq_some.mp stepped
          have unintruded : state.phase.intruded intruder = false := by
            rw [returned]
            exact friendly
          have idle : (if clean then LoopPhase.done else .selecting).peer? = none := by
            cases clean <;> rfl
          rw [withoutIntruders_of_friendly unintruded, withoutIntruders_of_idle idle]
          exact stepped
      | handleSignal =>
          cases intruded : state.phase.intruded intruder with
          | false =>
              have idle : next.phase.peer? = none := by
                obtain ⟨-, ⟨-, -, rfl⟩ | ⟨-, rfl⟩⟩ := handleSignal_eq_some.mp stepped
                all_goals rfl
              rw [withoutIntruders_of_friendly intruded, withoutIntruders_of_idle idle]
              exact stepped
          | true =>
              -- The signal that would cut the intruder short reaches the loop's head instead.
              have running : state.shared.watcher.shellExited = false := by
                apply Bool.eq_false_iff.mpr
                intro exited
                exact absurd (spares exited) (by simp [intruded])
              have vacant := guarded.vacant (Or.inr (Or.inr (Or.inr intruded)))
              obtain ⟨signalled, ⟨selecting, -, -⟩ | ⟨-, rfl⟩⟩ := handleSignal_eq_some.mp stepped
              · rw [selecting] at intruded
                contradiction
              · rw [withoutIntruders_of_intruded intruded, withoutIntruders_of_idle rfl,
                  clearSlots_of_vacant vacant]
                exact handleSignal_eq_some.mpr
                  ⟨signalled, Or.inl ⟨rfl, running, rfl⟩⟩
      | windowExpired =>
          obtain ⟨selecting, -, rfl⟩ := stopAccepting_eq_some.mp stepped
          rw [withoutIntruders_of_idle (by rw [selecting]; rfl), withoutIntruders_of_idle rfl]
          exact stepped
      | endpointClosed =>
          obtain ⟨selecting, -, rfl⟩ := stopAccepting_eq_some.mp stepped
          rw [withoutIntruders_of_idle (by rw [selecting]; rfl), withoutIntruders_of_idle rfl]
          exact stepped
      | graceEnds =>
          obtain ⟨selecting, -, rfl⟩ := graceEnds_eq_some.mp stepped
          rw [withoutIntruders_of_idle (by rw [selecting]; rfl), withoutIntruders_of_idle rfl]
          exact stepped
      | loopLogout =>
          obtain ⟨leaving, rfl⟩ := loopLogout_eq_some.mp stepped
          rw [withoutIntruders_of_idle (by rw [leaving]; rfl), withoutIntruders_of_idle rfl]
          exact stepped

/-! ## Runs -/

/-- `handle_connection` does not report a clean disconnect for an intruder. -/
def NeverClean (intruder : Nat → Bool) (state : ServerState) : Prop :=
  ∀ peer clean closeReason, state.phase = .returned peer clean closeReason →
    intruder peer.id = true → clean = false

/-- **Connections that fail the control handshake leave no trace: without them
the rest of the run is a run that shares the same session, PTY input, senders,
cookie, active connection, listeners, login record and sent bytes.** -/
theorem unauthenticated_connections_unseen (config : ServerConfig) (intruder : Nat → Bool)
    {actions : List ServerAction} {final : ServerState}
    (fails : ∀ peer, .loop (.accept peer) ∈ actions → intruder peer.id = true →
      peer.opening.Fails config.credentials)
    (spares : Along (step config) (SignalSpares intruder) (init config) actions)
    (executed : run (step config) (init config) actions = some final) :
    (∃ quiet,
      run (step config) (init config) (purge (ServerAction.intrudes intruder) actions) =
        some quiet ∧
      quiet.shared = final.shared ∧
      (final.phase.intruded intruder = false → quiet.phase = final.phase)) ∧
    Throughout (step config) (NeverClean intruder) (init config) actions := by
  have rejected : Along (step config) (fun _ action => Rejected config intruder action)
      (init config) actions := by
    apply along_of_forall_mem
    intro action member _
    unfold Rejected
    split
    · exact fails _ member
    · trivial
  constructor
  · refine ⟨final.withoutIntruders intruder, ?_, shared_withoutIntruders, ?_⟩
    · have purged : run (step config) ((init config).withoutIntruders intruder)
          (purge (ServerAction.intrudes intruder) actions) =
            some (final.withoutIntruders intruder) :=
        run_purge (fun guarded met stepped => Guarded.step guarded met.1 stepped)
          (fun guarded _ intrudes stepped => intrusion_invisible guarded intrudes stepped)
          (fun guarded met friendly stepped =>
            step_withoutIntruders guarded met.2 friendly stepped)
          guarded_init (along_and.mpr ⟨rejected, spares⟩) executed
      rwa [withoutIntruders_of_idle rfl] at purged
    · intro friendly
      rw [withoutIntruders_of_friendly friendly]
  · exact throughout_of_along Guarded.step Guarded.unclean guarded_init rejected

/-- The PTY is read before, during and after a stray peer's connection. -/
def strayRun : List ServerAction :=
  [.background (.readPty [1]), .loop (.accept strayPeer), .background .forwardPty,
    .loop (.establish 7), .loop (.conclude 7), .background (.readPty [2]),
    .loop (.afterConnection 7)]

theorem stray_peer_unseen :
    ∃ quiet final,
      run (step .sample) (init .sample)
        [.background (.readPty [1]), .background .forwardPty, .background (.readPty [2])] =
          some quiet ∧
      run (step .sample) (init .sample) strayRun = some final ∧
      quiet.shared = final.shared := by
  have executed : ∃ final, run (step .sample) (init .sample) strayRun = some final := ⟨_, rfl⟩
  rcases executed with ⟨final, executed⟩
  have fails : ∀ peer, .loop (.accept peer) ∈ strayRun → (peer.id == 7) = true →
      peer.opening.Fails ServerConfig.sample.credentials := by
    intro peer member _
    simp only [strayRun, List.mem_cons, List.not_mem_nil, ServerAction.loop.injEq,
      LoopAction.accept.injEq, reduceCtorEq, or_false, false_or] at member
    rw [member]
    exact strayPeer_fails
  have spares : Along (step .sample) (SignalSpares (· == 7)) (init .sample) strayRun :=
    along_of_forall_mem (by simp [strayRun, SignalSpares])
  have unseen := unauthenticated_connections_unseen .sample (· == 7) fails spares executed
  rcases unseen.1 with ⟨quiet, quietRun, shared, -⟩
  exact ⟨quiet, final, quietRun, executed, shared⟩

/-! ## A signal during the second of grace -/

/-- The shell exited, its logout is recorded and no login is pending. -/
structure Departed (utmp : List UtmpCall) (state : ServerState) : Prop where
  phase : state.phase = .selecting ∨ state.phase = .done
  watcher : state.shared.watcher = .finished
  blockingLogin : state.shared.blockingLogin = none
  utmp : state.shared.utmp = utmp

/-- Without connections nothing more is recorded then. -/
theorem Departed.step {utmp : List UtmpCall} {action : ServerAction}
    (departed : Departed utmp state) (alone : action.connection? = none)
    (stepped : state.step config action = some next) : Departed utmp next := by
  obtain ⟨phase, watcher, blockingLogin, same⟩ := departed
  cases action with
  | background action =>
      obtain ⟨shared, moved, rfl⟩ := background_eq_some.mp stepped
      cases action with
      | readPty data =>
          have kept := SharedState.readPty_sameRecord moved
          exact ⟨phase, kept.watcher.trans watcher, kept.blockingLogin.trans blockingLogin,
            kept.utmp.trans same⟩
      | forwardPty =>
          have kept := SharedState.forwardPty_sameRecord moved
          exact ⟨phase, kept.watcher.trans watcher, kept.blockingLogin.trans blockingLogin,
            kept.utmp.trans same⟩
      | writePtyInput =>
          have kept := SharedState.writePtyInput_sameRecord moved
          exact ⟨phase, kept.watcher.trans watcher, kept.blockingLogin.trans blockingLogin,
            kept.utmp.trans same⟩
      | endPtyInput =>
          cases moved
          exact ⟨phase, watcher, blockingLogin, same⟩
      | notify =>
          have waiting := (SharedState.notify_eq_some.mp moved).1
          rw [watcher] at waiting
          contradiction
      | raiseFlag =>
          have notified := (SharedState.raiseFlag_eq_some.mp moved).1
          rw [watcher] at notified
          contradiction
      | watcherLogout =>
          have flagged := (SharedState.watcherLogout_eq_some.mp moved).1
          rw [watcher] at flagged
          contradiction
      | recordLogin =>
          obtain ⟨fd, remoteAddr, -, spawned, -⟩ := SharedState.recordLogin_eq_some.mp moved
          rw [blockingLogin] at spawned
          contradiction
      | raiseSignal =>
          cases moved
          exact ⟨phase, watcher, blockingLogin, same⟩
  | loop action =>
      have exited : state.shared.watcher.shellExited = true := by
        rw [watcher]
        rfl
      cases action with
      | accept peer => contradiction
      | refuse id => contradiction
      | establish id => contradiction
      | conclude id => contradiction
      | afterConnection id => contradiction
      | advance action =>
          obtain ⟨peer, so, stage, advanced, connected, -⟩ := advance_eq_some.mp stepped
          rw [connected] at phase
          simp at phase
      | handleSignal =>
          obtain ⟨-, ⟨-, running, -⟩ | ⟨⟨peer, busy⟩ | ⟨peer, so, stage, busy⟩, -⟩⟩ :=
            handleSignal_eq_some.mp stepped
          · rw [exited] at running
            contradiction
          · rw [busy] at phase
            simp at phase
          · rw [busy] at phase
            simp at phase
      | windowExpired =>
          have running := (stopAccepting_eq_some.mp stepped).2.1
          rw [exited] at running
          contradiction
      | endpointClosed =>
          have running := (stopAccepting_eq_some.mp stepped).2.1
          rw [exited] at running
          contradiction
      | graceEnds =>
          obtain ⟨-, -, rfl⟩ := graceEnds_eq_some.mp stepped
          exact ⟨Or.inr rfl, watcher, blockingLogin, same⟩
      | loopLogout =>
          have leaving := (loopLogout_eq_some.mp stepped).1
          rw [leaving] at phase
          simp at phase

/-- The shell exits, and a signal is delivered within the second of grace. -/
def exitThenSignal : List ServerAction :=
  [.background .notify, .background .raiseFlag, .background .watcherLogout,
    .background .raiseSignal]

/-- A stray peer in the second of grace makes the loop poll the signal and call
`record_logout` once more; no run without connections goes that way. -/
theorem stray_peer_in_grace_recorded :
    strayPeer.opening.Fails ServerConfig.sample.credentials ∧
    (∃ final,
      run (step .sample) (init .sample)
        (exitThenSignal ++
          [.loop (.accept strayPeer), .loop (.establish 7), .loop .handleSignal,
            .loop .loopLogout]) = some final ∧
      final.shared.utmp = [.recordLogout 5, .recordLogout 5]) ∧
    ∀ rest final, (∀ action ∈ rest, action.connection? = none) →
      run (step .sample) (init .sample) (exitThenSignal ++ rest) = some final →
      final.shared.utmp = [.recordLogout 5] := by
  refine ⟨strayPeer_fails, ⟨_, rfl, rfl⟩, ?_⟩
  intro rest final alone executed
  obtain ⟨middle, before, after⟩ := run_append_eq_some.mp executed
  have departed : Departed [.recordLogout 5] middle := by
    cases before
    exact ⟨Or.inl rfl, rfl, rfl, rfl⟩
  have met : Along (ServerState.step .sample) (fun _ action => action.connection? = none) middle
      rest :=
    along_of_forall_mem fun action member _ => alone action member
  exact (run_invariant_along Departed.step departed met after).utmp

end ServerState

end Etr.Server
