import Etr.Server.AcceptLoop

/-!
Contract: the login record over whole runs of the server.

Owns the order of `record_login` and `record_logout` in every run that ends
with the loop left and the blocking tasks finished, and exactly the runs that
leave a stale login behind.

Does not own what the record's helper does with a call.
-/

namespace Etr.Server

open Etr.Library

/-- A `record_logout` follows every `record_login`. -/
def LogoutFollows (utmp : List UtmpCall) : Prop :=
  ∀ before fd remoteAddr after, utmp = before ++ .recordLogin fd remoteAddr :: after →
    ∃ fd', .recordLogout fd' ∈ after

/-- The last call into the record is a login. -/
def EndsLoggedIn (utmp : List UtmpCall) : Prop :=
  ∃ before fd remoteAddr, utmp = before ++ [.recordLogin fd remoteAddr]

theorem not_endsLoggedIn_nil : ¬ EndsLoggedIn [] := by
  rintro ⟨before, fd, remoteAddr, same⟩
  simp at same

theorem endsLoggedIn_login (utmp : List UtmpCall) (fd : Nat) (remoteAddr : String) :
    EndsLoggedIn (utmp ++ [.recordLogin fd remoteAddr]) :=
  ⟨utmp, fd, remoteAddr, rfl⟩

theorem not_endsLoggedIn_logout (utmp : List UtmpCall) (fd : Nat) :
    ¬ EndsLoggedIn (utmp ++ [.recordLogout fd]) := by
  rintro ⟨before, fd', remoteAddr, same⟩
  have last := (List.append_inj' same rfl).2
  simp at last

/-- Only a login in the last place is not followed by a logout. -/
theorem logoutFollows_iff {utmp : List UtmpCall} : LogoutFollows utmp ↔ ¬ EndsLoggedIn utmp := by
  constructor
  · rintro follows ⟨before, fd, remoteAddr, same⟩
    rcases follows before fd remoteAddr [] same with ⟨fd', member⟩
    exact List.not_mem_nil member
  · intro loggedOut before fd remoteAddr after same
    -- The last call behind the login is not a login itself.
    cases last : after.getLast? with
    | none =>
        rw [List.getLast?_eq_none_iff] at last
        exact absurd ⟨before, fd, remoteAddr, by rw [same, last]⟩ loggedOut
    | some call =>
        rcases List.getLast?_eq_some_iff.mp last with ⟨earlier, split⟩
        cases call with
        | recordLogin fd' remoteAddr' =>
            refine absurd ⟨before ++ .recordLogin fd remoteAddr :: earlier, fd', remoteAddr', ?_⟩
              loggedOut
            rw [same, split]
            simp
        | recordLogout fd' =>
            refine ⟨fd', ?_⟩
            rw [split]
            simp

namespace ServerState

variable {config : ServerConfig} {state next final : ServerState} {action : ServerAction}
  {actions rest : List ServerAction}

/-- The loop was left and every blocking task has finished. -/
structure Finished (state : ServerState) : Prop where
  phase : state.phase = .done
  watcher : state.shared.watcher = .finished
  blockingLogin : state.shared.blockingLogin = none

/-- What one step does to the record. -/
inductive RecordStep (config : ServerConfig) (state next : ServerState) :
    ServerAction → Prop where
  | login (fd : Nat) (remoteAddr : String) (available : config.masterFd = some fd)
      (utmp : next.shared.utmp = state.shared.utmp ++ [.recordLogin fd remoteAddr])
      (watcher : next.shared.watcher = state.shared.watcher)
      (phase : next.phase = state.phase) :
      RecordStep config state next (.background .recordLogin)
  | watcherLogout (flagged : state.shared.watcher = .flagged)
      (utmp : next.shared.utmp = (state.shared.recordLogout config).utmp) :
      RecordStep config state next (.background .watcherLogout)
  | loopLogout (leaving : state.phase = .loggingOut)
      (utmp : next.shared.utmp = (state.shared.recordLogout config).utmp) :
      RecordStep config state next (.loop .loopLogout)
  | signal (utmp : next.shared.utmp = state.shared.utmp) (phase : next.phase = .loggingOut) :
      RecordStep config state next (.loop .handleSignal)
  /-- With the watcher through, only a signal makes the loop record a logout. -/
  | other {action : ServerAction} (unsignalled : action ≠ .loop .handleSignal)
      (notLogin : action ≠ .background .recordLogin)
      (utmp : next.shared.utmp = state.shared.utmp)
      (watcher : next.shared.watcher = .finished ↔ state.shared.watcher = .finished)
      (stays : state.phase = .loggingOut → next.phase = .loggingOut)
      (waits : state.shared.watcher = .finished → next.phase = .loggingOut →
        state.phase = .loggingOut) :
      RecordStep config state next action

theorem utmp_recordLogout {shared : SharedState} {fd : Nat}
    (available : config.masterFd = some fd) :
    (shared.recordLogout config).utmp = shared.utmp ++ [.recordLogout fd] := by
  simp [SharedState.recordLogout, available]

theorem utmp_recordLogout_of_none {shared : SharedState} (unavailable : config.masterFd = none) :
    (shared.recordLogout config).utmp = shared.utmp := by
  simp [SharedState.recordLogout, unavailable]

theorem enter_record (config : ServerConfig) (peer : Peer) (shared : SharedState) :
    (ConnStage.enter config peer shared).1.utmp = shared.utmp ∧
      (ConnStage.enter config peer shared).1.watcher = shared.watcher := by
  unfold ConnStage.enter
  split
  all_goals exact ⟨rfl, rfl⟩

/-- A step that leaves the record alone, between two places in the loop. -/
theorem RecordStep.of_same (unsignalled : action ≠ .loop .handleSignal)
    (notLogin : action ≠ .background .recordLogin)
    (utmp : next.shared.utmp = state.shared.utmp)
    (watcher : next.shared.watcher = state.shared.watcher)
    (before : state.phase ≠ .loggingOut) (after : next.phase ≠ .loggingOut) :
    RecordStep config state next action :=
  .other unsignalled notLogin utmp (by rw [watcher]) (fun leaving => absurd leaving before)
    fun _ leaving => absurd leaving after

/-- A step beside the loop that leaves the record alone. -/
theorem RecordStep.of_sameRecord {shared : SharedState}
    (unsignalled : action ≠ .loop .handleSignal) (notLogin : action ≠ .background .recordLogin)
    (kept : state.shared.SameRecord shared) :
    RecordStep config state { state with shared := shared } action :=
  .other unsignalled notLogin kept.utmp (by rw [kept.watcher]) id fun _ => id

theorem recordStep (stepped : state.step config action = some next) :
    RecordStep config state next action := by
  cases action with
  | background action =>
      obtain ⟨shared, moved, rfl⟩ := background_eq_some.mp stepped
      cases action with
      | readPty data =>
          exact .of_sameRecord (by simp) (by simp) (SharedState.readPty_sameRecord moved)
      | forwardPty =>
          exact .of_sameRecord (by simp) (by simp) (SharedState.forwardPty_sameRecord moved)
      | writePtyInput =>
          exact .of_sameRecord (by simp) (by simp) (SharedState.writePtyInput_sameRecord moved)
      | endPtyInput =>
          cases moved
          exact .of_sameRecord (by simp) (by simp) ⟨rfl, rfl, rfl⟩
      | notify =>
          obtain ⟨waiting, slot, -, rfl⟩ := SharedState.notify_eq_some.mp moved
          exact .other (by simp) (by simp) rfl (by simp [waiting]) id fun _ => id
      | raiseFlag =>
          obtain ⟨notified, rfl⟩ := SharedState.raiseFlag_eq_some.mp moved
          exact .other (by simp) (by simp) rfl (by simp [notified]) id fun _ => id
      | watcherLogout =>
          obtain ⟨flagged, rfl⟩ := SharedState.watcherLogout_eq_some.mp moved
          exact .watcherLogout flagged rfl
      | recordLogin =>
          obtain ⟨fd, remoteAddr, available, -, rfl⟩ := SharedState.recordLogin_eq_some.mp moved
          exact .login fd remoteAddr available rfl rfl rfl
      | raiseSignal =>
          cases moved
          exact .of_sameRecord (by simp) (by simp) ⟨rfl, rfl, rfl⟩
  | loop action =>
      cases action with
      | accept peer =>
          obtain ⟨selecting, rfl⟩ := accept_eq_some.mp stepped
          exact .of_same (by simp) (by simp) rfl rfl (by simp [selecting]) (by simp)
      | refuse id =>
          obtain ⟨peer, handshaking, -, rfl⟩ := refuse_eq_some.mp stepped
          exact .of_same (by simp) (by simp) rfl rfl (by simp [handshaking]) (by simp)
      | establish id =>
          obtain ⟨peer, handshaking, -, rfl⟩ := establish_eq_some.mp stepped
          exact .of_same (by simp) (by simp) rfl rfl (by simp [handshaking]) (by simp)
      | conclude id =>
          obtain ⟨peer, waiting, -, ⟨reason, -, rfl⟩ | ⟨so, -, rfl⟩⟩ :=
            conclude_eq_some.mp stepped
          · exact .of_same (by simp) (by simp) rfl rfl (by simp [waiting]) (by simp [leave])
          · have entered := enter_record config peer state.shared
            exact .of_same (by simp) (by simp) entered.1 entered.2 (by simp [waiting]) (by simp)
      | advance action =>
          obtain ⟨peer, so, stage, advanced, connected, moved, rfl⟩ :=
            advance_eq_some.mp stepped
          have kept := (ConnStage.frame_of_step moved).record
          obtain ⟨shared, progress⟩ := advanced
          cases progress with
          | proceed stage' =>
              exact .of_same (by simp) (by simp) kept.utmp kept.watcher (by simp [connected])
                (by simp [follow])
          | finish clean =>
              exact .of_same (by simp) (by simp) kept.utmp kept.watcher (by simp [connected])
                (by simp [follow, leave])
      | afterConnection id =>
          obtain ⟨peer, clean, closeReason, returned, -, rfl⟩ :=
            afterConnection_eq_some.mp stepped
          exact .of_same (by simp) (by simp) rfl rfl (by simp [returned]) (by cases clean <;> simp)
      | handleSignal =>
          obtain ⟨-, ⟨-, -, rfl⟩ | ⟨-, rfl⟩⟩ := handleSignal_eq_some.mp stepped
          all_goals exact .signal rfl rfl
      | windowExpired =>
          obtain ⟨selecting, running, rfl⟩ := stopAccepting_eq_some.mp stepped
          refine .other (by simp) (by simp) rfl Iff.rfl (by simp [selecting]) ?_
          intro through _
          rw [through] at running
          contradiction
      | endpointClosed =>
          obtain ⟨selecting, running, rfl⟩ := stopAccepting_eq_some.mp stepped
          refine .other (by simp) (by simp) rfl Iff.rfl (by simp [selecting]) ?_
          intro through _
          rw [through] at running
          contradiction
      | graceEnds =>
          obtain ⟨selecting, -, rfl⟩ := graceEnds_eq_some.mp stepped
          exact .of_same (by simp) (by simp) rfl rfl (by simp [selecting]) (by simp)
      | loopLogout =>
          obtain ⟨leaving, rfl⟩ := loopLogout_eq_some.mp stepped
          exact .loopLogout leaving rfl

/-! ## Logins behind the watcher's logout -/

/-- Whenever `record_login` is called behind the watcher's logout, a signal has
taken the loop out of that client's connection or is still to do so. -/
def LateLoginsSignalled (config : ServerConfig) (start : ServerState)
    (actions : List ServerAction) : Prop :=
  ∀ before after middle, actions = before ++ .background .recordLogin :: after →
    run (step config) start before = some middle → middle.shared.watcher = .finished →
      middle.phase = .loggingOut ∨ .loop .handleSignal ∈ after

theorem lateLoginsSignalled_cons (stepped : state.step config action = some next) :
    LateLoginsSignalled config state (action :: rest) ↔
      (action = .background .recordLogin → state.shared.watcher = .finished →
        state.phase = .loggingOut ∨ .loop .handleSignal ∈ rest) ∧
      LateLoginsSignalled config next rest := by
  constructor
  · intro signalled
    constructor
    · rintro rfl through
      exact signalled [] rest state rfl run_nil through
    · intro before after middle same executed through
      apply signalled (action :: before) after middle (by rw [same]; rfl) _ through
      exact run_cons_eq_some.mpr ⟨next, stepped, executed⟩
  · rintro ⟨head, tail⟩ before after middle same executed through
    cases before with
    | nil =>
        cases same
        rw [run_nil, Option.some.injEq] at executed
        subst executed
        exact head rfl through
    | cons first before =>
        cases same
        obtain ⟨second, secondStep, tailRun⟩ := run_cons_eq_some.mp executed
        cases stepped.symm.trans secondStep
        exact tail before after middle rfl tailRun through

/-- A login in the last place is still followed by a logout: the watcher's, the
loop's, or the one a later signal brings. -/
def Covered (state : ServerState) (rest : List ServerAction) : Prop :=
  EndsLoggedIn state.shared.utmp →
    state.shared.watcher ≠ .finished ∨ state.phase = .loggingOut ∨ .loop .handleSignal ∈ rest

/-- With the watcher through and no signal to come, a login stays in the last
place. -/
structure Stale (state : ServerState) : Prop where
  loggedIn : EndsLoggedIn state.shared.utmp
  watcher : state.shared.watcher = .finished
  phase : state.phase ≠ .loggingOut

variable {fd : Nat}

theorem Covered.step (available : config.masterFd = some fd)
    (covered : state.Covered (action :: rest))
    (late : action = .background .recordLogin → state.shared.watcher = .finished →
      state.phase = .loggingOut ∨ .loop .handleSignal ∈ rest)
    (stepped : state.step config action = some next) : next.Covered rest := by
  intro loggedIn
  cases recordStep stepped with
  | login fd' remoteAddr available' utmp watcher phase =>
      rw [watcher, phase]
      by_cases through : state.shared.watcher = .finished
      · exact Or.inr (late rfl through)
      · exact Or.inl through
  | watcherLogout flagged utmp =>
      rw [utmp, utmp_recordLogout available] at loggedIn
      exact absurd loggedIn (not_endsLoggedIn_logout _ _)
  | loopLogout leaving utmp =>
      rw [utmp, utmp_recordLogout available] at loggedIn
      exact absurd loggedIn (not_endsLoggedIn_logout _ _)
  | signal utmp phase => exact Or.inr (Or.inl phase)
  | other unsignalled notLogin utmp watcher stays waits =>
      rw [utmp] at loggedIn
      rcases covered loggedIn with watching | leaving | signal
      · exact Or.inl (mt watcher.mp watching)
      · exact Or.inr (Or.inl (stays leaving))
      · rcases List.mem_cons.mp signal with same | later
        · exact absurd same.symm unsignalled
        · exact Or.inr (Or.inr later)

theorem Stale.step (stale : state.Stale) (unsignalled : action ≠ .loop .handleSignal)
    (stepped : state.step config action = some next) : next.Stale := by
  cases recordStep stepped with
  | login fd' remoteAddr available' utmp watcher phase =>
      refine ⟨?_, watcher.trans stale.watcher, ?_⟩
      · rw [utmp]
        exact endsLoggedIn_login _ _ _
      · rw [phase]
        exact stale.phase
  | watcherLogout flagged utmp =>
      rw [stale.watcher] at flagged
      contradiction
  | loopLogout leaving utmp => exact absurd leaving stale.phase
  | signal utmp phase => exact absurd rfl unsignalled
  | other unsignalled notLogin utmp watcher stays waits =>
      refine ⟨?_, watcher.mpr stale.watcher, ?_⟩
      · rw [utmp]
        exact stale.loggedIn
      · exact fun leaving => stale.phase (waits stale.watcher leaving)

/-! ## Whole runs -/

theorem not_endsLoggedIn_of_covered (available : config.masterFd = some fd)
    (finished : final.Finished) (covered : state.Covered actions)
    (late : LateLoginsSignalled config state actions)
    (executed : run (step config) state actions = some final) :
    ¬ EndsLoggedIn final.shared.utmp := by
  induction actions generalizing state with
  | nil =>
      rw [run_nil, Option.some.injEq] at executed
      subst executed
      intro loggedIn
      rcases covered loggedIn with watching | leaving | signal
      · exact watching finished.watcher
      · rw [finished.phase] at leaving
        contradiction
      · contradiction
  | cons action rest inductionHypothesis =>
      obtain ⟨next, stepped, tailRun⟩ := run_cons_eq_some.mp executed
      obtain ⟨headLate, tailLate⟩ := (lateLoginsSignalled_cons stepped).mp late
      exact inductionHypothesis (covered.step available headLate stepped) tailLate tailRun

theorem stale_of_unsignalled (stale : state.Stale) (unsignalled : .loop .handleSignal ∉ actions)
    (executed : run (step config) state actions = some final) : final.Stale := by
  have met : Along (ServerState.step config) (fun _ action => action ≠ .loop .handleSignal) state
      actions := by
    apply along_of_forall_mem
    rintro action member _ rfl
    exact unsignalled member
  exact run_invariant_along Stale.step stale met executed

def NothingRecorded (state : ServerState) : Prop :=
  state.shared.utmp = []

theorem NothingRecorded.step (unavailable : config.masterFd = none)
    (nothing : state.NothingRecorded) (stepped : state.step config action = some next) :
    next.NothingRecorded := by
  cases recordStep stepped with
  | login fd remoteAddr available utmp watcher phase =>
      rw [unavailable] at available
      contradiction
  | watcherLogout flagged utmp =>
      rw [utmp_recordLogout_of_none unavailable] at utmp
      exact utmp.trans nothing
  | loopLogout leaving utmp =>
      rw [utmp_recordLogout_of_none unavailable] at utmp
      exact utmp.trans nothing
  | signal utmp phase => exact utmp.trans nothing
  | other unsignalled notLogin utmp watcher stays waits => exact utmp.trans nothing

/-- **When the loop is left and the blocking tasks have finished, a logout was
recorded after the last login exactly if every login that was recorded behind
the watcher's logout met a signal that ended its connection.** -/
theorem login_record_settled_iff
    (executed : run (step config) (init config) actions = some final)
    (finished : final.Finished) :
    LogoutFollows final.shared.utmp ↔ LateLoginsSignalled config (init config) actions := by
  rw [logoutFollows_iff]
  cases available : config.masterFd with
  | none =>
      have initially : (init config).NothingRecorded := rfl
      have nothing : final.NothingRecorded :=
        run_invariant (NothingRecorded.step available) initially executed
      rw [show final.shared.utmp = [] from nothing]
      apply iff_of_true not_endsLoggedIn_nil
      rintro before after middle rfl beforeRun -
      obtain ⟨middle', beforeRun', afterRun⟩ := run_append_eq_some.mp executed
      obtain ⟨next, stepped, -⟩ := run_cons_eq_some.mp afterRun
      cases recordStep stepped with
      | login fd remoteAddr available' utmp watcher phase =>
          rw [available] at available'
          contradiction
      | other unsignalled notLogin utmp watcher stays waits => exact absurd rfl notLogin
  | some fd =>
      constructor
      · rintro loggedOut before after middle rfl beforeRun through
        by_contra unsignalled
        rw [not_or] at unsignalled
        obtain ⟨middle', beforeRun', afterRun⟩ := run_append_eq_some.mp executed
        cases beforeRun.symm.trans beforeRun'
        obtain ⟨next, stepped, tailRun⟩ := run_cons_eq_some.mp afterRun
        have stale : next.Stale := by
          cases recordStep stepped with
          | login fd' remoteAddr available' utmp watcher phase =>
              refine ⟨?_, watcher.trans through, ?_⟩
              · rw [utmp]
                exact endsLoggedIn_login _ _ _
              · rw [phase]
                exact unsignalled.1
          | other unsignalled notLogin utmp watcher stays waits => exact absurd rfl notLogin
        exact loggedOut (stale_of_unsignalled stale unsignalled.2 tailRun).loggedIn
      · intro late
        have covered : (init config).Covered actions :=
          fun loggedIn => absurd loggedIn not_endsLoggedIn_nil
        exact not_endsLoggedIn_of_covered available finished covered late executed

/-- The client is sent the queued `Disconnect`, and its connection ends. -/
def hangUp : List ServerAction :=
  [.loop (.advance .writeCtrl), .loop (.advance .endTask), .loop (.afterConnection 1)]

/-- The shell exits while the client is connected. -/
def attendedExit : List ServerAction :=
  connect ++ [.background .notify, .background .raiseFlag] ++ hangUp ++
    [.background .watcherLogout, .loop .graceEnds]

theorem attended_exit_settled :
    LateLoginsSignalled .sample (init .sample) attendedExit := by
  have executed : ∃ final, run (ServerState.step .sample) (init .sample) attendedExit = some final ∧
      final.Finished ∧
      final.shared.utmp =
        [.recordLogin 5 (ConnStage.loginAddr .sample clientPeer), .recordLogout 5] :=
    ⟨_, rfl, ⟨rfl, rfl, rfl⟩, rfl⟩
  rcases executed with ⟨final, executed, finished, utmp⟩
  apply (login_record_settled_iff executed finished).mp
  rw [logoutFollows_iff, utmp]
  exact not_endsLoggedIn_logout [.recordLogin 5 (ConnStage.loginAddr .sample clientPeer)] 5

/-- The shell exits, and the client connects within the second of grace. -/
def graceVisit : List ServerAction :=
  [.background .notify, .background .raiseFlag, .background .watcherLogout] ++ connect ++
    hangUp ++ [.loop .graceEnds]

/-- That client stays logged in for good. -/
theorem grace_visit_stale :
    ∃ final,
      run (ServerState.step .sample) (init .sample) graceVisit = some final ∧
      final.Finished ∧
      final.shared.utmp =
        [.recordLogout 5, .recordLogin 5 (ConnStage.loginAddr .sample clientPeer)] ∧
      ¬ LogoutFollows final.shared.utmp := by
  refine ⟨_, rfl, ⟨rfl, rfl, rfl⟩, rfl, ?_⟩
  rw [logoutFollows_iff, not_not]
  exact endsLoggedIn_login [.recordLogout 5] _ _

end ServerState

end Etr.Server
