import Etr.Server.AcceptLoop

/-!
Contract: where the active connection and the X11 cookie of a session come from.

Owns what each step of the accept loop does to the two slots an X11 connection
is served from, and that only authenticated clients ever fill them.

Does not own what is done with them.
-/

namespace Etr.Server

open Etr.Library Etr.Session Etr.Wire
open Etr.Protocol (SessionOpen)

/-- A client that came to the session and authenticated. -/
def Admitted (config : ServerConfig) (arrived : Peer → Prop) (peer : Peer) : Prop :=
  arrived peer ∧ ∃ so, peer.opening.Presents config.credentials so

/-- A client that came to the session authenticated, with X11 and this cookie. -/
def Brought (config : ServerConfig) (arrived : Peer → Prop) (cookie : List UInt8) : Prop :=
  ∃ peer so, arrived peer ∧ peer.opening.Presents config.credentials so ∧
    so.x11Enabled = true ∧ so.x11AuthCookie = cookie

/-- The two slots of X11, filled by clients that authenticated. -/
structure SharedState.Vouched (config : ServerConfig) (arrived : Peer → Prop)
    (shared : SharedState) : Prop where
  active : ∀ peer, shared.activeConn = some peer → Admitted config arrived peer
  cookie : ∀ cookie, shared.x11RealCookie = some cookie → Brought config arrived cookie

structure ServerState.Vouched (config : ServerConfig) (arrived : Peer → Prop)
    (state : ServerState) : Prop where
  slots : state.shared.Vouched config arrived
  arrived : ∀ peer, state.phase.peer? = some peer → arrived peer
  presented : ∀ peer so stage, state.phase = .connected peer so stage →
    peer.opening.Presents config.credentials so

/-- A step of the loop takes in only clients that come. -/
def ServerState.Takes (arrived : Peer → Prop) (_ : ServerState) : ServerAction → Prop
  | .loop (.accept peer) => arrived peer
  | _ => True

/-! ## The slots, step by step -/

/-- Neither slot has changed. -/
structure SharedState.SameX11 (shared next : SharedState) : Prop where
  active : next.activeConn = shared.activeConn
  cookie : next.x11RealCookie = shared.x11RealCookie

namespace SharedState

variable {config : ServerConfig} {arrived : Peer → Prop} {shared next : SharedState}

theorem SameX11.vouched (same : shared.SameX11 next) (vouched : shared.Vouched config arrived) :
    next.Vouched config arrived where
  active := same.active ▸ vouched.active
  cookie := same.cookie ▸ vouched.cookie

theorem sameX11_recordLogout (config : ServerConfig) (shared : SharedState) :
    shared.SameX11 (shared.recordLogout config) := by
  unfold recordLogout
  split
  · exact ⟨rfl, rfl⟩
  · exact ⟨rfl, rfl⟩

theorem sameX11_of_step {action : BackgroundAction}
    (stepped : shared.step config action = some next) : shared.SameX11 next := by
  cases action with
  | readPty data =>
      simp only [SharedState.step, readPty] at stepped
      split at stepped
      · contradiction
      · cases stepped
        exact ⟨rfl, rfl⟩
  | forwardPty =>
      simp only [SharedState.step, forwardPty] at stepped
      split at stepped
      · contradiction
      · obtain ⟨slot, -, rfl⟩ := Option.map_eq_some_iff.mp stepped
        exact ⟨rfl, rfl⟩
  | writePtyInput =>
      obtain ⟨taken, -, rfl⟩ := Option.map_eq_some_iff.mp stepped
      exact ⟨rfl, rfl⟩
  | endPtyInput =>
      cases stepped
      exact ⟨rfl, rfl⟩
  | notify =>
      obtain ⟨-, slot, -, rfl⟩ := notify_eq_some.mp stepped
      exact ⟨rfl, rfl⟩
  | raiseFlag =>
      obtain ⟨-, rfl⟩ := raiseFlag_eq_some.mp stepped
      exact ⟨rfl, rfl⟩
  | watcherLogout =>
      obtain ⟨-, rfl⟩ := watcherLogout_eq_some.mp stepped
      have kept := sameX11_recordLogout config shared
      exact ⟨kept.active, kept.cookie⟩
  | recordLogin =>
      obtain ⟨fd, remoteAddr, -, -, rfl⟩ := recordLogin_eq_some.mp stepped
      exact ⟨rfl, rfl⟩
  | raiseSignal =>
      cases stepped
      exact ⟨rfl, rfl⟩

end SharedState

/-- A connection fills the slots with itself and with the cookie of its
`SessionOpen`, or leaves them alone. -/
structure ConnStage.FillsX11 (peer : Peer) (so : SessionOpen) (shared next : SharedState) :
    Prop where
  active : next.activeConn = shared.activeConn ∨ next.activeConn = some peer
  cookie : next.x11RealCookie = shared.x11RealCookie ∨
    (so.x11Enabled = true ∧ next.x11RealCookie = some so.x11AuthCookie)

namespace ConnStage

variable {config : ServerConfig} {peer : Peer} {so : SessionOpen} {shared : SharedState}
  {stage : ConnStage} {advanced : SharedState × Progress}

theorem fillsX11_same (shared : SharedState) : FillsX11 peer so shared shared :=
  ⟨Or.inl rfl, Or.inl rfl⟩

theorem fillsX11_of_step {action : ConnAction}
    (stepped : stage.step config peer so shared action = some advanced) :
    FillsX11 peer so shared advanced.1 := by
  cases action with
  | storeCookie =>
      rcases storeCookie_cases stepped with ⟨-, ⟨enabled, rfl⟩ | ⟨-, rfl⟩⟩
      · exact ⟨Or.inl rfl, Or.inr ⟨enabled, rfl⟩⟩
      · exact fillsX11_same shared
  | activate =>
      rcases activate_cases stepped with ⟨replays, -, rfl⟩
      exact ⟨Or.inr rfl, Or.inl rfl⟩
  | loginRecorded =>
      rcases loginRecorded_cases stepped with ⟨-, -, rfl⟩
      exact fillsX11_same shared
  | collectReplays =>
      rcases collectReplays_cases stepped with ⟨-, session, -, rfl⟩
      exact ⟨Or.inl rfl, Or.inl rfl⟩
  | writeAccept succeeded =>
      rcases writeAccept_cases stepped with ⟨serverLast, replays, -, ⟨-, rfl⟩ | ⟨-, rfl⟩⟩
      · exact ⟨Or.inl rfl, Or.inl rfl⟩
      · exact fillsX11_same shared
  | startListener =>
      rcases startListener_cases stepped with
        ⟨text, rest, replays, -, ⟨-, rfl⟩ | ⟨spec, -, -, rfl⟩⟩ | ⟨replays, -, rfl⟩
      · exact fillsX11_same shared
      · exact ⟨Or.inl rfl, Or.inl rfl⟩
      · exact fillsX11_same shared
  | publishPty =>
      rcases publishPty_cases stepped with ⟨replays, -, rfl⟩
      exact ⟨Or.inl rfl, Or.inl rfl⟩
  | publishCtrl =>
      rcases publishCtrl_cases stepped with ⟨replays, -, rfl⟩
      exact ⟨Or.inl rfl, Or.inl rfl⟩
  | checkFlag =>
      rcases checkFlag_cases stepped with ⟨replays, -, ⟨-, rfl⟩ | ⟨-, rfl⟩⟩
      · exact ⟨Or.inl rfl, Or.inl rfl⟩
      · exact fillsX11_same shared
  | queueReplay =>
      rcases queueReplay_cases stepped with ⟨entry, rest, -, rfl⟩ | ⟨-, rfl⟩
      · exact ⟨Or.inl rfl, Or.inl rfl⟩
      · exact fillsX11_same shared
  | startServing =>
      rcases startServing_cases stepped with ⟨-, rfl⟩
      exact fillsX11_same shared
  | writePty =>
      rcases writePty_cases stepped with ⟨input, chunk, slot, -, -, rfl⟩
      exact ⟨Or.inl rfl, Or.inl rfl⟩
  | readInput chunk =>
      rcases readInput_cases stepped with ⟨-, rfl⟩
      exact fillsX11_same shared
  | markInput =>
      rcases markInput_cases stepped with ⟨chunk, -, rfl⟩
      exact ⟨Or.inl rfl, Or.inl rfl⟩
  | enqueueInput =>
      rcases enqueueInput_cases stepped with ⟨chunk, -, ⟨-, queue, -, rfl⟩ | ⟨-, rfl⟩⟩
      · exact ⟨Or.inl rfl, Or.inl rfl⟩
      · exact fillsX11_same shared
  | readCtrl envelope =>
      rcases readCtrl_cases stepped with
        ⟨input, -, ⟨-, rfl⟩ | ⟨-, rfl⟩ | ⟨rows, cols, -, rfl⟩ | ⟨lastReceivedSeq, -, rfl⟩⟩
      · exact fillsX11_same shared
      · exact fillsX11_same shared
      · exact ⟨Or.inl rfl, Or.inl rfl⟩
      · exact ⟨Or.inl rfl, Or.inl rfl⟩
  | sendHeartbeat =>
      rcases sendHeartbeat_cases stepped with ⟨input, slot, -, -, rfl⟩
      exact ⟨Or.inl rfl, Or.inl rfl⟩
  | writeCtrl =>
      rcases writeCtrl_cases stepped with ⟨input, envelope, slot, -, -, left, -, rfl⟩
      exact ⟨Or.inl rfl, Or.inl rfl⟩
  | endTask =>
      rcases endTask_cases stepped with ⟨-, rfl⟩
      exact fillsX11_same shared

/-- What an authenticated client fills in is vouched for. -/
theorem FillsX11.vouched {arrived : Peer → Prop} {next : SharedState}
    (fills : FillsX11 peer so shared next) (here : arrived peer)
    (presented : peer.opening.Presents config.credentials so)
    (vouched : shared.Vouched config arrived) : next.Vouched config arrived where
  active := by
    intro found active
    rcases fills.active with kept | own
    · exact vouched.active found (kept.symm.trans active)
    · cases own.symm.trans active
      exact ⟨here, so, presented⟩
  cookie := by
    intro found stored
    rcases fills.cookie with kept | ⟨enabled, own⟩
    · exact vouched.cookie found (kept.symm.trans stored)
    · cases own.symm.trans stored
      exact ⟨peer, so, here, presented, enabled, rfl⟩

end ConnStage

namespace ServerState

variable {config : ServerConfig} {arrived : Peer → Prop} {state next : ServerState}

theorem vouched_init (config : ServerConfig) (arrived : Peer → Prop) :
    (init config).Vouched config arrived where
  slots := ⟨nofun, nofun⟩
  arrived := nofun
  presented := nofun

theorem vouched_clearSlots {shared : SharedState} (vouched : shared.Vouched config arrived) :
    (clearSlots shared).Vouched config arrived where
  active := nofun
  cookie := vouched.cookie

/-- A phase without a client. -/
theorem Vouched.idle {shared : SharedState} {phase : LoopPhase}
    (slots : shared.Vouched config arrived) (idle : phase.peer? = none) :
    Vouched config arrived ⟨shared, phase⟩ where
  slots := slots
  arrived := by
    intro peer busy
    rw [idle] at busy
    contradiction
  presented := by
    rintro peer so stage rfl
    contradiction

/-- A phase with a client that has not authenticated, or is gone. -/
theorem Vouched.busy {shared : SharedState} {phase : LoopPhase} {peer : Peer}
    (slots : shared.Vouched config arrived) (busy : phase.peer? = some peer)
    (here : arrived peer) (unconnected : ∀ other so stage, phase ≠ .connected other so stage) :
    Vouched config arrived ⟨shared, phase⟩ where
  slots := slots
  arrived := by
    intro other found
    cases busy.symm.trans found
    exact here
  presented := fun other so stage connected => absurd connected (unconnected other so stage)

theorem Vouched.leave {shared : SharedState} {peer : Peer} {clean : Bool}
    {closeReason : Option String} (slots : shared.Vouched config arrived) (here : arrived peer) :
    (leave shared peer clean closeReason).Vouched config arrived := by
  have closed : SharedState.Vouched config arrived
      { shared with
        outboundPtyTx := shared.outboundPtyTx.close
        outboundCtrlTx := shared.outboundCtrlTx.close } :=
    ⟨slots.active, slots.cookie⟩
  exact Vouched.busy closed rfl here nofun

theorem Vouched.connected {shared : SharedState} {peer : Peer} {so : SessionOpen}
    {stage : ConnStage} (slots : shared.Vouched config arrived) (here : arrived peer)
    (presented : peer.opening.Presents config.credentials so) :
    Vouched config arrived ⟨shared, .connected peer so stage⟩ where
  slots := slots
  arrived := by
    rintro _ ⟨⟩
    exact here
  presented := by
    rintro _ _ _ ⟨⟩
    exact presented

theorem Vouched.step {action : ServerAction} (vouched : state.Vouched config arrived)
    (takes : Takes arrived state action) (stepped : state.step config action = some next) :
    next.Vouched config arrived := by
  cases action with
  | background action =>
      obtain ⟨shared, moved, rfl⟩ := background_eq_some.mp stepped
      exact ⟨(SharedState.sameX11_of_step moved).vouched vouched.slots, vouched.arrived,
        vouched.presented⟩
  | loop action =>
      cases action with
      | accept peer =>
          obtain ⟨-, rfl⟩ := accept_eq_some.mp stepped
          exact Vouched.busy vouched.slots rfl takes nofun
      | refuse id =>
          obtain ⟨peer, -, -, rfl⟩ := refuse_eq_some.mp stepped
          exact Vouched.idle vouched.slots rfl
      | establish id =>
          obtain ⟨peer, handshaking, -, rfl⟩ := establish_eq_some.mp stepped
          have here : arrived peer := vouched.arrived peer (by rw [handshaking]; rfl)
          exact Vouched.busy vouched.slots rfl here nofun
      | conclude id =>
          obtain ⟨peer, opening, -, outcome⟩ := conclude_eq_some.mp stepped
          have here : arrived peer := vouched.arrived peer (by rw [opening]; rfl)
          rcases outcome with ⟨reason, -, rfl⟩ | ⟨so, authenticated, rfl⟩
          · exact Vouched.leave vouched.slots here
          · have same : state.shared.SameX11 (ConnStage.enter config peer state.shared).1 := by
              unfold ConnStage.enter
              split
              · exact ⟨rfl, rfl⟩
              · exact ⟨rfl, rfl⟩
            exact Vouched.connected (same.vouched vouched.slots) here
              (authenticate_eq_ok.mp authenticated)
      | advance action =>
          obtain ⟨peer, so, stage, advanced, connected, moved, rfl⟩ := advance_eq_some.mp stepped
          have here : arrived peer := vouched.arrived peer (by rw [connected]; rfl)
          have presented := vouched.presented peer so stage connected
          have slots := (ConnStage.fillsX11_of_step moved).vouched here presented vouched.slots
          unfold follow
          split
          · exact Vouched.connected slots here presented
          · exact Vouched.leave slots here
      | afterConnection id =>
          obtain ⟨peer, clean, closeReason, -, -, rfl⟩ := afterConnection_eq_some.mp stepped
          refine Vouched.idle (vouched_clearSlots vouched.slots) ?_
          split
          · rfl
          · rfl
      | handleSignal =>
          obtain ⟨-, ⟨-, -, rfl⟩ | ⟨-, rfl⟩⟩ := handleSignal_eq_some.mp stepped
          · exact Vouched.idle vouched.slots rfl
          · exact Vouched.idle (vouched_clearSlots vouched.slots) rfl
      | windowExpired | endpointClosed =>
          obtain ⟨-, -, rfl⟩ := stopAccepting_eq_some.mp stepped
          exact Vouched.idle vouched.slots rfl
      | graceEnds =>
          obtain ⟨-, -, rfl⟩ := graceEnds_eq_some.mp stepped
          exact Vouched.idle vouched.slots rfl
      | loopLogout =>
          obtain ⟨-, rfl⟩ := loopLogout_eq_some.mp stepped
          have same := SharedState.sameX11_recordLogout config state.shared
          exact Vouched.idle (same.vouched vouched.slots) rfl

end ServerState

end Etr.Server
