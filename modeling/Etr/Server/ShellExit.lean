import Etr.Library.Channel
import Etr.Library.Transition
import Etr.Session.State

/-!
Contract: telling a connected client that the shell exited.

Owns the transition system of the shell-exit watcher of `run_session` and of
the control channel of successive connections: publishing its sender, checking
the exit flag, heartbeats and the control writer. Owns the exact order of
events under which a live connection is told.

Does not own what the client does with a `Disconnect`.
-/

namespace Etr.Server

open Etr.Library Etr.Session

/-- Envelopes the control channel of a connection holds. -/
def ctrlOutputCapacity : Nat := 64

/-- What the server sends on an established control stream. -/
inductive CtrlEnvelope where
  | heartbeat (lastReceivedSeq : WatermarkMap)
  | disconnect

/-- Where the shell-exit watcher is. -/
inductive ExitWatcher where
  /-- In `child.wait()`. -/
  | waiting
  /-- It has read the sender slot and enqueued `Disconnect` if it was set. -/
  | notified
  /-- It has set the shell-exit flag. -/
  | flagged
deriving DecidableEq, Repr

/-- How far `handle_connection` is with its control channel. -/
inductive CtrlSetup where
  | idle
  | handshaking
  /-- The sender is in the slot; the exit flag is not checked yet. -/
  | published
  /-- The exit flag was checked. -/
  | checked
deriving DecidableEq, Repr

/-- The sender slot is set from publishing until the connection ends. -/
def CtrlSetup.attached : CtrlSetup → Bool
  | .idle | .handshaking => false
  | .published | .checked => true

/-- Server state the notification passes through. The last two fields are
history variables of the current connection. -/
structure ExitState where
  watcher : ExitWatcher
  setup : CtrlSetup
  /-- `outbound_ctrl_tx`, with the queue behind the sender. -/
  outboundCtrlTx : Option (Channel CtrlEnvelope ctrlOutputCapacity)
  enqueued : List CtrlEnvelope
  /-- The sender was published after the watcher had read the slot. -/
  publishedLate : Bool

namespace ExitState

def init : ExitState where
  watcher := .waiting
  setup := .idle
  outboundCtrlTx := none
  enqueued := []
  publishedLate := false

/-! ## Steps -/

/-- Watcher: the shell exited; read the slot and enqueue `Disconnect` on the
sender found there. The send blocks while the channel is full. -/
def notify (state : ExitState) : Option ExitState :=
  match state.watcher, state.outboundCtrlTx with
  | .waiting, none => some { state with watcher := .notified }
  | .waiting, some channel =>
      (channel.trySend .disconnect).map fun sent =>
        { state with
          watcher := .notified
          outboundCtrlTx := some sent
          enqueued := state.enqueued ++ [.disconnect] }
  | _, _ => none

/-- Watcher: set the shell-exit flag. -/
def raiseFlag (state : ExitState) : Option ExitState :=
  match state.watcher with
  | .notified => some { state with watcher := .flagged }
  | _ => none

/-- The accept loop hands a connection to `handle_connection`. -/
def accept (state : ExitState) : Option ExitState :=
  match state.setup with
  | .idle => some { state with setup := .handshaking }
  | _ => none

/-- Connection: create the control channel and publish its sender. -/
def publishCtrl (state : ExitState) : Option ExitState :=
  match state.setup with
  | .handshaking =>
      some { state with
        setup := .published
        outboundCtrlTx := some Channel.empty
        enqueued := []
        publishedLate := decide (state.watcher ≠ .waiting) }
  | _ => none

/-- Connection: if the flag is set, enqueue `Disconnect`; the result of
`try_send` is ignored. -/
def checkFlag (state : ExitState) : Option ExitState :=
  match state.setup, state.outboundCtrlTx with
  | .published, some channel =>
      if state.watcher = .flagged then
        match channel.trySend .disconnect with
        | some sent =>
            some { state with
              setup := .checked
              outboundCtrlTx := some sent
              enqueued := state.enqueued ++ [.disconnect] }
        | none => some { state with setup := .checked }
      else
        some { state with setup := .checked }
  | _, _ => none

/-- Heartbeat task: enqueue a heartbeat, blocking while the channel is full. -/
def sendHeartbeat (state : ExitState) (lastReceivedSeq : WatermarkMap) :
    Option ExitState :=
  match state.setup, state.outboundCtrlTx with
  | .checked, some channel =>
      (channel.trySend (.heartbeat lastReceivedSeq)).map fun sent =>
        { state with
          outboundCtrlTx := some sent
          enqueued := state.enqueued ++ [.heartbeat lastReceivedSeq] }
  | _, _ => none

/-- Control writer: take the oldest envelope and write it to the stream. -/
def writeCtrl (state : ExitState) : Option ExitState :=
  match state.setup, state.outboundCtrlTx with
  | .checked, some channel =>
      channel.recv.map fun taken => { state with outboundCtrlTx := some taken.2 }
  | _, _ => none

/-- The connection ended and the accept loop cleared the slot. -/
def finish (state : ExitState) : Option ExitState :=
  match state.setup with
  | .idle => none
  | _ => some { state with setup := .idle, outboundCtrlTx := none }

end ExitState

inductive ExitAction where
  | notify
  | raiseFlag
  | accept
  | publishCtrl
  | checkFlag
  | sendHeartbeat (lastReceivedSeq : WatermarkMap)
  | writeCtrl
  | finish

def ExitState.step (state : ExitState) : ExitAction → Option ExitState
  | .notify => state.notify
  | .raiseFlag => state.raiseFlag
  | .accept => state.accept
  | .publishCtrl => state.publishCtrl
  | .checkFlag => state.checkFlag
  | .sendHeartbeat lastReceivedSeq => state.sendHeartbeat lastReceivedSeq
  | .writeCtrl => state.writeCtrl
  | .finish => state.finish

namespace ExitState

variable {state next : ExitState}

/-! ## What each step can do -/

theorem notify_cases (stepped : state.notify = some next) : state.watcher = .waiting ∧
    ((state.outboundCtrlTx = none ∧ next = { state with watcher := .notified }) ∨
      ∃ channel sent, state.outboundCtrlTx = some channel ∧
        sent.items = channel.items ++ [.disconnect] ∧
        next = { state with
          watcher := .notified
          outboundCtrlTx := some sent
          enqueued := state.enqueued ++ [.disconnect] }) := by
  unfold notify at stepped
  split at stepped
  · rename_i waiting empty
    cases stepped
    exact ⟨waiting, Or.inl ⟨empty, rfl⟩⟩
  · rename_i channel waiting occupied
    rcases Option.map_eq_some_iff.mp stepped with ⟨sent, accepted, rfl⟩
    have appended := (Channel.trySend_eq_some.mp accepted).2
    exact ⟨waiting, Or.inr ⟨channel, sent, occupied, appended, rfl⟩⟩
  · contradiction

theorem raiseFlag_cases (stepped : state.raiseFlag = some next) :
    state.watcher = .notified ∧ next = { state with watcher := .flagged } := by
  unfold raiseFlag at stepped
  split at stepped
  · rename_i notified
    cases stepped
    exact ⟨notified, rfl⟩
  · contradiction

theorem accept_cases (stepped : state.accept = some next) :
    state.setup = .idle ∧ next = { state with setup := .handshaking } := by
  unfold accept at stepped
  split at stepped
  · rename_i idle
    cases stepped
    exact ⟨idle, rfl⟩
  · contradiction

theorem publishCtrl_cases (stepped : state.publishCtrl = some next) :
    state.setup = .handshaking ∧ next = { state with
      setup := .published
      outboundCtrlTx := some Channel.empty
      enqueued := []
      publishedLate := decide (state.watcher ≠ .waiting) } := by
  unfold publishCtrl at stepped
  split at stepped
  · rename_i handshaking
    cases stepped
    exact ⟨handshaking, rfl⟩
  · contradiction

theorem checkFlag_cases (stepped : state.checkFlag = some next) :
    state.setup = .published ∧ ∃ channel, state.outboundCtrlTx = some channel ∧
      ((state.watcher = .flagged ∧ ∃ sent, next = { state with
          setup := .checked
          outboundCtrlTx := some sent
          enqueued := state.enqueued ++ [.disconnect] }) ∨
        (state.watcher = .flagged ∧ ctrlOutputCapacity ≤ channel.items.length ∧
          next = { state with setup := .checked }) ∨
        (state.watcher ≠ .flagged ∧ next = { state with setup := .checked })) := by
  unfold checkFlag at stepped
  split at stepped
  · rename_i channel published occupied
    refine ⟨published, channel, occupied, ?_⟩
    split at stepped
    · rename_i flagged
      split at stepped
      · rename_i sent accepted
        cases stepped
        exact Or.inl ⟨flagged, sent, rfl⟩
      · rename_i refused
        cases stepped
        exact Or.inr (Or.inl ⟨flagged, Channel.trySend_eq_none.mp refused, rfl⟩)
    · rename_i unflagged
      cases stepped
      exact Or.inr (Or.inr ⟨unflagged, rfl⟩)
  · contradiction

theorem sendHeartbeat_cases {lastReceivedSeq : WatermarkMap}
    (stepped : state.sendHeartbeat lastReceivedSeq = some next) :
    state.setup = .checked ∧ ∃ channel sent, state.outboundCtrlTx = some channel ∧
      sent.items = channel.items ++ [.heartbeat lastReceivedSeq] ∧
      next = { state with
        outboundCtrlTx := some sent
        enqueued := state.enqueued ++ [.heartbeat lastReceivedSeq] } := by
  unfold sendHeartbeat at stepped
  split at stepped
  · rename_i channel checked occupied
    rcases Option.map_eq_some_iff.mp stepped with ⟨sent, accepted, rfl⟩
    have appended := (Channel.trySend_eq_some.mp accepted).2
    exact ⟨checked, channel, sent, occupied, appended, rfl⟩
  · contradiction

theorem writeCtrl_cases (stepped : state.writeCtrl = some next) :
    state.setup = .checked ∧ ∃ channel envelope rest, state.outboundCtrlTx = some channel ∧
      channel.items = envelope :: rest.items ∧
      next = { state with outboundCtrlTx := some rest } := by
  unfold writeCtrl at stepped
  split at stepped
  · rename_i channel checked occupied
    rcases Option.map_eq_some_iff.mp stepped with ⟨taken, received, rfl⟩
    have oldest := Channel.recv_eq_some.mp received
    exact ⟨checked, channel, taken.1, taken.2, occupied, oldest, rfl⟩
  · contradiction

theorem finish_cases (stepped : state.finish = some next) :
    next = { state with setup := .idle, outboundCtrlTx := none } := by
  unfold finish at stepped
  split at stepped
  · contradiction
  · cases stepped
    rfl

/-! ## The invariant of every run -/

/-- The slot follows the connection; an attached connection that published
early is told by the watcher, and one that published late is not told before
the flag is set. -/
structure Watched (state : ExitState) : Prop where
  slot : state.outboundCtrlTx.isSome = state.setup.attached
  room : ∀ channel, state.setup = .published → state.outboundCtrlTx = some channel →
    channel.items.length ≤ if state.watcher = .waiting then 0 else 1
  late : state.setup.attached = true → state.publishedLate = true → state.watcher ≠ .waiting
  early : state.setup.attached = true → state.publishedLate = false →
    state.watcher ≠ .waiting → CtrlEnvelope.disconnect ∈ state.enqueued
  untold : state.setup.attached = true → state.publishedLate = true →
    state.watcher = .notified → CtrlEnvelope.disconnect ∉ state.enqueued

theorem watched_init : init.Watched where
  slot := rfl
  room := by simp [init]
  late := by simp [init, CtrlSetup.attached]
  early := by simp [init, CtrlSetup.attached]
  untold := by simp [init, CtrlSetup.attached]

theorem Watched.notify (watched : state.Watched) (stepped : state.notify = some next) :
    next.Watched := by
  rcases notify_cases stepped with ⟨waiting, outcome⟩
  rcases outcome with ⟨empty, rfl⟩ | ⟨channel, sent, occupied, appended, rfl⟩
  · have detached : state.setup.attached = false := by
      rw [← watched.slot, empty, Option.isSome_none]
    refine ⟨watched.slot, ?_, ?_, ?_, ?_⟩
    · intro channel published occupied
      rw [empty] at occupied
      contradiction
    all_goals
      intro attached
      exact absurd (detached.symm.trans attached) (by decide)
  · have attached : state.setup.attached = true := by
      rw [← watched.slot, occupied, Option.isSome_some]
    have early : state.publishedLate = false := by
      apply Bool.eq_false_iff.mpr
      intro late
      exact watched.late attached late waiting
    refine ⟨attached.symm, ?_, ?_, ?_, ?_⟩
    · intro other published same
      cases same
      have before := watched.room channel published occupied
      rw [if_pos waiting] at before
      rw [appended, List.length_append, List.length_singleton]
      show _ ≤ 1
      omega
    · intro _ _
      simp
    · intro _ _ _
      simp
    · intro _ late
      rw [early] at late
      contradiction

theorem Watched.step {action : ExitAction} (watched : state.Watched)
    (stepped : state.step action = some next) : next.Watched := by
  cases action with
  | notify => exact watched.notify stepped
  | raiseFlag =>
      rcases raiseFlag_cases stepped with ⟨notified, rfl⟩
      refine ⟨watched.slot, ?_, ?_, ?_, ?_⟩
      · intro channel published occupied
        have before := watched.room channel published occupied
        simpa [notified] using before
      · intro _ _
        simp
      · intro attached early _
        exact watched.early attached early (by simp [notified])
      · intro _ _ same
        contradiction
  | accept =>
      rcases accept_cases stepped with ⟨idle, rfl⟩
      have slot := watched.slot
      rw [idle] at slot
      exact ⟨slot, by simp, by simp [CtrlSetup.attached], by simp [CtrlSetup.attached],
        by simp [CtrlSetup.attached]⟩
  | publishCtrl =>
      rcases publishCtrl_cases stepped with ⟨-, rfl⟩
      refine ⟨rfl, ?_, ?_, ?_, ?_⟩
      · intro channel _ same
        cases same
        exact Nat.zero_le _
      · intro _ late
        exact of_decide_eq_true late
      · intro _ early
        simpa using early
      · simp
  | checkFlag =>
      rcases checkFlag_cases stepped with ⟨published, channel, occupied, outcome⟩
      have attached : state.setup.attached = true := by
        rw [published]
        rfl
      rcases outcome with ⟨flagged, sent, rfl⟩ | ⟨-, -, rfl⟩ | ⟨-, rfl⟩
      · refine ⟨rfl, by simp, ?_, ?_, ?_⟩
        · intro _ late
          exact watched.late attached late
        · intro _ _ _
          simp
        · intro _ _ notified
          rw [show state.watcher = .notified from notified] at flagged
          contradiction
      all_goals
        refine ⟨watched.slot.trans attached, by simp, ?_, ?_, ?_⟩
        · intro _ late
          exact watched.late attached late
        · intro _ early
          exact watched.early attached early
        · intro _ late
          exact watched.untold attached late
  | sendHeartbeat lastReceivedSeq =>
      rcases sendHeartbeat_cases stepped with ⟨checked, channel, sent, -, -, rfl⟩
      refine ⟨by simp [checked, CtrlSetup.attached], by simp [checked], watched.late, ?_, ?_⟩
      · intro attached early told
        exact List.mem_append_left _ (watched.early attached early told)
      · intro attached late notified
        simpa using watched.untold attached late notified
  | writeCtrl =>
      rcases writeCtrl_cases stepped with ⟨checked, channel, envelope, rest, -, -, rfl⟩
      exact ⟨by simp [checked, CtrlSetup.attached], by simp [checked], watched.late,
        watched.early, watched.untold⟩
  | finish =>
      have ended := finish_cases stepped
      subst ended
      exact ⟨rfl, by simp, by simp [CtrlSetup.attached], by simp [CtrlSetup.attached],
        by simp [CtrlSetup.attached]⟩

/-! ## Being told -/

/-- A live connection that checked the flag, once the flag is set, has a
`Disconnect` enqueued. -/
def Told (state : ExitState) : Prop :=
  state.watcher = .flagged → state.setup = .checked → CtrlEnvelope.disconnect ∈ state.enqueued

/-- The watcher does not set the flag behind a live connection that published
its sender after the watcher read the slot and has checked the flag already. -/
def NotOvertaken (state : ExitState) : ExitAction → Prop
  | .raiseFlag => ¬ (state.publishedLate = true ∧ state.setup = .checked)
  | _ => True

theorem told_step_iff {action : ExitAction} (watched : state.Watched) (told : state.Told)
    (stepped : state.step action = some next) : next.Told ↔ state.NotOvertaken action := by
  cases action with
  | notify =>
      rcases notify_cases stepped with ⟨-, ⟨-, rfl⟩ | ⟨channel, sent, -, -, rfl⟩⟩
      all_goals exact iff_of_true (fun flagged => by contradiction) trivial
  | raiseFlag =>
      rcases raiseFlag_cases stepped with ⟨notified, rfl⟩
      constructor
      · rintro toldNext ⟨late, checked⟩
        have attached : state.setup.attached = true := by
          rw [checked]
          rfl
        exact watched.untold attached late notified (toldNext rfl checked)
      · intro inOrder _ checked
        have attached : state.setup.attached = true := by
          rw [show state.setup = .checked from checked]
          rfl
        have early : state.publishedLate = false := by
          apply Bool.eq_false_iff.mpr
          intro late
          exact inOrder ⟨late, checked⟩
        exact watched.early attached early (by simp [notified])
  | accept =>
      rcases accept_cases stepped with ⟨-, rfl⟩
      exact iff_of_true (fun _ checked => by contradiction) trivial
  | publishCtrl =>
      rcases publishCtrl_cases stepped with ⟨-, rfl⟩
      exact iff_of_true (fun _ checked => by contradiction) trivial
  | checkFlag =>
      rcases checkFlag_cases stepped with ⟨published, channel, occupied, outcome⟩
      rcases outcome with ⟨-, sent, rfl⟩ | ⟨flagged, full, rfl⟩ | ⟨unflagged, rfl⟩
      · exact iff_of_true (fun _ _ => by simp) trivial
      · -- Nothing but the watcher's own envelope can be queued this early.
        have room := watched.room channel published occupied
        have capacity : ctrlOutputCapacity = 64 := rfl
        split at room <;> omega
      · exact iff_of_true (fun flagged _ => absurd flagged unflagged) trivial
  | sendHeartbeat lastReceivedSeq =>
      rcases sendHeartbeat_cases stepped with ⟨-, channel, sent, -, -, rfl⟩
      exact iff_of_true (fun flagged checked =>
        List.mem_append_left _ (told flagged checked)) trivial
  | writeCtrl =>
      rcases writeCtrl_cases stepped with ⟨-, channel, envelope, rest, -, -, rfl⟩
      exact iff_of_true told trivial
  | finish =>
      have ended := finish_cases stepped
      subst ended
      exact iff_of_true (fun _ checked => by contradiction) trivial

/-- **In every state of a run a connected client is told of the shell's exit
exactly if the flag is never set behind a connection that published its sender
too late for the watcher and checked the flag too early.** -/
theorem shell_exit_told_iff {actions : List ExitAction} {final : ExitState}
    (executed : run ExitState.step init actions = some final) :
    Throughout ExitState.step Told init actions ↔
      Along ExitState.step NotOvertaken init actions := by
  have initially : init.Told := by
    intro flagged
    contradiction
  exact throughout_iff_along (fun held stepped => Watched.step held stepped)
    (fun held told stepped => told_step_iff held told stepped) watched_init initially executed

/-- The shell exits while a client is connected. -/
theorem connected_client_told :
    Throughout ExitState.step Told init
      [.accept, .publishCtrl, .checkFlag, .notify, .raiseFlag, .writeCtrl] := by
  have executed : ∃ final, run ExitState.step init
      [.accept, .publishCtrl, .checkFlag, .notify, .raiseFlag, .writeCtrl] = some final :=
    ⟨_, rfl⟩
  rcases executed with ⟨final, executed⟩
  apply (shell_exit_told_iff executed).mpr
  exact ⟨trivial, trivial, trivial, trivial, fun both => absurd both.1 (by decide), trivial,
    trivial⟩

/-- The watcher reads the empty slot, a connection publishes and checks, and
only then is the flag set: nobody tells this client. -/
theorem reconnecting_client_not_told :
    ∃ final,
      run ExitState.step init [.notify, .accept, .publishCtrl, .checkFlag, .raiseFlag] =
        some final ∧
      final.enqueued = [] ∧ ¬ final.Told :=
  ⟨_, rfl, rfl, fun told => List.not_mem_nil (told rfl rfl)⟩

end ExitState

end Etr.Server
