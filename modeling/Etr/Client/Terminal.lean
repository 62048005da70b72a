import Etr.Client.ConnectionLoop
import Etr.Library.ControlSequences

/-!
Contract: the local terminal while the client runs, and when it ends.

Owns what `run_connection_loop` of `src/bin/etr.rs` does to the terminal from
one connection to the next, with `restore_terminal` and its escape sequences,
and the state every ending leaves the terminal in.

Does not own the sessions, whose output and result a run says, nor the console
of Windows. Raw mode is the one of crossterm: it is entered, or found to be on,
and left. The terminal takes what it is told on the way out, although
`restore_terminal` would not hear of an error.
-/

namespace Etr.Client

open Etr.Library Etr.Wire

/-- The bytes of a text of single-byte characters. -/
def ascii (text : String) : List UInt8 :=
  text.toList.map fun c => UInt8.ofNat c.toNat

def termResetModes : List UInt8 :=
  ascii "\x1b[?1000l\x1b[?1002l\x1b[?1003l\x1b[?1006l\x1b[?1015l\x1b[?2004l" ++
    ascii "\x1b[?1l\x1b>\x1b[?7h\x1b[?25h\x1b[0m"

def termResetScreen : List UInt8 := ascii "\x1b[?1049l\x1b[r"

/-- Where `run_connection_loop` is. -/
inductive TerminalPhase where
  /-- In the delay before it reconnects. -/
  | delaying
  | connecting
  | inSession
  /-- On its way out, with its exit status. -/
  | leaving (code : Nat)
  | exited (code : Nat)
  /-- Ended by a signal. -/
  | killed
deriving DecidableEq, Repr

structure TerminalState where
  hasRemoteCommand : Bool
  phase : TerminalPhase
  /-- The mode the terminal is in. -/
  raw : Bool
  /-- `RAW_EVER_ENABLED`. -/
  rawEverEnabled : Bool
  /-- `IN_RAW_MODE`. -/
  inRawMode : Bool
  /-- `in_raw` of the loop. -/
  inRaw : Bool
  /-- Everything written to stdout. -/
  stdout : List UInt8
  /-- History variable: output of the sessions. -/
  relayed : List UInt8
  /-- History variable: how the terminal was restored, and the output of the
  sessions before that. -/
  restored : Option (Bool × List UInt8)

namespace TerminalState

def init (hasRemoteCommand : Bool) : TerminalState where
  hasRemoteCommand := hasRemoteCommand
  phase := .connecting
  raw := false
  rawEverEnabled := false
  inRawMode := false
  inRaw := false
  stdout := []
  relayed := []
  restored := none

def restoreTerminal (state : TerminalState) (resetScreen : Bool) : TerminalState :=
  if state.rawEverEnabled then
    { state with
      raw := false
      inRawMode := false
      stdout :=
        state.stdout ++ (if resetScreen then termResetScreen else []) ++ termResetModes
      restored := some (resetScreen, state.relayed) }
  else
    state

/-- The delay of two seconds is over. -/
def delayOver (state : TerminalState) : Option TerminalState :=
  match state.phase with
  | .delaying => some { state with phase := .connecting }
  | _ => none

/-- `~.` is typed. -/
def escape (state : TerminalState) : Option TerminalState :=
  match state.phase with
  | .delaying | .connecting =>
      some { if state.inRaw then state.restoreTerminal true else state with phase := .leaving 0 }
  | .inSession => some { state.restoreTerminal true with phase := .leaving 0 }
  | _ => none

/-- The connection cannot be made. -/
def connectFails (state : TerminalState) : Option TerminalState :=
  match state.phase with
  | .connecting =>
      some { state with phase := if state.hasRemoteCommand then .leaving 1 else .delaying }
  | _ => none

/-- The connection is made, and raw mode entered if `enable_raw_mode` can. -/
def connected (state : TerminalState) (enabled : Bool) : Option TerminalState :=
  match state.phase with
  | .connecting =>
      if enabled then
        some { state with
          phase := .inSession
          raw := true
          rawEverEnabled := true
          inRawMode := true
          inRaw := true }
      else if state.hasRemoteCommand then
        some { state with phase := .inSession }
      else
        some { state with phase := .leaving 1 }
  | _ => none

/-- The stdout task of a session writes. It may do so until the process is
gone: it is aborted or forgotten, and not waited for. -/
def output (state : TerminalState) (bytes : List UInt8) : Option TerminalState :=
  match state.phase with
  | .exited _ | .killed => none
  | _ =>
      some { state with
        stdout := state.stdout ++ bytes
        relayed := state.relayed ++ bytes }

/-- `run_session` returns. -/
def sessionEnds (state : TerminalState) (result : SessionResult) : Option TerminalState :=
  match state.phase with
  | .inSession =>
      match result with
      | .ok () => some { state.restoreTerminal false with phase := .leaving 0 }
      | .error kind =>
          if kind = .connectionAborted then
            some { state.restoreTerminal false with phase := .leaving 0 }
          else if state.hasRemoteCommand then
            some { state.restoreTerminal true with phase := .leaving 1 }
          else
            some { state with phase := .delaying }
  | _ => none

/-- The process is gone. -/
def exit (state : TerminalState) : Option TerminalState :=
  match state.phase with
  | .leaving code => some { state with phase := .exited code }
  | _ => none

/-- A signal ends the process. The client asks for `SIGWINCH` only, so any other
one whose default is to terminate does. -/
def kill (state : TerminalState) : Option TerminalState :=
  match state.phase with
  | .exited _ | .killed => none
  | _ => some { state with phase := .killed }

end TerminalState

inductive TerminalAction where
  | delayOver
  | escape
  | connectFails
  | connected (enabled : Bool)
  | output (bytes : List UInt8)
  | sessionEnds (result : SessionResult)
  | exit
  | kill

def TerminalState.step (state : TerminalState) : TerminalAction → Option TerminalState
  | .delayOver => state.delayOver
  | .escape => state.escape
  | .connectFails => state.connectFails
  | .connected enabled => state.connected enabled
  | .output bytes => state.output bytes
  | .sessionEnds result => state.sessionEnds result
  | .exit => state.exit
  | .kill => state.kill

/-! ## The escape sequences -/

/-- The modes of the client's terminal. -/
def TerminalState.modes (state : TerminalState) : EmulatorModes :=
  EmulatorModes.initial.showing (ParserState.ground.ops state.stdout)

/-- The client is on its way out. -/
def TerminalPhase.IsOver : TerminalPhase → Prop
  | .leaving _ | .exited _ => True
  | _ => False

/-- The loop of the client runs. -/
def TerminalPhase.IsRunning : TerminalPhase → Prop
  | .delaying | .connecting | .inSession => True
  | _ => False

theorem TerminalPhase.not_isOver {phase : TerminalPhase} (running : phase.IsRunning) :
    ¬ phase.IsOver := by
  cases phase <;> first | exact id | contradiction

/-- Where raw mode is on, it can be entered again. -/
def KeepsRaw (state : TerminalState) : TerminalAction → Prop
  | .connected enabled => state.raw = true → enabled = true
  | _ => True

namespace TerminalState

variable {state next final : TerminalState} {actions : List TerminalAction}

structure Sound (state : TerminalState) : Prop where
  /-- Raw mode is kept from one connection to the next. -/
  steady : state.phase.IsRunning → state.raw = state.rawEverEnabled
  flag : state.inRawMode = state.raw
  loopFlag : state.inRaw = state.rawEverEnabled
  /-- A remote command has one connection only. -/
  once : state.hasRemoteCommand = true → state.phase ≠ .delaying ∧
    (state.phase = .connecting → state.rawEverEnabled = false)
  left : state.phase.IsOver → state.raw = false
  untouched : state.restored = none → state.stdout = state.relayed ∧
    (state.phase.IsOver → state.rawEverEnabled = false)
  behind : ∀ screen before, state.restored = some (screen, before) →
    ¬ state.phase.IsRunning ∧ state.rawEverEnabled = true ∧
      ∃ late, state.relayed = before ++ late ∧ state.stdout =
        before ++ (if screen then termResetScreen else []) ++ termResetModes ++ late
  cut : state.phase = .killed →
    (state.raw = true ↔ state.rawEverEnabled = true ∧ state.restored = none)

theorem sound_init (hasRemoteCommand : Bool) : (init hasRemoteCommand).Sound where
  steady := fun _ => rfl
  flag := rfl
  loopFlag := rfl
  once := fun _ => ⟨nofun, fun _ => rfl⟩
  left := nofun
  untouched := fun _ => ⟨rfl, nofun⟩
  behind := nofun
  cut := nofun

/-- The terminal is restored once, on the way out. -/
theorem Sound.unrestored (sound : state.Sound) (running : state.phase.IsRunning) :
    state.restored = none := by
  cases restored : state.restored with
  | none => rfl
  | some record => exact absurd running (sound.behind record.1 record.2 restored).1

/-- The terminal is restored, and the client leaves. -/
theorem Sound.restore (sound : state.Sound) (running : state.phase.IsRunning)
    (resetScreen : Bool) (code : Nat) :
    Sound { state.restoreTerminal resetScreen with phase := .leaving code } := by
  have unrestored := sound.unrestored running
  obtain ⟨plain, -⟩ := sound.untouched unrestored
  unfold restoreTerminal
  split
  · rename_i ever
    refine ⟨nofun, rfl, sound.loopFlag, fun _ => ⟨nofun, nofun⟩, fun _ => rfl, nofun, ?_, nofun⟩
    intro screen before restored
    cases restored
    refine ⟨nofun, ever, [], (List.append_nil _).symm, ?_⟩
    show state.stdout ++ _ ++ _ = _
    rw [plain, List.append_nil]
  · rename_i never
    have never := eq_false_of_ne_true never
    refine ⟨fun _ => sound.steady running, sound.flag, sound.loopFlag,
      fun _ => ⟨nofun, nofun⟩, fun _ => (sound.steady running).trans never,
      fun _ => ⟨plain, fun _ => never⟩, ?_, nofun⟩
    intro screen before restored
    have restored : state.restored = some (screen, before) := restored
    rw [unrestored] at restored
    contradiction

/-- The client leaves a terminal that never was in raw mode. -/
theorem Sound.leave (sound : state.Sound) (running : state.phase.IsRunning)
    (never : state.rawEverEnabled = false) (code : Nat) :
    Sound { state with phase := .leaving code } := by
  have restored := sound.restore running true code
  have same : state.restoreTerminal true = state := by
    rw [restoreTerminal, never]
    rfl
  rw [same] at restored
  exact restored

/-- The loop goes on. -/
theorem Sound.moveOn {phase : TerminalPhase} (sound : state.Sound)
    (running : state.phase.IsRunning) (later : phase.IsRunning)
    (once : state.hasRemoteCommand = true → phase ≠ .delaying ∧
      (phase = .connecting → state.rawEverEnabled = false)) :
    Sound { state with phase } where
  steady := fun _ => sound.steady running
  flag := sound.flag
  loopFlag := sound.loopFlag
  once := once
  left := fun ended => absurd ended (TerminalPhase.not_isOver later)
  untouched := by
    intro restored
    refine ⟨(sound.untouched restored).1, ?_⟩
    intro ended
    exact absurd ended (TerminalPhase.not_isOver later)
  behind := by
    intro screen before restored
    have restored : state.restored = some (screen, before) := restored
    rw [sound.unrestored running] at restored
    contradiction
  cut := by
    rintro rfl
    contradiction

theorem Sound.escape (sound : state.Sound) (stepped : state.escape = some next) : next.Sound := by
  have offline : state.phase.IsRunning →
      Sound { if state.inRaw then state.restoreTerminal true else state with
        phase := .leaving 0 } := by
    intro running
    split
    · exact sound.restore running true 0
    · rename_i notRaw
      apply sound.leave running
      rw [← sound.loopFlag]
      exact eq_false_of_ne_true notRaw
  unfold TerminalState.escape at stepped
  split at stepped
  · rename_i delaying
    cases stepped
    exact offline (by rw [delaying]; trivial)
  · rename_i connecting
    cases stepped
    exact offline (by rw [connecting]; trivial)
  · rename_i inSession
    cases stepped
    exact sound.restore (by rw [inSession]; trivial) true 0
  · contradiction

theorem Sound.connectFails (sound : state.Sound) (stepped : state.connectFails = some next) :
    next.Sound := by
  unfold TerminalState.connectFails at stepped
  split at stepped
  · rename_i connecting
    have running : state.phase.IsRunning := by
      rw [connecting]
      trivial
    cases stepped
    split
    · rename_i remote
      exact sound.leave running ((sound.once remote).2 connecting) 1
    · rename_i interactive
      exact sound.moveOn running trivial fun remote => absurd remote interactive
  · contradiction

theorem Sound.connected {enabled : Bool} (sound : state.Sound)
    (keeps : state.raw = true → enabled = true)
    (stepped : state.connected enabled = some next) : next.Sound := by
  unfold TerminalState.connected at stepped
  split at stepped
  · rename_i connecting
    have running : state.phase.IsRunning := by
      rw [connecting]
      trivial
    have unrestored := sound.unrestored running
    split at stepped
    · cases stepped
      refine ⟨fun _ => rfl, rfl, rfl, fun _ => ⟨nofun, nofun⟩, nofun,
        fun _ => ⟨(sound.untouched unrestored).1, nofun⟩, ?_, nofun⟩
      intro screen before restored
      have restored : state.restored = some (screen, before) := restored
      rw [unrestored] at restored
      contradiction
    · rename_i refused
      split at stepped
      · cases stepped
        exact sound.moveOn running trivial fun _ => ⟨nofun, nofun⟩
      · cases stepped
        have cooked : state.raw = false := eq_false_of_ne_true fun raw => refused (keeps raw)
        exact sound.leave running ((sound.steady running).symm.trans cooked) 1
  · contradiction

theorem Sound.output {bytes : List UInt8} (sound : state.Sound)
    (stepped : state.output bytes = some next) : next.Sound := by
  unfold TerminalState.output at stepped
  split at stepped
  · contradiction
  · contradiction
  · cases stepped
    refine ⟨sound.steady, sound.flag, sound.loopFlag, sound.once, sound.left, ?_, ?_, sound.cut⟩
    · intro restored
      obtain ⟨plain, never⟩ := sound.untouched restored
      exact ⟨congrArg (· ++ bytes) plain, never⟩
    · intro screen before restored
      obtain ⟨ended, ever, late, relayed, shown⟩ := sound.behind screen before restored
      refine ⟨ended, ever, late ++ bytes, ?_, ?_⟩
      · show state.relayed ++ bytes = _
        rw [relayed, List.append_assoc]
      · show state.stdout ++ bytes = _
        rw [shown, List.append_assoc _ late]

theorem Sound.sessionEnds {result : SessionResult} (sound : state.Sound)
    (stepped : state.sessionEnds result = some next) : next.Sound := by
  unfold TerminalState.sessionEnds at stepped
  split at stepped
  · rename_i inSession
    have running : state.phase.IsRunning := by
      rw [inSession]
      trivial
    split at stepped
    · cases stepped
      exact sound.restore running false 0
    · split at stepped
      · cases stepped
        exact sound.restore running false 0
      · split at stepped
        · cases stepped
          exact sound.restore running true 1
        · rename_i interactive
          cases stepped
          exact sound.moveOn running trivial fun remote => absurd remote interactive
  · contradiction

theorem Sound.exit (sound : state.Sound) (stepped : state.exit = some next) : next.Sound := by
  unfold TerminalState.exit at stepped
  split at stepped
  · rename_i code leaving
    cases stepped
    have ended : state.phase.IsOver := by
      rw [leaving]
      trivial
    refine ⟨nofun, sound.flag, sound.loopFlag, fun _ => ⟨nofun, nofun⟩,
      fun _ => sound.left ended, ?_, ?_, nofun⟩
    · intro restored
      obtain ⟨plain, never⟩ := sound.untouched restored
      exact ⟨plain, fun _ => never ended⟩
    · intro screen before restored
      exact ⟨nofun, (sound.behind screen before restored).2⟩
  · contradiction

theorem kill_cases (stepped : state.kill = some next) :
    (state.phase.IsRunning ∨ state.phase.IsOver) ∧ next = { state with phase := .killed } := by
  unfold TerminalState.kill at stepped
  cases phase : state.phase with
  | delaying | connecting | inSession =>
      rw [phase] at stepped
      cases stepped
      exact ⟨Or.inl trivial, rfl⟩
  | leaving code =>
      rw [phase] at stepped
      cases stepped
      exact ⟨Or.inr trivial, rfl⟩
  | exited code | killed =>
      rw [phase] at stepped
      contradiction

/-- The terminal stays as it was. -/
theorem Sound.kill (sound : state.Sound) (stepped : state.kill = some next) : next.Sound := by
  rcases kill_cases stepped with ⟨was, rfl⟩
  refine ⟨nofun, sound.flag, sound.loopFlag, fun _ => ⟨nofun, nofun⟩, nofun, ?_, ?_, ?_⟩
  · intro restored
    exact ⟨(sound.untouched restored).1, nofun⟩
  · intro screen before restored
    exact ⟨nofun, (sound.behind screen before restored).2⟩
  · intro _
    show state.raw = true ↔ state.rawEverEnabled = true ∧ state.restored = none
    rcases was with running | ended
    · rw [sound.steady running, sound.unrestored running]
      exact (and_iff_left rfl).symm
    · rw [sound.left ended]
      refine iff_of_false Bool.false_ne_true ?_
      rintro ⟨ever, restored⟩
      rw [(sound.untouched restored).2 ended] at ever
      contradiction

theorem Sound.delayOver (sound : state.Sound) (stepped : state.delayOver = some next) :
    next.Sound := by
  unfold TerminalState.delayOver at stepped
  split at stepped
  · rename_i delaying
    cases stepped
    refine sound.moveOn (by rw [delaying]; trivial) trivial ?_
    intro remote
    exact absurd delaying (sound.once remote).1
  · contradiction

theorem Sound.step {action : TerminalAction} (sound : state.Sound) (keeps : KeepsRaw state action)
    (stepped : state.step action = some next) : next.Sound := by
  cases action with
  | delayOver => exact sound.delayOver stepped
  | escape => exact sound.escape stepped
  | connectFails => exact sound.connectFails stepped
  | connected enabled => exact sound.connected keeps stepped
  | output bytes => exact sound.output stepped
  | sessionEnds result => exact sound.sessionEnds stepped
  | exit => exact sound.exit stepped
  | kill => exact sound.kill stepped

/-! ## Every way out -/

/-- `SIGTERM` while the client tries to reconnect. -/
theorem signal_keeps_raw :
    ∃ final, run step (init false)
        [.connected true, .sessionEnds (.error .brokenPipe), .kill] = some final ∧
      final.phase = .killed ∧ final.raw = true :=
  ⟨_, rfl, rfl, rfl⟩

/-- The stdout task of the session that was left is still at work behind the
reset. -/
theorem late_output_undoes_reset :
    ∃ final, run step (init false)
        [.connected true, .escape, .output (ascii "\x1b[?1000h"), .exit] = some final ∧
      final.phase = .exited 0 ∧ final.modes.privateModes 1000 = true :=
  ⟨_, rfl, rfl, by decide +kernel⟩

end TerminalState

end Etr.Client
