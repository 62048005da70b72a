import Etr.Bootstrap.RoundTrip
import Etr.Bootstrap.Reply
import Etr.Library.Transition
import Etr.Wire.StreamFraming

/-!
Contract: the start of a session over SSH.

Owns `bootstrap_ssh` of `src/bin/etr.rs` with its pipes, and `run_server` of
`src/bin/etrs.rs` from the request to the detached session: the fork, the pipe
that carries the port, the reply, and what the client can rely on when it has
one.

Does not own the session. SSH is modeled as the pipes it connects; it ends when
the server's output is closed, with the status of the server.
-/

namespace Etr.Bootstrap

open Etr.Library Etr.Wire

/-- What is fixed for one start: the request and its text, the certificate the
server makes, and what the login shell prints in front of the server. -/
structure LaunchConfig where
  target : Text
  request : Request
  text : Text
  cert : List UInt8
  banner : List PrintedLine
  /-- `/dev/null` can be opened. -/
  devNull : Bool
  formed : WellFormed request
  written : bootstrapSsh target request = .ok text
  filled : cert ≠ []

/-- Nothing the login shell prints begins like a reply. -/
def LaunchConfig.PlainBanner (config : LaunchConfig) : Prop :=
  ∀ line ∈ config.banner, ¬ portPrefix <+: trim line.content

instance (config : LaunchConfig) : Decidable config.PlainBanner :=
  inferInstanceAs (Decidable (∀ line ∈ config.banner, ¬ portPrefix <+: trim line.content))

/-- Why `bootstrap_ssh` has no reply, behind its input checks. -/
inductive LaunchFailure where
  /-- Writing the request. -/
  | brokenPipe
  /-- `SSH bootstrap failed`. -/
  | sshFailed
  | reply (failure : ReplyFailure)
deriving DecidableEq, Repr

inductive ClientPhase where
  | writing (rest : Text)
  /-- In `wait_with_output`, with the input of SSH closed. -/
  | waiting
  | returned (outcome : Except LaunchFailure (UInt16 × List UInt8))
  | killed
deriving DecidableEq, Repr

/-- The process SSH starts: a shell, then `etrs`, from the fork on the parent. -/
inductive LauncherPhase where
  | starting
  | reading
  /-- The parent, with its own copy of the pipe's write end. -/
  | forked
  /-- In `read_exact`. -/
  | awaiting
  | exited (success : Bool)
deriving DecidableEq, Repr

/-- The child of the fork. -/
inductive DaemonPhase where
  | absent
  | preparing
  | bound (port : UInt16)
  /-- The port is written, and the write end dropped. -/
  | reported (port : UInt16)
  /-- Detached, in `run_session`. -/
  | serving (port : UInt16)
  | dead
deriving DecidableEq, Repr

structure LaunchState where
  client : ClientPhase
  /-- What the server can read, and whether it ends there. -/
  stdin : Text
  closed : Bool
  launcher : LauncherPhase
  /-- The session of the child, as the server read it. -/
  session : Option Request
  daemon : DaemonPhase
  /-- History variable: the port the child has written. -/
  port : Option UInt16
  portPipe : List UInt8
  stdout : Text
deriving DecidableEq

inductive LaunchAction where
  /-- Client: some of the request is written. -/
  | write (count : Nat)
  | closeStdin
  /-- SSH fails. -/
  | loseSsh
  | killClient
  /-- Server: the shell has printed its lines and runs `etrs`. -/
  | start
  | readRequest
  /-- Parent: `drop(owned_w)`. -/
  | dropWriter
  | readPort
  /-- The server fails or is killed, with some of its output printed. -/
  | killLauncher (output : Text)
  /-- Child: the endpoint is bound. -/
  | bind (port : UInt16)
  | report
  | detach
  /-- Child: it cannot bind, or is killed. -/
  | killDaemon
  /-- Client: SSH ended. -/
  | collect

namespace LaunchState

/-- The client has started SSH. -/
def init (config : LaunchConfig) : LaunchState where
  client := .writing config.text
  stdin := []
  closed := false
  launcher := .starting
  session := none
  daemon := .absent
  port := none
  portPipe := []
  stdout := []

/-- The bytes of a port in the pipe. -/
def portBytes (port : UInt16) : List UInt8 :=
  toBeBytes 2 port.toNat

/-! ## Steps -/

section Steps

variable (config : LaunchConfig) (state : LaunchState)

def write (count : Nat) : Option LaunchState :=
  match state.client with
  | .writing rest =>
      if 0 < count ∧ count ≤ rest.length then
        some { state with
          client := .writing (rest.drop count)
          stdin := state.stdin ++ rest.take count }
      else
        none
  | _ => none

/-- `drop(stdin)`. -/
def closeStdin : Option LaunchState :=
  match state.client with
  | .writing [] => some { state with client := .waiting, closed := true }
  | _ => none

/-- SSH ends by itself: a write fails, or its status is no success. -/
def loseSsh : Option LaunchState :=
  match state.client with
  | .writing (_ :: _) =>
      some { state with client := .returned (.error .brokenPipe), closed := true }
  | .waiting => some { state with client := .returned (.error .sshFailed), closed := true }
  | .writing [] | .returned _ | .killed => none

def killClient : Option LaunchState :=
  match state.client with
  | .writing _ | .waiting => some { state with client := .killed, closed := true }
  | .returned _ | .killed => none

def start : Option LaunchState :=
  match state.launcher with
  | .starting => some { state with launcher := .reading, stdout := printed config.banner }
  | _ => none

/-- Read the request to its end and fork. -/
def readRequest : Option LaunchState :=
  match state.launcher, state.closed with
  | .reading, true =>
      match parseRequest state.stdin with
      | .error _ => some { state with launcher := .exited false }
      | .ok request =>
          some { state with launcher := .forked, session := some request, daemon := .preparing }
  | _, _ => none

def dropWriter : Option LaunchState :=
  match state.launcher with
  | .forked => some { state with launcher := .awaiting }
  | _ => none

/-- The child has the write end open. -/
def pipeHeld : Bool :=
  match state.daemon with
  | .preparing | .bound _ => true
  | .absent | .reported _ | .serving _ | .dead => false

/-- `read_exact` of the port, and the reply. -/
def readPort : Option LaunchState :=
  match state.launcher with
  | .awaiting =>
      if 2 ≤ state.portPipe.length then
        some { state with
          launcher := .exited true
          portPipe := state.portPipe.drop 2
          stdout := state.stdout ++
            (replyLine (UInt16.ofNat (fromBeBytes (state.portPipe.take 2))) config.cert ++ ['\n']) }
      else if state.pipeHeld then
        none
      else
        some { state with launcher := .exited false }
  | _ => none

def killLauncher (output : Text) : Option LaunchState :=
  match state.launcher with
  | .exited _ => none
  | _ => some { state with launcher := .exited false, stdout := state.stdout ++ output }

def bind (port : UInt16) : Option LaunchState :=
  match state.daemon with
  | .preparing => some { state with daemon := .bound port }
  | _ => none

/-- Write the port; without the parent nobody has the read end. -/
def report : Option LaunchState :=
  match state.daemon, state.launcher with
  | .bound _, .exited _ => some { state with daemon := .dead }
  | .bound port, _ =>
      some { state with
        daemon := .reported port
        port := some port
        portPipe := state.portPipe ++ portBytes port }
  | _, _ => none

/-- `detach_stdio`. -/
def detach : Option LaunchState :=
  match state.daemon with
  | .reported port => some { state with daemon := .serving port }
  | _ => none

def killDaemon : Option LaunchState :=
  match state.daemon with
  | .absent | .dead => none
  | _ => some { state with daemon := .dead }

/-- The child has the output of SSH open. -/
def outputHeld : Bool :=
  match state.daemon with
  | .preparing | .bound _ | .reported _ => true
  | .serving _ => !config.devNull
  | .absent | .dead => false

/-- What `bootstrap_ssh` makes of the output. -/
def outcome (success : Bool) : Except LaunchFailure (UInt16 × List UInt8) :=
  match success with
  | false => .error .sshFailed
  | true => (scanReply state.stdout).mapError .reply

def collect : Option LaunchState :=
  match state.client, state.launcher with
  | .waiting, .exited success =>
      if state.outputHeld config then none
      else some { state with client := .returned (state.outcome success) }
  | _, _ => none

def step : LaunchAction → Option LaunchState
  | .write count => state.write count
  | .closeStdin => state.closeStdin
  | .loseSsh => state.loseSsh
  | .killClient => state.killClient
  | .start => state.start config
  | .readRequest => state.readRequest
  | .dropWriter => state.dropWriter
  | .readPort => state.readPort config
  | .killLauncher output => state.killLauncher output
  | .bind port => state.bind port
  | .report => state.report
  | .detach => state.detach
  | .killDaemon => state.killDaemon
  | .collect => state.collect config

end Steps

variable {config : LaunchConfig} {state next : LaunchState}

/-! ## What each step can do -/

theorem write_cases {count : Nat} (stepped : state.write count = some next) :
    ∃ rest, state.client = .writing rest ∧ 0 < count ∧ count ≤ rest.length ∧
      next = { state with
        client := .writing (rest.drop count)
        stdin := state.stdin ++ rest.take count } := by
  unfold write at stepped
  split at stepped
  · rename_i rest writing
    split at stepped
    · rename_i sized
      cases stepped
      exact ⟨rest, writing, sized.1, sized.2, rfl⟩
    · contradiction
  · contradiction

theorem closeStdin_cases (stepped : state.closeStdin = some next) :
    state.client = .writing [] ∧ next = { state with client := .waiting, closed := true } := by
  unfold closeStdin at stepped
  split at stepped
  · rename_i written
    cases stepped
    exact ⟨written, rfl⟩
  · contradiction

theorem loseSsh_cases (stepped : state.loseSsh = some next) :
    (∃ byte rest, state.client = .writing (byte :: rest) ∧
        next = { state with client := .returned (.error .brokenPipe), closed := true }) ∨
      (state.client = .waiting ∧
        next = { state with client := .returned (.error .sshFailed), closed := true }) := by
  unfold loseSsh at stepped
  split at stepped
  · rename_i byte rest writing
    cases stepped
    exact Or.inl ⟨byte, rest, writing, rfl⟩
  · rename_i waiting
    cases stepped
    exact Or.inr ⟨waiting, rfl⟩
  · contradiction
  · contradiction
  · contradiction

theorem killClient_cases (stepped : state.killClient = some next) :
    ((∃ rest, state.client = .writing rest) ∨ state.client = .waiting) ∧
      next = { state with client := .killed, closed := true } := by
  unfold killClient at stepped
  split at stepped
  · rename_i rest writing
    cases stepped
    exact ⟨Or.inl ⟨rest, writing⟩, rfl⟩
  · rename_i waiting
    cases stepped
    exact ⟨Or.inr waiting, rfl⟩
  · contradiction
  · contradiction

theorem start_cases (stepped : state.start config = some next) :
    state.launcher = .starting ∧
      next = { state with launcher := .reading, stdout := printed config.banner } := by
  unfold start at stepped
  split at stepped
  · rename_i starting
    cases stepped
    exact ⟨starting, rfl⟩
  · contradiction

theorem readRequest_cases (stepped : state.readRequest = some next) :
    state.launcher = .reading ∧ state.closed = true ∧
      ((∃ message, parseRequest state.stdin = .error message ∧
          next = { state with launcher := .exited false }) ∨
        ∃ request, parseRequest state.stdin = .ok request ∧
          next = { state with
            launcher := .forked, session := some request, daemon := .preparing }) := by
  unfold readRequest at stepped
  split at stepped
  · rename_i reading closed
    split at stepped
    · rename_i message refused
      cases stepped
      exact ⟨reading, closed, Or.inl ⟨message, refused, rfl⟩⟩
    · rename_i request read
      cases stepped
      exact ⟨reading, closed, Or.inr ⟨request, read, rfl⟩⟩
  · contradiction

theorem dropWriter_cases (stepped : state.dropWriter = some next) :
    state.launcher = .forked ∧ next = { state with launcher := .awaiting } := by
  unfold dropWriter at stepped
  split at stepped
  · rename_i forked
    cases stepped
    exact ⟨forked, rfl⟩
  · contradiction

theorem readPort_cases (stepped : state.readPort config = some next) :
    state.launcher = .awaiting ∧
      ((2 ≤ state.portPipe.length ∧ next = { state with
          launcher := .exited true
          portPipe := state.portPipe.drop 2
          stdout := state.stdout ++ (replyLine
            (UInt16.ofNat (fromBeBytes (state.portPipe.take 2))) config.cert ++ ['\n']) }) ∨
        (¬ 2 ≤ state.portPipe.length ∧ state.pipeHeld = false ∧
          next = { state with launcher := .exited false })) := by
  unfold readPort at stepped
  split at stepped
  · rename_i awaiting
    split at stepped
    · rename_i arrived
      cases stepped
      exact ⟨awaiting, Or.inl ⟨arrived, rfl⟩⟩
    · rename_i short
      split at stepped
      · contradiction
      · rename_i released
        cases stepped
        exact ⟨awaiting, Or.inr ⟨short, Bool.eq_false_iff.mpr released, rfl⟩⟩
  · contradiction

theorem killLauncher_cases {output : Text} (stepped : state.killLauncher output = some next) :
    (∀ success, state.launcher ≠ .exited success) ∧
      next = { state with launcher := .exited false, stdout := state.stdout ++ output } := by
  unfold killLauncher at stepped
  split at stepped
  · contradiction
  · rename_i running
    cases stepped
    exact ⟨running, rfl⟩

theorem bind_cases {port : UInt16} (stepped : state.bind port = some next) :
    state.daemon = .preparing ∧ next = { state with daemon := .bound port } := by
  unfold bind at stepped
  split at stepped
  · rename_i preparing
    cases stepped
    exact ⟨preparing, rfl⟩
  · contradiction

theorem report_cases (stepped : state.report = some next) :
    ∃ port, state.daemon = .bound port ∧
      (((∃ success, state.launcher = .exited success) ∧ next = { state with daemon := .dead }) ∨
        ((∀ success, state.launcher ≠ .exited success) ∧ next = { state with
          daemon := .reported port
          port := some port
          portPipe := state.portPipe ++ portBytes port })) := by
  unfold report at stepped
  split at stepped
  · rename_i port success bound exited
    cases stepped
    exact ⟨port, bound, Or.inl ⟨⟨success, exited⟩, rfl⟩⟩
  · rename_i port bound running
    cases stepped
    exact ⟨port, bound, Or.inr ⟨running, rfl⟩⟩
  · contradiction

theorem detach_cases (stepped : state.detach = some next) :
    ∃ port, state.daemon = .reported port ∧ next = { state with daemon := .serving port } := by
  unfold detach at stepped
  split at stepped
  · rename_i port reported
    cases stepped
    exact ⟨port, reported, rfl⟩
  · contradiction

theorem killDaemon_cases (stepped : state.killDaemon = some next) :
    state.daemon ≠ .absent ∧ state.daemon ≠ .dead ∧ next = { state with daemon := .dead } := by
  unfold killDaemon at stepped
  split at stepped
  · contradiction
  · contradiction
  · rename_i present alive
    cases stepped
    exact ⟨present, alive, rfl⟩

theorem collect_cases (stepped : state.collect config = some next) :
    state.client = .waiting ∧ ∃ success, state.launcher = .exited success ∧
      state.outputHeld config = false ∧
      next = { state with client := .returned (state.outcome success) } := by
  unfold collect at stepped
  split at stepped
  · rename_i success waiting exited
    split at stepped
    · contradiction
    · rename_i released
      cases stepped
      exact ⟨waiting, success, exited, Bool.eq_false_iff.mpr released, rfl⟩
  · contradiction

/-! ## The reply -/

theorem newline_notMem_replyLine (port : UInt16) {cert : List UInt8} (filled : cert ≠ []) :
    '\n' ∉ replyLine port cert := by
  have visible : ∀ {text : Text}, IsWord text → '\n' ∉ text := by
    intro text word member
    have blank : isWhitespace '\n' = true := by decide
    rw [word.visible '\n' member] at blank
    contradiction
  have digits := visible (isWord_toDigits port.toNat)
  have hex := visible (isWord_hexEncode filled)
  simp [replyLine, portPrefix, certWord, digits, hex]

/-- The client reads the reply behind the lines of the login shell. -/
theorem scanReply_printed (plain : config.PlainBanner) (port : UInt16) :
    scanReply (printed config.banner ++ (replyLine port config.cert ++ ['\n'])) =
      .ok (port, config.cert) := by
  have passed : ∀ line ∈ config.banner.map PrintedLine.read, parseReplyLine line = .ok none := by
    intro line member
    obtain ⟨shown, listed, rfl⟩ := List.mem_map.mp member
    apply parseReplyLine_of_quiet
    rw [trim_read]
    exact plain shown listed
  let reply : PrintedLine :=
    ⟨replyLine port config.cert, .lf, newline_notMem_replyLine port config.filled⟩
  have text : replyLine port config.cert ++ ['\n'] = printed [reply] ++ [] := by
    simp [printed, PrintedLine.text, LineEnding.front, reply]
  have lines : linesFrom [] (printed config.banner ++ (replyLine port config.cert ++ ['\n'])) =
      config.banner.map PrintedLine.read ++ [reply.read] := by
    rw [text, linesFrom_printed, linesFrom_printed]
    rfl
  have trimmed : trim reply.read = replyLine port config.cert :=
    (trim_read reply).trans (trim_replyLine port config.filled)
  rw [scanReply, lines, firstLine_append passed, firstLine,
    parseReplyLine_of_trim config.filled trimmed]

theorem fromBeBytes_portBytes (port : UInt16) :
    UInt16.ofNat (fromBeBytes (portBytes port)) = port := by
  have fits : port.toNat < 256 ^ 2 := port.toNat_lt
  rw [portBytes, fromBeBytes_toBeBytes_of_lt fits, UInt16.ofNat_toNat]

/-! ## What is true of every start -/

/-- The child was forked off. -/
def PastFork : LauncherPhase → Prop
  | .forked | .awaiting | .exited true => True
  | .starting | .reading | .exited false => False

/-- The child has not written a port. -/
def Unreported : DaemonPhase → Prop
  | .absent | .preparing | .bound _ => True
  | .reported _ | .serving _ | .dead => False

/-- What the server has printed. -/
def OutputIs (config : LaunchConfig) (state : LaunchState) : Prop :=
  match state.launcher with
  | .starting => state.stdout = []
  | .reading | .forked | .awaiting => state.stdout = printed config.banner
  | .exited true => ∃ port, state.port = some port ∧
      state.stdout = printed config.banner ++ (replyLine port config.cert ++ ['\n'])
  | .exited false => True

structure Truthful (config : LaunchConfig) (state : LaunchState) : Prop where
  typed : ∀ rest, state.client = .writing rest →
    state.closed = false ∧ state.stdin ++ rest = config.text
  handed : state.client = .waiting → state.closed = true ∧ state.stdin = config.text
  parsed : ∀ request, state.session = some request →
    state.closed = true ∧ parseRequest state.stdin = .ok request
  forked : PastFork state.launcher → state.session ≠ none
  alone : state.launcher = .starting ∨ state.launcher = .reading → state.daemon = .absent
  unreported : Unreported state.daemon → state.port = none
  reported : ∀ port, state.daemon = .reported port ∨ state.daemon = .serving port →
    state.port = some port
  piped : (∀ success, state.launcher ≠ .exited success) →
    state.portPipe = (state.port.map portBytes).getD []
  output : OutputIs config state
  answered : ∀ reply, state.client = .returned (.ok reply) →
    state.closed = true ∧ state.stdin = config.text ∧ state.launcher = .exited true ∧
      scanReply state.stdout = .ok reply ∧ state.outputHeld config = false

theorem truthful_init (config : LaunchConfig) : (init config).Truthful config where
  typed rest writing := by
    cases writing
    exact ⟨rfl, rfl⟩
  handed := nofun
  parsed := nofun
  forked := nofun
  alone _ := rfl
  unreported _ := rfl
  reported := by simp [init]
  piped _ := rfl
  output := rfl
  answered := nofun

/-! ### The client -/

theorem Truthful.write {count : Nat} (truthful : state.Truthful config)
    (stepped : state.write count = some next) : next.Truthful config := by
  rcases write_cases stepped with ⟨rest, writing, -, -, rfl⟩
  obtain ⟨unclosed, whole⟩ := truthful.typed rest writing
  refine { truthful with typed := ?_, handed := nofun, parsed := ?_, answered := nofun }
  · rintro _ ⟨⟩
    exact ⟨unclosed, by rw [List.append_assoc, List.take_append_drop, whole]⟩
  · intro request read
    rw [(truthful.parsed request read).1] at unclosed
    contradiction

theorem Truthful.closeStdin (truthful : state.Truthful config)
    (stepped : state.closeStdin = some next) : next.Truthful config := by
  rcases closeStdin_cases stepped with ⟨writing, rfl⟩
  obtain ⟨unclosed, whole⟩ := truthful.typed [] writing
  refine { truthful with typed := nofun, handed := ?_, parsed := ?_, answered := nofun }
  · intro _
    exact ⟨rfl, by rw [← whole, List.append_nil]⟩
  · intro request read
    exact ⟨rfl, (truthful.parsed request read).2⟩

/-- The client ends without a reply. -/
theorem Truthful.endClient {client : ClientPhase} (truthful : state.Truthful config)
    (typed : ∀ rest, client ≠ .writing rest) (handed : client ≠ .waiting)
    (answered : ∀ reply, client ≠ .returned (.ok reply)) :
    Truthful config { state with client, closed := true } :=
  { truthful with
    typed := fun rest writing => absurd writing (typed rest)
    handed := fun waiting => absurd waiting handed
    parsed := fun request read => ⟨rfl, (truthful.parsed request read).2⟩
    answered := fun reply returned => absurd returned (answered reply) }

theorem Truthful.loseSsh (truthful : state.Truthful config)
    (stepped : state.loseSsh = some next) : next.Truthful config := by
  rcases loseSsh_cases stepped with ⟨_, _, -, rfl⟩ | ⟨-, rfl⟩
  · exact truthful.endClient nofun nofun nofun
  · exact truthful.endClient nofun nofun nofun

theorem Truthful.killClient (truthful : state.Truthful config)
    (stepped : state.killClient = some next) : next.Truthful config := by
  rcases killClient_cases stepped with ⟨-, rfl⟩
  exact truthful.endClient nofun nofun nofun

theorem Truthful.collect (truthful : state.Truthful config)
    (stepped : state.collect config = some next) : next.Truthful config := by
  rcases collect_cases stepped with ⟨waiting, success, exited, released, rfl⟩
  obtain ⟨closed, whole⟩ := truthful.handed waiting
  refine { truthful with typed := nofun, handed := nofun, answered := ?_ }
  intro reply returned
  cases success with
  | false => cases returned
  | true =>
      refine ⟨closed, whole, exited, ?_, released⟩
      cases scanned : scanReply state.stdout with
      | error failure => simp [outcome, scanned, Except.mapError] at returned
      | ok found =>
          simp only [outcome, scanned, Except.mapError] at returned
          cases returned
          rfl

/-! ### The parent -/

theorem Truthful.not_answered (truthful : state.Truthful config)
    (running : state.launcher ≠ .exited true) (reply : UInt16 × List UInt8) :
    state.client ≠ .returned (.ok reply) :=
  fun returned => running (truthful.answered reply returned).2.2.1

/-- A parent that has started and has not come to its end has printed the banner. -/
theorem Truthful.printed_banner (truthful : state.Truthful config)
    (started : state.launcher = .reading ∨ state.launcher = .forked ∨
      state.launcher = .awaiting) : state.stdout = printed config.banner := by
  have shown := truthful.output
  rcases started with reading | forked | awaiting
  · rwa [OutputIs, reading] at shown
  · rwa [OutputIs, forked] at shown
  · rwa [OutputIs, awaiting] at shown

theorem Truthful.start (truthful : state.Truthful config)
    (stepped : state.start config = some next) : next.Truthful config := by
  rcases start_cases stepped with ⟨starting, rfl⟩
  have unanswered := truthful.not_answered (by rw [starting]; exact nofun)
  exact { truthful with
    forked := False.elim
    alone := fun _ => truthful.alone (Or.inl starting)
    piped := fun _ => truthful.piped (by rw [starting]; exact fun _ => nofun)
    output := rfl
    answered := fun reply returned => absurd returned (unanswered reply) }

theorem Truthful.readRequest (truthful : state.Truthful config)
    (stepped : state.readRequest = some next) : next.Truthful config := by
  rcases readRequest_cases stepped with ⟨reading, closed, read⟩
  have unanswered := truthful.not_answered (by rw [reading]; exact nofun)
  have absent := truthful.alone (Or.inr reading)
  have piped := truthful.piped (by rw [reading]; exact fun _ => nofun)
  have output := truthful.printed_banner (by simp [reading])
  have unreported := truthful.unreported (by rw [absent]; trivial)
  rcases read with ⟨message, -, rfl⟩ | ⟨request, read, rfl⟩
  · exact { truthful with
      forked := False.elim
      alone := by simp
      piped := fun running => absurd rfl (running false)
      output := trivial
      answered := fun reply returned => absurd returned (unanswered reply) }
  · exact { truthful with
      parsed := by
        rintro _ ⟨⟩
        exact ⟨closed, read⟩
      forked := fun _ => nofun
      alone := by simp
      unreported := fun _ => unreported
      reported := by simp
      piped := fun _ => piped
      output := output
      answered := fun reply returned => absurd returned (unanswered reply) }

theorem Truthful.dropWriter (truthful : state.Truthful config)
    (stepped : state.dropWriter = some next) : next.Truthful config := by
  rcases dropWriter_cases stepped with ⟨forked, rfl⟩
  have unanswered := truthful.not_answered (by rw [forked]; exact nofun)
  have output := truthful.printed_banner (by simp [forked])
  exact { truthful with
    forked := fun _ => truthful.forked (by rw [forked]; trivial)
    alone := by simp
    piped := fun _ => truthful.piped (by rw [forked]; exact fun _ => nofun)
    output := output
    answered := fun reply returned => absurd returned (unanswered reply) }

/-- A port that can be read was reported. -/
theorem Truthful.exists_port (truthful : state.Truthful config)
    (running : ∀ success, state.launcher ≠ .exited success) (arrived : 2 ≤ state.portPipe.length) :
    ∃ port, state.port = some port ∧
      UInt16.ofNat (fromBeBytes (state.portPipe.take 2)) = port := by
  have piped := truthful.piped running
  cases reported : state.port with
  | none =>
      rw [piped, reported] at arrived
      contradiction
  | some port =>
      have two : (portBytes port).take 2 = portBytes port :=
        List.take_of_length_le (Nat.le_of_eq (length_toBeBytes 2 _))
      refine ⟨port, rfl, ?_⟩
      rw [piped, reported, Option.map_some, Option.getD_some, two, fromBeBytes_portBytes]

theorem Truthful.readPort (truthful : state.Truthful config)
    (stepped : state.readPort config = some next) : next.Truthful config := by
  rcases readPort_cases stepped with ⟨awaiting, outcome⟩
  have unanswered := truthful.not_answered (by rw [awaiting]; exact nofun)
  have running : ∀ success, state.launcher ≠ .exited success := by
    rw [awaiting]
    exact fun _ => nofun
  have output := truthful.printed_banner (by simp [awaiting])
  rcases outcome with ⟨arrived, rfl⟩ | ⟨-, -, rfl⟩
  · obtain ⟨port, reported, same⟩ := truthful.exists_port running arrived
    exact { truthful with
      forked := fun _ => truthful.forked (by rw [awaiting]; trivial)
      alone := by simp
      piped := fun running => absurd rfl (running true)
      output := ⟨port, reported, by rw [output, same]⟩
      answered := fun reply returned => absurd returned (unanswered reply) }
  · exact { truthful with
      forked := False.elim
      alone := by simp
      piped := fun running => absurd rfl (running false)
      output := trivial
      answered := fun reply returned => absurd returned (unanswered reply) }

theorem Truthful.killLauncher {output : Text} (truthful : state.Truthful config)
    (stepped : state.killLauncher output = some next) : next.Truthful config := by
  rcases killLauncher_cases stepped with ⟨running, rfl⟩
  have unanswered := truthful.not_answered (running true)
  exact { truthful with
    forked := False.elim
    alone := by simp
    piped := fun running => absurd rfl (running false)
    output := trivial
    answered := fun reply returned => absurd returned (unanswered reply) }

/-! ### The child -/

/-- The child moves on without a word. -/
theorem Truthful.moveDaemon {daemon : DaemonPhase} (truthful : state.Truthful config)
    (present : state.daemon ≠ .absent) (unreported : Unreported daemon → state.port = none)
    (reported : ∀ port, daemon = .reported port ∨ daemon = .serving port →
      state.port = some port)
    (released : state.outputHeld config = false →
      outputHeld config { state with daemon } = false) :
    Truthful config { state with daemon } :=
  { truthful with
    alone := fun early => absurd (truthful.alone early) present
    unreported := unreported
    reported := reported
    output := truthful.output
    answered := fun reply returned => by
      obtain ⟨closed, whole, exited, scanned, before⟩ := truthful.answered reply returned
      exact ⟨closed, whole, exited, scanned, released before⟩ }

theorem Truthful.bind {port : UInt16} (truthful : state.Truthful config)
    (stepped : state.bind port = some next) : next.Truthful config := by
  rcases bind_cases stepped with ⟨preparing, rfl⟩
  refine truthful.moveDaemon (by rw [preparing]; exact nofun)
    (fun _ => truthful.unreported (by rw [preparing]; trivial)) (by simp) ?_
  intro released
  rw [outputHeld, preparing] at released
  contradiction

theorem Truthful.detach (truthful : state.Truthful config)
    (stepped : state.detach = some next) : next.Truthful config := by
  rcases detach_cases stepped with ⟨port, reported, rfl⟩
  refine truthful.moveDaemon (by rw [reported]; exact nofun) nofun ?_ ?_
  · rintro found (other | same)
    · cases other
    · cases same
      exact truthful.reported port (Or.inl reported)
  · intro released
    rw [outputHeld, reported] at released
    contradiction

theorem Truthful.killDaemon (truthful : state.Truthful config)
    (stepped : state.killDaemon = some next) : next.Truthful config := by
  rcases killDaemon_cases stepped with ⟨present, -, rfl⟩
  exact truthful.moveDaemon present nofun (by simp) fun _ => rfl

theorem Truthful.report (truthful : state.Truthful config)
    (stepped : state.report = some next) : next.Truthful config := by
  rcases report_cases stepped with ⟨port, bound, ⟨-, rfl⟩ | ⟨running, rfl⟩⟩
  · exact truthful.moveDaemon (by rw [bound]; exact nofun) nofun (by simp) fun _ => rfl
  · have unreported := truthful.unreported (by rw [bound]; trivial)
    have unreported := truthful.unreported (by rw [bound]; trivial)
    have before := truthful.piped running
    rw [unreported] at before
    have absent : state.daemon ≠ .absent := by
      rw [bound]
      exact nofun
    have unanswered := truthful.not_answered (running true)
    have moved : OutputIs config { state with
        daemon := .reported port
        port := some port
        portPipe := state.portPipe ++ portBytes port } := by
      have shown := truthful.output
      unfold OutputIs at shown ⊢
      cases phase : state.launcher with
      | starting => rwa [phase] at shown
      | reading => rwa [phase] at shown
      | forked => rwa [phase] at shown
      | awaiting => rwa [phase] at shown
      | exited success => exact absurd phase (running success)
    exact { truthful with
      alone := fun early => absurd (truthful.alone early) absent
      unreported := nofun
      reported := by
        rintro found (same | other)
        · cases same
          rfl
        · cases other
      piped := fun _ => by
        rw [before]
        rfl
      output := moved
      answered := fun reply returned => absurd returned (unanswered reply) }

theorem Truthful.step {action : LaunchAction} (truthful : state.Truthful config)
    (stepped : step config state action = some next) : next.Truthful config := by
  cases action with
  | write count => exact truthful.write stepped
  | closeStdin => exact truthful.closeStdin stepped
  | loseSsh => exact truthful.loseSsh stepped
  | killClient => exact truthful.killClient stepped
  | start => exact truthful.start stepped
  | readRequest => exact truthful.readRequest stepped
  | dropWriter => exact truthful.dropWriter stepped
  | readPort => exact truthful.readPort stepped
  | killLauncher output => exact truthful.killLauncher stepped
  | bind port => exact truthful.bind stepped
  | report => exact truthful.report stepped
  | detach => exact truthful.detach stepped
  | killDaemon => exact truthful.killDaemon stepped
  | collect => exact truthful.collect stepped

/-! ## Coming to an end -/

/-- `bootstrap_ssh` has returned, or the client is gone. -/
def ClientOver : ClientPhase → Prop
  | .returned _ | .killed => True
  | .writing _ | .waiting => False

/-- What the programs do by themselves. -/
def Progress : LaunchAction → Prop
  | .loseSsh | .killClient | .killLauncher _ | .killDaemon => False
  | _ => True

def clientLeft : ClientPhase → Nat
  | .writing rest => rest.length + 2
  | .waiting => 1
  | .returned _ | .killed => 0

/-- The fork takes the steps of a child from those of the parent. -/
def launcherLeft : LauncherPhase → Nat
  | .starting => 7
  | .reading => 6
  | .forked => 2
  | .awaiting => 1
  | .exited _ => 0

def daemonLeft : DaemonPhase → Nat
  | .preparing => 3
  | .bound _ => 2
  | .reported _ => 1
  | .absent | .serving _ | .dead => 0

def stepsLeft (state : LaunchState) : Nat :=
  clientLeft state.client + launcherLeft state.launcher + daemonLeft state.daemon

theorem stepsLeft_step {action : LaunchAction} (progress : Progress action)
    (stepped : step config state action = some next) : next.stepsLeft < state.stepsLeft := by
  cases action with
  | write count =>
      rcases write_cases stepped with ⟨rest, writing, positive, enough, rfl⟩
      simp only [stepsLeft, writing, clientLeft, List.length_drop]
      omega
  | closeStdin =>
      rcases closeStdin_cases stepped with ⟨writing, rfl⟩
      simp [stepsLeft, writing, clientLeft]
  | start =>
      rcases start_cases stepped with ⟨starting, rfl⟩
      simp [stepsLeft, starting, launcherLeft]
  | readRequest =>
      rcases readRequest_cases stepped with ⟨reading, -, ⟨message, -, rfl⟩ | ⟨request, -, rfl⟩⟩
      · simp [stepsLeft, reading, launcherLeft]
      · simp only [stepsLeft, reading, launcherLeft, daemonLeft]
        omega
  | dropWriter =>
      rcases dropWriter_cases stepped with ⟨forked, rfl⟩
      simp [stepsLeft, forked, launcherLeft]
  | readPort =>
      rcases readPort_cases stepped with ⟨awaiting, ⟨-, rfl⟩ | ⟨-, -, rfl⟩⟩
      · simp [stepsLeft, awaiting, launcherLeft]
      · simp [stepsLeft, awaiting, launcherLeft]
  | bind port =>
      rcases bind_cases stepped with ⟨preparing, rfl⟩
      simp [stepsLeft, preparing, daemonLeft]
  | report =>
      rcases report_cases stepped with ⟨port, bound, ⟨-, rfl⟩ | ⟨-, rfl⟩⟩
      · simp [stepsLeft, bound, daemonLeft]
      · simp [stepsLeft, bound, daemonLeft]
  | detach =>
      rcases detach_cases stepped with ⟨port, reported, rfl⟩
      simp [stepsLeft, reported, daemonLeft]
  | collect =>
      rcases collect_cases stepped with ⟨waiting, success, -, -, rfl⟩
      simp [stepsLeft, waiting, clientLeft]
  | loseSsh | killClient | killLauncher output | killDaemon => exact progress.elim

/-- When nothing moves any more, the client has its answer. -/
theorem clientOver_of_rest (truthful : state.Truthful config) (devNull : config.devNull = true)
    (rest : ∀ action, Progress action → step config state action = none) :
    ClientOver state.client := by
  cases client : state.client with
  | returned outcome => trivial
  | killed => trivial
  | writing text =>
      cases text with
      | nil =>
          have stuck := rest .closeStdin trivial
          simp [step, closeStdin, client] at stuck
      | cons c text =>
          have stuck := rest (.write 1) trivial
          simp [step, write, client] at stuck
  | waiting =>
      have closed := (truthful.handed client).1
      have bound : ∀ port, state.daemon ≠ .bound port := by
        intro port bound
        have stuck := rest .report trivial
        simp only [step, report, bound] at stuck
        split at stuck
        · contradiction
        · contradiction
        · rename_i other _
          exact other port rfl
      have preparing : state.daemon ≠ .preparing := by
        intro preparing
        have stuck := rest (.bind 0) trivial
        simp [step, bind, preparing] at stuck
      have reported : ∀ port, state.daemon ≠ .reported port := by
        intro port reported
        have stuck := rest .detach trivial
        simp [step, detach, reported] at stuck
      have released : state.outputHeld config = false := by
        unfold outputHeld
        cases daemon : state.daemon with
        | preparing => exact absurd daemon preparing
        | bound port => exact absurd daemon (bound port)
        | reported port => exact absurd daemon (reported port)
        | serving port => simp [devNull]
        | absent => rfl
        | dead => rfl
      have unheld : state.pipeHeld = false := by
        unfold pipeHeld
        cases daemon : state.daemon with
        | preparing => exact absurd daemon preparing
        | bound port => exact absurd daemon (bound port)
        | reported port => rfl
        | serving port => rfl
        | absent => rfl
        | dead => rfl
      cases launcher : state.launcher with
      | starting =>
          have stuck := rest .start trivial
          simp [step, start, launcher] at stuck
      | reading =>
          have stuck := rest .readRequest trivial
          simp only [step, readRequest, launcher, closed] at stuck
          split at stuck
          · contradiction
          · contradiction
      | forked =>
          have stuck := rest .dropWriter trivial
          simp [step, dropWriter, launcher] at stuck
      | awaiting =>
          have stuck := rest .readPort trivial
          simp only [step, readPort, launcher, unheld] at stuck
          split at stuck
          · contradiction
          · contradiction
      | exited success =>
          have stuck := rest .collect trivial
          simp [step, collect, client, launcher, released] at stuck

/-! ## Undisturbed starts -/

/-- Nothing is killed, SSH does not fail, and the child can bind. -/
def Undisturbed : LaunchAction → Prop
  | .loseSsh | .killClient | .killLauncher _ | .killDaemon => False
  | _ => True

/-- Everybody is alive. -/
structure Healthy (state : LaunchState) : Prop where
  launcher : state.launcher ≠ .exited false
  daemon : state.daemon ≠ .dead
  absent : state.daemon = .absent → state.launcher = .starting ∨ state.launcher = .reading
  client : state.client ≠ .killed
  answered : ∀ failure, state.client ≠ .returned (.error failure)

theorem healthy_init (config : LaunchConfig) : (init config).Healthy :=
  ⟨nofun, nofun, fun _ => Or.inl rfl, nofun, nofun⟩

/-- A closed input of a healthy start is the whole request. -/
theorem Healthy.stdin (healthy : state.Healthy) (truthful : state.Truthful config)
    (closed : state.closed = true) : state.stdin = config.text := by
  cases client : state.client with
  | writing rest =>
      rw [(truthful.typed rest client).1] at closed
      contradiction
  | waiting => exact (truthful.handed client).2
  | returned outcome =>
      cases outcome with
      | ok reply => exact (truthful.answered reply client).2.1
      | error failure => exact absurd client (healthy.answered failure)
  | killed => exact absurd client healthy.client

/-- The parent leaves only with a port. -/
theorem exists_port_of_exited (truthful : state.Truthful config)
    (exited : state.launcher = .exited true) :
    ∃ port, state.port = some port ∧
      state.stdout = printed config.banner ++ (replyLine port config.cert ++ ['\n']) := by
  have shown := truthful.output
  rwa [OutputIs, exited] at shown

theorem unreported_of_port {port : UInt16} (truthful : state.Truthful config)
    (reported : state.port = some port) : ¬ Unreported state.daemon := by
  intro unreported
  rw [truthful.unreported unreported] at reported
  contradiction

theorem Healthy.readPort (healthy : state.Healthy) (truthful : state.Truthful config)
    (stepped : state.readPort config = some next) : next.Healthy := by
  rcases readPort_cases stepped with ⟨awaiting, outcome⟩
  have present : state.daemon ≠ .absent := by
    intro absent
    have early := healthy.absent absent
    simp [awaiting] at early
  rcases outcome with ⟨-, rfl⟩ | ⟨short, released, -⟩
  · exact { healthy with launcher := nofun, absent := fun absent => absurd absent present }
  · have piped := truthful.piped (by rw [awaiting]; exact fun _ => nofun)
    have full : ∀ {port}, state.port = some port → 2 ≤ state.portPipe.length := by
      intro port reported
      rw [piped, reported, Option.map_some, Option.getD_some, portBytes, length_toBeBytes]
    cases daemon : state.daemon with
    | absent => exact absurd daemon present
    | preparing => simp [pipeHeld, daemon] at released
    | bound port => simp [pipeHeld, daemon] at released
    | reported port => exact absurd (full (truthful.reported port (Or.inl daemon))) short
    | serving port => exact absurd (full (truthful.reported port (Or.inr daemon))) short
    | dead => exact absurd daemon healthy.daemon

theorem Healthy.collect (healthy : state.Healthy) (truthful : state.Truthful config)
    (plain : config.PlainBanner) (stepped : state.collect config = some next) : next.Healthy := by
  rcases collect_cases stepped with ⟨-, success, exited, -, rfl⟩
  cases success with
  | false => exact absurd exited healthy.launcher
  | true =>
      obtain ⟨port, -, output⟩ := exists_port_of_exited truthful exited
      have reply : state.outcome true = .ok (port, config.cert) := by
        rw [outcome, output, scanReply_printed plain]
        rfl
      refine { healthy with client := nofun, answered := ?_ }
      intro failure returned
      rw [reply] at returned
      cases returned

/-- The child moves, and lives. -/
theorem Healthy.moveDaemon {daemon : DaemonPhase} {port : Option UInt16} {portPipe : List UInt8}
    (healthy : state.Healthy) (alive : daemon ≠ .dead) (present : daemon ≠ .absent) :
    Healthy { state with daemon, port, portPipe } :=
  { healthy with daemon := alive, absent := fun absent => absurd absent present }

theorem Healthy.step {action : LaunchAction} (healthy : state.Healthy)
    (truthful : state.Truthful config) (plain : config.PlainBanner)
    (undisturbed : Undisturbed action)
    (stepped : LaunchState.step config state action = some next) : next.Healthy := by
  cases action with
  | write count =>
      rcases write_cases stepped with ⟨rest, -, -, -, rfl⟩
      exact { healthy with client := nofun, answered := nofun }
  | closeStdin =>
      rcases closeStdin_cases stepped with ⟨-, rfl⟩
      exact { healthy with client := nofun, answered := nofun }
  | start =>
      rcases start_cases stepped with ⟨-, rfl⟩
      exact { healthy with launcher := nofun, absent := fun _ => Or.inr rfl }
  | readRequest =>
      rcases readRequest_cases stepped with ⟨-, closed, ⟨message, refused, -⟩ | ⟨request, -, rfl⟩⟩
      · rw [healthy.stdin truthful closed, parseRequest_written config.formed config.written]
          at refused
        cases refused
      · exact { healthy with launcher := nofun, daemon := nofun, absent := nofun }
  | dropWriter =>
      rcases dropWriter_cases stepped with ⟨forked, rfl⟩
      refine { healthy with launcher := nofun, absent := fun absent => ?_ }
      have early := healthy.absent absent
      simp [forked] at early
  | readPort => exact healthy.readPort truthful stepped
  | bind port =>
      rcases bind_cases stepped with ⟨-, rfl⟩
      exact healthy.moveDaemon nofun nofun
  | report =>
      rcases report_cases stepped with ⟨port, bound, ⟨⟨success, exited⟩, -⟩ | ⟨-, rfl⟩⟩
      · cases success with
        | false => exact absurd exited healthy.launcher
        | true =>
            obtain ⟨reported, written, -⟩ := exists_port_of_exited truthful exited
            have unreported := unreported_of_port truthful written
            rw [bound] at unreported
            exact absurd trivial unreported
      · exact healthy.moveDaemon nofun nofun
  | detach =>
      rcases detach_cases stepped with ⟨port, -, rfl⟩
      exact healthy.moveDaemon nofun nofun
  | collect => exact healthy.collect truthful plain stepped
  | loseSsh | killClient | killLauncher output | killDaemon => exact undisturbed.elim

/-- An undisturbed start, with what is true of every start. -/
structure Alive (config : LaunchConfig) (state : LaunchState) : Prop where
  truthful : state.Truthful config
  healthy : state.Healthy

theorem Alive.step {action : LaunchAction} (alive : Alive config state)
    (plain : config.PlainBanner) (undisturbed : Undisturbed action)
    (stepped : LaunchState.step config state action = some next) : Alive config next where
  truthful := alive.truthful.step stepped
  healthy := alive.healthy.step alive.truthful plain undisturbed stepped

theorem Progress.undisturbed {action : LaunchAction} (progress : Progress action) :
    Undisturbed action := by
  cases action with
  | loseSsh => exact progress.elim
  | killClient => exact progress.elim
  | killLauncher output => exact progress.elim
  | killDaemon => exact progress.elim
  | _ => trivial

/-! ## The main result -/

/-- The extra lines leave the identity and the secret as they were. -/
theorem foldl_applyLine_identity (lines : List Text) (request : Request) :
    (lines.foldl applyLine request).sessionId = request.sessionId ∧
      (lines.foldl applyLine request).passkey = request.passkey := by
  induction lines generalizing request with
  | nil => exact ⟨rfl, rfl⟩
  | cons line rest inductionHypothesis =>
      have kept : (applyLine request line).sessionId = request.sessionId ∧
          (applyLine request line).passkey = request.passkey := by
        unfold applyLine
        cases parseBootstrapLine line with
        | env entry => exact ⟨rfl, rfl⟩
        | command command => exact ⟨rfl, rfl⟩
        | x11 => exact ⟨rfl, rfl⟩
        | prefer pref => exact ⟨rfl, rfl⟩
      obtain ⟨identity, secret⟩ := inductionHypothesis (applyLine request line)
      exact ⟨identity.trans kept.1, secret.trans kept.2⟩

/-- What the client was told is so. -/
theorem Truthful.reply {port : UInt16} {cert : List UInt8} (truthful : state.Truthful config)
    (plain : config.PlainBanner) (returned : state.client = .returned (.ok (port, cert))) :
    cert = config.cert ∧ state.port = some port ∧
      (state.daemon = .serving port ∨ state.daemon = .dead) ∧
      ∃ session, state.session = some session ∧
        session.sessionId = config.request.sessionId ∧
        session.passkey = config.request.passkey := by
  obtain ⟨-, whole, exited, scanned, released⟩ := truthful.answered _ returned
  obtain ⟨reported, written, output⟩ := exists_port_of_exited truthful exited
  rw [output, scanReply_printed plain] at scanned
  cases scanned
  have unreported := unreported_of_port truthful written
  refine ⟨rfl, written, ?_, ?_⟩
  · cases daemon : state.daemon with
    | serving other =>
        have same := truthful.reported other (Or.inr daemon)
        rw [written] at same
        cases same
        exact Or.inl rfl
    | dead => exact Or.inr rfl
    | reported other =>
        rw [outputHeld, daemon] at released
        contradiction
    | absent => exact absurd (by rw [daemon]; trivial) unreported
    | preparing => exact absurd (by rw [daemon]; trivial) unreported
    | bound other => exact absurd (by rw [daemon]; trivial) unreported
  · have read := truthful.forked (by rw [exited]; trivial)
    obtain ⟨session, read⟩ := Option.ne_none_iff_exists'.mp read
    have parsed := (truthful.parsed session read).2
    rw [whole, parseRequest_written config.formed config.written] at parsed
    cases parsed
    exact ⟨_, read, foldl_applyLine_identity _ _⟩

/-- **`bootstrap_ssh` returns, and what it returns is so.** Whoever is killed at
whatever point, where the login shell prints no line that begins like a reply: a
client that is told a port and a certificate is told the server's own, of a child
that has bound that port for a session with the client's identity and secret, and
has given up the output of SSH. Whatever happened before, where the child can
open `/dev/null` the programs come to an end by themselves; and if nothing was
killed, behind such a login shell, the client is then told the port of a child
that serves. -/
theorem launch_truthful {actions : List LaunchAction} {final : LaunchState}
    (executed : run (step config) (init config) actions = some final) :
    (config.PlainBanner → ∀ port cert, final.client = .returned (.ok (port, cert)) →
      cert = config.cert ∧ final.port = some port ∧
        (final.daemon = .serving port ∨ final.daemon = .dead) ∧
        ∃ session, final.session = some session ∧
          session.sessionId = config.request.sessionId ∧
          session.passkey = config.request.passkey) ∧
      (config.devNull = true → ∃ more ended, (∀ action ∈ more, Progress action) ∧
        run (step config) final more = some ended ∧ ClientOver ended.client ∧
        (config.PlainBanner → (∀ action ∈ actions, Undisturbed action) → ∃ port,
          ended.client = .returned (.ok (port, config.cert)) ∧
            ended.daemon = .serving port)) := by
  have truthful : final.Truthful config :=
    run_invariant (fun truthful stepped => Truthful.step truthful stepped) (truthful_init config)
      executed
  refine ⟨fun plain port cert => truthful.reply plain, fun devNull => ?_⟩
  obtain ⟨more, ended, progress, finished, rest⟩ :=
    exists_quiescent (fun progress stepped => stepsLeft_step progress stepped) final
  have later : ended.Truthful config :=
    run_invariant (fun truthful stepped => Truthful.step truthful stepped) truthful finished
  have finishedClient := clientOver_of_rest later devNull rest
  refine ⟨more, ended, progress, finished, finishedClient, fun plain undisturbed => ?_⟩
  have start : Alive config (init config) := ⟨truthful_init config, healthy_init config⟩
  have met : Along (step config) (fun _ action => Undisturbed action) (init config)
      (actions ++ more) := by
    apply along_of_forall_mem
    intro action member _
    rcases List.mem_append.mp member with early | late
    · exact undisturbed action early
    · exact (progress action late).undisturbed
  have alive : Alive config ended :=
    run_invariant_along
      (fun alive undisturbed stepped => Alive.step alive plain undisturbed stepped) start met
      (run_append_eq_some.mpr ⟨final, executed, finished⟩)
  have healthy := alive.healthy
  cases client : ended.client with
  | returned outcome =>
      cases outcome with
      | error failure => exact absurd client (healthy.answered failure)
      | ok reply =>
          obtain ⟨port, cert⟩ := reply
          obtain ⟨rfl, -, daemon, -⟩ := later.reply plain client
          exact ⟨port, rfl, daemon.resolve_right healthy.daemon⟩
  | killed => exact absurd client healthy.client
  | writing text =>
      rw [client] at finishedClient
      exact finishedClient.elim
  | waiting =>
      rw [client] at finishedClient
      exact finishedClient.elim

/-- A login shell that greets, and a small certificate. -/
def greeting : LaunchConfig where
  target := "host".toList
  request := sampleRequest ["LANG=C".toList] (some "ls -l".toList)
  text := writeLines (headerLine (sampleRequest ["LANG=C".toList] (some "ls -l".toList)) ::
    requestLines (sampleRequest ["LANG=C".toList] (some "ls -l".toList)))
  cert := [0x30, 0xFF]
  banner := [⟨"Welcome".toList, .crlf, by decide⟩]
  devNull := true
  formed := wellFormed_sampleRequest (by decide)
  written := rfl
  filled := by decide

/-- The child reports before the parent has dropped its copy of the pipe. -/
def eagerChild : List LaunchAction :=
  [.write 10, .start, .write (greeting.text.length - 10), .closeStdin, .readRequest, .bind 4433,
    .report, .dropWriter, .readPort, .detach, .collect]

theorem eagerChild_told :
    ∃ final, run (step greeting) (init greeting) eagerChild = some final ∧
      final.client = .returned (.ok (4433, [0x30, 0xFF])) ∧
      (final.daemon = .serving 4433 ∨ final.daemon = .dead) ∧
      ∃ session, final.session = some session ∧ session.passkey = "k3y".toList := by
  have told : (run (step greeting) (init greeting) eagerChild).any (fun final =>
      decide (final.client = .returned (.ok (4433, [0x30, 0xFF])))) = true := by
    decide +kernel
  obtain ⟨final, executed, told⟩ := (Option.any_eq_true _ _).mp told
  have returned := of_decide_eq_true told
  obtain ⟨truth, -⟩ := launch_truthful executed
  obtain ⟨-, -, daemon, session, read, -, secret⟩ := truth (by decide) 4433 [0x30, 0xFF] returned
  exact ⟨final, executed, returned, daemon, session, read, secret⟩

/-- A login shell that prints a line of its own that looks like a reply. -/
def forging : LaunchConfig :=
  { greeting with banner := [⟨"PORT 1 CERT 00".toList, .lf, by decide⟩] }

/-- The client believes the login shell. -/
theorem forged_reply_believed :
    (run (step forging) (init forging) eagerChild).any (fun final =>
      decide (final.client = .returned (.ok (1, [0])) ∧ final.port = some 4433)) = true := by
  decide +kernel

/-- A child that cannot give up the output keeps the client waiting for as long
as it serves. -/
theorem waits_for_output {success : Bool} {port : UInt16} (devNull : config.devNull = false)
    (client : state.client = .waiting) (launcher : state.launcher = .exited success)
    (daemon : state.daemon = .serving port) {action : LaunchAction} (progress : Progress action) :
    step config state action = none := by
  have held : state.outputHeld config = true := by
    simp [outputHeld, daemon, devNull]
  cases action with
  | killClient => exact progress.elim
  | killLauncher output => exact progress.elim
  | killDaemon => exact progress.elim
  | loseSsh => exact progress.elim
  | collect => simp [step, collect, client, launcher, held]
  | write count => simp [step, write, client]
  | closeStdin => simp [step, closeStdin, client]
  | start => simp [step, start, launcher]
  | readRequest => simp [step, readRequest, launcher]
  | dropWriter => simp [step, dropWriter, launcher]
  | readPort => simp [step, readPort, launcher]
  | bind other => simp [step, bind, daemon]
  | report => simp [step, report, daemon]
  | detach => simp [step, detach, daemon]

end LaunchState

end Etr.Bootstrap
