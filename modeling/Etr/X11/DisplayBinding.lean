import Etr.Library.Tenancy
import Etr.Library.Transition

/-!
Contract: the display numbers of all servers on one host.

Owns `bind_free_x11_display`, the `xauth` set-up, the accept loops and the
clean-up of `run_session` and `X11Cleanup` in `src/bin/etrs.rs`, as one system
call at a time, and what any interleaving of servers, of the `xauth` commands
they run and of other programs leaves of the sockets of a session.

Does not own the directory `/tmp/.X11-unix` (whether a server trusts it is
given), the connections to a display, nor what is in the authority files.
-/

namespace Etr.X11

open Etr.Library

/-- Where one may listen for the clients of a display. -/
inductive DisplaySocket where
  /-- `127.0.0.1:{6000 + d}`. -/
  | v4 (display : Nat)
  /-- `[::1]:{6000 + d}`. -/
  | v6 (display : Nat)
  /-- `/tmp/.X11-unix/X{d}`. -/
  | file (display : Nat)
deriving DecidableEq, Repr

/-- Who has bound a port, or made a file. -/
inductive Owner where
  | server (id : Nat)
  | other (id : Nat)
deriving DecidableEq, Repr

/-- What `X11Cleanup` does next. -/
inductive CleanupStage where
  | removeFile
  | removeUnixEntry
  | removeTcpEntry
deriving DecidableEq, Repr

/-- Where a server is with its display. -/
inductive DisplayPhase where
  /-- `symlink_metadata` of the socket path. -/
  | probing (display : Nat)
  | bindingV4 (display : Nat)
  | bindingV6 (display : Nat)
  | bindingUnix (display : Nat)
  /-- `xauth add localhost/unix:d`. -/
  | addingUnixEntry (display : Nat) (hasUnixSocket : Bool)
  /-- `xauth add localhost:d`. -/
  | addingTcpEntry (display : Nat) (hasUnixSocket : Bool)
  | serving (display : Nat) (hasUnixSocket : Bool)
  /-- `xauth` failed, and the listeners are about to be dropped. -/
  | withdrawing (display : Nat) (hasUnixSocket : Bool)
  | cleaning (display : Nat) (hasUnixSocket listening : Bool) (stage : CleanupStage)
  /-- Cleaned up; the process still listens. -/
  | leaving (display : Nat)
  /-- The session has no display. -/
  | without
  | gone
deriving DecidableEq, Repr

/-- What is given: whether the host has an IPv6 loopback, and for each server
whether it trusts the socket directory, its user, and its cookie. -/
structure DisplayConfig where
  ipv6 : Bool
  canUseUnixSocket : Nat → Bool
  user : Nat → Nat
  fakeCookie : Nat → List UInt8

/-- The entries of an authority file. -/
inductive XauthEntry where
  /-- `localhost/unix:d`. -/
  | unix (display : Nat)
  /-- `localhost:d`. -/
  | tcp (display : Nat)
deriving DecidableEq, Repr

def XauthEntry.display : XauthEntry → Nat
  | .unix display | .tcp display => display

/-- An `xauth` command that runs: the server that waits for it, and what it puts
into whose authority file. It outlives a server that is killed. -/
structure XauthCall where
  server : Nat
  user : Nat
  entry : XauthEntry
  /-- The cookie to add, none to remove the entry. -/
  cookie : Option (List UInt8)
  /-- The authority file is written. -/
  written : Bool
deriving DecidableEq, Repr

structure DisplayHost where
  bound : DisplaySocket → Option Owner
  /-- The authority file of each user. -/
  entries : Nat × XauthEntry → Option (List UInt8)
  calls : List XauthCall
  phases : Nat → DisplayPhase
  /-- History variable: the ports whose accept loop has ended under a server. -/
  stopped : Nat → List DisplaySocket

namespace DisplayHost

/-- No server has looked for a display yet. -/
def start (host : DisplayHost) : DisplayHost :=
  { host with calls := [], phases := fun _ => .probing 10, stopped := fun _ => [] }

def setPhase (host : DisplayHost) (id : Nat) (phase : DisplayPhase) : DisplayHost :=
  { host with phases := Function.update host.phases id phase }

/-- `continue`: the next number, if there is one. -/
def nextDisplay (display : Nat) : DisplayPhase :=
  if display + 1 < 100 then .probing (display + 1) else .without

def bind (host : DisplayHost) (socket : DisplaySocket) (id : Nat) : DisplayHost :=
  { host with bound := Function.update host.bound socket (some (.server id)) }

/-- Closing a listener frees its port; a socket file stays. -/
def portsClosed (bound : DisplaySocket → Option Owner) (owner : Owner) :
    DisplaySocket → Option Owner
  | .file display => bound (.file display)
  | socket => if bound socket = some owner then none else bound socket

/-- The listeners of a server are dropped. -/
def closeListeners (host : DisplayHost) (id : Nat) : DisplayHost :=
  { host with bound := portsClosed host.bound (.server id) }

/-! ## The moves of one server -/

def probe (host : DisplayHost) (id : Nat) : Option DisplayHost :=
  match host.phases id with
  | .probing display =>
      match host.bound (.file display) with
      | some _ => some (host.setPhase id (nextDisplay display))
      | none => some (host.setPhase id (.bindingV4 display))
  | _ => none

/-- A listener that is bound and not `usable` is dropped again. -/
def bindV4 (host : DisplayHost) (id : Nat) (usable : Bool) : Option DisplayHost :=
  match host.phases id with
  | .bindingV4 display =>
      match host.bound (.v4 display), usable with
      | none, true => some ((host.bind (.v4 display) id).setPhase id (.bindingV6 display))
      | _, _ => some (host.setPhase id (nextDisplay display))
  | _ => none

def bindV6 (config : DisplayConfig) (host : DisplayHost) (id : Nat) (usable : Bool) :
    Option DisplayHost :=
  match host.phases id with
  | .bindingV6 display =>
      if config.ipv6 then
        match host.bound (.v6 display), usable with
        | none, true => some ((host.bind (.v6 display) id).setPhase id (.bindingUnix display))
        | _, _ => some ((host.closeListeners id).setPhase id (nextDisplay display))
      else
        some (host.setPhase id (.bindingUnix display))
  | _ => none

def bindUnix (config : DisplayConfig) (host : DisplayHost) (id : Nat) (usable : Bool) :
    Option DisplayHost :=
  match host.phases id with
  | .bindingUnix display =>
      if config.canUseUnixSocket id then
        match host.bound (.file display), usable with
        | none, true =>
            some ((host.bind (.file display) id).setPhase id (.addingUnixEntry display true))
        | _, _ => some ((host.closeListeners id).setPhase id (nextDisplay display))
      else
        some (host.setPhase id (.addingUnixEntry display false))
  | _ => none

/-- The `xauth` command a server runs in a phase. -/
def xauthCall? (config : DisplayConfig) (id : Nat) : DisplayPhase → Option XauthCall
  | .addingUnixEntry display _ =>
      some ⟨id, config.user id, .unix display, some (config.fakeCookie id), false⟩
  | .addingTcpEntry display _ =>
      some ⟨id, config.user id, .tcp display, some (config.fakeCookie id), false⟩
  | .cleaning display _ _ .removeUnixEntry => some ⟨id, config.user id, .unix display, none, false⟩
  | .cleaning display _ _ .removeTcpEntry => some ⟨id, config.user id, .tcp display, none, false⟩
  | _ => none

/-- The phase behind the command. How `xauth remove` ends is ignored. -/
def afterXauth (success : Bool) : DisplayPhase → DisplayPhase
  | .addingUnixEntry display unix =>
      if success then .addingTcpEntry display unix else .withdrawing display unix
  | .addingTcpEntry display unix =>
      if success then .serving display unix else .withdrawing display unix
  | .cleaning display unix listening .removeUnixEntry =>
      .cleaning display unix listening .removeTcpEntry
  | .cleaning display _ listening .removeTcpEntry =>
      if listening then .leaving display else .without
  | phase => phase

/-- A command of the server runs. -/
def Awaits (host : DisplayHost) (id : Nat) : Bool := host.calls.any fun call => call.server == id

/-- The server starts the command of its phase. -/
def startXauth (config : DisplayConfig) (host : DisplayHost) (id : Nat) : Option DisplayHost :=
  match xauthCall? config id (host.phases id), host.Awaits id with
  | some call, false => some { host with calls := host.calls ++ [call] }
  | _, _ => none

/-- The command cannot be run. -/
def failXauth (config : DisplayConfig) (host : DisplayHost) (id : Nat) : Option DisplayHost :=
  match xauthCall? config id (host.phases id), host.Awaits id with
  | some _, false => some (host.setPhase id (afterXauth false (host.phases id)))
  | _, _ => none

/-- The command ends, and its server goes on. A failing one may have written. -/
def endXauth (config : DisplayConfig) (host : DisplayHost) (id : Nat) (success : Bool) :
    Option DisplayHost :=
  match xauthCall? config id (host.phases id),
      host.calls.find? fun call => call.server == id with
  | some _, some call =>
      if success && !call.written then
        none
      else
        some ({ host with calls := host.calls.filter fun call => call.server != id }.setPhase id
          (afterXauth success (host.phases id)))
  | _, _ => none

/-- Without its entries the display is given up: the listeners are dropped
first, then the clean-up. -/
def withdraw (host : DisplayHost) (id : Nat) : Option DisplayHost :=
  match host.phases id with
  | .withdrawing display unix =>
      some ((host.closeListeners id).setPhase id (.cleaning display unix false .removeFile))
  | _ => none

/-- `run_session` returns. -/
def endSession (host : DisplayHost) (id : Nat) : Option DisplayHost :=
  match host.phases id with
  | .serving display unix => some (host.setPhase id (.cleaning display unix true .removeFile))
  | .without => some (host.setPhase id .gone)
  | _ => none

/-- The first step of `X11Cleanup::drop`: it removes whatever file is at the
path. -/
def removeFile (host : DisplayHost) (id : Nat) : Option DisplayHost :=
  match host.phases id with
  | .cleaning display unix listening .removeFile =>
      some { host.setPhase id (.cleaning display unix listening .removeUnixEntry) with
        bound := if unix then Function.update host.bound (.file display) none else host.bound }
  | _ => none

/-- The display whose accept loops run. -/
def acceptsFor? : DisplayPhase → Option Nat
  | .serving display _ | .cleaning display _ true _ | .leaving display => some display
  | _ => none

/-- An error of `accept` ends the loop of one port, which closes the listener. (A
socket file stays.) -/
def stopAccepting (host : DisplayHost) (id : Nat) (socket : DisplaySocket) : Option DisplayHost :=
  match acceptsFor? (host.phases id) with
  | some display =>
      if (socket = .v4 display ∨ socket = .v6 display) ∧
          host.bound socket = some (.server id) then
        some { host with
          bound := Function.update host.bound socket none
          stopped := Function.update host.stopped id (socket :: host.stopped id) }
      else
        none
  | none => none

/-- The runtime is shut down, and the process exits. -/
def exit (host : DisplayHost) (id : Nat) : Option DisplayHost :=
  match host.phases id with
  | .leaving _ => some ((host.closeListeners id).setPhase id .gone)
  | _ => none

/-- The process is killed: its sockets are closed; its file, its entries and a
command that it runs stay. -/
def kill (host : DisplayHost) (id : Nat) : Option DisplayHost :=
  some ((host.closeListeners id).setPhase id .gone)

/-! ## Other programs -/

/-- A socket that another program may bind or close: it is free, or is not of a
server that runs. -/
def Foreign (host : DisplayHost) (socket : DisplaySocket) : Bool :=
  match host.bound socket with
  | none | some (.other _) => true
  | some (.server id) => host.phases id == .gone

/-- Another program binds a socket, closes its own, or removes a file that a
killed server left. -/
def otherSocket (host : DisplayHost) (socket : DisplaySocket) (program : Option Nat) :
    Option DisplayHost :=
  if host.Foreign socket then
    some { host with bound := Function.update host.bound socket (program.map .other) }
  else
    none

/-- Another program sets or removes an entry of a display whose port it holds. -/
def otherEntry (host : DisplayHost) (user : Nat) (entry : XauthEntry)
    (cookie : Option (List UInt8)) : Option DisplayHost :=
  match host.bound (.v4 entry.display) with
  | some (.other _) =>
      some { host with entries := Function.update host.entries (user, entry) cookie }
  | _ => none

/-- A command writes the authority file. -/
def xauthWrites (host : DisplayHost) (index : Nat) : Option DisplayHost :=
  match host.calls[index]? with
  | some call =>
      if call.written then
        none
      else
        some { host with
          calls := host.calls.set index { call with written := true }
          entries := Function.update host.entries (call.user, call.entry) call.cookie }
  | none => none

end DisplayHost

inductive ServerMove where
  | probe
  | bindV4 (usable : Bool)
  | bindV6 (usable : Bool)
  | bindUnix (usable : Bool)
  | startXauth
  | failXauth
  | endXauth (success : Bool)
  | withdraw
  | endSession
  | removeFile
  | stopAccepting (socket : DisplaySocket)
  | exit
  | kill
deriving DecidableEq, Repr

inductive DisplayAction where
  | server (id : Nat) (move : ServerMove)
  | xauthWrites (index : Nat)
  | otherSocket (socket : DisplaySocket) (program : Option Nat)
  | otherEntry (user : Nat) (entry : XauthEntry) (cookie : Option (List UInt8))
deriving DecidableEq, Repr

def DisplayHost.move (config : DisplayConfig) (host : DisplayHost) (id : Nat) :
    ServerMove → Option DisplayHost
  | .probe => host.probe id
  | .bindV4 usable => host.bindV4 id usable
  | .bindV6 usable => host.bindV6 config id usable
  | .bindUnix usable => host.bindUnix config id usable
  | .startXauth => host.startXauth config id
  | .failXauth => host.failXauth config id
  | .endXauth success => host.endXauth config id success
  | .withdraw => host.withdraw id
  | .endSession => host.endSession id
  | .removeFile => host.removeFile id
  | .stopAccepting socket => host.stopAccepting id socket
  | .exit => host.exit id
  | .kill => host.kill id

def DisplayHost.step (config : DisplayConfig) (host : DisplayHost) :
    DisplayAction → Option DisplayHost
  | .server id move => host.move config id move
  | .xauthWrites index => host.xauthWrites index
  | .otherSocket socket program => host.otherSocket socket program
  | .otherEntry user entry cookie => host.otherEntry user entry cookie

namespace DisplayHost

variable {config : DisplayConfig} {host next final : DisplayHost} {id : Nat}

/-! ## What each move does -/

theorem probe_cases (stepped : host.probe id = some next) :
    ∃ display, host.phases id = .probing display ∧
      (next = host.setPhase id (nextDisplay display) ∨
        next = host.setPhase id (.bindingV4 display)) := by
  unfold probe at stepped
  split at stepped
  · rename_i display here
    split at stepped
    · cases stepped
      exact ⟨display, here, Or.inl rfl⟩
    · cases stepped
      exact ⟨display, here, Or.inr rfl⟩
  · contradiction

theorem bindV4_cases {usable : Bool} (stepped : host.bindV4 id usable = some next) :
    ∃ display, host.phases id = .bindingV4 display ∧
      ((host.bound (.v4 display) = none ∧
          next = (host.bind (.v4 display) id).setPhase id (.bindingV6 display)) ∨
        next = host.setPhase id (nextDisplay display)) := by
  unfold bindV4 at stepped
  split at stepped
  · rename_i display here
    split at stepped
    · rename_i free
      cases stepped
      exact ⟨display, here, Or.inl ⟨free, rfl⟩⟩
    · cases stepped
      exact ⟨display, here, Or.inr rfl⟩
  · contradiction

theorem bindV6_cases {usable : Bool} (stepped : host.bindV6 config id usable = some next) :
    ∃ display, host.phases id = .bindingV6 display ∧
      ((config.ipv6 = true ∧ host.bound (.v6 display) = none ∧
          next = (host.bind (.v6 display) id).setPhase id (.bindingUnix display)) ∨
        next = (host.closeListeners id).setPhase id (nextDisplay display) ∨
        (config.ipv6 = false ∧ next = host.setPhase id (.bindingUnix display))) := by
  unfold bindV6 at stepped
  split at stepped
  · rename_i display here
    split at stepped
    · rename_i enabled
      split at stepped
      · rename_i free
        cases stepped
        exact ⟨display, here, Or.inl ⟨enabled, free, rfl⟩⟩
      · cases stepped
        exact ⟨display, here, Or.inr (Or.inl rfl)⟩
    · rename_i disabled
      cases stepped
      exact ⟨display, here, Or.inr (Or.inr ⟨Bool.eq_false_iff.mpr disabled, rfl⟩)⟩
  · contradiction

theorem bindUnix_cases {usable : Bool} (stepped : host.bindUnix config id usable = some next) :
    ∃ display, host.phases id = .bindingUnix display ∧
      ((host.bound (.file display) = none ∧
          next = (host.bind (.file display) id).setPhase id (.addingUnixEntry display true)) ∨
        next = (host.closeListeners id).setPhase id (nextDisplay display) ∨
        next = host.setPhase id (.addingUnixEntry display false)) := by
  unfold bindUnix at stepped
  split at stepped
  · rename_i display here
    split at stepped
    · split at stepped
      · rename_i free
        cases stepped
        exact ⟨display, here, Or.inl ⟨free, rfl⟩⟩
      · cases stepped
        exact ⟨display, here, Or.inr (Or.inl rfl)⟩
    · cases stepped
      exact ⟨display, here, Or.inr (Or.inr rfl)⟩
  · contradiction

theorem startXauth_cases (stepped : host.startXauth config id = some next) :
    ∃ call, xauthCall? config id (host.phases id) = some call ∧ host.Awaits id = false ∧
      next = { host with calls := host.calls ++ [call] } := by
  unfold startXauth at stepped
  split at stepped
  · rename_i call makes idle
    cases stepped
    exact ⟨call, makes, idle, rfl⟩
  · contradiction

theorem failXauth_cases (stepped : host.failXauth config id = some next) :
    (∃ call, xauthCall? config id (host.phases id) = some call) ∧ host.Awaits id = false ∧
      next = host.setPhase id (afterXauth false (host.phases id)) := by
  unfold failXauth at stepped
  split at stepped
  · rename_i call makes idle
    cases stepped
    exact ⟨⟨call, makes⟩, idle, rfl⟩
  · contradiction

theorem endXauth_cases {success : Bool} (stepped : host.endXauth config id success = some next) :
    (∃ call, xauthCall? config id (host.phases id) = some call) ∧
      (∃ call ∈ host.calls, call.server = id ∧ (success = true → call.written = true)) ∧
      next = { host with calls := host.calls.filter fun call => call.server != id }.setPhase id
        (afterXauth success (host.phases id)) := by
  unfold endXauth at stepped
  split at stepped
  · rename_i call running makes found
    have own : running.server = id := by simpa using List.find?_some found
    split at stepped
    · contradiction
    · rename_i finished
      cases stepped
      refine ⟨⟨call, makes⟩, ⟨running, List.mem_of_find?_eq_some found, own, ?_⟩, rfl⟩
      intro succeeded
      simpa [succeeded] using finished
  · contradiction

theorem withdraw_cases (stepped : host.withdraw id = some next) :
    ∃ display unix, host.phases id = .withdrawing display unix ∧
      next = (host.closeListeners id).setPhase id (.cleaning display unix false .removeFile) := by
  unfold withdraw at stepped
  split at stepped
  · rename_i display unix here
    cases stepped
    exact ⟨display, unix, here, rfl⟩
  · contradiction

theorem endSession_cases (stepped : host.endSession id = some next) :
    (∃ display unix, host.phases id = .serving display unix ∧
        next = host.setPhase id (.cleaning display unix true .removeFile)) ∨
      (host.phases id = .without ∧ next = host.setPhase id .gone) := by
  unfold endSession at stepped
  split at stepped
  · rename_i display unix here
    cases stepped
    exact Or.inl ⟨display, unix, here, rfl⟩
  · rename_i here
    cases stepped
    exact Or.inr ⟨here, rfl⟩
  · contradiction

theorem removeFile_cases (stepped : host.removeFile id = some next) :
    ∃ display unix listening, host.phases id = .cleaning display unix listening .removeFile ∧
      next = { host.setPhase id (.cleaning display unix listening .removeUnixEntry) with
        bound := if unix then Function.update host.bound (.file display) none
          else host.bound } := by
  unfold removeFile at stepped
  split at stepped
  · rename_i display unix listening here
    cases stepped
    exact ⟨display, unix, listening, here, rfl⟩
  · contradiction

theorem stopAccepting_cases {socket : DisplaySocket}
    (stepped : host.stopAccepting id socket = some next) :
    (∃ display, socket = .v4 display ∨ socket = .v6 display) ∧
      host.bound socket = some (.server id) ∧
      next = { host with
        bound := Function.update host.bound socket none
        stopped := Function.update host.stopped id (socket :: host.stopped id) } := by
  unfold stopAccepting at stepped
  split at stepped
  · rename_i display _
    split at stepped
    · rename_i listening
      cases stepped
      exact ⟨⟨display, listening.1⟩, listening.2, rfl⟩
    · contradiction
  · contradiction

theorem exit_cases (stepped : host.exit id = some next) :
    ∃ display, host.phases id = .leaving display ∧
      next = (host.closeListeners id).setPhase id .gone := by
  unfold exit at stepped
  split at stepped
  · rename_i display here
    cases stepped
    exact ⟨display, here, rfl⟩
  · contradiction

theorem xauthWrites_cases {index : Nat} (stepped : host.xauthWrites index = some next) :
    ∃ call, host.calls[index]? = some call ∧ call.written = false ∧
      next = { host with
        calls := host.calls.set index { call with written := true }
        entries := Function.update host.entries (call.user, call.entry) call.cookie } := by
  unfold xauthWrites at stepped
  split at stepped
  · rename_i call running
    split at stepped
    · contradiction
    · rename_i unwritten
      cases stepped
      exact ⟨call, running, Bool.eq_false_iff.mpr unwritten, rfl⟩
  · contradiction

theorem otherSocket_cases {socket : DisplaySocket} {program : Option Nat}
    (stepped : host.otherSocket socket program = some next) :
    next = { host with bound := Function.update host.bound socket (program.map .other) } := by
  unfold otherSocket at stepped
  split at stepped
  · cases stepped
    rfl
  · contradiction

theorem otherEntry_cases {user : Nat} {entry : XauthEntry} {cookie : Option (List UInt8)}
    (stepped : host.otherEntry user entry cookie = some next) :
    (∃ program, host.bound (.v4 entry.display) = some (.other program)) ∧
      next = { host with entries := Function.update host.entries (user, entry) cookie } := by
  unfold otherEntry at stepped
  split at stepped
  · rename_i program taken
    cases stepped
    exact ⟨⟨program, taken⟩, rfl⟩
  · contradiction

end DisplayHost

/-! ## Who holds what -/

namespace DisplayPhase

/-- The ports of a display that is bound. -/
def listeners (ipv6 : Bool) (display : Nat) : List DisplaySocket :=
  .v4 display :: if ipv6 then [.v6 display] else []

def socketFile (display : Nat) (hasUnixSocket : Bool) : List DisplaySocket :=
  if hasUnixSocket then [.file display] else []

/-- No listener's port is a socket file. -/
theorem file_notMem_listeners (ipv6 : Bool) (display other : Nat) :
    DisplaySocket.file other ∉ listeners ipv6 display := by
  cases ipv6 with
  | true => simp [listeners]
  | false => simp [listeners]

/-- The sockets a server has in this phase, as long as its accept loops run. -/
def sockets (ipv6 : Bool) : DisplayPhase → List DisplaySocket
  | .bindingV6 display => [.v4 display]
  | .bindingUnix display => listeners ipv6 display
  | .addingUnixEntry display unix | .addingTcpEntry display unix | .serving display unix
  | .withdrawing display unix => listeners ipv6 display ++ socketFile display unix
  | .cleaning display unix listening .removeFile =>
      (if listening then listeners ipv6 display else []) ++ socketFile display unix
  | .cleaning display _ listening _ => if listening then listeners ipv6 display else []
  | .leaving display => listeners ipv6 display
  | .probing _ | .bindingV4 _ | .without | .gone => []

end DisplayPhase

namespace DisplayHost

variable {config : DisplayConfig} {host next final : DisplayHost} {id : Nat}

/-- The sockets of the phase a server is in, without the ports whose accept loop
has ended. -/
def holds (config : DisplayConfig) (host : DisplayHost) : Owner → List DisplaySocket
  | .server id => ((host.phases id).sockets config.ipv6).filter fun socket =>
      !(host.stopped id).contains socket
  | .other _ => []

theorem mem_holds {config : DisplayConfig} {host : DisplayHost} {id : Nat}
    {socket : DisplaySocket} : socket ∈ host.holds config (.server id) ↔
      socket ∈ (host.phases id).sockets config.ipv6 ∧ socket ∉ host.stopped id := by
  simp [holds]

/-- Every server has the sockets that it believes to have. -/
def Sound (config : DisplayConfig) (host : DisplayHost) : Prop :=
  Tenanted host.bound (host.holds config)

theorem sound_start (host : DisplayHost) : host.start.Sound config := by
  intro owner socket member
  cases owner with
  | server id => exact absurd (mem_holds.mp member).1 List.not_mem_nil
  | other id => contradiction

/-- What one server may do to the others: nothing. -/
structure Moves (config : DisplayConfig) (host : DisplayHost) (id : Nat) (next : DisplayHost) :
    Prop where
  spares : Spares (.server id) host.bound next.bound
  others : ∀ other, other ≠ id →
    next.phases other = host.phases other ∧ next.stopped other = host.stopped other
  stops : ∀ socket ∈ next.stopped id,
    socket ∈ host.stopped id ∨ ∃ display, socket = .v4 display ∨ socket = .v6 display
  right : ∀ socket ∈ next.holds config (.server id), next.bound socket = some (.server id)

theorem Moves.of_phase {phase : DisplayPhase} (spares : Spares (.server id) host.bound next.bound)
    (phases : next.phases = Function.update host.phases id phase)
    (stopped : next.stopped = host.stopped)
    (right : ∀ socket ∈ phase.sockets config.ipv6, socket ∉ host.stopped id →
      next.bound socket = some (.server id)) :
    Moves config host id next := by
  refine ⟨spares, ?_, ?_, ?_⟩
  · intro other different
    rw [phases, Function.update_of_ne different, stopped]
    exact ⟨rfl, rfl⟩
  · rw [stopped]
    exact fun _ => Or.inl
  · intro socket member
    rw [mem_holds, phases, Function.update_self, stopped] at member
    exact right socket member.1 member.2

theorem Sound.of_moves (sound : host.Sound config) (moves : Moves config host id next) :
    next.Sound config := by
  have holds : next.holds config =
      Function.update (host.holds config) (.server id) (next.holds config (.server id)) := by
    funext owner
    cases owner with
    | server other =>
        by_cases same : other = id
        · subst same
          rw [Function.update_self]
        · rcases moves.others other same with ⟨samePhase, sameStopped⟩
          rw [Function.update_of_ne fun equal => same (Owner.server.inj equal), DisplayHost.holds,
            samePhase, sameStopped]
          rfl
    | other program =>
        rw [Function.update_of_ne (fun equal => by cases equal)]
        rfl
  unfold Sound
  rw [holds]
  exact sound.move moves.spares moves.right

/-! ## Every move spares the others -/

theorem spares_portsClosed (bound : DisplaySocket → Option Owner) (owner : Owner) :
    Spares owner bound (portsClosed bound owner) := by
  intro socket other foreign taken
  have kept : bound socket ≠ some owner := by
    rw [taken]
    exact fun same => foreign (Option.some.inj same)
  cases socket with
  | file display => exact taken
  | v4 display => exact (if_neg kept).trans taken
  | v6 display => exact (if_neg kept).trans taken

theorem sockets_nextDisplay (ipv6 : Bool) (display : Nat) :
    (nextDisplay display).sockets ipv6 = [] := by
  unfold nextDisplay
  split
  · rfl
  · rfl

/-- The sockets of the phase a server is in. -/
theorem Sound.own (sound : host.Sound config) {phase : DisplayPhase} (here : host.phases id = phase)
    {socket : DisplaySocket} (member : socket ∈ phase.sockets config.ipv6)
    (accepting : socket ∉ host.stopped id) : host.bound socket = some (.server id) := by
  apply sound (.server id) socket
  rw [mem_holds, here]
  exact ⟨member, accepting⟩

/-- A phase that has nothing. -/
theorem moves_empty {phase : DisplayPhase} (spares : Spares (.server id) host.bound next.bound)
    (phases : next.phases = Function.update host.phases id phase)
    (stopped : next.stopped = host.stopped) (empty : phase.sockets config.ipv6 = []) :
    Moves config host id next := by
  apply Moves.of_phase spares phases stopped
  rw [empty]
  exact List.forall_mem_nil _

/-- A phase with sockets of the phase before it. -/
theorem Sound.moves_on (sound : host.Sound config) {before phase : DisplayPhase}
    (here : host.phases id = before) (bound : next.bound = host.bound)
    (phases : next.phases = Function.update host.phases id phase)
    (stopped : next.stopped = host.stopped)
    (fewer : ∀ socket ∈ phase.sockets config.ipv6, socket ∈ before.sockets config.ipv6) :
    Moves config host id next := by
  apply Moves.of_phase (bound ▸ spares_refl) phases stopped
  intro socket member accepting
  rw [bound]
  exact sound.own here (fewer socket member) accepting

/-- A phase with one socket more. -/
theorem Sound.moves_bind (sound : host.Sound config) {before phase : DisplayPhase}
    {added : DisplaySocket} (here : host.phases id = before) (free : host.bound added = none)
    (more : ∀ socket ∈ phase.sockets config.ipv6,
      socket = added ∨ socket ∈ before.sockets config.ipv6) :
    Moves config host id ((host.bind added id).setPhase id phase) := by
  refine Moves.of_phase (spares_take free _) rfl rfl ?_
  intro socket member accepting
  show Function.update host.bound added _ socket = _
  by_cases same : socket = added
  · rw [same, Function.update_self]
  · rw [Function.update_of_ne same]
    exact sound.own here ((more socket member).resolve_left same) accepting

theorem moves_probe (stepped : host.probe id = some next) : Moves config host id next := by
  rcases probe_cases stepped with ⟨display, -, rfl | rfl⟩
  · exact moves_empty spares_refl rfl rfl (sockets_nextDisplay _ _)
  · exact moves_empty spares_refl rfl rfl rfl

theorem Sound.bindV4 {usable : Bool} (sound : host.Sound config)
    (stepped : host.bindV4 id usable = some next) : Moves config host id next := by
  rcases bindV4_cases stepped with ⟨display, here, ⟨free, rfl⟩ | rfl⟩
  · exact sound.moves_bind here free fun socket member => Or.inl (List.mem_singleton.mp member)
  · exact moves_empty spares_refl rfl rfl (sockets_nextDisplay _ _)

theorem Sound.bindV6 {usable : Bool} (sound : host.Sound config)
    (stepped : host.bindV6 config id usable = some next) : Moves config host id next := by
  rcases bindV6_cases stepped with ⟨display, here, ⟨enabled, free, rfl⟩ | rfl | ⟨disabled, rfl⟩⟩
  · apply sound.moves_bind here free
    intro socket member
    simp only [DisplayPhase.sockets, DisplayPhase.listeners, enabled, if_true] at member ⊢
    rcases List.mem_cons.mp member with first | second
    · exact Or.inr (List.mem_singleton.mpr first)
    · exact Or.inl (List.mem_singleton.mp second)
  · exact moves_empty (spares_portsClosed _ _) rfl rfl (sockets_nextDisplay _ _)
  · refine sound.moves_on here rfl rfl rfl ?_
    intro socket member
    simp only [DisplayPhase.sockets, DisplayPhase.listeners, disabled] at member ⊢
    exact member

theorem Sound.bindUnix {usable : Bool} (sound : host.Sound config)
    (stepped : host.bindUnix config id usable = some next) : Moves config host id next := by
  rcases bindUnix_cases stepped with ⟨display, here, ⟨free, rfl⟩ | rfl | rfl⟩
  · apply sound.moves_bind here free
    intro socket member
    rcases List.mem_append.mp member with port | file
    · exact Or.inr port
    · exact Or.inl (List.mem_singleton.mp file)
  · exact moves_empty (spares_portsClosed _ _) rfl rfl (sockets_nextDisplay _ _)
  · refine sound.moves_on here rfl rfl rfl ?_
    intro socket member
    rcases List.mem_append.mp member with port | file
    · exact port
    · contradiction

/-- The command of a phase is behind it: the server has no socket it had not
before. -/
theorem sockets_afterXauth (ipv6 success : Bool) {phase : DisplayPhase} {call : XauthCall}
    (calls : xauthCall? config id phase = some call) :
    ∀ socket ∈ (afterXauth success phase).sockets ipv6, socket ∈ phase.sockets ipv6 := by
  intro socket member
  cases phase with
  | addingUnixEntry display unix => cases success <;> exact member
  | addingTcpEntry display unix => cases success <;> exact member
  | cleaning display unix listening stage =>
      cases stage with
      | removeFile => cases calls
      | removeUnixEntry => exact member
      | removeTcpEntry =>
          cases listening with
          | true => exact member
          | false => cases member
  | _ => cases calls

theorem Sound.startXauth (sound : host.Sound config)
    (stepped : host.startXauth config id = some next) : Moves config host id next := by
  rcases startXauth_cases stepped with ⟨call, -, -, rfl⟩
  exact ⟨spares_refl, fun _ _ => ⟨rfl, rfl⟩, fun _ => Or.inl,
    fun socket member => sound (.server id) socket member⟩

theorem Sound.failXauth (sound : host.Sound config)
    (stepped : host.failXauth config id = some next) : Moves config host id next := by
  rcases failXauth_cases stepped with ⟨⟨call, makes⟩, -, rfl⟩
  exact sound.moves_on rfl rfl rfl rfl (sockets_afterXauth config.ipv6 false makes)

theorem Sound.endXauth {success : Bool} (sound : host.Sound config)
    (stepped : host.endXauth config id success = some next) : Moves config host id next := by
  rcases endXauth_cases stepped with ⟨⟨call, makes⟩, -, rfl⟩
  exact sound.moves_on rfl rfl rfl rfl (sockets_afterXauth config.ipv6 success makes)

theorem Sound.withdraw (sound : host.Sound config) (stepped : host.withdraw id = some next) :
    Moves config host id next := by
  rcases withdraw_cases stepped with ⟨display, unix, here, rfl⟩
  refine Moves.of_phase (spares_portsClosed _ _) rfl rfl ?_
  intro socket member accepting
  cases unix with
  | true =>
      rw [List.mem_singleton.mp member] at accepting ⊢
      exact sound.own here (List.mem_append_right _ List.mem_cons_self) accepting
  | false => contradiction

theorem Sound.endSession (sound : host.Sound config) (stepped : host.endSession id = some next) :
    Moves config host id next := by
  rcases endSession_cases stepped with ⟨display, unix, here, rfl⟩ | ⟨-, rfl⟩
  · exact sound.moves_on here rfl rfl rfl fun _ member => member
  · exact moves_empty spares_refl rfl rfl rfl

/-- Only ports are given up by an accept loop. -/
def PortsStopped (host : DisplayHost) : Prop :=
  ∀ id display, DisplaySocket.file display ∉ host.stopped id

/-- The file that is removed is the server's own. -/
theorem Sound.removeFile (sound : host.Sound config) (ports : host.PortsStopped)
    (stepped : host.removeFile id = some next) : Moves config host id next := by
  rcases removeFile_cases stepped with ⟨display, unix, listening, here, rfl⟩
  cases unix with
  | true =>
      have own : host.bound (.file display) = some (.server id) :=
        sound.own here (List.mem_append_right _ List.mem_cons_self) (ports id display)
      refine Moves.of_phase (spares_release own none) rfl rfl ?_
      intro socket member accepting
      have port : socket ≠ .file display := by
        rintro rfl
        cases listening with
        | true => exact DisplayPhase.file_notMem_listeners _ _ _ member
        | false => contradiction
      show Function.update host.bound (.file display) none socket = _
      rw [Function.update_of_ne port]
      exact sound.own here (List.mem_append_left _ member) accepting
  | false =>
      exact sound.moves_on here rfl rfl rfl fun _ member => List.mem_append_left _ member

theorem Sound.stopAccepting {socket : DisplaySocket} (sound : host.Sound config)
    (stepped : host.stopAccepting id socket = some next) : Moves config host id next := by
  rcases stopAccepting_cases stepped with ⟨port, own, rfl⟩
  refine ⟨spares_release own none, ?_, ?_, ?_⟩
  · intro other different
    exact ⟨rfl, Function.update_of_ne different _ _⟩
  · intro place member
    dsimp only at member
    rw [Function.update_self] at member
    rcases List.mem_cons.mp member with rfl | before
    · exact Or.inr port
    · exact Or.inl before
  · intro place member
    rcases mem_holds.mp member with ⟨inPhase, accepting⟩
    dsimp only at accepting
    rw [Function.update_self, List.mem_cons, not_or] at accepting
    show Function.update host.bound socket none place = _
    rw [Function.update_of_ne accepting.1]
    exact sound (.server id) place (mem_holds.mpr ⟨inPhase, accepting.2⟩)

theorem moves_exit (stepped : host.exit id = some next) : Moves config host id next := by
  rcases exit_cases stepped with ⟨display, -, rfl⟩
  exact moves_empty (spares_portsClosed _ _) rfl rfl rfl

/-- **A move of one server leaves every socket and file of everybody else as it
is, and its own account of what it has stays right.** -/
theorem Sound.move {move : ServerMove} (sound : host.Sound config) (ports : host.PortsStopped)
    (stepped : host.move config id move = some next) : Moves config host id next := by
  cases move with
  | probe => exact moves_probe stepped
  | bindV4 usable => exact sound.bindV4 stepped
  | bindV6 usable => exact sound.bindV6 stepped
  | bindUnix usable => exact sound.bindUnix stepped
  | startXauth => exact sound.startXauth stepped
  | failXauth => exact sound.failXauth stepped
  | endXauth success => exact sound.endXauth stepped
  | withdraw => exact sound.withdraw stepped
  | endSession => exact sound.endSession stepped
  | removeFile => exact sound.removeFile ports stepped
  | stopAccepting socket => exact sound.stopAccepting stepped
  | exit => exact moves_exit stepped
  | kill =>
      cases stepped
      exact moves_empty (spares_portsClosed _ _) rfl rfl rfl

/-- Other programs leave the servers that run alone. -/
theorem Sound.otherSocket {socket : DisplaySocket} {program : Option Nat}
    (sound : host.Sound config) (stepped : host.otherSocket socket program = some next) :
    next.Sound config := by
  unfold DisplayHost.otherSocket at stepped
  split at stepped
  · rename_i foreign
    cases stepped
    intro owner place member
    cases owner with
    | other id => contradiction
    | server id =>
        have owned := sound (.server id) place member
        have different : place ≠ socket := by
          rintro rfl
          rw [Foreign, owned] at foreign
          have gone : host.phases id = .gone := by simpa using foreign
          rw [mem_holds, gone] at member
          exact List.not_mem_nil member.1
        show Function.update host.bound socket _ place = _
        rw [Function.update_of_ne different]
        exact owned
  · contradiction

/-- The sockets of the servers, over every run. -/
structure Housed (config : DisplayConfig) (host : DisplayHost) : Prop where
  sound : host.Sound config
  ports : host.PortsStopped

theorem housed_start (host : DisplayHost) : host.start.Housed config where
  sound := sound_start host
  ports := fun _ _ => List.not_mem_nil

theorem Housed.step {action : DisplayAction} (housed : host.Housed config)
    (stepped : host.step config action = some next) : next.Housed config := by
  cases action with
  | server id move =>
      have moves := housed.sound.move housed.ports stepped
      refine ⟨housed.sound.of_moves moves, ?_⟩
      intro other display member
      by_cases same : other = id
      · subst same
        rcases moves.stops _ member with before | ⟨_, port | port⟩
        · exact housed.ports other display before
        · cases port
        · cases port
      · rw [(moves.others other same).2] at member
        exact housed.ports other display member
  | xauthWrites index =>
      rcases xauthWrites_cases stepped with ⟨call, -, -, rfl⟩
      exact ⟨housed.sound, housed.ports⟩
  | otherSocket socket program =>
      have sound := housed.sound.otherSocket stepped
      have result := otherSocket_cases stepped
      subst result
      exact ⟨sound, housed.ports⟩
  | otherEntry user entry cookie =>
      rcases otherEntry_cases stepped with ⟨-, rfl⟩
      exact ⟨housed.sound, housed.ports⟩

end DisplayHost

end Etr.X11
