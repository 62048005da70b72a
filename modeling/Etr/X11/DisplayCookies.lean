import Etr.X11.DisplayBinding

/-!
Contract: the displays and the cookies of concurrent sessions.

Owns what the entries of a server's display hold while other servers, the
`xauth` commands of all of them and other programs go on, the condition under
which they stay the server's own, and the result about a host's displays.

Does not own the sockets, nor the check of a client's cookie.
-/

namespace Etr.X11

open Etr.Library

namespace DisplayPhase

/-- The server waits for `xauth add`. -/
def Adds : DisplayPhase → Bool
  | .addingUnixEntry _ _ | .addingTcpEntry _ _ => true
  | _ => false

/-- The server has not given its display up for want of `xauth`. -/
def Orderly : DisplayPhase → Prop
  | .withdrawing _ _ => False
  | .cleaning _ _ listening _ => listening = true
  | _ => True

/-- The entries the server has set. -/
def entriesOf : DisplayPhase → List XauthEntry
  | .addingTcpEntry display _ => [.unix display]
  | .serving display _ => [.unix display, .tcp display]
  | _ => []

theorem v4_of_mem_entriesOf {phase : DisplayPhase} {entry : XauthEntry} (ipv6 : Bool)
    (set : entry ∈ phase.entriesOf) : .v4 entry.display ∈ phase.sockets ipv6 := by
  cases phase with
  | addingTcpEntry display unix =>
      rw [List.mem_singleton.mp set]
      exact List.mem_cons_self
  | serving display unix =>
      rcases List.mem_cons.mp set with rfl | second
      · exact List.mem_cons_self
      · rw [List.mem_singleton.mp second]
        exact List.mem_cons_self
  | _ => contradiction

end DisplayPhase

namespace DisplayHost

variable {config : DisplayConfig} {host next final : DisplayHost} {id : Nat}
  {actions : List DisplayAction}

/-! ## The commands -/

/-- A server starts commands of its own. -/
theorem own_of_xauthCall {phase : DisplayPhase} {call : XauthCall}
    (makes : xauthCall? config id phase = some call) :
    call.server = id ∧ call.user = config.user id ∧ call.written = false := by
  cases phase with
  | addingUnixEntry display unix =>
      cases makes
      exact ⟨rfl, rfl, rfl⟩
  | addingTcpEntry display unix =>
      cases makes
      exact ⟨rfl, rfl, rfl⟩
  | cleaning display unix listening stage =>
      cases stage with
      | removeFile => contradiction
      | removeUnixEntry =>
          cases makes
          exact ⟨rfl, rfl, rfl⟩
      | removeTcpEntry =>
          cases makes
          exact ⟨rfl, rfl, rfl⟩
  | _ => contradiction

/-- A command is about a display whose port its server has. -/
theorem v4_of_xauthCall {phase : DisplayPhase} {call : XauthCall} (ipv6 : Bool)
    (orderly : phase.Orderly) (makes : xauthCall? config id phase = some call) :
    .v4 call.entry.display ∈ phase.sockets ipv6 := by
  cases phase with
  | addingUnixEntry display unix =>
      cases makes
      exact List.mem_cons_self
  | addingTcpEntry display unix =>
      cases makes
      exact List.mem_cons_self
  | cleaning display unix listening stage =>
      obtain rfl : listening = true := orderly
      cases stage with
      | removeFile => contradiction
      | removeUnixEntry =>
          cases makes
          exact List.mem_cons_self
      | removeTcpEntry =>
          cases makes
          exact List.mem_cons_self
  | _ => contradiction

/-- A server does not run commands about the entries it has set. -/
theorem entry_notMem_of_xauthCall {phase : DisplayPhase} {call : XauthCall}
    (makes : xauthCall? config id phase = some call) : call.entry ∉ phase.entriesOf := by
  cases phase with
  | addingTcpEntry display unix =>
      cases makes
      simp [DisplayPhase.entriesOf]
  | serving display unix => contradiction
  | _ => exact List.not_mem_nil

theorem orderly_afterXauth {phase : DisplayPhase} {success : Bool} (orderly : phase.Orderly)
    (works : phase.Adds = true → success = true) : (afterXauth success phase).Orderly := by
  cases phase with
  | addingUnixEntry display unix =>
      rw [works rfl]
      trivial
  | addingTcpEntry display unix =>
      rw [works rfl]
      trivial
  | cleaning display unix listening stage =>
      obtain rfl : listening = true := orderly
      cases stage <;> trivial
  | _ => exact orderly

/-- A command that succeeded adds its own entry to those that are set. -/
theorem entriesOf_afterXauth {phase : DisplayPhase} {call : XauthCall} {success : Bool}
    {entry : XauthEntry} (makes : xauthCall? config id phase = some call)
    (set : entry ∈ (afterXauth success phase).entriesOf) :
    entry ∈ phase.entriesOf ∨
      (success = true ∧ entry = call.entry ∧ call.cookie = some (config.fakeCookie id)) := by
  cases phase with
  | addingUnixEntry display unix =>
      cases makes
      cases success with
      | true => exact Or.inr ⟨rfl, List.mem_singleton.mp set, rfl⟩
      | false => contradiction
  | addingTcpEntry display unix =>
      cases makes
      cases success with
      | true =>
          rcases List.mem_cons.mp set with rfl | second
          · exact Or.inl List.mem_cons_self
          · exact Or.inr ⟨rfl, List.mem_singleton.mp second, rfl⟩
      | false => contradiction
  | cleaning display unix listening stage =>
      cases stage with
      | removeFile => contradiction
      | removeUnixEntry => contradiction
      | removeTcpEntry => cases listening <;> contradiction
  | _ => contradiction

/-! ## Cookies that stay -/

/-- Nothing lets go of a display while its entries are still to be written: no
`xauth add` fails, no server is killed while it waits for `xauth`, and no accept
loop of an IPv4 port ends. -/
def Undisturbed (host : DisplayHost) : DisplayAction → Prop
  | .server id .failXauth | .server id (.endXauth false) => (host.phases id).Adds = false
  | .server id .kill => host.Awaits id = false
  | .server _ (.stopAccepting (.v4 _)) => False
  | _ => True

instance (host : DisplayHost) : DecidablePred (Undisturbed host) := fun action => by
  unfold Undisturbed
  split <;> infer_instance

/-- Every cookie a server has set for its display is still there. -/
structure Kept (config : DisplayConfig) (host : DisplayHost) : Prop where
  housed : host.Housed config
  orderly : ∀ id, (host.phases id).Orderly
  accepting : ∀ id display, DisplaySocket.v4 display ∉ host.stopped id
  /-- A command is that of its server's phase. -/
  called : ∀ call ∈ host.calls,
    xauthCall? config call.server (host.phases call.server) = some { call with written := false }
  written : ∀ call ∈ host.calls, call.written = true →
    host.entries (call.user, call.entry) = call.cookie
  entries : ∀ id, ∀ entry ∈ (host.phases id).entriesOf,
    host.entries (config.user id, entry) = some (config.fakeCookie id)

theorem kept_start (host : DisplayHost) : host.start.Kept config where
  housed := housed_start host
  orderly := fun _ => trivial
  accepting := fun _ _ => List.not_mem_nil
  called := fun _ => nofun
  written := fun _ => nofun
  entries := fun _ _ => nofun

namespace Kept

/-- One server has the port of a display. -/
theorem same_server {first second display : Nat} (kept : host.Kept config)
    (firstHas : .v4 display ∈ (host.phases first).sockets config.ipv6)
    (secondHas : .v4 display ∈ (host.phases second).sockets config.ipv6) : first = second := by
  have firstHolds := mem_holds.mpr ⟨firstHas, kept.accepting first display⟩
  have secondHolds := mem_holds.mpr ⟨secondHas, kept.accepting second display⟩
  exact Owner.server.inj (kept.housed.sound.exclusive firstHolds secondHolds)

theorem call_v4 {call : XauthCall} (kept : host.Kept config) (member : call ∈ host.calls) :
    .v4 call.entry.display ∈ (host.phases call.server).sockets config.ipv6 := by
  have has := v4_of_xauthCall config.ipv6 (kept.orderly call.server) (kept.called call member)
  exact has

/-- A command of another server. -/
theorem not_calling {call : XauthCall} (kept : host.Kept config)
    (idle : xauthCall? config id (host.phases id) = none) (member : call ∈ host.calls) :
    call.server ≠ id := by
  rintro rfl
  rw [kept.called call member] at idle
  contradiction

/-- A server goes on, and none of its commands runs. -/
theorem moves_on {phase : DisplayPhase} (kept : host.Kept config) (housed : next.Housed config)
    (phases : next.phases = Function.update host.phases id phase)
    (calls : next.calls = host.calls.filter fun call => call.server != id)
    (entries : next.entries = host.entries) (stopped : next.stopped = host.stopped)
    (orderly : phase.Orderly)
    (set : ∀ entry ∈ phase.entriesOf,
      host.entries (config.user id, entry) = some (config.fakeCookie id)) :
    next.Kept config := by
  have here : next.phases id = phase := by rw [phases, Function.update_self]
  have same : ∀ other, other ≠ id → next.phases other = host.phases other := by
    intro other different
    rw [phases, Function.update_of_ne different]
  refine ⟨housed, ?_, ?_, ?_, ?_, ?_⟩
  · intro other
    by_cases own : other = id
    · rw [own, here]
      exact orderly
    · rw [same other own]
      exact kept.orderly other
  · rw [stopped]
    exact kept.accepting
  · intro call member
    rw [calls, List.mem_filter, bne_iff_ne] at member
    rw [same call.server member.2]
    exact kept.called call member.1
  · intro call member
    rw [calls, List.mem_filter] at member
    rw [entries]
    exact kept.written call member.1
  · intro other entry member
    rw [entries]
    by_cases own : other = id
    · rw [own, here] at member
      rw [own]
      exact set entry member
    · rw [same other own] at member
      exact kept.entries other entry member

/-- A server that runs no command goes on. -/
theorem rests {phase : DisplayPhase} (kept : host.Kept config) (housed : next.Housed config)
    (idle : ∀ call ∈ host.calls, call.server ≠ id)
    (phases : next.phases = Function.update host.phases id phase)
    (calls : next.calls = host.calls) (entries : next.entries = host.entries)
    (stopped : next.stopped = host.stopped) (orderly : phase.Orderly)
    (set : ∀ entry ∈ phase.entriesOf,
      host.entries (config.user id, entry) = some (config.fakeCookie id)) :
    next.Kept config := by
  refine kept.moves_on housed phases ?_ entries stopped orderly set
  rw [calls, List.filter_eq_self.mpr]
  intro call member
  exact bne_iff_ne.mpr (idle call member)

/-- A server whose phase has no command goes on to one without entries. -/
theorem settles {before phase : DisplayPhase} (kept : host.Kept config)
    (housed : next.Housed config) (here : host.phases id = before)
    (phases : next.phases = Function.update host.phases id phase)
    (idle : xauthCall? config id before = none)
    (calls : next.calls = host.calls) (entries : next.entries = host.entries)
    (stopped : next.stopped = host.stopped) (orderly : phase.Orderly)
    (unset : phase.entriesOf = []) : next.Kept config := by
  have quiet : xauthCall? config id (host.phases id) = none := by rw [here, idle]
  apply kept.rests housed (fun _ => kept.not_calling quiet) phases calls entries stopped orderly
  rw [unset]
  exact List.forall_mem_nil _

theorem nextDisplay_unset (display : Nat) :
    (nextDisplay display).Orderly ∧ (nextDisplay display).entriesOf = [] := by
  unfold nextDisplay
  split
  · exact ⟨trivial, rfl⟩
  · exact ⟨trivial, rfl⟩

/-- A server without a command tries the next display. -/
theorem tries_next {before : DisplayPhase} {display : Nat} (kept : host.Kept config)
    (housed : next.Housed config) (here : host.phases id = before)
    (phases : next.phases = Function.update host.phases id (nextDisplay display))
    (idle : xauthCall? config id before = none) (calls : next.calls = host.calls)
    (entries : next.entries = host.entries) (stopped : next.stopped = host.stopped) :
    next.Kept config :=
  kept.settles housed here phases idle calls entries stopped (nextDisplay_unset display).1
    (nextDisplay_unset display).2

theorem idle_of_not_awaits (idle : host.Awaits id = false) :
    ∀ call ∈ host.calls, call.server ≠ id := by
  intro call member
  have other := List.any_eq_false.mp idle call member
  simpa using other

theorem startXauth (kept : host.Kept config) (housed : next.Housed config)
    (stepped : host.startXauth config id = some next) : next.Kept config := by
  rcases startXauth_cases stepped with ⟨⟨server, user, entry, cookie, written⟩, makes, -, rfl⟩
  obtain ⟨rfl, -, rfl⟩ := own_of_xauthCall makes
  refine ⟨housed, kept.orderly, kept.accepting, ?_, ?_, kept.entries⟩
  · intro call member
    rcases List.mem_append.mp member with before | added
    · exact kept.called call before
    · rw [List.mem_singleton.mp added]
      exact makes
  · intro call member done
    rcases List.mem_append.mp member with before | added
    · exact kept.written call before done
    · rw [List.mem_singleton.mp added] at done
      contradiction

theorem failXauth (kept : host.Kept config) (housed : next.Housed config)
    (undisturbed : host.Undisturbed (.server id .failXauth))
    (stepped : host.failXauth config id = some next) : next.Kept config := by
  rcases failXauth_cases stepped with ⟨⟨call, makes⟩, idle, rfl⟩
  refine kept.rests housed (idle_of_not_awaits idle) rfl rfl rfl rfl ?_ ?_
  · apply orderly_afterXauth (kept.orderly id)
    intro adds
    exact absurd adds (Bool.eq_false_iff.mp undisturbed)
  · intro entry set
    rcases entriesOf_afterXauth makes set with before | ⟨succeeded, -⟩
    · exact kept.entries id entry before
    · contradiction

theorem endXauth {success : Bool} (kept : host.Kept config) (housed : next.Housed config)
    (undisturbed : host.Undisturbed (.server id (.endXauth success)))
    (stepped : host.endXauth config id success = some next) : next.Kept config := by
  rcases endXauth_cases stepped with ⟨⟨call, makes⟩, ⟨running, member, own, done⟩, rfl⟩
  have works : (host.phases id).Adds = true → success = true := by
    intro adds
    cases success with
    | true => rfl
    | false => exact absurd adds (Bool.eq_false_iff.mp undisturbed)
  refine kept.moves_on housed rfl rfl rfl rfl (orderly_afterXauth (kept.orderly id) works) ?_
  intro entry set
  rcases entriesOf_afterXauth makes set with before | ⟨succeeded, rfl, cookie⟩
  · exact kept.entries id entry before
  · have called := kept.called running member
    rw [own, makes, Option.some.injEq] at called
    have written := kept.written running member (done succeeded)
    subst called
    rw [← cookie, ← written, (own_of_xauthCall makes).2.1]

/-- Two commands about one entry have one server, and so put the same into it. -/
theorem same_cookie {first second : XauthCall} (kept : host.Kept config)
    (firstRuns : first ∈ host.calls) (secondRuns : second ∈ host.calls)
    (same : first.entry = second.entry) : first.cookie = second.cookie := by
  have firstHas := kept.call_v4 firstRuns
  have secondHas := kept.call_v4 secondRuns
  rw [← same] at secondHas
  have firstCalled := kept.called first firstRuns
  have secondCalled := kept.called second secondRuns
  rw [kept.same_server firstHas secondHas, secondCalled] at firstCalled
  exact (XauthCall.mk.inj (Option.some.inj firstCalled)).2.2.2.1.symm

/-- A command writes about the display of its own server only. -/
theorem xauthWrites {index : Nat} (kept : host.Kept config) (housed : next.Housed config)
    (stepped : host.xauthWrites index = some next) : next.Kept config := by
  rcases xauthWrites_cases stepped with ⟨writer, found, -, rfl⟩
  have running : writer ∈ host.calls := List.mem_of_getElem? found
  refine ⟨housed, kept.orderly, kept.accepting, ?_, ?_, ?_⟩
  · intro call member
    rcases List.mem_or_eq_of_mem_set member with before | rfl
    · exact kept.called call before
    · exact kept.called writer running
  · intro call member done
    rcases List.mem_or_eq_of_mem_set member with before | rfl
    · by_cases same : (call.user, call.entry) = (writer.user, writer.entry)
      · dsimp only
        rw [same, Function.update_self]
        exact (kept.same_cookie before running (Prod.mk.inj same).2).symm
      · exact (Function.update_of_ne same _ _).trans (kept.written call before done)
    · exact Function.update_self _ _ _
  · intro id entry set
    have different : (config.user id, entry) ≠ (writer.user, writer.entry) := by
      intro same
      obtain rfl : entry = writer.entry := (Prod.mk.inj same).2
      have has := DisplayPhase.v4_of_mem_entriesOf config.ipv6 set
      rw [kept.same_server has (kept.call_v4 running)] at set
      exact entry_notMem_of_xauthCall (kept.called writer running) set
    exact (Function.update_of_ne different _ _).trans (kept.entries id entry set)

theorem stopAccepting {socket : DisplaySocket} (kept : host.Kept config)
    (housed : next.Housed config)
    (undisturbed : host.Undisturbed (.server id (.stopAccepting socket)))
    (stepped : host.stopAccepting id socket = some next) : next.Kept config := by
  rcases stopAccepting_cases stepped with ⟨-, -, rfl⟩
  refine ⟨housed, kept.orderly, ?_, kept.called, kept.written, kept.entries⟩
  intro other display member
  dsimp only at member
  by_cases own : other = id
  · rw [own, Function.update_self] at member
    rcases List.mem_cons.mp member with rfl | before
    · exact undisturbed
    · exact kept.accepting id display before
  · rw [Function.update_of_ne own] at member
    exact kept.accepting other display member

theorem move {move : ServerMove} (kept : host.Kept config) (housed : next.Housed config)
    (undisturbed : host.Undisturbed (.server id move))
    (stepped : host.move config id move = some next) : next.Kept config := by
  cases move with
  | probe =>
      rcases probe_cases stepped with ⟨display, here, rfl | rfl⟩
      · exact kept.tries_next housed here rfl rfl rfl rfl rfl
      · exact kept.settles housed here rfl rfl rfl rfl rfl trivial rfl
  | bindV4 usable =>
      rcases bindV4_cases stepped with ⟨display, here, ⟨-, rfl⟩ | rfl⟩
      · exact kept.settles housed here rfl rfl rfl rfl rfl trivial rfl
      · exact kept.tries_next housed here rfl rfl rfl rfl rfl
  | bindV6 usable =>
      rcases bindV6_cases stepped with ⟨display, here, ⟨-, -, rfl⟩ | rfl | ⟨-, rfl⟩⟩
      · exact kept.settles housed here rfl rfl rfl rfl rfl trivial rfl
      · exact kept.tries_next housed here rfl rfl rfl rfl rfl
      · exact kept.settles housed here rfl rfl rfl rfl rfl trivial rfl
  | bindUnix usable =>
      rcases bindUnix_cases stepped with ⟨display, here, ⟨-, rfl⟩ | rfl | rfl⟩
      · exact kept.settles housed here rfl rfl rfl rfl rfl trivial rfl
      · exact kept.tries_next housed here rfl rfl rfl rfl rfl
      · exact kept.settles housed here rfl rfl rfl rfl rfl trivial rfl
  | startXauth => exact kept.startXauth housed stepped
  | failXauth => exact kept.failXauth housed undisturbed stepped
  | endXauth success => exact kept.endXauth housed undisturbed stepped
  | withdraw =>
      rcases withdraw_cases stepped with ⟨display, unix, here, -⟩
      have orderly := kept.orderly id
      rw [here] at orderly
      contradiction
  | endSession =>
      rcases endSession_cases stepped with ⟨display, unix, here, rfl⟩ | ⟨here, rfl⟩
      · exact kept.settles housed here rfl rfl rfl rfl rfl rfl rfl
      · exact kept.settles housed here rfl rfl rfl rfl rfl trivial rfl
  | removeFile =>
      rcases removeFile_cases stepped with ⟨display, unix, listening, here, rfl⟩
      have orderly := kept.orderly id
      rw [here] at orderly
      exact kept.settles housed here rfl rfl rfl rfl rfl orderly rfl
  | stopAccepting socket => exact kept.stopAccepting housed undisturbed stepped
  | exit =>
      rcases exit_cases stepped with ⟨display, here, rfl⟩
      exact kept.settles housed here rfl rfl rfl rfl rfl trivial rfl
  | kill =>
      cases stepped
      exact kept.rests housed (idle_of_not_awaits undisturbed) rfl rfl rfl rfl trivial
        fun _ => nofun

/-- Another program writes about displays that no server has. -/
theorem otherEntry {user : Nat} {entry : XauthEntry} {cookie : Option (List UInt8)}
    (kept : host.Kept config) (housed : next.Housed config)
    (stepped : host.otherEntry user entry cookie = some next) : next.Kept config := by
  rcases otherEntry_cases stepped with ⟨⟨program, taken⟩, rfl⟩
  have elsewhere : ∀ id, .v4 entry.display ∉ (host.phases id).sockets config.ipv6 := by
    intro id has
    rw [kept.housed.sound.own rfl has (kept.accepting id entry.display)] at taken
    cases taken
  refine ⟨housed, kept.orderly, kept.accepting, kept.called, ?_, ?_⟩
  · intro call member done
    have different : (call.user, call.entry) ≠ (user, entry) := by
      intro same
      apply elsewhere call.server
      rw [← (Prod.mk.inj same).2]
      exact kept.call_v4 member
    exact (Function.update_of_ne different _ _).trans (kept.written call member done)
  · intro id other set
    have different : (config.user id, other) ≠ (user, entry) := by
      intro same
      apply elsewhere id
      rw [← (Prod.mk.inj same).2]
      exact DisplayPhase.v4_of_mem_entriesOf config.ipv6 set
    exact (Function.update_of_ne different _ _).trans (kept.entries id other set)

theorem step {action : DisplayAction} (kept : host.Kept config)
    (undisturbed : host.Undisturbed action)
    (stepped : host.step config action = some next) : next.Kept config := by
  have housed := kept.housed.step stepped
  cases action with
  | server id move => exact kept.move housed undisturbed stepped
  | xauthWrites index => exact kept.xauthWrites housed stepped
  | otherSocket socket program =>
      have result := otherSocket_cases stepped
      subst result
      exact ⟨housed, kept.orderly, kept.accepting, kept.called, kept.written, kept.entries⟩
  | otherEntry user entry cookie => exact kept.otherEntry housed stepped

end Kept

/-! ## A display belongs to one session -/

/-- **The displays of the sessions of a host.** In every interleaving of servers
that start, fail, lose an accept loop, end and are killed, of `xauth` commands
that outlive them, and of other programs: a session that serves a display has
its ports, but those whose accept loop has ended, and its socket file; two
sessions serve one display only where an accept loop has ended; and a move of
one server leaves the sockets of everybody else as they are, also where it
removes a file. In an undisturbed run the cookies in the authority file are those
of the session. -/
theorem displays_exclusive
    (executed : run (step config) host.start actions = some final) :
    (∀ id display unix, final.phases id = .serving display unix →
        ∀ socket ∈ DisplayPhase.listeners config.ipv6 display ++
          DisplayPhase.socketFile display unix,
          final.bound socket = some (.server id) ∨
            socket ∈ final.stopped id ∧ socket ≠ .file display) ∧
      (∀ first second display firstUnix secondUnix,
        final.phases first = .serving display firstUnix →
          final.phases second = .serving display secondUnix → first ≠ second →
            .v4 display ∈ final.stopped first ∨ .v4 display ∈ final.stopped second) ∧
      (∀ id move next, final.move config id move = some next →
        Spares (.server id) final.bound next.bound) ∧
      (Along (step config) Undisturbed host.start actions →
        ∀ id display unix, final.phases id = .serving display unix →
          final.entries (config.user id, .unix display) = some (config.fakeCookie id) ∧
            final.entries (config.user id, .tcp display) = some (config.fakeCookie id)) := by
  have housed : final.Housed config :=
    run_invariant (fun housed stepped => Housed.step housed stepped) (housed_start host) executed
  refine ⟨?_, ?_, fun id move next stepped => (housed.sound.move housed.ports stepped).spares, ?_⟩
  · intro id display unix serving socket member
    by_cases accepting : socket ∈ final.stopped id
    · refine Or.inr ⟨accepting, ?_⟩
      rintro rfl
      exact housed.ports id display accepting
    · exact Or.inl (housed.sound.own serving member accepting)
  · intro first second display firstUnix secondUnix firstServes secondServes different
    by_contra accepting
    rw [not_or] at accepting
    have firstHolds : .v4 display ∈ final.holds config (.server first) :=
      mem_holds.mpr ⟨by rw [firstServes]; exact List.mem_cons_self, accepting.1⟩
    have secondHolds : .v4 display ∈ final.holds config (.server second) :=
      mem_holds.mpr ⟨by rw [secondServes]; exact List.mem_cons_self, accepting.2⟩
    exact different (Owner.server.inj (housed.sound.exclusive firstHolds secondHolds))
  · intro undisturbed id display unix serving
    have kept : final.Kept config :=
      run_invariant_along (fun kept undisturbed stepped => Kept.step kept undisturbed stepped)
        (kept_start host) undisturbed executed
    refine ⟨kept.entries id _ ?_, kept.entries id _ ?_⟩
    · rw [serving]
      exact List.mem_cons_self
    · rw [serving]
      exact List.mem_cons_of_mem _ List.mem_cons_self

/-- Nothing is bound. -/
def vacant : DisplayHost where
  bound := fun _ => none
  entries := fun _ => none
  calls := []
  phases := fun _ => .gone
  stopped := fun _ => []

/-- Two servers of one user. -/
def twoServers : DisplayConfig where
  ipv6 := true
  canUseUnixSocket := fun id => id == 0
  user := fun _ => 0
  fakeCookie := fun id => [UInt8.ofNat id]

/-- A server runs the command of its phase to its end. -/
def xauth (id : Nat) : List DisplayAction :=
  [.server id .startXauth, .xauthWrites 0, .server id (.endXauth true)]

/-- A server that nobody is in the way of binds a display. -/
def binds (id : Nat) : List DisplayAction :=
  [.server id .probe, .server id (.bindV4 true), .server id (.bindV6 true),
    .server id (.bindUnix true)]

/-- Both look at display 10 before the first has bound it. -/
def racing : List DisplayAction :=
  [.server 1 .probe] ++ binds 0 ++ [.server 1 (.bindV4 true)] ++ binds 1 ++ xauth 0 ++ xauth 1 ++
    xauth 0 ++ xauth 1

theorem racing_exclusive :
    ∃ final, run (step twoServers) vacant.start racing = some final ∧
      final.phases 0 = .serving 10 true ∧ final.phases 1 = .serving 11 false ∧
      final.bound (.file 10) = some (.server 0) ∧ final.bound (.v6 11) = some (.server 1) ∧
      final.entries (0, .unix 10) = some [0] ∧ final.entries (0, .tcp 11) = some [1] := by
  have served : (run (step twoServers) vacant.start racing).any (fun final =>
      decide (final.phases 0 = .serving 10 true ∧ final.phases 1 = .serving 11 false ∧
        final.stopped 0 = [] ∧ final.stopped 1 = [])) = true := by
    decide +kernel
  obtain ⟨final, executed, served⟩ := (Option.any_eq_true _ _).mp served
  obtain ⟨first, second, firstAccepts, secondAccepts⟩ := of_decide_eq_true served
  obtain ⟨sockets, -, -, cookies⟩ := displays_exclusive executed
  have undisturbed : Along (step twoServers) Undisturbed vacant.start racing := by
    decide +kernel
  have file := (sockets 0 10 true first (.file 10) (by decide)).resolve_right
    fun stopped => stopped.2 rfl
  have port := (sockets 1 11 false second (.v6 11) (by decide)).resolve_right
    fun stopped => by simp [secondAccepts] at stopped
  exact ⟨final, executed, first, second, file, port, (cookies undisturbed 0 10 true first).1,
    (cookies undisturbed 1 11 false second).2⟩

/-- Without socket files. -/
def portsOnly : DisplayConfig :=
  { twoServers with canUseUnixSocket := fun _ => false }

/-- A server whose `xauth` failed drops its listeners before it cleans up, and so
removes the entry of the session that has the display by then. -/
theorem withdrawal_removes_entry :
    (run (step portsOnly) vacant.start
        (binds 0 ++ [.server 0 .failXauth, .server 0 .withdraw] ++ binds 1 ++ xauth 1 ++ xauth 1 ++
          [.server 0 .removeFile] ++ xauth 0)).any (fun final =>
      decide (final.phases 1 = .serving 10 false ∧
        final.entries (0, .unix 10) = none)) = true := by
  decide +kernel

/-- A command of a killed server writes its cookie into the entry of the session
that has the display by then. -/
theorem orphan_overwrites_entry :
    (run (step portsOnly) vacant.start
        (binds 0 ++ [.server 0 .startXauth, .server 0 .kill] ++ binds 1 ++
          [.server 1 .startXauth, .xauthWrites 1, .server 1 (.endXauth true), .server 1 .startXauth,
            .xauthWrites 1, .server 1 (.endXauth true), .xauthWrites 0])).any (fun final =>
      decide (final.phases 1 = .serving 10 false ∧
        final.entries (0, .unix 10) = some (portsOnly.fakeCookie 0))) = true := by
  decide +kernel

/-- A display whose accept loops have ended is free for the next session. -/
theorem stopped_display_shared :
    (run (step portsOnly) vacant.start
        (binds 0 ++ xauth 0 ++ xauth 0 ++ [.server 0 (.stopAccepting (.v4 10)),
          .server 0 (.stopAccepting (.v6 10))] ++ binds 1 ++ xauth 1 ++ xauth 1)).any (fun final =>
      decide (final.phases 0 = .serving 10 false ∧ final.phases 1 = .serving 10 false)) = true := by
  decide +kernel

end DisplayHost

end Etr.X11
