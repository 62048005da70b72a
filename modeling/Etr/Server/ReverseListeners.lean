import Etr.Server.AcceptLoop
import Mathlib.Data.List.Nodup

/-!
Contract: the reverse forwards of a server, over all of its connections.

Owns the transition system of the set of started specifications, of the loop
over the specifications of an authenticated `SessionOpen`, and of the listeners
it spawns, with every outcome of their binds and accepts.

Does not own what a listener does with a connection.
-/

namespace Etr.Server

open Etr.Forward Etr.Library
open Etr.Protocol (SessionOpen)

/-- What became of an address that a listener was to bind. -/
inductive SocketFate where
  | unbound
  /-- Bound, with its accept loop to come or running. -/
  | listening
  /-- The bind failed. -/
  | refused
  /-- The accept loop ended. -/
  | stopped
deriving DecidableEq, Repr

/-- One address of a listener. -/
structure ReverseSocket where
  target : String
  fate : SocketFate
deriving DecidableEq, Repr

/-- `run_tcp_reverse_listener` or `run_udp_reverse_listener`, spawned for one
specification string. -/
structure ListenerTask where
  name : String
  spec : ForwardSpec
  sockets : List ReverseSocket
deriving DecidableEq, Repr

namespace ListenerTask

/-- All binds are ahead. -/
def spawn (name : String) (spec : ForwardSpec) (gateway : Bool) : ListenerTask where
  name := name
  spec := spec
  sockets := (spec.getBindAddresses gateway).map fun address =>
    ⟨address ++ ":" ++ toString spec.localPort.toNat, .unbound⟩

/-- It is running or being started. -/
def Alive (listener : ListenerTask) : Prop :=
  ∃ socket ∈ listener.sockets, socket.fate = .unbound ∨ socket.fate = .listening

instance (listener : ListenerTask) : Decidable listener.Alive :=
  inferInstanceAs (Decidable (∃ socket ∈ listener.sockets, _))

/-- Every bind failed, or every accept loop ended. -/
def Ended (listener : ListenerTask) : Prop :=
  ∀ socket ∈ listener.sockets, socket.fate = .refused ∨ socket.fate = .stopped

instance (listener : ListenerTask) : Decidable listener.Ended :=
  inferInstanceAs (Decidable (∀ socket ∈ listener.sockets, _))

/-- The loop over the addresses: the first bind that is ahead is decided. -/
def settleFirst (outcome : SocketFate) : List ReverseSocket → Option (List ReverseSocket)
  | [] => none
  | socket :: rest =>
      if socket.fate = .unbound then
        some ({ socket with fate := outcome } :: rest)
      else
        (settleFirst outcome rest).map (socket :: ·)

/-- `bind` returns. -/
def bind (bound : Bool) (listener : ListenerTask) : Option ListenerTask :=
  (settleFirst (if bound then .listening else .refused) listener.sockets).map fun sockets =>
    { listener with sockets := sockets }

/-- `accept` or `recv_from` fails, which ends its loop. The loops are started
behind all binds. -/
def stop (index : Nat) (listener : ListenerTask) : Option ListenerTask :=
  if ∀ socket ∈ listener.sockets, socket.fate ≠ .unbound then
    match listener.sockets[index]? with
    | some socket =>
        if socket.fate = .listening then
          some { listener with
            sockets := listener.sockets.set index { socket with fate := .stopped } }
        else
          none
    | none => none
  else
    none

end ListenerTask

/-- A `SessionOpen` whose specifications are being gone through, under the lock
of the set. -/
structure ReverseOpening where
  named : List String
  gateway : Bool
  rest : List String
deriving DecidableEq, Repr

/-- What outlives the connections of a server. -/
structure ReverseState where
  /-- `active_reverse_listeners`. -/
  active : List String
  listeners : List ListenerTask
  opening : Option ReverseOpening
deriving DecidableEq, Repr

namespace ReverseState

def init : ReverseState where
  active := []
  listeners := []
  opening := none

/-! ## Steps -/

/-- The lock is taken for the specifications of a `SessionOpen`; without any it
is given back at once. -/
def accept (state : ReverseState) (sessionOpen : SessionOpen) : Option ReverseState :=
  match state.opening with
  | some _ => none
  | none =>
      match sessionOpen.reverseForwards with
      | [] => some state
      | named => some { state with opening := some ⟨named, sessionOpen.gatewayPorts, named⟩ }

/-- The body of the loop. A string that does not parse is only logged. -/
def start (state : ReverseState) (gateway : Bool) (name : String) : ReverseState :=
  if name ∈ state.active then
    state
  else
    match ForwardSpec.parse name with
    | .error _ => state
    | .ok spec =>
        { state with
          active := state.active ++ [name]
          listeners := state.listeners ++ [ListenerTask.spawn name spec gateway] }

/-- The loop goes through one specification; the lock is given back behind the
last one. -/
def consider (state : ReverseState) : Option ReverseState :=
  match state.opening with
  | none | some ⟨_, _, []⟩ => none
  | some ⟨_, gateway, [name]⟩ => some { state.start gateway name with opening := none }
  | some ⟨named, gateway, name :: rest⟩ =>
      some { state.start gateway name with opening := some ⟨named, gateway, rest⟩ }

/-- A step of one listener. -/
def change (state : ReverseState) (index : Nat)
    (listenerStep : ListenerTask → Option ListenerTask) : Option ReverseState :=
  state.listeners[index]?.bind fun listener =>
    (listenerStep listener).map fun changed =>
      { state with listeners := state.listeners.set index changed }

end ReverseState

/-- One step of a handshake or of a listener. -/
inductive ReverseAction where
  | accept (sessionOpen : SessionOpen)
  | consider
  | bind (listener : Nat) (bound : Bool)
  | stop (listener socket : Nat)

def ReverseState.step (state : ReverseState) : ReverseAction → Option ReverseState
  | .accept sessionOpen => state.accept sessionOpen
  | .consider => state.consider
  | .bind listener bound => state.change listener (ListenerTask.bind bound)
  | .stop listener socket => state.change listener (ListenerTask.stop socket)

namespace ReverseState

/-! ## What is asked of the set -/

/-- A listener for a specification is running or being started. -/
def Listens (state : ReverseState) (name : String) : Prop :=
  ∃ listener ∈ state.listeners, listener.name = name ∧ listener.Alive

instance (state : ReverseState) (name : String) : Decidable (state.Listens name) :=
  inferInstanceAs (Decidable (∃ listener ∈ state.listeners, _))

/-- At most one listener is running or being started for each string. -/
def AtMostOne (state : ReverseState) : Prop :=
  ∀ name, (state.listeners.filter fun listener =>
    listener.name = name ∧ listener.Alive).length ≤ 1

/-- What is named is marked only if a listener for it is alive, and one is if it
can be parsed. -/
def Served (state : ReverseState) (named : List String) : Prop :=
  ∀ name ∈ named, (name ∈ state.active → state.Listens name) ∧
    ∀ spec, ForwardSpec.parse name = .ok spec → state.Listens name

/-- The strings of the `SessionOpen` that a step completes. -/
def completes (state : ReverseState) : ReverseAction → Option (List String)
  | .consider =>
      match state.opening with
      | some ⟨named, _, [_]⟩ => some named
      | _ => none
  | _ => none

/-- A completed `SessionOpen` is served. -/
def ServesNamed (state : ReverseState) (action : ReverseAction) : Prop :=
  ∀ named next, state.completes action = some named → state.step action = some next →
    next.Served named

/-- No listener for a string that the completed `SessionOpen` names has ended. -/
def NamedUnended (state : ReverseState) (action : ReverseAction) : Prop :=
  ∀ named, state.completes action = some named →
    ∀ listener ∈ state.listeners, listener.name ∈ named → ¬listener.Ended

end ReverseState

/-! ## Listeners -/

namespace ListenerTask

variable {listener next : ListenerTask}

/-- A listener that was just spawned is being started. -/
theorem alive_spawn (name : String) (spec : ForwardSpec) (gateway : Bool) :
    (spawn name spec gateway).Alive := by
  obtain ⟨address, member⟩ :=
    List.exists_mem_of_ne_nil _ (spec.getBindAddresses_ne_nil gateway)
  exact ⟨_, List.mem_map_of_mem member, Or.inl rfl⟩

theorem not_ended_of_alive (alive : listener.Alive) : ¬listener.Ended := by
  intro ended
  obtain ⟨socket, member, fate⟩ := alive
  rcases ended socket member with refused | stopped
  · rw [refused] at fate
    simp at fate
  · rw [stopped] at fate
    simp at fate

theorem alive_of_not_ended (unended : ¬listener.Ended) : listener.Alive := by
  simp only [Ended, not_forall] at unended
  obtain ⟨socket, member, decided⟩ := unended
  refine ⟨socket, member, ?_⟩
  cases fate : socket.fate with
  | unbound => exact Or.inl rfl
  | listening => exact Or.inr rfl
  | refused => exact absurd (Or.inl fate) decided
  | stopped => exact absurd (Or.inr fate) decided

theorem name_of_bind {bound : Bool} (stepped : listener.bind bound = some next) :
    next.name = listener.name := by
  obtain ⟨sockets, -, rfl⟩ := Option.map_eq_some_iff.mp stepped
  rfl

theorem name_of_stop {index : Nat} (stepped : listener.stop index = some next) :
    next.name = listener.name := by
  unfold stop at stepped
  split at stepped
  · split at stepped
    · split at stepped
      · obtain rfl := Option.some.inj stepped
        rfl
      · contradiction
    · contradiction
  · contradiction

end ListenerTask

namespace ReverseState

/-! ## What each step can do -/

variable {state next : ReverseState}

theorem accept_eq_some {sessionOpen : SessionOpen}
    (stepped : state.accept sessionOpen = some next) :
    state.opening = none ∧ (next = state ∨
      next = { state with
        opening := some ⟨sessionOpen.reverseForwards, sessionOpen.gatewayPorts,
          sessionOpen.reverseForwards⟩ }) := by
  unfold accept at stepped
  cases locked : state.opening with
  | some opening =>
      rw [locked] at stepped
      contradiction
  | none =>
      rw [locked] at stepped
      cases named : sessionOpen.reverseForwards with
      | nil =>
          rw [named] at stepped
          exact ⟨rfl, Or.inl (Option.some.inj stepped).symm⟩
      | cons first rest =>
          rw [named] at stepped
          exact ⟨rfl, Or.inr (Option.some.inj stepped).symm⟩

/-- The loop body marks a string and spawns its listener, or changes nothing
because the string is marked or does not parse. -/
theorem start_cases (state : ReverseState) (gateway : Bool) (name : String) :
    (∃ spec, name ∉ state.active ∧ ForwardSpec.parse name = .ok spec ∧
      state.start gateway name = { state with
        active := state.active ++ [name]
        listeners := state.listeners ++ [ListenerTask.spawn name spec gateway] }) ∨
    (state.start gateway name = state ∧
      ∀ spec, ForwardSpec.parse name = .ok spec → name ∈ state.active) := by
  unfold start
  by_cases marked : name ∈ state.active
  · rw [if_pos marked]
    exact Or.inr ⟨rfl, fun spec parsed => marked⟩
  · rw [if_neg marked]
    cases parsed : ForwardSpec.parse name with
    | error message =>
        right
        refine ⟨rfl, ?_⟩
        intro spec impossible
        cases impossible
    | ok spec => exact Or.inl ⟨spec, marked, rfl, rfl⟩

theorem consider_eq_some (stepped : state.consider = some next) :
    ∃ named gateway name rest, state.opening = some ⟨named, gateway, name :: rest⟩ ∧
      next = { state.start gateway name with
        opening := if rest = [] then none else some ⟨named, gateway, rest⟩ } := by
  unfold consider at stepped
  split at stepped
  · contradiction
  · contradiction
  · rename_i named gateway name locked
    exact ⟨named, gateway, name, [], locked, (Option.some.inj stepped).symm⟩
  · rename_i named gateway name rest more locked
    refine ⟨named, gateway, name, rest, locked, ?_⟩
    have filled : rest ≠ [] := by
      rintro rfl
      exact more rfl
    rw [if_neg filled]
    exact (Option.some.inj stepped).symm

/-- A step of a listener changes neither the set nor the loop, nor any name. -/
theorem change_eq_some {index : Nat} {listenerStep : ListenerTask → Option ListenerTask}
    (keepsName : ∀ {listener changed}, listenerStep listener = some changed →
      changed.name = listener.name)
    (stepped : state.change index listenerStep = some next) :
    next.active = state.active ∧ next.opening = state.opening ∧
      next.listeners.map ListenerTask.name = state.listeners.map ListenerTask.name := by
  obtain ⟨listener, found, changes⟩ := Option.bind_eq_some_iff.mp stepped
  obtain ⟨changed, listenerStepped, rfl⟩ := Option.map_eq_some_iff.mp changes
  refine ⟨rfl, rfl, ?_⟩
  obtain ⟨inRange, isListener⟩ := List.getElem?_eq_some_iff.mp found
  have inNames : index < (state.listeners.map ListenerTask.name).length := by
    rw [List.length_map]
    exact inRange
  have same : changed.name = (state.listeners.map ListenerTask.name)[index] := by
    rw [List.getElem_map, isListener]
    exact keepsName listenerStepped
  rw [List.map_set, same, List.set_getElem_self]

/-! ## The invariant of every run -/

/-- Every marked string has had one listener, and what the loop has gone through
is marked if it parses. -/
structure Marked (state : ReverseState) : Prop where
  names : state.listeners.map ListenerTask.name = state.active
  once : state.active.Nodup
  gone : ∀ named gateway rest, state.opening = some ⟨named, gateway, rest⟩ →
    ∀ name ∈ named, name ∈ rest ∨
      ∀ spec, ForwardSpec.parse name = .ok spec → name ∈ state.active

theorem marked_init : init.Marked where
  names := rfl
  once := List.nodup_nil
  gone := by
    intro named gateway rest locked
    cases locked

/-- The loop body keeps the marks in step with the listeners. -/
theorem Marked.start (marked : state.Marked) (gateway : Bool) (name : String) :
    (state.start gateway name).listeners.map ListenerTask.name =
        (state.start gateway name).active ∧
      (state.start gateway name).active.Nodup := by
  rcases start_cases state gateway name with ⟨spec, unmarked, -, started⟩ | ⟨same, -⟩
  · rw [started]
    constructor
    · show (state.listeners ++ _).map ListenerTask.name = state.active ++ [name]
      rw [List.map_append, marked.names]
      rfl
    · show (state.active ++ [name]).Nodup
      rw [← List.concat_eq_append]
      exact marked.once.concat unmarked
  · rw [same]
    exact ⟨marked.names, marked.once⟩

/-- It marks its string if that parses, and takes no mark away. -/
theorem mem_active_start (state : ReverseState) (gateway : Bool) (name : String) :
    (∀ other ∈ state.active, other ∈ (state.start gateway name).active) ∧
      ∀ spec, ForwardSpec.parse name = .ok spec → name ∈ (state.start gateway name).active := by
  rcases start_cases state gateway name with ⟨spec, -, -, started⟩ | ⟨same, already⟩
  · rw [started]
    constructor
    · intro other member
      exact List.mem_append_left [name] member
    · intro spec _
      exact List.mem_append_right state.active List.mem_cons_self
  · rw [same]
    exact ⟨fun other member => member, already⟩

/-- Behind the loop body the strings it has gone through are marked if they
parse. -/
theorem Marked.gone_start (marked : state.Marked) {named rest : List String} {gateway : Bool}
    {name : String} (locked : state.opening = some ⟨named, gateway, name :: rest⟩) :
    ∀ other ∈ named, other ∈ rest ∨ ∀ spec, ForwardSpec.parse other = .ok spec →
      other ∈ (state.start gateway name).active := by
  intro other member
  have kept := mem_active_start state gateway name
  rcases marked.gone named gateway (name :: rest) locked other member with ahead | behind
  · rcases List.mem_cons.mp ahead with rfl | later
    · exact Or.inr kept.2
    · exact Or.inl later
  · exact Or.inr fun spec parsed => kept.1 other (behind spec parsed)

theorem Marked.change {index : Nat} {listenerStep : ListenerTask → Option ListenerTask}
    (marked : state.Marked)
    (keepsName : ∀ {listener changed}, listenerStep listener = some changed →
      changed.name = listener.name)
    (stepped : state.change index listenerStep = some next) : next.Marked := by
  obtain ⟨active, opening, names⟩ := change_eq_some keepsName stepped
  exact {
    names := by rw [names, active, marked.names]
    once := by
      rw [active]
      exact marked.once
    gone := by
      rw [active, opening]
      exact marked.gone }

theorem Marked.step {action : ReverseAction} (marked : state.Marked)
    (stepped : state.step action = some next) : next.Marked := by
  cases action with
  | accept sessionOpen =>
      obtain ⟨-, rfl | rfl⟩ := accept_eq_some stepped
      · exact marked
      · refine ⟨marked.names, marked.once, ?_⟩
        intro named gateway rest locked name member
        cases locked
        exact Or.inl member
  | consider =>
      obtain ⟨named, gateway, name, rest, locked, rfl⟩ := consider_eq_some stepped
      have started := marked.start gateway name
      refine ⟨started.1, started.2, ?_⟩
      intro others gatewayOthers restOthers unlocked
      by_cases finished : rest = []
      · rw [if_pos finished] at unlocked
        cases unlocked
      · rw [if_neg finished] at unlocked
        cases unlocked
        exact marked.gone_start locked
  | bind listener bound => exact marked.change ListenerTask.name_of_bind stepped
  | stop listener socket => exact marked.change ListenerTask.name_of_stop stepped

/-- Listeners of one name are one. -/
theorem Marked.eq_of_name (marked : state.Marked) {first second : ListenerTask}
    (firstMember : first ∈ state.listeners) (secondMember : second ∈ state.listeners)
    (same : first.name = second.name) : first = second := by
  have nodup : (state.listeners.map ListenerTask.name).Nodup := marked.names ▸ marked.once
  exact List.inj_on_of_nodup_map nodup firstMember secondMember same

theorem Marked.atMostOne (marked : state.Marked) : state.AtMostOne := by
  intro name
  have nodup : (state.listeners.map ListenerTask.name).Nodup := marked.names ▸ marked.once
  have named := List.nodup_iff_count_le_one.mp nodup name
  rw [List.count, List.countP_map, List.countP_eq_length_filter] at named
  refine le_trans (List.Sublist.length_le (List.monotone_filter_right _ ?_)) named
  intro listener alive
  have parts := of_decide_eq_true alive
  simp [parts.1]

/-- The loop of the accept loop's model marks the same strings. -/
theorem active_of_startListener {shared started : SharedState} {sessionOpen : SessionOpen}
    {text : String} {rest : List String} {replays : List Session.Chunk} {progress : Progress}
    (agree : shared.activeReverseListeners.map ReverseListener.text = state.active)
    (stepped : ConnStage.startListener shared sessionOpen (.listening (text :: rest) replays) =
      some (started, progress)) :
    started.activeReverseListeners.map ReverseListener.text =
      (state.start sessionOpen.gatewayPorts text).active := by
  have known : (∃ listener ∈ shared.activeReverseListeners, listener.text = text) ↔
      text ∈ state.active := by
    rw [← agree, List.mem_map]
  rcases ConnStage.startListener_cases stepped with
    ⟨head, tail, kept, same, ⟨why, moved⟩ | ⟨spec, unlisted, parsed, moved⟩⟩ | ⟨kept, same, -⟩
  · cases same
    cases moved
    rcases why with listed | ⟨message, refused⟩
    · rw [start, if_pos (known.mp listed)]
      exact agree
    · by_cases marked : text ∈ state.active
      · rw [start, if_pos marked]
        exact agree
      · rw [start, if_neg marked, refused]
        exact agree
  · cases same
    cases moved
    have unmarked : text ∉ state.active := by
      intro marked
      obtain ⟨listener, member, named⟩ := known.mpr marked
      exact unlisted listener member named
    rw [start, if_neg unmarked, parsed, List.map_append, agree]
    rfl
  · cases same

/-! ## What a completed `SessionOpen` finds -/

theorem completes_eq_some {action : ReverseAction} {named : List String}
    (completed : state.completes action = some named) :
    action = .consider ∧ ∃ gateway name, state.opening = some ⟨named, gateway, [name]⟩ := by
  unfold completes at completed
  split at completed
  · split at completed
    · rename_i others gateway name locked
      cases completed
      exact ⟨rfl, gateway, name, locked⟩
    · contradiction
  · contradiction

/-- The loop body keeps every listener, and a listener it adds is alive. -/
theorem mem_listeners_start (state : ReverseState) (gateway : Bool) (name : String) :
    (∀ listener ∈ state.listeners, listener ∈ (state.start gateway name).listeners) ∧
      ∀ listener ∈ (state.start gateway name).listeners,
        listener ∈ state.listeners ∨ listener.Alive := by
  rcases start_cases state gateway name with ⟨spec, -, -, started⟩ | ⟨same, -⟩
  · rw [started]
    constructor
    · intro listener member
      exact List.mem_append_left _ member
    · intro listener member
      rcases List.mem_append.mp member with earlier | spawned
      · exact Or.inl earlier
      · right
        rw [List.mem_singleton.mp spawned]
        exact ListenerTask.alive_spawn name spec gateway
  · rw [same]
    exact ⟨fun listener member => member, fun listener member => Or.inl member⟩

/-- Behind the last string of a `SessionOpen` all it names is served if no
listener for it had ended. -/
theorem Marked.served (marked : state.Marked) {named : List String} {gateway : Bool}
    {name : String} (locked : state.opening = some ⟨named, gateway, [name]⟩)
    (unended : ∀ listener ∈ state.listeners, listener.name ∈ named → ¬listener.Ended)
    (names : (state.start gateway name).listeners.map ListenerTask.name =
      (state.start gateway name).active) :
    (state.start gateway name).Served named := by
  have listened : ∀ other ∈ named, other ∈ (state.start gateway name).active →
      (state.start gateway name).Listens other := by
    intro other member isMarked
    rw [← names] at isMarked
    obtain ⟨listener, isListener, rfl⟩ := List.mem_map.mp isMarked
    have kept := (mem_listeners_start state gateway name).2 listener isListener
    rcases kept with earlier | alive
    · have alive := ListenerTask.alive_of_not_ended (unended listener earlier member)
      exact ⟨listener, isListener, rfl, alive⟩
    · exact ⟨listener, isListener, rfl, alive⟩
  intro other member
  refine ⟨listened other member, ?_⟩
  intro spec parsed
  rcases marked.gone_start locked other member with ahead | behind
  · contradiction
  · exact listened other member (behind spec parsed)

/-- **A completed `SessionOpen` is served exactly if no listener for a string
it names had ended.** -/
theorem servesNamed_iff {action : ReverseAction} (marked : state.Marked) :
    state.ServesNamed action ↔ state.NamedUnended action := by
  constructor
  · intro serves named completed listener member isNamed ended
    obtain ⟨rfl, gateway, name, locked⟩ := completes_eq_some completed
    have stepped : state.step .consider =
        some { state.start gateway name with opening := none } := by
      rw [step, consider, locked]
    have nextMarked := marked.step stepped
    have kept := (mem_listeners_start state gateway name).1 listener member
    have isMarked : listener.name ∈ (state.start gateway name).active := by
      rw [← (marked.start gateway name).1]
      exact List.mem_map_of_mem kept
    obtain ⟨other, isListener, same, alive⟩ :=
      (serves named _ completed stepped listener.name isNamed).1 isMarked
    have one := nextMarked.eq_of_name isListener kept same
    exact ListenerTask.not_ended_of_alive alive (one ▸ ended)
  · intro unended named next completed stepped
    have free := unended named completed
    obtain ⟨rfl, gateway, name, locked⟩ := completes_eq_some completed
    have result : state.step .consider =
        some { state.start gateway name with opening := none } := by
      rw [step, consider, locked]
    rw [result] at stepped
    obtain rfl := Option.some.inj stepped
    exact marked.served locked free (marked.start gateway name).1

/-! ## The exact runs -/

/-- What holds of every step under an invariant holds along every run. -/
theorem along_iff_of_marked (marked : state.Marked) (actions : List ReverseAction) :
    Along step ServesNamed state actions ↔ Along step NamedUnended state actions := by
  induction actions generalizing state with
  | nil => exact Iff.rfl
  | cons action rest inductionHypothesis =>
      cases stepped : state.step action with
      | none => simp only [Along, stepped, servesNamed_iff marked]
      | some next =>
          rw [along_cons_of_step stepped, along_cons_of_step stepped, servesNamed_iff marked,
            inductionHypothesis (marked.step stepped)]

/-- **There is at most one listener for each string at all times, and every
`SessionOpen` is served exactly if none names a string whose listener has
ended.** -/
theorem reverse_listeners_served_iff (actions : List ReverseAction) :
    Throughout step AtMostOne init actions ∧
      (Along step ServesNamed init actions ↔ Along step NamedUnended init actions) := by
  constructor
  · have unconditional : Along step (fun _ _ => True) init actions :=
      along_of_forall fun _ _ => trivial
    exact throughout_of_along (fun marked _ stepped => Marked.step marked stepped)
      Marked.atMostOne marked_init unconditional
  · exact along_iff_of_marked marked_init actions

/-- A first connect finds the port busy on both addresses. The second one names
the string again: it is marked, and nothing listens for it. -/
theorem busyPort_never_retried :
    ∃ (sessionOpen : SessionOpen) (before after : ReverseState),
      sessionOpen.reverseForwards = ["8080:localhost:80"] ∧
      run step init [.accept sessionOpen, .consider, .bind 0 false, .bind 0 false,
        .accept sessionOpen] = some before ∧
      before.completes .consider = some ["8080:localhost:80"] ∧
      before.step .consider = some after ∧
      "8080:localhost:80" ∈ after.active ∧ ¬after.Listens "8080:localhost:80" := by
  refine ⟨⟨[], "", ∅, ["8080:localhost:80"], false, false, "", []⟩, ?_⟩
  refine ⟨_, _, rfl, rfl, rfl, rfl, ?_, ?_⟩
  · decide
  · decide

end ReverseState

end Etr.Server
