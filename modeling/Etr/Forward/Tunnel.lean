import Etr.Forward.Relay
import Etr.Library.Conduit
import Etr.Library.Transition

/-!
Contract: a forwarded connection, relayed by one relay on each machine.

Owns the composition of two relays over one QUIC stream, the endpoints at both
ends, the runs in which each direction is relayed completely, and that the
relays always come to rest.

Does not own how a forwarded connection is set up, or errors of the endpoints.
-/

namespace Etr.Forward

open Etr.Library

/-- The two machines: the near one opened the QUIC stream. -/
inductive Side where
  | near
  | far
deriving DecidableEq, Repr

def Side.other : Side → Side
  | .near => .far
  | .far => .near

@[simp] theorem Side.other_other (side : Side) : side.other.other = side := by
  cases side <;> rfl

@[simp] theorem Side.other_ne (side : Side) : side.other ≠ side := by
  cases side <;> decide

theorem Side.eq_or_eq_other (lane side : Side) : lane = side ∨ lane = side.other := by
  cases lane <;> cases side <;> decide

/-- What is forwarded. -/
inductive Forwarding where
  /-- `-L`: the client opens the stream. -/
  | localTcp
  /-- `-R`: the server opens the stream. -/
  | reverseTcp
  /-- X11: the server opens the stream. -/
  | x11 (display : X11Stream)
deriving DecidableEq, Repr

/-- The relay function that runs on a side. -/
def Forwarding.relayAt :
    Forwarding → Side → RelayState → RelayAction → Option RelayState
  | .localTcp, .near | .reverseTcp, .far => runTcpConnectionQuic
  | .localTcp, .far | .reverseTcp, .near => pipeTcpQuic
  | .x11 _, .near => pipeGenericQuic
  | .x11 display, .far => runX11ConnectionQuic display

/-- One direction, from the endpoint of its side to the other endpoint. -/
structure Lane where
  /-- History variable: what the endpoint sent. -/
  sent : List UInt8
  source : ByteStream
  sender : RelayTask
  stream : ByteStream
  receiver : RelayTask
  /-- What was written to the other endpoint. -/
  sink : ByteStream

structure TunnelState where
  /-- The direction that starts on each side. -/
  lane : Side → Lane
  /-- The relay of each side has returned. -/
  returned : Side → Bool

inductive TunnelAction where
  | send (side : Side) (data : List UInt8)
  | halfClose (side : Side)
  | relay (side : Side) (action : RelayAction)
deriving DecidableEq, Repr

namespace TunnelState

/-- Both relays have just been started. -/
def opened : TunnelState where
  lane := fun _ =>
    { sent := [], source := ⟨[], false⟩, sender := .reading, stream := ⟨[], false⟩,
      receiver := .reading, sink := ⟨[], false⟩ }
  returned := fun _ => false

/-! ## Steps -/

def setLane (state : TunnelState) (side : Side) (lane : Lane) : TunnelState :=
  { state with lane := fun other => if other = side then lane else state.lane other }

/-- An endpoint that has not ended its direction sends. -/
def send (state : TunnelState) (side : Side) (data : List UInt8) : Option TunnelState :=
  match (state.lane side).source.finished with
  | false =>
      some (state.setLane side { state.lane side with
        sent := (state.lane side).sent ++ data
        source := ⟨(state.lane side).source.bytes ++ data, false⟩ })
  | true => none

/-- An endpoint ends its direction. -/
def halfClose (state : TunnelState) (side : Side) : Option TunnelState :=
  some (state.setLane side { state.lane side with
    source := { (state.lane side).source with finished := true } })

/-- The relay of a side, within the tunnel. -/
def relayView (state : TunnelState) (side : Side) : RelayState where
  outgoing := ⟨(state.lane side).source, (state.lane side).sender, (state.lane side).stream⟩
  incoming :=
    ⟨(state.lane side.other).stream, (state.lane side.other).receiver,
      (state.lane side.other).sink⟩
  returned := state.returned side

/-- The tunnel with a side's relay replaced. -/
def putRelay (state : TunnelState) (side : Side) (relay : RelayState) : TunnelState where
  lane := fun lane =>
    if lane = side then
      { state.lane side with
        source := relay.outgoing.input
        sender := relay.outgoing.task
        stream := relay.outgoing.output }
    else
      { state.lane side.other with
        stream := relay.incoming.input
        receiver := relay.incoming.task
        sink := relay.incoming.output }
  returned := fun other => if other = side then relay.returned else state.returned other

/-- A step of a relay. A QUIC write fails only if the other relay is gone. -/
def relayStep (forwarding : Forwarding) (state : TunnelState) (side : Side)
    (action : RelayAction) : Option TunnelState :=
  match action, state.returned side.other with
  | .writeFails, false => none
  | _, _ => (forwarding.relayAt side (state.relayView side) action).map (state.putRelay side)

def step (forwarding : Forwarding) (state : TunnelState) : TunnelAction → Option TunnelState
  | .send side data => state.send side data
  | .halfClose side => state.halfClose side
  | .relay side action => state.relayStep forwarding side action

variable {forwarding : Forwarding} {state next : TunnelState} {side lane : Side}

/-! ## What each step can do -/

section Lanes

variable (state : TunnelState) (side : Side) (changed : Lane) (relay : RelayState)

@[simp] theorem lane_setLane_self : (state.setLane side changed).lane side = changed :=
  if_pos rfl

@[simp] theorem lane_setLane_other :
    (state.setLane side changed).lane side.other = state.lane side.other :=
  if_neg side.other_ne

@[simp] theorem returned_setLane : (state.setLane side changed).returned = state.returned := rfl

@[simp] theorem lane_putRelay_self : (state.putRelay side relay).lane side =
    { state.lane side with
      source := relay.outgoing.input
      sender := relay.outgoing.task
      stream := relay.outgoing.output } :=
  if_pos rfl

@[simp] theorem lane_putRelay_other : (state.putRelay side relay).lane side.other =
    { state.lane side.other with
      stream := relay.incoming.input
      receiver := relay.incoming.task
      sink := relay.incoming.output } :=
  if_neg side.other_ne

@[simp] theorem returned_putRelay_self :
    (state.putRelay side relay).returned side = relay.returned :=
  if_pos rfl

@[simp] theorem returned_putRelay_other :
    (state.putRelay side relay).returned side.other = state.returned side.other :=
  if_neg side.other_ne

end Lanes

/-- Every relay function is the relay with one buffer size. -/
theorem relayAt_eq (forwarding : Forwarding) (side : Side) :
    forwarding.relayAt side = relay (256 * 1024) := by
  cases forwarding with
  | localTcp => cases side <;> rfl
  | reverseTcp => cases side <;> rfl
  | x11 display =>
      cases side with
      | near => rfl
      | far => cases display <;> rfl

theorem relayStep_cases {action : RelayAction}
    (stepped : state.relayStep forwarding side action = some next) :
    state.returned side = false ∧
      ((action ≠ .select ∧ ∃ moved, (state.relayView side).MovesHalf moved ∧
          next = state.putRelay side moved) ∨
        (action ≠ .select ∧ state.returned side.other = true ∧
          (state.lane side).sender.turns = 1 ∧
          next = state.putRelay side { state.relayView side with
            outgoing := (state.relayView side).outgoing.abort }) ∨
        (action = .select ∧ next = state.putRelay side
          { outgoing := (state.relayView side).outgoing.abort
            incoming := (state.relayView side).incoming.abort
            returned := true })) := by
  have moved : (∃ relayed, relay (256 * 1024) (state.relayView side) action = some relayed ∧
      next = state.putRelay side relayed) ∧
        (action = .writeFails → state.returned side.other = true) := by
    unfold relayStep at stepped
    split at stepped
    · contradiction
    · rename_i allowed
      rcases Option.map_eq_some_iff.mp stepped with ⟨relayed, ran, rfl⟩
      rw [relayAt_eq] at ran
      refine ⟨⟨relayed, ran, rfl⟩, fun fails => ?_⟩
      cases gone : state.returned side.other with
      | true => rfl
      | false => exact (allowed fails gone).elim
  rcases moved with ⟨⟨relayed, ran, rfl⟩, gone⟩
  rcases relay_cases ran with ⟨running, outcome⟩
  refine ⟨running, ?_⟩
  rcases outcome with ⟨-, kept, moves⟩ | ⟨fails, turns, rfl⟩ | ⟨selects, rfl⟩
  · exact Or.inl ⟨kept, relayed, moves, rfl⟩
  · exact Or.inr (Or.inl ⟨by simp [fails], gone fails, turns, rfl⟩)
  · exact Or.inr (Or.inr ⟨selects, rfl⟩)

/-! ## The path of one direction -/

/-- What the relay on the side of the source still holds or will read. -/
def heldBySender (state : TunnelState) (side : Side) : List UInt8 :=
  match state.returned side with
  | true => []
  | false => (state.lane side).sender.hand ++ (state.lane side).source.bytes

/-- What can still reach the other endpoint, oldest first: nothing once the
relay next to it has returned. -/
def held (state : TunnelState) (side : Side) : List UInt8 :=
  match state.returned side.other with
  | true => []
  | false =>
      (state.lane side).receiver.hand ++
        ((state.lane side).stream.bytes ++ state.heldBySender side)

def conduit (state : TunnelState) (side : Side) : Conduit UInt8 where
  given := (state.lane side).sent
  delivered := (state.lane side).sink.bytes
  held := state.held side

/-- The bytes of the direction from `lane` that a step takes out of the path. -/
def discarded (state : TunnelState) (action : TunnelAction) (lane : Side) : List UInt8 :=
  match action with
  | .send side data =>
      if lane = side ∧ (state.returned side = true ∨ state.returned side.other = true) then data
      else []
  | .relay side .select =>
      if lane = side.other then state.held lane
      else if state.returned side.other = true then []
      else state.heldBySender lane
  | _ => []

@[simp] theorem heldBySender_putRelay_other (state : TunnelState) (side : Side)
    (relay : RelayState) :
    (state.putRelay side relay).heldBySender side.other = state.heldBySender side.other := by
  simp [heldBySender]

theorem evolves_of_lane (same : next.lane lane = state.lane lane)
    (returned : next.returned = state.returned) :
    (state.conduit lane).Evolves (next.conduit lane) [] := by
  apply Conduit.evolves_of_same
  · simp only [conduit, same]
  · simp only [conduit, held, heldBySender, same, returned]

theorem send_evolves {data : List UInt8} (stepped : state.send side data = some next) :
    (state.conduit lane).Evolves (next.conduit lane)
      (state.discarded (.send side data) lane) := by
  unfold send at stepped
  split at stepped
  · cases stepped
    rcases Side.eq_or_eq_other lane side with same | opposite
    · subst same
      refine ⟨data, (state.conduit lane).delivered ++ (state.conduit lane).held,
        if state.returned lane = true ∨ state.returned lane.other = true then [] else data,
        ?_, ?_, ?_⟩
      · simp [conduit]
      · by_cases gone : state.returned lane = true ∨ state.returned lane.other = true
        · simp [discarded, gone]
        · simp [discarded, gone]
      · cases far : state.returned lane.other with
        | true => simp [conduit, held, far]
        | false =>
            cases near : state.returned lane with
            | true => simp [conduit, held, heldBySender, far, near]
            | false => simp [conduit, held, heldBySender, far, near]
    · subst opposite
      have kept : state.discarded (.send side data) side.other = [] := by
        simp [discarded]
      rw [kept]
      exact evolves_of_lane (by simp) rfl
  · contradiction

theorem halfClose_evolves (stepped : state.halfClose side = some next) :
    (state.conduit lane).Evolves (next.conduit lane) [] := by
  cases stepped
  rcases Side.eq_or_eq_other lane side with same | opposite
  · subst same
    apply Conduit.evolves_of_same
    · simp [conduit]
    · simp [conduit, held, heldBySender]
  · subst opposite
    exact evolves_of_lane (by simp) rfl

/-- Moving bytes through a relay keeps both directions as they are. -/
theorem moves_evolves {moved : RelayState} (running : state.returned side = false)
    (moves : (state.relayView side).MovesHalf moved) :
    (state.conduit lane).Evolves ((state.putRelay side moved).conduit lane) [] := by
  rcases moves with ⟨half, outgoing, rfl⟩ | ⟨half, incoming, rfl⟩
  · have carries := outgoing.carries
    simp only [RelayHalf.carried, relayView] at carries
    rcases Side.eq_or_eq_other lane side with same | opposite
    · subst same
      apply Conduit.evolves_of_same
      · simp [conduit]
      · cases far : state.returned lane.other with
        | true => simp [conduit, held, far]
        | false =>
            simp only [List.append_assoc] at carries
            simp [conduit, held, heldBySender, far, running, relayView, carries]
    · subst opposite
      apply Conduit.evolves_of_same
      · simp [conduit]
      · simp [conduit, held, heldBySender, running, relayView]
  · have carries := incoming.carries
    simp only [RelayHalf.carried, relayView] at carries
    rcases Side.eq_or_eq_other lane side with same | opposite
    · subst same
      apply Conduit.evolves_of_same
      · simp [conduit]
      · simp [conduit, held, heldBySender, running, relayView]
    · subst opposite
      apply Conduit.evolves_of_same
      · simp [conduit]
      · have extended := congrArg (· ++ state.heldBySender side.other) carries
        simp only [List.append_assoc] at extended
        simpa [conduit, held, running, relayView] using extended

/-- A failing write loses nothing that could still arrive: the other relay is
gone. -/
theorem writeFails_evolves (running : state.returned side = false)
    (gone : state.returned side.other = true) :
    (state.conduit lane).Evolves ((state.putRelay side { state.relayView side with
      outgoing := (state.relayView side).outgoing.abort }).conduit lane) [] := by
  rcases Side.eq_or_eq_other lane side with same | opposite
  · subst same
    apply Conduit.evolves_of_same
    · simp [conduit]
    · simp [conduit, held, gone]
  · subst opposite
    apply Conduit.evolves_of_same
    · simp [conduit]
    · simp [conduit, held, heldBySender, running, relayView, gone]

/-- A returning relay takes what it holds, and what it would have read, out of
both directions. -/
theorem select_evolves (running : state.returned side = false) :
    (state.conduit lane).Evolves ((state.putRelay side
      { outgoing := (state.relayView side).outgoing.abort
        incoming := (state.relayView side).incoming.abort
        returned := true }).conduit lane) (state.discarded (.relay side .select) lane) := by
  rcases Side.eq_or_eq_other lane side with same | opposite
  · subst same
    have ownSide : lane ≠ lane.other := fun same => lane.other_ne same.symm
    cases far : state.returned lane.other with
    | true =>
        simp only [discarded, if_neg ownSide, far, if_true]
        apply Conduit.evolves_of_same
        · simp [conduit]
        · simp [conduit, held, far, relayView, RelayHalf.abort]
    | false =>
        refine ⟨[], (state.lane lane).sink.bytes ++
          ((state.lane lane).receiver.hand ++ (state.lane lane).stream.bytes), [], ?_, ?_, ?_⟩
        · simp [conduit]
        · simp [conduit, held, far, discarded, ownSide]
        · simp [conduit, held, heldBySender, far, relayView, RelayHalf.abort]
  · subst opposite
    refine ⟨[], (state.lane side.other).sink.bytes, [], ?_, ?_, ?_⟩
    · simp [conduit]
    · simp [conduit, discarded]
    · simp [conduit, held, relayView, RelayHalf.abort]

theorem step_evolves {action : TunnelAction} (lane : Side)
    (stepped : step forwarding state action = some next) :
    (state.conduit lane).Evolves (next.conduit lane) (state.discarded action lane) := by
  cases action with
  | send side data => exact send_evolves stepped
  | halfClose side => exact halfClose_evolves stepped
  | relay side action =>
      rcases relayStep_cases stepped with ⟨running, outcome⟩
      rcases outcome with ⟨kept, moved, moves, rfl⟩ | ⟨kept, gone, -, rfl⟩ | ⟨selects, rfl⟩
      · have nothing : state.discarded (.relay side action) lane = [] := by
          cases action <;> first | rfl | contradiction
        rw [nothing]
        exact moves_evolves running moves
      · have nothing : state.discarded (.relay side action) lane = [] := by
          cases action <;> first | rfl | contradiction
        rw [nothing]
        exact writeFails_evolves running gone
      · subst selects
        exact select_evolves running

/-! ## Coming to rest -/

/-- No relay can take another step. -/
def Settled (forwarding : Forwarding) (state : TunnelState) : Prop :=
  ∀ side action, state.relayStep forwarding side action = none

theorem settled_of_returned (returned : ∀ side, state.returned side = true) :
    state.Settled forwarding := by
  intro side action
  cases stepped : state.relayStep forwarding side action with
  | none => rfl
  | some next =>
      have running := (relayStep_cases stepped).1
      rw [returned side] at running
      contradiction

/-- In a settled tunnel nothing is on its way. -/
theorem held_of_settled (settled : state.Settled forwarding) (side : Side) :
    state.held side = [] := by
  have idle : ∀ side, state.returned side = false →
      ((state.lane side).sender.hand = [] ∧ (state.lane side).source.bytes = []) ∧
        ((state.lane side.other).receiver.hand = [] ∧
          (state.lane side.other).stream.bytes = []) := by
    intro side running
    have stuck : ∀ action, action ≠ .writeFails →
        relay (256 * 1024) (state.relayView side) action = none := by
      intro action own
      have disabled := settled side action
      unfold relayStep at disabled
      split at disabled
      · contradiction
      · rw [relayAt_eq] at disabled
        exact Option.map_eq_none_iff.mp disabled
    exact idle_of_relay_stuck (by decide) running stuck
  unfold held
  split
  · rfl
  · rename_i far
    have receiver := (idle side.other far).2
    rw [Side.other_other] at receiver
    rw [receiver.1, receiver.2, heldBySender]
    split
    · rfl
    · rename_i near
      have sender := (idle side near).1
      rw [sender.1, sender.2]
      rfl

/-- Turns left in one direction: each byte has up to four places to leave. -/
def laneWork (lane : Lane) : Nat :=
  4 * lane.source.bytes.length + 3 * lane.sender.hand.length + 2 * lane.stream.bytes.length +
    lane.receiver.hand.length + lane.sender.turns + lane.receiver.turns

def relaysLeft (state : TunnelState) (side : Side) : Nat :=
  if state.returned side then 0 else 1

def work (state : TunnelState) : Nat :=
  laneWork (state.lane .near) + laneWork (state.lane .far) + state.relaysLeft .near +
    state.relaysLeft .far

/-- The work of a tunnel, seen from either side. -/
theorem work_eq (state : TunnelState) (side : Side) :
    state.work = laneWork (state.lane side) + laneWork (state.lane side.other) +
      state.relaysLeft side + state.relaysLeft side.other := by
  cases side with
  | near => rfl
  | far =>
      show _ = laneWork (state.lane .far) + laneWork (state.lane .near) +
        state.relaysLeft .far + state.relaysLeft .near
      unfold work
      omega

/-- Every step of a relay is progress. -/
theorem work_relayStep {action : RelayAction}
    (stepped : state.relayStep forwarding side action = some next) : next.work < state.work := by
  rcases relayStep_cases stepped with ⟨running, outcome⟩
  rw [work_eq next side, work_eq state side]
  rcases outcome with ⟨-, moved, moves, rfl⟩ | ⟨-, -, turns, rfl⟩ | ⟨-, rfl⟩
  · rcases moves with ⟨half, outgoing, rfl⟩ | ⟨half, incoming, rfl⟩
    · rcases outgoing.lengths with ⟨taken, put, input, hand, output, fewer, progress⟩
      simp only [relayView] at input hand output fewer progress
      simp only [laneWork, relaysLeft, lane_putRelay_self, lane_putRelay_other,
        returned_putRelay_self, returned_putRelay_other, relayView]
      omega
    · rcases incoming.lengths with ⟨taken, put, input, hand, output, fewer, progress⟩
      simp only [relayView] at input hand output fewer progress
      simp only [laneWork, relaysLeft, lane_putRelay_self, lane_putRelay_other,
        returned_putRelay_self, returned_putRelay_other, relayView]
      omega
  · simp only [laneWork, relaysLeft, lane_putRelay_self, lane_putRelay_other,
      returned_putRelay_self, returned_putRelay_other, relayView, RelayHalf.abort,
      RelayTask.hand_done, RelayTask.turns_done, List.length_nil]
    omega
  · simp only [laneWork, relaysLeft, lane_putRelay_self, lane_putRelay_other,
      returned_putRelay_self, returned_putRelay_other, relayView, RelayHalf.abort,
      RelayTask.hand_done, RelayTask.turns_done, List.length_nil, running, if_true,
      Bool.false_eq_true, if_false]
    omega

/-- The relays come to rest from every state, without anything from outside. -/
theorem exists_settled (forwarding : Forwarding) (state : TunnelState) :
    ∃ actions final, run (step forwarding) state actions = some final ∧
      final.Settled forwarding := by
  have decreases : ∀ {state action next}, (∃ side relayed, action = .relay side relayed) →
      step forwarding state action = some next → next.work < state.work := by
    rintro state action next ⟨side, relayed, rfl⟩ stepped
    exact work_relayStep stepped
  rcases exists_quiescent decreases state with ⟨actions, final, -, executed, rest⟩
  exact ⟨actions, final, executed, fun side action => rest _ ⟨side, action, rfl⟩⟩

/-! ## Complete relaying -/

/-- The step takes no byte of either direction out of its path. -/
def LosesNothing (state : TunnelState) (action : TunnelAction) : Prop :=
  ∀ lane, state.discarded action lane = []

theorem intact_opened (lane : Side) : (opened.conduit lane).Intact := rfl

/-- Whatever arrives is a part of what was sent, in order. -/
theorem sink_sublist_of_run {actions : List TunnelAction} {final : TunnelState}
    (executed : run (step forwarding) opened actions = some final) (lane : Side) :
    (final.lane lane).sink.bytes.Sublist (final.lane lane).sent := by
  have ordered := run_invariant (fun held stepped => Conduit.Ordered.evolves held
    (step_evolves lane stepped)) (intact_opened lane).ordered executed
  have shown : (final.lane lane).sink.bytes.Sublist
      ((final.conduit lane).delivered ++ (final.conduit lane).held) :=
    List.sublist_append_left _ _
  exact shown.trans ordered

/-- **When the relays have come to rest, each endpoint was written all the other
sent exactly if no relay returned while it held or would still have been
reached by bytes of either direction, and nobody sent after a return.** -/
theorem relayed_completely_iff {actions : List TunnelAction} {final : TunnelState}
    (executed : run (step forwarding) opened actions = some final)
    (settled : final.Settled forwarding) :
    (∀ lane, (final.lane lane).sink.bytes = (final.lane lane).sent) ↔
      Along (step forwarding) LosesNothing opened actions := by
  have initially : ∀ lane, (opened.conduit lane).Ordered := fun lane =>
    (intact_opened lane).ordered
  have preserved : ∀ {state action next}, (∀ lane, (conduit state lane).Ordered) →
      step forwarding state action = some next → ∀ lane, (next.conduit lane).Ordered := by
    intro state action next held stepped lane
    exact (held lane).evolves (step_evolves lane stepped)
  have latch : ∀ {state action next}, (∀ lane, (conduit state lane).Ordered) →
      step forwarding state action = some next →
        ((∀ lane, (next.conduit lane).Intact) ↔
          (∀ lane, (state.conduit lane).Intact) ∧ state.LosesNothing action) := by
    intro state action next held stepped
    rw [LosesNothing, ← forall_and]
    exact forall_congr' fun lane =>
      Conduit.intact_evolves_iff (held lane) (step_evolves lane stepped)
  have ordered := run_invariant preserved initially executed
  have latched : (∀ lane, (final.conduit lane).Intact) ↔
      (∀ lane, (opened.conduit lane).Intact) ∧
        Along (step forwarding) LosesNothing opened actions :=
    run_latch preserved latch initially executed
  rw [and_iff_right intact_opened] at latched
  rw [← latched]
  apply forall_congr'
  intro lane
  have complete := Conduit.delivered_eq_given_iff (ordered lane)
  exact complete.trans (and_iff_left (held_of_settled settled lane))

instance (state : TunnelState) (action : TunnelAction) : Decidable (state.LosesNothing action) :=
  decidable_of_iff (state.discarded action .near = [] ∧ state.discarded action .far = [])
    ⟨fun both lane => match lane with
      | .near => both.1
      | .far => both.2, fun every => ⟨every .near, every .far⟩⟩

/-- A request and its response, before either endpoint ends its direction. -/
def exchange : List TunnelAction :=
  [.send .near [97], .relay .near (.read .outgoing 1), .relay .near (.write .outgoing 1),
    .relay .far (.read .incoming 1), .relay .far (.write .incoming 1), .send .far [98],
    .relay .far (.read .outgoing 1), .relay .far (.write .outgoing 1),
    .relay .near (.read .incoming 1), .relay .near (.write .incoming 1), .halfClose .near,
    .halfClose .far, .relay .near (.endOfInput .outgoing), .relay .near .select,
    .relay .far (.endOfInput .incoming), .relay .far .select]

theorem exchange_relayed :
    ∃ final, run (step .localTcp) opened exchange = some final ∧
      (final.lane .far).sent = [98] ∧
      ∀ lane, (final.lane lane).sink.bytes = (final.lane lane).sent := by
  have reached : ∃ final, run (step .localTcp) opened exchange = some final ∧
      (∀ side, final.returned side = true) ∧ (final.lane .far).sent = [98] :=
    ⟨_, rfl, by intro side; cases side <;> rfl, rfl⟩
  rcases reached with ⟨final, executed, returned, sent⟩
  refine ⟨final, executed, sent,
    (relayed_completely_iff executed (settled_of_returned returned)).mpr ?_⟩
  decide

/-- The near endpoint ends its direction behind the request; its relay returns
before the response arrives. -/
theorem response_lost_to_half_close :
    ∃ final, run (step .localTcp) opened
        [.send .near [97], .relay .near (.read .outgoing 1), .relay .near (.write .outgoing 1),
          .halfClose .near, .relay .near (.endOfInput .outgoing), .relay .near .select,
          .relay .far (.read .incoming 1), .relay .far (.write .incoming 1), .send .far [98],
          .halfClose .far, .relay .far (.endOfInput .incoming), .relay .far .select] =
          some final ∧
      final.Settled .localTcp ∧ (final.lane .far).sent = [98] ∧
      (final.lane .far).sink.bytes = [] := by
  refine ⟨_, rfl, settled_of_returned ?_, rfl, rfl⟩
  intro side
  cases side <;> rfl

end TunnelState

end Etr.Forward
