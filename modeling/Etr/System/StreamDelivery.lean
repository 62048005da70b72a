import Etr.System.StreamForward

/-!
Contract: what arrives over a forwarded connection.

Owns the runs in which nothing breaks and nobody ends a direction, the measure
under which a forwarded stream comes to rest, and the main result about
forwarded streams: what either endpoint reads begins what the other sent, and
is all of it in time.

Does not own the steps.
-/

namespace Etr.System

open Etr.Library Etr.Protocol Etr.Wire Etr.Forward

/-- Nothing breaks, and no endpoint ends its direction. -/
def StreamAction.Steady : StreamAction → Prop
  | .halfClose _ | .reset _ | .abandon | .refuseBytes _ | .lose _ => False
  | .send _ _ | .announce _ | .stopAnnouncing | .header | .connect | .relay _ _ => True

/-- The programs move on by themselves. -/
def StreamAction.Progress : StreamAction → Prop
  | .announce _ | .header | .connect => True
  | .relay _ action => action ≠ .writeFails
  | _ => False

theorem StreamAction.Progress.steady {action : StreamAction} (progress : action.Progress) :
    action.Steady := by
  cases action <;> trivial

/-! ## Relays of open streams -/

/-- A task at work on a stream that has not ended. -/
structure OpenHalf (half : RelayHalf) : Prop where
  working : atWork half.task = true
  unfinished : half.input.finished = false

/-- A half that stays open, with what it writes as open as it was. -/
structure StaysOpen (half next : RelayHalf) : Prop where
  isOpen : OpenHalf next
  output : next.output.finished = half.output.finished

section Halves

variable {half next : RelayHalf} {relayed after : RelayState}

theorem staysOpen_of_read {bufferSize count : Nat} (isOpen : OpenHalf half)
    (stepped : half.read bufferSize count = some next) : StaysOpen half next := by
  unfold RelayHalf.read at stepped
  split at stepped
  · split at stepped
    · cases stepped
      exact ⟨⟨rfl, isOpen.unfinished⟩, rfl⟩
    · contradiction
  · contradiction
  · contradiction

theorem staysOpen_of_write {count : Nat} (isOpen : OpenHalf half)
    (stepped : half.write count = some next) : StaysOpen half next := by
  unfold RelayHalf.write at stepped
  split at stepped
  · split at stepped
    · cases stepped
      refine ⟨⟨?_, isOpen.unfinished⟩, rfl⟩
      dsimp only
      split
      · rfl
      · rfl
    · contradiction
  · contradiction
  · contradiction

theorem endOfInput_eq_none (isOpen : OpenHalf half) : half.endOfInput = none := by
  cases stepped : half.endOfInput with
  | none => rfl
  | some next =>
      unfold RelayHalf.endOfInput at stepped
      split at stepped
      · rename_i finished
        rw [isOpen.unfinished] at finished
        contradiction
      · contradiction

theorem select_eq_none (outgoing : OpenHalf relayed.outgoing)
    (incoming : OpenHalf relayed.incoming) : relayed.select = none := by
  unfold RelayState.select
  split
  · rename_i done
    have working := outgoing.working
    rw [done] at working
    contradiction
  · rename_i done _
    have working := incoming.working
    rw [done] at working
    contradiction
  · rfl

/-- A relay between open streams. -/
structure OpenRelay (relayed : RelayState) : Prop where
  running : relayed.returned = false
  outgoing : OpenHalf relayed.outgoing
  incoming : OpenHalf relayed.incoming

theorem OpenRelay.onHalf {direction : RelayDirection} {advance : RelayHalf → Option RelayHalf}
    (isOpen : OpenRelay relayed)
    (advances : ∀ {half next}, OpenHalf half → advance half = some next → StaysOpen half next)
    (stepped : relayed.onHalf direction advance = some after) :
    OpenRelay after ∧ after.outgoing.output.finished = relayed.outgoing.output.finished := by
  cases direction with
  | outgoing =>
      obtain ⟨half, advanced, rfl⟩ := Option.map_eq_some_iff.mp stepped
      obtain ⟨stays, output⟩ := advances isOpen.outgoing advanced
      exact ⟨⟨isOpen.running, stays, isOpen.incoming⟩, output⟩
  | incoming =>
      obtain ⟨half, advanced, rfl⟩ := Option.map_eq_some_iff.mp stepped
      obtain ⟨stays, -⟩ := advances isOpen.incoming advanced
      exact ⟨⟨isOpen.running, isOpen.outgoing, stays⟩, rfl⟩

/-- A relay between open streams does not end unless a write fails. -/
theorem OpenRelay.step {bufferSize : Nat} {action : RelayAction} (isOpen : OpenRelay relayed)
    (works : action ≠ .writeFails)
    (stepped : Forward.relay bufferSize relayed action = some after) :
    OpenRelay after ∧ after.outgoing.output.finished = relayed.outgoing.output.finished := by
  unfold Forward.relay at stepped
  split at stepped
  · contradiction
  · exact isOpen.onHalf staysOpen_of_read stepped
  · exact isOpen.onHalf staysOpen_of_write stepped
  · refine isOpen.onHalf ?_ stepped
    intro half next halfOpen ended
    rw [endOfInput_eq_none halfOpen] at ended
    contradiction
  · contradiction
  · rw [select_eq_none isOpen.outgoing isOpen.incoming] at stepped
    contradiction

end Halves

namespace StreamState

variable {config : StreamConfig} {state next : StreamState} {side : Side}

/-! ## Steady streams -/

/-- Everything is open and at work. -/
structure IsSteady (state : StreamState) : Prop where
  running : ∀ side, state.tunnel.returned side = false
  connected : state.lost = false
  served : state.stage ≠ .refused
  sending : ∀ side, atWork (state.tunnel.lane side).sender = true
  receiving : ∀ side, atWork (state.tunnel.lane side).receiver = true
  unfinished : ∀ side, (state.tunnel.lane side).source.finished = false ∧
    (state.tunnel.lane side).stream.finished = false

theorem isSteady_opened (config : StreamConfig) : (opened config).IsSteady where
  running _ := rfl
  connected := rfl
  served := nofun
  sending _ := rfl
  receiving _ := rfl
  unfinished _ := ⟨rfl, rfl⟩

theorem IsSteady.openRelay (steady : state.IsSteady) (side : Side) :
    OpenRelay (state.tunnel.relayView side) where
  running := steady.running side
  outgoing := ⟨steady.sending side, (steady.unfinished side).1⟩
  incoming := ⟨steady.receiving side.other, (steady.unfinished side.other).2⟩

theorem IsSteady.putRelay {relay : RelayState} (steady : state.IsSteady) (isOpen : OpenRelay relay)
    (output : relay.outgoing.output.finished = false) :
    (state.putRelay side relay).IsSteady := by
  refine ⟨fun lane => ?_, steady.connected, steady.served, fun lane => ?_, fun lane => ?_,
    fun lane => ?_⟩
  · rcases Side.eq_or_eq_other lane side with rfl | rfl
    · simpa [StreamState.putRelay] using isOpen.running
    · simpa [StreamState.putRelay] using steady.running _
  · rcases Side.eq_or_eq_other lane side with rfl | rfl
    · simpa [StreamState.putRelay] using isOpen.outgoing.working
    · simpa [StreamState.putRelay] using steady.sending _
  · rcases Side.eq_or_eq_other lane side with rfl | rfl
    · simpa [StreamState.putRelay] using steady.receiving _
    · simpa [StreamState.putRelay] using isOpen.incoming.working
  · rcases Side.eq_or_eq_other lane side with rfl | rfl
    · simpa [StreamState.putRelay] using ⟨isOpen.outgoing.unfinished, output⟩
    · simpa [StreamState.putRelay] using
        ⟨(steady.unfinished _).1, isOpen.incoming.unfinished⟩

theorem IsSteady.relay {action : RelayAction} (steady : state.IsSteady)
    (stepped : state.relay config side action = some next) : next.IsSteady := by
  obtain ⟨-, permitted, relayed, ran, rfl⟩ := relay_eq_some stepped
  have works : action ≠ .writeFails := by
    rintro rfl
    rcases permitted with gone | lost
    · rw [steady.running] at gone
      contradiction
    · rw [steady.connected] at lost
      contradiction
  obtain ⟨isOpen, output⟩ := (steady.openRelay side).step works ran
  exact steady.putRelay isOpen (output.trans (steady.unfinished side).2)

/-- A direction changes what it holds, not whether it is open. -/
theorem IsSteady.setLane {lane : Lane} (steady : state.IsSteady)
    (sender : lane.sender = (state.tunnel.lane side).sender)
    (receiver : lane.receiver = (state.tunnel.lane side).receiver)
    (source : lane.source.finished = (state.tunnel.lane side).source.finished)
    (stream : lane.stream.finished = (state.tunnel.lane side).stream.finished) :
    (state.setLane side lane).IsSteady := by
  have own : ((state.setLane side lane).tunnel.lane side) = lane :=
    TunnelState.lane_setLane_self _ _ _
  have other : ((state.setLane side lane).tunnel.lane side.other) =
      state.tunnel.lane side.other :=
    TunnelState.lane_setLane_other _ _ _
  refine ⟨steady.running, steady.connected, steady.served, fun each => ?_, fun each => ?_,
    fun each => ?_⟩
  · rcases Side.eq_or_eq_other each side with rfl | rfl
    · rw [own, sender]
      exact steady.sending _
    · rw [other]
      exact steady.sending _
  · rcases Side.eq_or_eq_other each side with rfl | rfl
    · rw [own, receiver]
      exact steady.receiving _
    · rw [other]
      exact steady.receiving _
  · rcases Side.eq_or_eq_other each side with rfl | rfl
    · rw [own, source, stream]
      exact steady.unfinished _
    · rw [other]
      exact steady.unfinished _

theorem IsSteady.of_tunnel (steady : state.IsSteady) (tunnel : next.tunnel = state.tunnel)
    (lost : next.lost = state.lost) (served : next.stage ≠ .refused) : next.IsSteady where
  running := tunnel ▸ steady.running
  connected := lost.trans steady.connected
  served := served
  sending := tunnel ▸ steady.sending
  receiving := tunnel ▸ steady.receiving
  unfinished := tunnel ▸ steady.unfinished

theorem IsSteady.step {action : StreamAction} (steady : state.IsSteady)
    (sound : state.Sound config) (granted : config.Granted) (quiet : action.Steady)
    (stepped : step config state action = some next) : next.IsSteady := by
  cases action with
  | send side data =>
      obtain ⟨-, unfinished, rfl⟩ := send_cases stepped
      exact steady.setLane rfl rfl unfinished.symm rfl
  | announce count =>
      obtain ⟨-, rfl⟩ := announce_cases stepped
      have kept : (state.setLane .near { state.tunnel.lane .near with
          stream := { (state.tunnel.lane .near).stream with
            bytes := (state.tunnel.lane .near).stream.bytes ++
              state.announcing.take count } }).IsSteady :=
        steady.setLane rfl rfl rfl rfl
      exact kept.of_tunnel rfl rfl steady.served
  | stopAnnouncing =>
      obtain ⟨gone | lost, -⟩ := stopAnnouncing_cases stepped
      · rw [steady.running] at gone
        contradiction
      · rw [steady.connected] at lost
        contradiction
  | header =>
      obtain ⟨-, -, rest, -, outcome⟩ := sound.readHeader_cases stepped
      rw [config.targetOf_header.1 granted] at outcome
      cases outcome
      have kept : (state.unread rest).IsSteady := steady.setLane rfl rfl rfl rfl
      exact kept.of_tunnel rfl rfl nofun
  | connect =>
      obtain ⟨target, -, rfl⟩ := connect_cases stepped
      exact { steady with served := nofun }
  | relay side action => exact steady.relay stepped
  | halfClose side => exact quiet.elim
  | reset side => exact quiet.elim
  | abandon => exact quiet.elim
  | refuseBytes side => exact quiet.elim
  | lose kept => exact quiet.elim

/-! ## What the programs do by themselves -/

/-- The programs alone get from one state to the other. -/
def Reaches (config : StreamConfig) (state next : StreamState) : Prop :=
  ∃ actions, (∀ action ∈ actions, action.Progress) ∧ run (step config) state actions = some next

theorem Reaches.refl (state : StreamState) : Reaches config state state :=
  ⟨[], List.forall_mem_nil _, rfl⟩

theorem Reaches.trans {later : StreamState} (first : Reaches config state next)
    (second : Reaches config next later) : Reaches config state later := by
  obtain ⟨front, frontMoves, frontRun⟩ := first
  obtain ⟨back, backMoves, backRun⟩ := second
  refine ⟨front ++ back, ?_, run_append_eq_some.mpr ⟨next, frontRun, backRun⟩⟩
  intro action member
  rcases List.mem_append.mp member with early | late
  · exact frontMoves action early
  · exact backMoves action late

theorem Reaches.of_step {action : StreamAction} (progress : action.Progress)
    (stepped : step config state action = some next) : Reaches config state next :=
  ⟨[action], List.forall_mem_singleton.mpr progress, run_cons_eq_some.mpr ⟨next, stepped, rfl⟩⟩

/-- A stream that nothing happened to. -/
structure Healthy (config : StreamConfig) (state : StreamState) : Prop where
  sound : state.Sound config
  steady : state.IsSteady

theorem Healthy.step {action : StreamAction} (healthy : Healthy config state)
    (granted : config.Granted) (quiet : action.Steady)
    (stepped : step config state action = some next) : Healthy config next where
  sound := healthy.sound.step stepped
  steady := healthy.steady.step healthy.sound granted quiet stepped

/-- A healthy stream that has to deliver what was sent up to `start`. -/
structure Flowing (config : StreamConfig) (start state : StreamState) : Prop
    extends Healthy config state where
  sent : ∀ lane, (state.tunnel.lane lane).sent = (start.tunnel.lane lane).sent

theorem sent_putRelay (relay : RelayState) (lane : Side) :
    ((state.putRelay side relay).tunnel.lane lane).sent = (state.tunnel.lane lane).sent := by
  rcases Side.eq_or_eq_other lane side with rfl | rfl
  · simp [putRelay]
  · simp [putRelay]

/-- Only endpoints send. -/
theorem sent_of_progress {action : StreamAction} (sound : state.Sound config)
    (granted : config.Granted) (progress : action.Progress)
    (stepped : step config state action = some next) (lane : Side) :
    (next.tunnel.lane lane).sent = (state.tunnel.lane lane).sent := by
  cases action with
  | announce count =>
      obtain ⟨-, rfl⟩ := announce_cases stepped
      cases lane with
      | near => rfl
      | far => rfl
  | header =>
      obtain ⟨-, -, rest, -, outcome⟩ := sound.readHeader_cases stepped
      rw [config.targetOf_header.1 granted] at outcome
      cases outcome
      cases lane with
      | near => rfl
      | far => rfl
  | connect =>
      obtain ⟨target, -, rfl⟩ := connect_cases stepped
      rfl
  | relay side action =>
      obtain ⟨-, -, relayed, -, rfl⟩ := relay_eq_some stepped
      exact sent_putRelay relayed lane
  | send side data => contradiction
  | halfClose side => contradiction
  | reset side => contradiction
  | stopAnnouncing => contradiction
  | abandon => contradiction
  | refuseBytes side => contradiction
  | lose kept => contradiction

theorem Flowing.reaches {start : StreamState} (flowing : Flowing config start state)
    (granted : config.Granted) (reached : Reaches config state next) :
    Flowing config start next := by
  obtain ⟨actions, progress, executed⟩ := reached
  have met : Along (step config) (fun _ action => action.Progress) state actions :=
    along_of_forall_mem fun action member _ => progress action member
  refine run_invariant_along ?_ flowing met executed
  intro state action next flowing progress stepped
  refine ⟨flowing.toHealthy.step granted progress.steady stepped, fun lane => ?_⟩
  exact (sent_of_progress flowing.sound granted progress stepped lane).trans (flowing.sent lane)

/-! ## Coming to rest -/

/-- No relay can take another step. -/
def AtRest (config : StreamConfig) (state : StreamState) : Prop :=
  ∀ side action, action ≠ .writeFails → state.relay config side action = none

/-- A relay step within the tunnel. -/
theorem relayStep_of_relay {action : RelayAction} (works : action ≠ .writeFails)
    (stepped : state.relay config side action = some next) :
    state.tunnel.relayStep config.forwarded.forwarding side action = some next.tunnel := by
  unfold StreamState.relay at stepped
  split at stepped
  · obtain ⟨relayed, ran, rfl⟩ := Option.map_eq_some_iff.mp stepped
    unfold TunnelState.relayStep
    split
    · contradiction
    · exact Option.map_eq_some_iff.mpr ⟨relayed, ran, rfl⟩
  · contradiction

/-- Both sides are where they were in the setup of the stream. -/
def SameSetup (state next : StreamState) : Prop :=
  next.announcing = state.announcing ∧ next.stage = state.stage

/-- The relays come to rest, and change neither side's place in the setup. -/
theorem exists_atRest (config : StreamConfig) (state : StreamState) :
    ∃ next, Reaches config state next ∧ next.AtRest config ∧ SameSetup state next := by
  have decreases : ∀ {state : StreamState} {action next},
      (∃ side relayed, action = .relay side relayed ∧ relayed ≠ .writeFails) →
        step config state action = some next → next.tunnel.work < state.tunnel.work := by
    rintro state action next ⟨side, relayed, rfl, works⟩ stepped
    exact TunnelState.work_relayStep (relayStep_of_relay works stepped)
  obtain ⟨actions, next, relays, executed, rest⟩ := exists_quiescent decreases state
  have met : Along (step config)
      (fun _ action => ∃ side relayed, action = .relay side relayed ∧ relayed ≠ .writeFails)
      state actions :=
    along_of_forall_mem fun action member _ => relays action member
  refine ⟨next, ⟨actions, ?_, executed⟩, fun side action works => rest _ ⟨side, action, rfl, works⟩,
    ?_⟩
  · intro action member
    obtain ⟨side, relayed, rfl, works⟩ := relays action member
    exact works
  · have same : SameSetup state state := ⟨rfl, rfl⟩
    refine run_invariant_along ?_ same met executed
    rintro reached action later ⟨announcing, stage⟩ ⟨side, relayed, rfl, -⟩ stepped
    obtain ⟨-, -, relay, -, rfl⟩ := relay_eq_some stepped
    exact ⟨announcing, stage⟩

/-- A steady relay at rest holds nothing. -/
theorem IsSteady.idle (steady : state.IsSteady) (rest : state.AtRest config)
    (relays : state.Relays side) :
    ((state.tunnel.lane side).sender.hand = [] ∧ (state.tunnel.lane side).source.bytes = []) ∧
      ((state.tunnel.lane side.other).receiver.hand = [] ∧
        (state.tunnel.lane side.other).stream.bytes = []) := by
  have stuck : ∀ action, action ≠ .writeFails →
      Forward.relay (256 * 1024) (state.tunnel.relayView side) action = none := by
    intro action works
    have permitted : state.Permits side action := by
      cases action with
      | writeFails => contradiction
      | write direction count =>
          cases direction with
          | outgoing => exact steady.connected
          | incoming => trivial
      | read direction count => trivial
      | endOfInput direction => trivial
      | select => trivial
    have disabled := rest side action works
    rw [StreamState.relay, if_pos ⟨relays, permitted⟩, Option.map_eq_none_iff,
      TunnelState.relayAt_eq] at disabled
    exact disabled
  exact idle_of_relay_stuck (by decide) (steady.running side) stuck

/-- Once nothing is inside a direction, all of it was delivered. -/
theorem Flowing.delivered {start : StreamState} (flowing : Flowing config start state)
    (side : Side) (announced : state.toAnnounce side = [])
    (sender : (state.tunnel.lane side).sender.hand = [] ∧
      (state.tunnel.lane side).source.bytes = [])
    (receiver : (state.tunnel.lane side).receiver.hand = [] ∧
      (state.tunnel.lane side).stream.bytes = []) :
    state.taken config side ++ (state.tunnel.lane side).sink.bytes =
      StreamState.announced config side ++ (start.tunnel.lane side).sent := by
  have underway : (state.passage config side).underway = [] := by
    simp [passage, receiver.1, receiver.2]
  have waiting : (state.passage config side).waiting = [] := by
    simp [passage, announced, sender.1, sender.2]
  have sending : (state.passage config side).sending = true := by
    simp [passage, flowing.steady.sending side, flowing.steady.connected]
  have accepting : (state.passage config side).accepting = true := by
    simp [passage, (flowing.steady.unfinished side).1]
  have all := (flowing.sound.passage side).delivered_eq (flowing.steady.receiving side) sending
    accepting underway waiting
  rw [← flowing.sent side]
  exact all

/-- The opener writes all it has to write in front of its relay. -/
theorem IsSteady.exists_announced (steady : state.IsSteady) :
    ∃ next, Reaches config state next ∧ next.announcing = [] := by
  by_cases done : state.announcing = []
  · exact ⟨state, Reaches.refl state, done⟩
  · have allowed : state.tunnel.returned .near = false ∧ state.lost = false ∧
        0 < state.announcing.length ∧ state.announcing.length ≤ state.announcing.length :=
      ⟨steady.running .near, steady.connected, List.length_pos_iff.mpr done, Nat.le_refl _⟩
    have stepped : StreamState.step config state (.announce state.announcing.length) = some _ :=
      if_pos allowed
    have progress : (StreamAction.announce state.announcing.length).Progress := trivial
    exact ⟨_, Reaches.of_step progress stepped, List.drop_length⟩

/-- With the relay of the opener at rest, the header has arrived. -/
theorem Flowing.exists_header {start : StreamState} (flowing : Flowing config start state)
    (announced : state.announcing = []) (rest : state.AtRest config)
    (heading : state.stage = .heading) :
    ∃ next, step config state .header = some next := by
  have running := flowing.steady.running .far
  have unconnected : state.Unconnected := by
    intro target
    rw [heading]
    exact nofun
  have reading := flowing.sound.waits unconnected running
  obtain ⟨⟨hand, source⟩, -⟩ := flowing.steady.idle rest (show state.Relays .near from announced)
  have sending : (state.passage config .near).sending = true := by
    simp [passage, flowing.steady.sending .near, flowing.steady.connected]
  have accepting : (state.passage config .near).accepting = true := by
    simp [passage, (flowing.steady.unfinished .near).1]
  have whole := (flowing.sound.passage .near).complete (flowing.steady.receiving .near) sending
    accepting
  have arrived : (state.tunnel.lane .near).stream.bytes = config.headerBytes ++
      (config.forwarded.setupBlock ++ (state.tunnel.lane .near).sent) := by
    have none : RelayTask.reading.hand = [] := rfl
    simpa [Passage.content, passage, taken, heading, (flowing.sound.untouched unconnected).1,
      reading, none, toAnnounce, announced, hand, source, StreamState.announced] using whole
  have polled := pollEnvelope_write config.headerFits
    (config.forwarded.setupBlock ++ (state.tunnel.lane .near).sent)
  rw [step, readHeader, running, heading, arrived, StreamConfig.headerBytes, List.cons_append]
  simp only [if_true]
  rw [polled]
  simp only [UdpStream.headerEnvelope]
  cases config.targetOf config.forwarded.header with
  | some target => exact ⟨_, rfl⟩
  | none => exact ⟨_, rfl⟩

/-- The far side gets to its relay. -/
theorem Flowing.exists_relaying {start : StreamState} (flowing : Flowing config start state)
    (granted : config.Granted) :
    ∃ next, Reaches config state next ∧ next.announcing = [] ∧
      next.stage = .relaying config.forwarded.asked := by
  obtain ⟨written, writes, announced⟩ := flowing.steady.exists_announced
  obtain ⟨rested, rests, rest, setup⟩ := exists_atRest config written
  have announced : rested.announcing = [] := setup.1.trans announced
  have here : Reaches config state rested := writes.trans rests
  have flowing : Flowing config start rested := flowing.reaches granted here
  have target : ∀ target, rested.stage = .connecting target ∨ rested.stage = .relaying target →
      target = config.forwarded.asked := by
    intro target served
    have found := flowing.sound.target target served
    rw [config.targetOf_header.1 granted] at found
    cases found
    rfl
  have connects : ∀ {connecting : StreamState}, Reaches config state connecting →
      Flowing config start connecting → connecting.announcing = [] →
        connecting.stage = .connecting config.forwarded.asked →
          ∃ next, Reaches config state next ∧ next.announcing = [] ∧
            next.stage = .relaying config.forwarded.asked := by
    intro connecting reached flowing announced stage
    have stepped : step config connecting .connect =
        some { connecting with stage := .relaying config.forwarded.asked } := by
      rw [step, connect, flowing.steady.running .far, stage]
    have progress : StreamAction.connect.Progress := trivial
    exact ⟨_, reached.trans (Reaches.of_step progress stepped), announced, rfl⟩
  cases stage : rested.stage with
  | heading =>
      obtain ⟨read, stepped⟩ := flowing.exists_header announced rest stage
      have progress : StreamAction.header.Progress := trivial
      have reached := Reaches.of_step progress stepped
      obtain ⟨-, -, rest, -, outcome⟩ := flowing.sound.readHeader_cases stepped
      rw [config.targetOf_header.1 granted] at outcome
      refine connects (here.trans reached) (flowing.reaches granted reached) ?_ ?_
      · rw [outcome]
        exact announced
      · rw [outcome]
  | refused => exact absurd stage flowing.steady.served
  | connecting found =>
      rw [target found (Or.inl stage)] at stage
      exact connects here flowing announced stage
  | relaying found =>
      rw [target found (Or.inr stage)] at stage
      exact ⟨rested, here, announced, stage⟩

/-- All that was sent gets delivered. -/
theorem Healthy.exists_delivered (healthy : Healthy config state) (granted : config.Granted) :
    ∃ drained, Reaches config state drained ∧
      drained.stage = .relaying config.forwarded.asked ∧
      (drained.tunnel.lane .near).sink.bytes =
        config.forwarded.setupBlock ++ (state.tunnel.lane .near).sent ∧
      (drained.tunnel.lane .far).sink.bytes = (state.tunnel.lane .far).sent := by
  have flowing : Flowing config state state := ⟨healthy, fun _ => rfl⟩
  obtain ⟨relaying, connects, announced, stage⟩ := flowing.exists_relaying granted
  obtain ⟨drained, drains, rest, setup⟩ := exists_atRest config relaying
  have announced : drained.announcing = [] := setup.1.trans announced
  have stage : drained.stage = .relaying config.forwarded.asked := setup.2.trans stage
  have reached := connects.trans drains
  have flowing := flowing.reaches granted reached
  have near := flowing.steady.idle rest (show drained.Relays .near from announced)
  have far := flowing.steady.idle rest (show drained.Relays .far from ⟨_, stage⟩)
  refine ⟨drained, reached, stage, ?_, ?_⟩
  · have all := flowing.delivered .near announced near.1 far.2
    have taken : drained.taken config .near = config.headerBytes := by
      simp [StreamState.taken, stage]
    rw [taken, StreamState.announced, List.append_assoc] at all
    exact List.append_cancel_left all
  · exact flowing.delivered .far rfl far.1 near.2

/-! ## Whole runs -/

/-- The header stays on the far side. -/
theorem Sound.sink_begins (sound : state.Sound config) :
    (state.tunnel.lane .near).sink.bytes <+:
      config.forwarded.setupBlock ++ (state.tunnel.lane .near).sent := by
  by_cases relaying : ∃ target, state.stage = .relaying target
  · obtain ⟨target, relaying⟩ := relaying
    have front := (sound.passage .near).delivered
    have taken : state.taken config .near = config.headerBytes := by
      simp [StreamState.taken, relaying]
    simp only [StreamState.passage, taken, announced, List.append_assoc] at front
    exact (List.prefix_append_right_inj _).mp front
  · have unconnected : state.Unconnected := fun target stage => relaying ⟨target, stage⟩
    rw [(sound.untouched unconnected).1]
    exact List.nil_prefix

/-- **A forwarded connection carries bytes as a connection does.** However the
reads, the writes, the connection and both endpoints behave, what either
endpoint was written begins what the other sent, without the header and with the
setup block in front. Nothing but what the opener asked for is connected to,
only if it is granted; else nothing gets through. As long as nothing breaks and
nobody ends a direction, the programs can deliver all that was sent. -/
theorem stream_forwarded {actions : List StreamAction} {final : StreamState}
    (executed : run (step config) (opened config) actions = some final) :
    (final.tunnel.lane .near).sink.bytes <+:
        config.forwarded.setupBlock ++ (final.tunnel.lane .near).sent ∧
      (final.tunnel.lane .far).sink.bytes <+: (final.tunnel.lane .far).sent ∧
      (∀ target, final.stage = .connecting target ∨ final.stage = .relaying target →
        config.Granted ∧ target = config.forwarded.asked) ∧
      (¬ config.Granted → (final.tunnel.lane .near).sink.bytes = [] ∧
        (final.tunnel.lane .far).sent = []) ∧
      (config.Granted → (∀ action ∈ actions, action.Steady) →
        ∃ drained, Reaches config final drained ∧
          drained.stage = .relaying config.forwarded.asked ∧
          (drained.tunnel.lane .near).sink.bytes =
            config.forwarded.setupBlock ++ (final.tunnel.lane .near).sent ∧
          (drained.tunnel.lane .far).sink.bytes = (final.tunnel.lane .far).sent) := by
  have sound : final.Sound config :=
    run_invariant (fun sound stepped => Sound.step sound stepped) (sound_opened config) executed
  have target : ∀ target, final.stage = .connecting target ∨ final.stage = .relaying target →
      config.Granted ∧ target = config.forwarded.asked := by
    intro target stage
    have found := sound.target target stage
    by_cases granted : config.Granted
    · rw [config.targetOf_header.1 granted] at found
      cases found
      exact ⟨granted, rfl⟩
    · rw [config.targetOf_header.2 granted] at found
      contradiction
  refine ⟨sound.sink_begins, (sound.passage .far).delivered, target, fun denied => ?_,
    fun granted quiet => ?_⟩
  · exact sound.untouched fun found relaying => denied (target found (Or.inr relaying)).1
  · have met : Along (step config) (fun _ action => action.Steady) (opened config) actions :=
      along_of_forall_mem fun action member _ => quiet action member
    have start : Healthy config (opened config) := ⟨sound_opened config, isSteady_opened config⟩
    have healthy : Healthy config final :=
      run_invariant_along (fun healthy quiet stepped => Healthy.step healthy granted quiet stepped)
        start met executed
    exact healthy.exists_delivered granted

/-- A web server behind the client, reached through a reverse forward. -/
def webServer : StreamConfig where
  forwarded := .reverseTcp ⟨none, 8080, "web", 80, .tcp⟩
  x11Enabled := false
  reverseSpecs := [⟨none, 8080, "web", 80, .tcp⟩]
  order := .ascending UInt32 UInt64
  headerFits := by
    show (Envelope.encode _ _).length ≤ maxMessageBytes
    decide

/-- A request that arrives while the header is on its way, and its response. -/
def request : List StreamAction :=
  [.send .near [1, 2, 3], .announce 5, .announce 11, .relay .near (.read .outgoing 2), .header,
    .connect, .send .far [9], .relay .near (.write .outgoing 1)]

theorem request_forwarded :
    ∃ final drained, run (step webServer) (opened webServer) request = some final ∧
      Reaches webServer final drained ∧ drained.stage = .relaying (.tcp "web:80") ∧
      (drained.tunnel.lane .near).sink.bytes = [1, 2, 3] ∧
      (drained.tunnel.lane .far).sink.bytes = [9] := by
  have sent : (run (step webServer) (opened webServer) request).any (fun final =>
      decide ((final.tunnel.lane .near).sent = [1, 2, 3] ∧
        (final.tunnel.lane .far).sent = [9])) = true := by
    decide +kernel
  obtain ⟨final, executed, sent⟩ := (Option.any_eq_true _ _).mp sent
  obtain ⟨near, far⟩ := of_decide_eq_true sent
  have granted : webServer.Granted := ⟨_, List.mem_cons_self, rfl, rfl, rfl⟩
  have quiet : ∀ action ∈ request, action.Steady := by
    simp [request, StreamAction.Steady]
  obtain ⟨-, -, -, -, delivers⟩ := stream_forwarded executed
  obtain ⟨drained, reached, stage, nearSink, farSink⟩ := delivers granted quiet
  rw [near] at nearSink
  rw [far] at farSink
  exact ⟨final, drained, executed, reached, stage, nearSink, farSink⟩

end StreamState

end Etr.System
