import Etr.Server.Authentication
import Etr.Server.AcceptLoop

/-!
Contract: what the server says to one connection.

Owns the protocol of the server's half of a connection as an automaton of its
own, the simulation of the accept loop by it, and what a client that reads the
control stream to its end finds there.

Does not own what the client sends.
-/

namespace Etr.Server

open Etr.Library Etr.Session Etr.Wire

/-! ## The protocol -/

/-- One thing the server writes to a client: a message on the control stream or
a chunk on the PTY stream. -/
inductive ServerItem where
  | control (message : ServerMessage)
  | pty (chunk : Chunk)

/-- How far the server's half of a connection has come. -/
inductive ServerPhase where
  /-- The session is not accepted yet. -/
  | unopened
  | established
  /-- `Disconnect` was written. -/
  | closed
deriving DecidableEq, Repr

/-- What may be written when: `SessionAccept` first, then heartbeats, and
nothing on the control stream behind a `Disconnect`. -/
def ServerPhase.step : ServerPhase → ServerItem → Option ServerPhase
  | .unopened, .control (.sessionAccept _) => some .established
  | .established, .control (.ctrl (.heartbeat _)) => some .established
  | .established, .control (.ctrl .disconnect) => some .closed
  | .established, .pty _ => some .established
  | .closed, .pty _ => some .closed
  | _, _ => none

/-- The server's half of one connection, with everything written to it. -/
structure Conversation where
  phase : ServerPhase
  items : List ServerItem

def Conversation.init : Conversation := ⟨.unopened, []⟩

def Conversation.step (conversation : Conversation) (item : ServerItem) :
    Option Conversation :=
  (conversation.phase.step item).map fun phase => ⟨phase, conversation.items ++ [item]⟩

namespace ServerItem

/-- The bytes of an item. -/
def bytes (messageBody : ServerMessage → List UInt8) : ServerItem → SentBytes
  | .control message => .control (writeMsg messageBody message)
  | .pty chunk => .pty (writePtyChunk chunk)

def control? : ServerItem → Option ServerMessage
  | .control message => some message
  | .pty _ => none

/-- The shell's exit, as the client is told. -/
def goodbye : ServerItem := .control (.ctrl .disconnect)

end ServerItem

/-- Heartbeats with these acknowledgements. -/
def ServerMessage.heartbeats (beats : List WatermarkMap) : List ServerMessage :=
  beats.map fun beat => .ctrl (.heartbeat beat)

/-- The control messages of a conversation, by its phase. -/
def ServerPhase.Script (messages : List ServerMessage) : ServerPhase → Prop
  | .unopened => messages = []
  | .established => ∃ accepted beats,
      messages = .sessionAccept accepted :: ServerMessage.heartbeats beats
  | .closed => ∃ accepted beats,
      messages =
        .sessionAccept accepted :: (ServerMessage.heartbeats beats ++ [.ctrl .disconnect])

namespace Conversation

variable {conversation next : Conversation} {item : ServerItem} {items : List ServerItem}

theorem step_eq_some : conversation.step item = some next ↔
    conversation.phase.step item = some next.phase ∧
      next.items = conversation.items ++ [item] := by
  obtain ⟨phase, said⟩ := next
  simp only [step, Option.map_eq_some_iff, Conversation.mk.injEq]
  constructor
  · rintro ⟨_, stepped, rfl, rfl⟩
    exact ⟨stepped, rfl⟩
  · rintro ⟨stepped, rfl⟩
    exact ⟨phase, stepped, rfl, rfl⟩

theorem run_eq_some_of_phase {phase : ServerPhase}
    (executed : run ServerPhase.step conversation.phase items = some phase) :
    run step conversation items = some ⟨phase, conversation.items ++ items⟩ := by
  induction items generalizing conversation with
  | nil =>
      rw [run_nil, Option.some.injEq] at executed
      rw [run_nil, List.append_nil, ← executed]
  | cons item rest inductionHypothesis =>
      obtain ⟨middle, stepped, tailRun⟩ := run_cons_eq_some.mp executed
      have first : conversation.step item = some ⟨middle, conversation.items ++ [item]⟩ :=
        step_eq_some.mpr ⟨stepped, rfl⟩
      rw [run_cons_eq_some]
      refine ⟨_, first, ?_⟩
      rw [List.append_cons conversation.items item rest]
      exact inductionHypothesis tailRun

/-- One more item keeps the control messages of a conversation in their order. -/
theorem script_step (script : conversation.phase.Script (conversation.items.filterMap
      ServerItem.control?)) (stepped : conversation.step item = some next) :
    next.phase.Script (next.items.filterMap ServerItem.control?) := by
  obtain ⟨allowed, said⟩ := step_eq_some.mp stepped
  rw [said, List.filterMap_append]
  obtain ⟨phase, items⟩ := conversation
  obtain ⟨nextPhase, nextItems⟩ := next
  cases phase with
  | unopened =>
      obtain ⟨accepted, rfl⟩ : ∃ accepted, item = .control (.sessionAccept accepted) := by
        rcases item with (accepted | ctrl) | chunk
        · exact ⟨accepted, rfl⟩
        · contradiction
        · contradiction
      cases allowed
      have silent : items.filterMap ServerItem.control? = [] := script
      exact ⟨accepted, [], by rw [silent]; rfl⟩
  | established =>
      obtain ⟨accepted, beats, spoken⟩ := script
      rcases item with (again | (beat | _)) | chunk
      · contradiction
      · cases allowed
        refine ⟨accepted, beats ++ [beat], ?_⟩
        rw [spoken, ServerMessage.heartbeats, ServerMessage.heartbeats, List.map_append]
        rfl
      · cases allowed
        exact ⟨accepted, beats, by rw [spoken]; rfl⟩
      · cases allowed
        exact ⟨accepted, beats, by rw [spoken]; exact List.append_nil _⟩
  | closed =>
      obtain ⟨accepted, beats, spoken⟩ := script
      rcases item with message | chunk
      · cases message <;> contradiction
      · cases allowed
        exact ⟨accepted, beats, by rw [spoken]; exact List.append_nil _⟩

/-- Nothing leads back to a connection that is not accepted. -/
theorem phase_ne_unopened (stepped : conversation.step item = some next) :
    next.phase ≠ .unopened := by
  obtain ⟨allowed, -⟩ := step_eq_some.mp stepped
  intro unopened
  rw [unopened] at allowed
  obtain ⟨phase, said⟩ := conversation
  cases phase with
  | unopened => rcases item with (_ | (_ | _)) | _ <;> simp [ServerPhase.step] at allowed
  | established => rcases item with (_ | (_ | _)) | _ <;> simp [ServerPhase.step] at allowed
  | closed => rcases item with (_ | (_ | _)) | _ <;> simp [ServerPhase.step] at allowed

structure Scripted (conversation : Conversation) : Prop where
  /-- The control messages are in order. -/
  ordered : conversation.phase.Script (conversation.items.filterMap ServerItem.control?)
  /-- Nothing at all is written to a connection that is not accepted. -/
  silent : conversation.phase = .unopened → conversation.items = []

theorem Scripted.step (scripted : conversation.Scripted)
    (stepped : conversation.step item = some next) : next.Scripted where
  ordered := script_step scripted.ordered stepped
  silent := fun unopened => absurd unopened (phase_ne_unopened stepped)

theorem scripted_init : init.Scripted where
  ordered := rfl
  silent := fun _ => rfl

theorem scripted_of_run (executed : run step init items = some conversation) :
    conversation.Scripted :=
  run_invariant (fun scripted stepped => Scripted.step scripted stepped) scripted_init executed

end Conversation

/-! ## What the loop has written to a connection -/

/-- Everything written to one connection, oldest first. -/
def SharedState.sentTo (id : Nat) (shared : SharedState) : List SentBytes :=
  shared.sent.filterMap fun entry => if entry.1 = id then some entry.2 else none

namespace SenderSlot

variable {α : Type} {capacity : Nat} {slot next : SenderSlot α capacity} {item : α}

/-- The receiver is gone. -/
def isClosed : SenderSlot α capacity → Bool
  | .vacant | .live _ => false
  | .closed => true

/-- The queue of the slot. -/
def queued : SenderSlot α capacity → List α
  | .vacant | .closed => []
  | .live channel => channel.items

theorem isClosed_of_send (sent : slot.send item = some next) :
    next.isClosed = slot.isClosed := by
  cases slot with
  | vacant => cases sent; rfl
  | live channel =>
      obtain ⟨queue, -, rfl⟩ := Option.map_eq_some_iff.mp sent
      rfl
  | closed => cases sent; rfl

theorem mem_queued_of_send {other : α} (sent : slot.send item = some next)
    (member : other ∈ next.queued) : other ∈ slot.queued ∨ other = item := by
  cases slot with
  | vacant => cases sent; contradiction
  | live channel =>
      obtain ⟨queue, appended, rfl⟩ := Option.map_eq_some_iff.mp sent
      have items := (Channel.trySend_eq_some.mp appended).2
      rw [queued, items] at member
      simpa [queued] using member
  | closed => cases sent; contradiction

@[simp] theorem isClosed_offer : (slot.offer item).isClosed = slot.isClosed := by
  cases slot <;> rfl

/-- What is received was in the queue of a live sender, which stays live. -/
theorem queued_of_recv (received : slot.recv = some (item, next)) :
    slot.queued = item :: next.queued ∧ slot.isClosed = false ∧ next.isClosed = false ∧
      next.close = .closed := by
  cases slot with
  | vacant => contradiction
  | live channel =>
      obtain ⟨⟨taken, rest⟩, found, same⟩ := Option.map_eq_some_iff.mp received
      cases same
      exact ⟨Channel.recv_eq_some.mp found, rfl, rfl, rfl⟩
  | closed => contradiction

end SenderSlot

theorem SharedState.sentTo_append {id : Nat} {shared : SharedState} {peer : Nat}
    {items : List ServerItem} {messageBody : ServerMessage → List UInt8}
    {sent : List (Nat × SentBytes)}
    (written : sent = shared.sent ++ items.map fun item => (peer, item.bytes messageBody)) :
    ({ shared with sent := sent } : SharedState).sentTo id =
      shared.sentTo id ++ if peer = id then items.map (ServerItem.bytes messageBody) else [] := by
  simp only [sentTo, written, List.filterMap_append, List.filterMap_map]
  congr 1
  split
  · rename_i same
    rw [← List.filterMap_eq_map]
    apply List.filterMap_congr
    intro item _
    simp [same]
  · rename_i other
    apply List.filterMap_eq_nil_iff.mpr
    intro item _
    simp [other]

/-! ## What each stage of a connection says -/

/-- Where the protocol is while `handle_connection` is at this stage, by
whether the control writer is gone. -/
def ConnStage.Expects (writerGone : Bool) (phase : ServerPhase) : ConnStage → Prop
  | .recordingLogin | .storingCookie | .collecting | .writingAccept _ _ => phase = .unopened
  | .activating _ | .listening _ _ | .publishingPty _ | .publishingCtrl _ =>
      phase = .established
  | .checkingFlag _ | .queueing _ | .awaitingPty => phase = .established ∧ writerGone = false
  | .serving _ => phase = if writerGone then .closed else .established

/-- What a stage writes to its peer, and what it leaves queued there. -/
structure ConnStage.Writes (config : ServerConfig) (peer : Peer) (shared : SharedState)
    (stage : ConnStage) (advanced : SharedState × Progress) (items : List ServerItem) :
    Prop where
  sent : advanced.1.sent =
    shared.sent ++ items.map fun item => (peer.id, item.bytes config.messageBody)
  follows : ∀ phase, stage.Expects shared.outboundCtrlTx.isClosed phase →
    ∃ later, run ServerPhase.step phase items = some later ∧
      ∀ next, advanced.2 = .proceed next → next.Expects advanced.1.outboundCtrlTx.isClosed later
  watcher : advanced.1.watcher = shared.watcher
  queued : CtrlEnvelope.disconnect ∈ advanced.1.outboundCtrlTx.queued →
    CtrlEnvelope.disconnect ∈ shared.outboundCtrlTx.queued ∨ shared.watcher.shellExited = true
  goodbye : ServerItem.goodbye ∈ items → CtrlEnvelope.disconnect ∈ shared.outboundCtrlTx.queued

namespace ConnStage

variable {config : ServerConfig} {peer : Peer} {so : Protocol.SessionOpen}
  {shared : SharedState} {stage : ConnStage} {advanced : SharedState × Progress}

/-- A stage that writes nothing and leaves the control slot alone. -/
theorem Writes.silent (sent : advanced.1.sent = shared.sent)
    (slot : advanced.1.outboundCtrlTx = shared.outboundCtrlTx)
    (watcher : advanced.1.watcher = shared.watcher)
    (expects : ∀ phase, stage.Expects shared.outboundCtrlTx.isClosed phase →
      ∀ next, advanced.2 = .proceed next → next.Expects shared.outboundCtrlTx.isClosed phase) :
    Writes config peer shared stage advanced [] where
  sent := by simp [sent]
  follows := fun phase expected => ⟨phase, rfl, by rw [slot]; exact expects phase expected⟩
  watcher := watcher
  queued := by
    rw [slot]
    exact Or.inl
  goodbye := fun member => absurd member List.not_mem_nil

/-- A stage that only moves on to one that expects the same. -/
theorem Writes.proceed {next : ConnStage} {moved : SharedState} (sent : moved.sent = shared.sent)
    (slot : moved.outboundCtrlTx = shared.outboundCtrlTx) (watcher : moved.watcher = shared.watcher)
    (expects : ∀ phase, stage.Expects shared.outboundCtrlTx.isClosed phase →
      next.Expects shared.outboundCtrlTx.isClosed phase) :
    Writes config peer shared stage (moved, .proceed next) [] := by
  apply Writes.silent sent slot watcher
  intro phase expected next' same
  cases same
  exact expects phase expected

/-- A stage that returns. -/
theorem Writes.finish {clean : Bool} : Writes config peer shared stage (shared, .finish clean) [] :=
  Writes.silent rfl rfl rfl fun _ _ _ same => nomatch same

/-- PTY chunks are written to accepted clients only. -/
theorem served_of_expects {input : InputReader} {writerGone : Bool} {phase : ServerPhase}
    (expected : (ConnStage.serving input).Expects writerGone phase) :
    phase = .closed ∨ phase = .established := by
  cases writerGone with
  | true => exact Or.inl expected
  | false => exact Or.inr expected

theorem writes_of_writeAccept {succeeded : Bool}
    (stepped : writeAccept config peer shared stage succeeded = some advanced) :
    ∃ items, Writes config peer shared stage advanced items := by
  rcases writeAccept_cases stepped with ⟨serverLast, replays, rfl, ⟨-, rfl⟩ | ⟨-, rfl⟩⟩
  · refine ⟨[.control (.sessionAccept serverLast)], rfl, ?_, rfl, Or.inl, ?_⟩
    · intro phase expected
      cases expected
      refine ⟨.established, rfl, ?_⟩
      intro next same
      cases same
      rfl
    · intro member
      cases List.mem_singleton.mp member
  · exact ⟨[], .finish⟩

/-- The new queue is empty, and its writer is there. -/
theorem writes_of_publishCtrl (stepped : publishCtrl shared stage = some advanced) :
    ∃ items, Writes config peer shared stage advanced items := by
  rcases publishCtrl_cases stepped with ⟨replays, rfl, rfl⟩
  refine ⟨[], by simp, ?_, rfl, fun member => absurd member List.not_mem_nil,
    fun member => absurd member List.not_mem_nil⟩
  intro phase expected
  refine ⟨phase, rfl, ?_⟩
  intro next same
  cases same
  exact ⟨expected, rfl⟩

/-- `Disconnect` is queued behind the exit of the shell. -/
theorem writes_of_checkFlag (stepped : checkFlag shared stage = some advanced) :
    ∃ items, Writes config peer shared stage advanced items := by
  rcases checkFlag_cases stepped with ⟨replays, rfl, ⟨exited, rfl⟩ | ⟨-, rfl⟩⟩
  · refine ⟨[], by simp, ?_, rfl, fun _ => Or.inr exited,
      fun member => absurd member List.not_mem_nil⟩
    intro phase expected
    refine ⟨phase, rfl, ?_⟩
    intro next same
    cases same
    exact ⟨expected.1, by rw [SenderSlot.isClosed_offer]; exact expected.2⟩
  · exact ⟨[], .proceed rfl rfl rfl fun _ expected => expected⟩

theorem writes_of_startServing (stepped : startServing shared stage = some advanced) :
    ∃ items, Writes config peer shared stage advanced items := by
  rcases startServing_cases stepped with ⟨rfl, rfl⟩
  refine ⟨[], .proceed rfl rfl rfl ?_⟩
  rintro phase ⟨established, writing⟩
  show phase = if shared.outboundCtrlTx.isClosed then .closed else .established
  simp [writing, established]

theorem writes_of_writePty (stepped : writePty peer shared stage = some advanced) :
    ∃ items, Writes config peer shared stage advanced items := by
  rcases writePty_cases stepped with ⟨input, chunk, slot, rfl, -, rfl⟩
  refine ⟨[.pty chunk], rfl, ?_, rfl, Or.inl, ?_⟩
  · intro phase expected
    refine ⟨phase, ?_, ?_⟩
    · rcases served_of_expects expected with rfl | rfl
      · rfl
      · rfl
    · intro next same
      cases same
      exact expected
  · intro member
    cases List.mem_singleton.mp member

theorem writes_of_sendHeartbeat (stepped : sendHeartbeat shared stage = some advanced) :
    ∃ items, Writes config peer shared stage advanced items := by
  rcases sendHeartbeat_cases stepped with ⟨input, slot, rfl, accepted, rfl⟩
  refine ⟨[], by simp, ?_, rfl, ?_, fun member => absurd member List.not_mem_nil⟩
  · intro phase expected
    refine ⟨phase, rfl, ?_⟩
    intro next same
    cases same
    show phase = if slot.isClosed then .closed else .established
    rw [SenderSlot.isClosed_of_send accepted]
    exact expected
  · intro member
    rcases SenderSlot.mem_queued_of_send accepted member with queued | same
    · exact Or.inl queued
    · cases same

/-- What is written was queued; behind a `Disconnect` the stream is closed. -/
theorem writes_of_writeCtrl (stepped : writeCtrl config peer shared stage = some advanced) :
    ∃ items, Writes config peer shared stage advanced items := by
  rcases writeCtrl_cases stepped with
    ⟨input, envelope, slot, rfl, received, left, said, rfl⟩
  obtain ⟨queued, writing, stays, shut⟩ := SenderSlot.queued_of_recv received
  have started : ∀ phase, (ConnStage.serving input).Expects
      shared.outboundCtrlTx.isClosed phase → phase = .established := by
    intro phase expected
    rw [writing] at expected
    exact expected
  rcases said with ⟨rfl, rfl⟩ | ⟨beat, rfl, rfl⟩
  · refine ⟨[ServerItem.goodbye], rfl, ?_, rfl, ?_, ?_⟩
    · intro phase expected
      cases started phase expected
      refine ⟨.closed, rfl, ?_⟩
      intro next same
      cases same
      show ServerPhase.closed = if slot.close.isClosed then .closed else .established
      rw [shut]
      rfl
    · intro member
      have shutQueue : slot.close.queued = [] := by
        rw [shut]
        rfl
      rw [shutQueue] at member
      contradiction
    · intro _
      rw [queued]
      exact List.mem_cons_self
  · refine ⟨[.control (.ctrl (.heartbeat beat))], rfl, ?_, rfl, ?_, ?_⟩
    · intro phase expected
      cases started phase expected
      refine ⟨.established, rfl, ?_⟩
      intro next same
      cases same
      show ServerPhase.established = if left.isClosed then .closed else .established
      rw [stays]
      rfl
    · intro member
      apply Or.inl
      rw [queued]
      exact List.mem_cons_of_mem _ member
    · intro member
      cases List.mem_singleton.mp member

theorem writes_of_step {action : ConnAction}
    (stepped : stage.step config peer so shared action = some advanced) :
    ∃ items, Writes config peer shared stage advanced items := by
  cases action with
  | loginRecorded =>
      rcases loginRecorded_cases stepped with ⟨rfl, -, rfl⟩
      exact ⟨[], .proceed rfl rfl rfl fun _ expected => expected⟩
  | storeCookie =>
      rcases storeCookie_cases stepped with ⟨rfl, ⟨-, rfl⟩ | ⟨-, rfl⟩⟩
      · exact ⟨[], .proceed rfl rfl rfl fun _ expected => expected⟩
      · exact ⟨[], .proceed rfl rfl rfl fun _ expected => expected⟩
  | collectReplays =>
      rcases collectReplays_cases stepped with ⟨rfl, session, -, rfl⟩
      exact ⟨[], .proceed rfl rfl rfl fun _ expected => expected⟩
  | writeAccept succeeded => exact writes_of_writeAccept stepped
  | activate =>
      rcases activate_cases stepped with ⟨replays, rfl, rfl⟩
      exact ⟨[], .proceed rfl rfl rfl fun _ expected => expected⟩
  | startListener =>
      rcases startListener_cases stepped with
        ⟨text, rest, replays, rfl, ⟨-, rfl⟩ | ⟨spec, -, -, rfl⟩⟩ | ⟨replays, rfl, rfl⟩
      · exact ⟨[], .proceed rfl rfl rfl fun _ expected => expected⟩
      · exact ⟨[], .proceed rfl rfl rfl fun _ expected => expected⟩
      · exact ⟨[], .proceed rfl rfl rfl fun _ expected => expected⟩
  | publishPty =>
      rcases publishPty_cases stepped with ⟨replays, rfl, rfl⟩
      exact ⟨[], .proceed rfl rfl rfl fun _ expected => expected⟩
  | publishCtrl => exact writes_of_publishCtrl stepped
  | checkFlag => exact writes_of_checkFlag stepped
  | queueReplay =>
      rcases queueReplay_cases stepped with ⟨entry, rest, rfl, rfl⟩ | ⟨rfl, rfl⟩
      · exact ⟨[], .proceed rfl rfl rfl fun _ expected => expected⟩
      · exact ⟨[], .proceed rfl rfl rfl fun _ expected => expected⟩
  | startServing => exact writes_of_startServing stepped
  | writePty => exact writes_of_writePty stepped
  | readInput chunk =>
      rcases readInput_cases stepped with ⟨rfl, rfl⟩
      exact ⟨[], .proceed rfl rfl rfl fun _ expected => expected⟩
  | markInput =>
      rcases markInput_cases stepped with ⟨chunk, rfl, rfl⟩
      exact ⟨[], .proceed rfl rfl rfl fun _ expected => expected⟩
  | enqueueInput =>
      rcases enqueueInput_cases stepped with ⟨chunk, rfl, ⟨-, queue, -, rfl⟩ | ⟨-, rfl⟩⟩
      · exact ⟨[], .proceed rfl rfl rfl fun _ expected => expected⟩
      · exact ⟨[], .proceed rfl rfl rfl fun _ expected => expected⟩
  | readCtrl envelope =>
      rcases readCtrl_cases stepped with
        ⟨input, rfl, ⟨-, rfl⟩ | ⟨-, rfl⟩ | ⟨rows, cols, -, rfl⟩ | ⟨lastReceivedSeq, -, rfl⟩⟩
      · exact ⟨[], .finish⟩
      · exact ⟨[], .proceed rfl rfl rfl fun _ expected => expected⟩
      · exact ⟨[], .proceed rfl rfl rfl fun _ expected => expected⟩
      · exact ⟨[], .proceed rfl rfl rfl fun _ expected => expected⟩
  | sendHeartbeat => exact writes_of_sendHeartbeat stepped
  | writeCtrl => exact writes_of_writeCtrl stepped
  | endTask =>
      rcases endTask_cases stepped with ⟨-, rfl⟩
      exact ⟨[], .finish⟩

end ConnStage

/-! ## The tasks beside the loop -/

/-- What a task beside the loop leaves of the control streams. -/
structure SharedState.Mute (shared next : SharedState) : Prop where
  sent : next.sent = shared.sent
  slot : next.outboundCtrlTx.isClosed = shared.outboundCtrlTx.isClosed
  queued : CtrlEnvelope.disconnect ∈ next.outboundCtrlTx.queued →
    CtrlEnvelope.disconnect ∈ shared.outboundCtrlTx.queued ∨ next.watcher ≠ .waiting
  watcher : shared.watcher ≠ .waiting → next.watcher ≠ .waiting

namespace SharedState

variable {config : ServerConfig} {shared next : SharedState}

theorem Mute.of_slot (sent : next.sent = shared.sent)
    (slot : next.outboundCtrlTx = shared.outboundCtrlTx)
    (watcher : shared.watcher ≠ .waiting → next.watcher ≠ .waiting) : shared.Mute next where
  sent := sent
  slot := by rw [slot]
  queued := by
    rw [slot]
    exact Or.inl
  watcher := watcher

theorem sent_recordLogout : (shared.recordLogout config).sent = shared.sent := by
  unfold recordLogout
  split <;> rfl

theorem outboundCtrlTx_recordLogout :
    (shared.recordLogout config).outboundCtrlTx = shared.outboundCtrlTx := by
  unfold recordLogout
  split <;> rfl

theorem watcher_recordLogout : (shared.recordLogout config).watcher = shared.watcher := by
  unfold recordLogout
  split <;> rfl

theorem mute_of_step {action : BackgroundAction}
    (stepped : shared.step config action = some next) : shared.Mute next := by
  cases action with
  | readPty data =>
      simp only [SharedState.step, readPty] at stepped
      split at stepped
      · contradiction
      · cases stepped
        exact .of_slot rfl rfl id
  | forwardPty =>
      simp only [SharedState.step, forwardPty] at stepped
      split at stepped
      · contradiction
      · obtain ⟨slot, -, rfl⟩ := Option.map_eq_some_iff.mp stepped
        exact .of_slot rfl rfl id
  | writePtyInput =>
      obtain ⟨taken, -, rfl⟩ := Option.map_eq_some_iff.mp stepped
      exact .of_slot rfl rfl id
  | endPtyInput =>
      cases stepped
      exact .of_slot rfl rfl id
  | notify =>
      obtain ⟨-, slot, sent, rfl⟩ := notify_eq_some.mp stepped
      exact ⟨rfl, SenderSlot.isClosed_of_send sent, fun _ => Or.inr (by simp), fun _ => by simp⟩
  | raiseFlag =>
      obtain ⟨-, rfl⟩ := raiseFlag_eq_some.mp stepped
      exact .of_slot rfl rfl fun _ => by simp
  | watcherLogout =>
      obtain ⟨-, rfl⟩ := watcherLogout_eq_some.mp stepped
      exact .of_slot sent_recordLogout outboundCtrlTx_recordLogout fun _ => by simp
  | recordLogin =>
      obtain ⟨fd, remoteAddr, -, -, rfl⟩ := recordLogin_eq_some.mp stepped
      exact .of_slot rfl rfl id
  | raiseSignal =>
      cases stepped
      exact .of_slot rfl rfl id

end SharedState

/-! ## The loop speaks the protocol -/

/-- Where the protocol is while the loop is busy with the connection. -/
def LoopPhase.Expects (writerGone : Bool) (phase : ServerPhase) : LoopPhase → Prop
  | .handshaking _ | .opening _ => phase = .unopened
  | .connected _ _ stage => stage.Expects writerGone phase
  | .selecting | .returned _ _ _ | .loggingOut | .done => True

namespace ServerState

variable {config : ServerConfig} {id : Nat} {state next final : ServerState}
  {conversation : Conversation}

/-- The server has led this conversation with a connection. -/
structure Converses (config : ServerConfig) (id : Nat) (state : ServerState)
    (conversation : Conversation) : Prop where
  led : ∃ items, run Conversation.step .init items = some conversation
  written : state.shared.sentTo id =
    conversation.items.map (ServerItem.bytes config.messageBody)
  begun : conversation.items = [] → conversation.phase = .unopened
  expected : ∀ peer, state.phase.peer? = some peer → peer.id = id →
    state.phase.Expects state.shared.outboundCtrlTx.isClosed conversation.phase
  announced : ServerItem.goodbye ∈ conversation.items ∨
    CtrlEnvelope.disconnect ∈ state.shared.outboundCtrlTx.queued →
      state.shared.watcher ≠ .waiting

/-- A connection that is accepted was not written to before. -/
def Unheard (id : Nat) (state : ServerState) : ServerAction → Prop
  | .loop (.accept peer) => peer.id = id → state.shared.sentTo id = []
  | _ => True

theorem converses_init : Converses config id (init config) .init where
  led := ⟨[], run_nil⟩
  written := rfl
  begun := fun _ => rfl
  expected := by
    intro peer busy
    contradiction
  announced := by
    rintro (member | member)
    · contradiction
    · contradiction

/-- A step that writes nothing and queues nothing leaves the conversation where
it is. -/
theorem Converses.listen (converses : Converses config id state conversation)
    (sent : next.shared.sent = state.shared.sent)
    (queued : CtrlEnvelope.disconnect ∈ next.shared.outboundCtrlTx.queued →
      CtrlEnvelope.disconnect ∈ state.shared.outboundCtrlTx.queued)
    (watcher : next.shared.watcher = state.shared.watcher)
    (expected : ∀ peer, next.phase.peer? = some peer → peer.id = id →
      next.phase.Expects next.shared.outboundCtrlTx.isClosed conversation.phase) :
    Converses config id next conversation where
  led := converses.led
  written := by
    rw [← converses.written, SharedState.sentTo, SharedState.sentTo, sent]
  begun := converses.begun
  expected := expected
  announced := by
    rw [watcher]
    rintro (said | member)
    · exact converses.announced (Or.inl said)
    · exact converses.announced (Or.inr (queued member))

theorem queued_clearSlots (shared : SharedState) :
    (clearSlots shared).outboundCtrlTx.queued = [] := rfl

theorem queued_close {α : Type} {capacity : Nat} (slot : SenderSlot α capacity) :
    slot.close.queued = [] := by
  cases slot <;> rfl

/-- The connection returns. -/
theorem Converses.leave {shared : SharedState} {phase : LoopPhase} {peer : Peer} {clean : Bool}
    {closeReason : Option String} (converses : Converses config id ⟨shared, phase⟩ conversation) :
    Converses config id (leave shared peer clean closeReason) conversation := by
  refine converses.listen rfl ?_ rfl fun _ _ _ => trivial
  intro member
  rw [ServerState.leave, queued_close] at member
  contradiction

/-- The loop drops the connection's slots. -/
theorem Converses.clear {phase : LoopPhase} (converses : Converses config id state conversation)
    (idle : phase.peer? = none) :
    Converses config id ⟨clearSlots state.shared, phase⟩ conversation := by
  refine converses.listen rfl ?_ rfl ?_
  · intro member
    rw [queued_clearSlots] at member
    contradiction
  · intro peer busy
    rw [idle] at busy
    contradiction

/-- The loop turns to something else. -/
theorem Converses.idle {phase : LoopPhase} (converses : Converses config id state conversation)
    (idle : phase.peer? = none) : Converses config id { state with phase } conversation := by
  refine converses.listen rfl (fun member => member) rfl ?_
  intro peer busy
  rw [idle] at busy
  contradiction

/-- A task beside the loop moves. -/
theorem Converses.background {shared : SharedState}
    (converses : Converses config id state conversation) (mute : state.shared.Mute shared) :
    Converses config id { state with shared } conversation where
  led := converses.led
  written := by
    rw [← converses.written, SharedState.sentTo, SharedState.sentTo, mute.sent]
  begun := converses.begun
  expected := by
    intro peer busy same
    rw [mute.slot]
    exact converses.expected peer busy same
  announced := by
    rintro (said | member)
    · exact mute.watcher (converses.announced (Or.inl said))
    · rcases mute.queued member with queued | noticed
      · exact mute.watcher (converses.announced (Or.inr queued))
      · exact noticed

/-- The connection moves on by one stage, with what it writes. -/
theorem Converses.carry {peer : Peer} {so : Protocol.SessionOpen} {stage : ConnStage}
    {advanced : SharedState × Progress} {items : List ServerItem} {phase : LoopPhase}
    (converses : Converses config id state conversation)
    (connected : state.phase = .connected peer so stage)
    (writes : stage.Writes config peer state.shared advanced items)
    (proper : ∀ busy, phase.peer? = some busy → busy = peer ∧
      ∀ later, (∀ next, advanced.2 = .proceed next →
        next.Expects advanced.1.outboundCtrlTx.isClosed later) →
        phase.Expects advanced.1.outboundCtrlTx.isClosed later) :
    ∃ later, Converses config id ⟨advanced.1, phase⟩ later := by
  have sentTo : advanced.1.sentTo id = state.shared.sentTo id ++
      if peer.id = id then items.map (ServerItem.bytes config.messageBody) else [] :=
    SharedState.sentTo_append writes.sent
  have noticed : CtrlEnvelope.disconnect ∈ advanced.1.outboundCtrlTx.queued →
      advanced.1.watcher ≠ .waiting := by
    intro member
    rw [writes.watcher]
    rcases writes.queued member with queued | exited
    · exact converses.announced (Or.inr queued)
    · intro waiting
      rw [waiting] at exited
      contradiction
  by_cases own : peer.id = id
  · have reached := converses.expected peer (by rw [connected]; rfl) own
    rw [connected] at reached
    obtain ⟨later, said, onward⟩ := writes.follows conversation.phase reached
    refine ⟨⟨later, conversation.items ++ items⟩, ?_, ?_, ?_, ?_, ?_⟩
    · obtain ⟨before, led⟩ := converses.led
      exact ⟨before ++ items, run_append_eq_some.mpr
        ⟨conversation, led, Conversation.run_eq_some_of_phase said⟩⟩
    · rw [sentTo, if_pos own, converses.written, List.map_append]
    · intro nothing
      obtain ⟨nothingBefore, rfl⟩ := List.append_eq_nil_iff.mp nothing
      rw [run_nil, Option.some.injEq] at said
      rw [← said]
      exact converses.begun nothingBefore
    · intro busy isBusy _
      exact (proper busy isBusy).2 later onward
    · rintro (said | member)
      · show advanced.1.watcher ≠ .waiting
        rw [writes.watcher]
        rcases List.mem_append.mp said with old | new
        · exact converses.announced (Or.inl old)
        · exact converses.announced (Or.inr (writes.goodbye new))
      · exact noticed member
  · refine ⟨conversation, converses.led, ?_, converses.begun, ?_, ?_⟩
    · rw [sentTo, if_neg own, converses.written, List.append_nil]
    · intro busy isBusy same
      rw [(proper busy isBusy).1] at same
      exact absurd same own
    · rintro (said | member)
      · show advanced.1.watcher ≠ .waiting
        rw [writes.watcher]
        exact converses.announced (Or.inl said)
      · exact noticed member

theorem Converses.follow {peer : Peer} {so : Protocol.SessionOpen} {stage : ConnStage}
    {advanced : SharedState × Progress} {items : List ServerItem}
    (converses : Converses config id state conversation)
    (connected : state.phase = .connected peer so stage)
    (writes : stage.Writes config peer state.shared advanced items) :
    ∃ later, Converses config id (ServerState.follow peer so advanced.1 advanced.2) later := by
  obtain ⟨shared, progress⟩ := advanced
  cases progress with
  | proceed next =>
      apply converses.carry connected writes
      intro busy isBusy
      cases isBusy
      exact ⟨rfl, fun later onward => onward next rfl⟩
  | finish clean =>
      have moved : ∃ later, Converses config id ⟨shared, .selecting⟩ later := by
        apply converses.carry connected writes
        intro busy isBusy
        contradiction
      obtain ⟨later, converses⟩ := moved
      exact ⟨later, converses.leave⟩

/-- **Each step of the server is a step of the protocol with every client.** -/
theorem Converses.step {action : ServerAction}
    (converses : Converses config id state conversation)
    (unheard : Unheard id state action) (stepped : state.step config action = some next) :
    ∃ later, Converses config id next later := by
  cases action with
  | background action =>
      obtain ⟨shared, moved, rfl⟩ := background_eq_some.mp stepped
      exact ⟨conversation, converses.background (SharedState.mute_of_step moved)⟩
  | loop action =>
      cases action with
      | accept peer =>
          obtain ⟨-, rfl⟩ := accept_eq_some.mp stepped
          refine ⟨conversation, converses.listen rfl (fun member => member) rfl ?_⟩
          intro busy isBusy same
          cases isBusy
          have silent : conversation.items.map (ServerItem.bytes config.messageBody) = [] :=
            converses.written.symm.trans (unheard same)
          exact converses.begun (List.map_eq_nil_iff.mp silent)
      | refuse refused =>
          obtain ⟨peer, -, -, rfl⟩ := refuse_eq_some.mp stepped
          exact ⟨conversation, converses.idle rfl⟩
      | establish established =>
          obtain ⟨peer, handshaking, -, rfl⟩ := establish_eq_some.mp stepped
          refine ⟨conversation, converses.listen rfl (fun member => member) rfl ?_⟩
          intro busy isBusy same
          cases isBusy
          have reached := converses.expected peer (by rw [handshaking]; rfl) same
          rw [handshaking] at reached
          exact reached
      | conclude concluded =>
          obtain ⟨peer, waiting, -, outcome⟩ := conclude_eq_some.mp stepped
          rcases outcome with ⟨reason, -, rfl⟩ | ⟨so, -, rfl⟩
          · exact ⟨conversation, converses.leave⟩
          · refine ⟨conversation, ?_⟩
            have reached := converses.expected peer (by rw [waiting]; rfl)
            rw [waiting] at reached
            cases descriptor : config.masterFd with
            | none =>
                simp only [ConnStage.enter, descriptor]
                refine converses.listen rfl (fun member => member) rfl ?_
                intro busy isBusy same
                cases isBusy
                exact reached same
            | some fd =>
                simp only [ConnStage.enter, descriptor]
                refine converses.listen rfl (fun member => member) rfl ?_
                intro busy isBusy same
                cases isBusy
                exact reached same
      | advance action =>
          obtain ⟨peer, so, stage, advanced, connected, moved, rfl⟩ := advance_eq_some.mp stepped
          obtain ⟨items, writes⟩ := ConnStage.writes_of_step moved
          exact converses.follow connected writes
      | afterConnection returned =>
          obtain ⟨peer, clean, closeReason, -, -, rfl⟩ := afterConnection_eq_some.mp stepped
          refine ⟨conversation, converses.clear ?_⟩
          cases clean <;> rfl
      | handleSignal =>
          obtain ⟨-, ⟨-, -, rfl⟩ | ⟨-, rfl⟩⟩ := handleSignal_eq_some.mp stepped
          · exact ⟨conversation, converses.idle rfl⟩
          · exact ⟨conversation, converses.clear rfl⟩
      | windowExpired =>
          obtain ⟨-, -, rfl⟩ := stopAccepting_eq_some.mp stepped
          exact ⟨conversation, converses.idle rfl⟩
      | endpointClosed =>
          obtain ⟨-, -, rfl⟩ := stopAccepting_eq_some.mp stepped
          exact ⟨conversation, converses.idle rfl⟩
      | graceEnds =>
          obtain ⟨-, -, rfl⟩ := graceEnds_eq_some.mp stepped
          exact ⟨conversation, converses.idle rfl⟩
      | loopLogout =>
          obtain ⟨-, rfl⟩ := loopLogout_eq_some.mp stepped
          refine ⟨conversation, converses.listen SharedState.sent_recordLogout ?_
            SharedState.watcher_recordLogout ?_⟩
          · intro member
            rw [SharedState.outboundCtrlTx_recordLogout] at member
            exact member
          · intro busy isBusy
            contradiction

/-! ## Connections are accepted once -/

/-- Nothing was written to the connection, and the loop is not busy with it. -/
structure Absent (id : Nat) (state : ServerState) : Prop where
  silent : state.shared.sentTo id = []
  elsewhere : ∀ peer, state.phase.peer? = some peer → peer.id ≠ id

theorem busy_of_step {action : ServerAction} {peer : Peer}
    (stepped : state.step config action = some next) (busy : next.phase.peer? = some peer) :
    action = .loop (.accept peer) ∨ state.phase.peer? = some peer := by
  cases action with
  | background action =>
      obtain ⟨shared, -, rfl⟩ := background_eq_some.mp stepped
      exact Or.inr busy
  | loop action =>
      cases action with
      | accept accepted =>
          obtain ⟨-, rfl⟩ := accept_eq_some.mp stepped
          cases busy
          exact Or.inl rfl
      | refuse refused =>
          obtain ⟨peer, -, -, rfl⟩ := refuse_eq_some.mp stepped
          contradiction
      | establish established =>
          obtain ⟨peer, handshaking, -, rfl⟩ := establish_eq_some.mp stepped
          cases busy
          exact Or.inr (by rw [handshaking]; rfl)
      | conclude concluded =>
          obtain ⟨peer, waiting, -, outcome⟩ := conclude_eq_some.mp stepped
          right
          rw [waiting]
          rcases outcome with ⟨reason, -, rfl⟩ | ⟨so, -, rfl⟩
          · exact busy
          · exact busy
      | advance action =>
          obtain ⟨peer, so, stage, ⟨shared, progress⟩, connected, -, rfl⟩ :=
            advance_eq_some.mp stepped
          right
          rw [connected]
          cases progress with
          | proceed next => exact busy
          | finish clean => exact busy
      | afterConnection returned =>
          obtain ⟨peer, clean, closeReason, -, -, rfl⟩ := afterConnection_eq_some.mp stepped
          cases clean <;> contradiction
      | handleSignal =>
          obtain ⟨-, ⟨-, -, rfl⟩ | ⟨-, rfl⟩⟩ := handleSignal_eq_some.mp stepped
          · contradiction
          · contradiction
      | windowExpired =>
          obtain ⟨-, -, rfl⟩ := stopAccepting_eq_some.mp stepped
          contradiction
      | endpointClosed =>
          obtain ⟨-, -, rfl⟩ := stopAccepting_eq_some.mp stepped
          contradiction
      | graceEnds =>
          obtain ⟨-, -, rfl⟩ := graceEnds_eq_some.mp stepped
          contradiction
      | loopLogout =>
          obtain ⟨-, rfl⟩ := loopLogout_eq_some.mp stepped
          contradiction

/-- Only the connection the loop is busy with is written to. -/
theorem sentTo_of_step {action : ServerAction}
    (stepped : state.step config action = some next)
    (elsewhere : ∀ peer, state.phase.peer? = some peer → peer.id ≠ id) :
    next.shared.sentTo id = state.shared.sentTo id := by
  cases action with
  | background action =>
      obtain ⟨shared, moved, rfl⟩ := background_eq_some.mp stepped
      rw [SharedState.sentTo, SharedState.sentTo, (SharedState.mute_of_step moved).sent]
  | loop action =>
      cases action with
      | advance action =>
          obtain ⟨peer, so, stage, advanced, connected, moved, rfl⟩ := advance_eq_some.mp stepped
          obtain ⟨items, writes⟩ := ConnStage.writes_of_step moved
          have other := elsewhere peer (by rw [connected]; rfl)
          have same : advanced.1.sentTo id = state.shared.sentTo id := by
            have appended : advanced.1.sentTo id = state.shared.sentTo id ++ _ :=
              SharedState.sentTo_append writes.sent
            rw [if_neg other, List.append_nil] at appended
            exact appended
          obtain ⟨shared, progress⟩ := advanced
          cases progress with
          | proceed next => exact same
          | finish clean => exact same
      | conclude concluded =>
          obtain ⟨peer, -, -, outcome⟩ := conclude_eq_some.mp stepped
          rcases outcome with ⟨reason, -, rfl⟩ | ⟨so, -, rfl⟩
          · rfl
          · cases descriptor : config.masterFd <;> simp only [ConnStage.enter, descriptor]
            rfl
      | accept accepted =>
          obtain ⟨-, rfl⟩ := accept_eq_some.mp stepped
          rfl
      | refuse refused =>
          obtain ⟨peer, -, -, rfl⟩ := refuse_eq_some.mp stepped
          rfl
      | establish established =>
          obtain ⟨peer, -, -, rfl⟩ := establish_eq_some.mp stepped
          rfl
      | afterConnection returned =>
          obtain ⟨peer, clean, closeReason, -, -, rfl⟩ := afterConnection_eq_some.mp stepped
          rfl
      | handleSignal =>
          obtain ⟨-, ⟨-, -, rfl⟩ | ⟨-, rfl⟩⟩ := handleSignal_eq_some.mp stepped
          · rfl
          · rfl
      | windowExpired =>
          obtain ⟨-, -, rfl⟩ := stopAccepting_eq_some.mp stepped
          rfl
      | endpointClosed =>
          obtain ⟨-, -, rfl⟩ := stopAccepting_eq_some.mp stepped
          rfl
      | graceEnds =>
          obtain ⟨-, -, rfl⟩ := graceEnds_eq_some.mp stepped
          rfl
      | loopLogout =>
          obtain ⟨-, rfl⟩ := loopLogout_eq_some.mp stepped
          rw [SharedState.sentTo, SharedState.sentTo, SharedState.sent_recordLogout]

end ServerState

/-- The connection a step accepts. -/
def ServerAction.accepted? : ServerAction → Option Nat
  | .loop (.accept peer) => some peer.id
  | _ => none

namespace ServerState

variable {config : ServerConfig} {id : Nat} {state next final : ServerState}
  {actions : List ServerAction}

theorem Absent.step {action : ServerAction} (absent : state.Absent id)
    (other : action.accepted? ≠ some id) (stepped : state.step config action = some next) :
    next.Absent id where
  silent := (sentTo_of_step stepped absent.elsewhere).trans absent.silent
  elsewhere := by
    intro peer busy
    rcases busy_of_step stepped busy with rfl | before
    · intro same
      rw [ServerAction.accepted?, same] at other
      contradiction
    · exact absent.elsewhere peer before

theorem unheard_of_not_accepted {action : ServerAction} (other : action.accepted? ≠ some id) :
    Unheard id state action := by
  cases action with
  | background action => trivial
  | loop action =>
      cases action with
      | accept peer =>
          intro same
          rw [ServerAction.accepted?, same] at other
          contradiction
      | refuse refused => trivial
      | establish established => trivial
      | conclude concluded => trivial
      | advance action => trivial
      | afterConnection returned => trivial
      | handleSignal => trivial
      | windowExpired => trivial
      | endpointClosed => trivial
      | graceEnds => trivial
      | loopLogout => trivial

/-- In a run that accepts a connection once, nothing was written to it before. -/
theorem unheard_along (absent : state.Absent id)
    (once : (actions.filterMap ServerAction.accepted?).count id ≤ 1) :
    Along (step config) (Unheard id) state actions := by
  induction actions generalizing state with
  | nil => trivial
  | cons action rest inductionHypothesis =>
      by_cases accepted : action.accepted? = some id
      · refine ⟨?_, ?_⟩
        · cases action with
          | background action => trivial
          | loop action => cases action <;> first | trivial | exact fun _ => absent.silent
        · rw [List.filterMap_cons_some accepted, List.count_cons_self] at once
          have never : ∀ other ∈ rest, other.accepted? ≠ some id := by
            intro other member same
            have found : id ∈ rest.filterMap ServerAction.accepted? :=
              List.mem_filterMap.mpr ⟨other, member, same⟩
            have counted := List.count_pos_iff.mpr found
            omega
          cases step config state action with
          | none => trivial
          | some next =>
              exact along_of_forall_mem fun other member _ =>
                unheard_of_not_accepted (never other member)
      · refine ⟨unheard_of_not_accepted accepted, ?_⟩
        cases stepped : step config state action with
        | none => trivial
        | some next =>
            apply inductionHypothesis (absent.step accepted stepped)
            cases found : action.accepted? with
            | none => rwa [List.filterMap_cons_none found] at once
            | some other =>
                rw [List.filterMap_cons_some found] at once
                exact Nat.le_trans (List.count_le_count_cons) once

theorem absent_init : (init config).Absent id where
  silent := rfl
  elsewhere := by
    intro peer busy
    contradiction

end ServerState

/-! ## What a client reads -/

/-- The bytes that went to the control stream. -/
def SentBytes.onControl : SentBytes → List UInt8
  | .control bytes => bytes
  | .pty _ => []

theorem flatMap_onControl (messageBody : ServerMessage → List UInt8) (items : List ServerItem) :
    (items.map (ServerItem.bytes messageBody)).flatMap SentBytes.onControl =
      (items.filterMap ServerItem.control?).flatMap (writeMsg messageBody) := by
  induction items with
  | nil => rfl
  | cons item rest inductionHypothesis =>
      rw [List.map_cons, List.flatMap_cons, inductionHypothesis]
      cases item with
      | control message => rfl
      | pty chunk => rfl

/-- `read_msg` finds a message that its body decodes to. -/
theorem readMsg_framed {Message : Type} {decode : List UInt8 → Option Message} {body : List UInt8}
    {message : Message} (fits : body.length ≤ maxMessageBytes)
    (decoded : decode body = some message) (rest : List UInt8) (ending : StreamEnd) :
    RecvStream.readMsg decode ⟨writeMsg id body ++ rest, ending⟩ =
      .ok (some (message, ⟨rest, ending⟩)) := by
  have prefixRead : RecvStream.readExact ⟨writeMsg id body ++ rest, ending⟩ 4 =
      .ok (toBeBytes 4 body.length, ⟨body ++ rest, ending⟩) := by
    rw [writeMsg, writeFramed, List.append_assoc]
    exact readExact_append (length_toBeBytes 4 _)
  have length : fromBeBytes (toBeBytes 4 body.length) = body.length :=
    fromBeBytes_toBeBytes_of_lt (Nat.lt_of_le_of_lt fits (by decide))
  have bodyRead : RecvStream.readExact ⟨body ++ rest, ending⟩ body.length =
      .ok (body, ⟨rest, ending⟩) :=
    readExact_append rfl
  simp only [RecvStream.readMsg, prefixRead, length, if_neg (Nat.not_lt.mpr fits), bodyRead,
    decoded]

theorem readsAll_script {Message : Type} {decode : List UInt8 → Option Message}
    {messageBody : ServerMessage → List UInt8} {seen : ServerMessage → Message}
    {messages : List ServerMessage}
    (readable : ∀ message ∈ messages, (messageBody message).length ≤ maxMessageBytes ∧
      decode (messageBody message) = some (seen message)) :
    ReadsAll (RecvStream.readMsg decode) ⟨messages.flatMap (writeMsg messageBody), .finished⟩
      (messages.map seen) ⟨[], .finished⟩ := by
  induction messages with
  | nil => exact .ended rfl
  | cons message rest inductionHypothesis =>
      obtain ⟨⟨fits, decoded⟩, others⟩ := List.forall_mem_cons.mp readable
      rw [List.flatMap_cons, List.map_cons]
      exact .item (readMsg_framed fits decoded _ .finished) (inductionHypothesis others)

namespace ServerState

variable {config : ServerConfig} {id : Nat} {state next final : ServerState}
  {actions : List ServerAction}

def Conversing (config : ServerConfig) (id : Nat) (state : ServerState) : Prop :=
  ∃ conversation, Converses config id state conversation

theorem Conversing.step {action : ServerAction} (conversing : Conversing config id state)
    (unheard : Unheard id state action) (stepped : state.step config action = some next) :
    Conversing config id next := by
  obtain ⟨conversation, converses⟩ := conversing
  exact converses.step unheard stepped

/-- **What the server says to one connection is a conversation of the protocol,
whatever the interleaving: nothing at all, or `SessionAccept`, then heartbeats,
then at most one `Disconnect`, which ends the control stream and is only sent
once the shell has exited. PTY bytes come behind `SessionAccept`. A client that
reads the control stream to its end reads exactly these messages.** -/
theorem control_stream_follows_protocol
    (once : (actions.filterMap ServerAction.accepted?).count id ≤ 1)
    (executed : run (step config) (init config) actions = some final) :
    ∃ conversation, (∃ items, run Conversation.step .init items = some conversation) ∧
      final.shared.sentTo id = conversation.items.map (ServerItem.bytes config.messageBody) ∧
      conversation.phase.Script (conversation.items.filterMap ServerItem.control?) ∧
      (conversation.phase = .unopened → final.shared.sentTo id = []) ∧
      (conversation.phase = .closed → final.shared.watcher ≠ .waiting) ∧
      ∀ (Message : Type) (decode : List UInt8 → Option Message) (seen : ServerMessage → Message),
        (∀ message ∈ conversation.items.filterMap ServerItem.control?,
          (config.messageBody message).length ≤ maxMessageBytes ∧
            decode (config.messageBody message) = some (seen message)) →
        ReadsAll (RecvStream.readMsg decode)
          ⟨(final.shared.sentTo id).flatMap SentBytes.onControl, .finished⟩
          ((conversation.items.filterMap ServerItem.control?).map seen) ⟨[], .finished⟩ := by
  have conversing : Conversing config id final :=
    run_invariant_along
      (fun conversing unheard stepped => Conversing.step conversing unheard stepped)
      ⟨.init, converses_init⟩ (unheard_along absent_init once) executed
  obtain ⟨conversation, converses⟩ := conversing
  obtain ⟨items, led⟩ := converses.led
  obtain ⟨script, silent⟩ := Conversation.scripted_of_run led
  refine ⟨conversation, ⟨items, led⟩, converses.written, script, ?_, ?_, ?_⟩
  · intro unopened
    rw [converses.written, silent unopened, List.map_nil]
  · intro closed
    rw [closed] at script
    obtain ⟨accepted, beats, spoken⟩ := script
    have told : ServerMessage.ctrl .disconnect ∈
        conversation.items.filterMap ServerItem.control? := by
      rw [spoken]
      simp
    obtain ⟨item, member, isGoodbye⟩ := List.mem_filterMap.mp told
    apply converses.announced
    left
    cases item with
    | control message =>
        cases isGoodbye
        exact member
    | pty chunk => contradiction
  · intro Message decode seen readable
    rw [converses.written, flatMap_onControl]
    exact readsAll_script readable

/-- The shell exits under a connected client. -/
def farewell : List ServerAction :=
  connect ++ [.background .notify, .background .raiseFlag, .loop (.advance .sendHeartbeat),
    .loop (.advance .writeCtrl), .loop (.advance .endTask), .loop (.afterConnection 1)]

theorem farewell_follows_protocol :
    ∃ final, run (step .sample) (init .sample) farewell = some final ∧
      ∃ conversation, (∃ items, run Conversation.step .init items = some conversation) ∧
        final.shared.sentTo 1 = conversation.items.map (ServerItem.bytes fun _ => []) ∧
        conversation.phase.Script (conversation.items.filterMap ServerItem.control?) := by
  obtain ⟨final, executed⟩ : ∃ final, run (step .sample) (init .sample) farewell = some final :=
    ⟨_, rfl⟩
  have once : (farewell.filterMap ServerAction.accepted?).count 1 ≤ 1 := by decide
  obtain ⟨conversation, led, written, script, -⟩ :=
    control_stream_follows_protocol once executed
  exact ⟨final, executed, conversation, led, written, script⟩

end ServerState

end Etr.Server
