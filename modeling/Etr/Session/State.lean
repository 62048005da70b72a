import Etr.Session.Stream

/-!
Contract: session state that survives reconnections, as `src/session/mod.rs`
keeps it.

Owns the stream table, the watermark snapshot, acknowledgement of a peer's
map and the selection of replays. The hash maps are partial functions: every
operation on them acts key by key and none depends on the iteration order.

The terminal stream is opened by the constructor and never removed; the field
`terminalExists` carries that fact, which the source states as
`expect("stream 0 always exists")`.
-/

namespace Etr.Session

/-- Watermarks per stream, as handshake and heartbeat messages carry them. -/
abbrev WatermarkMap := Nat → Option Nat

/-- Per-session state shared between connection setup and data-plane code. -/
structure SessionState where
  sessionId : List UInt8
  passkey : String
  streams : Nat → Option StreamState
  terminalExists : (streams 0).isSome

namespace SessionState

/-- A new session with stream 0 pre-opened. -/
def new (sessionId : List UInt8) (passkey : String) : SessionState where
  sessionId := sessionId
  passkey := passkey
  streams := fun id => if id = 0 then some (StreamState.new 0 .terminal) else none
  terminalExists := rfl

/-- `stream(0)`, which always exists. -/
def terminal (session : SessionState) : StreamState :=
  (session.streams 0).get session.terminalExists

/-- Mutation through `stream_mut(0)`. -/
def updateTerminal (session : SessionState) (update : StreamState → StreamState) :
    SessionState :=
  { session with
    streams := fun id => if id = 0 then some (update session.terminal) else session.streams id
    terminalExists := rfl }

/-- Open a stream unless it exists already. -/
def openStream (session : SessionState) (streamId : Nat) (streamType : StreamType) :
    SessionState :=
  { session with
    streams := fun id =>
      if id = streamId then
        some ((session.streams id).getD (StreamState.new streamId streamType))
      else
        session.streams id
    terminalExists := by
      by_cases isTerminal : 0 = streamId
      · simp [isTerminal]
      · simp [isTerminal, session.terminalExists] }

/-- Mark a stream closed; no effect if it does not exist. -/
def closeStream (session : SessionState) (streamId : Nat) : SessionState :=
  { session with
    streams := fun id =>
      if id = streamId then
        (session.streams id).map fun stream => { stream with lifecycle := .closed }
      else
        session.streams id
    terminalExists := by
      by_cases isTerminal : 0 = streamId
      · simpa [← isTerminal] using session.terminalExists
      · simp [isTerminal, session.terminalExists] }

/-- Each stream's last received number, for handshake messages. -/
def lastReceivedMap (session : SessionState) : WatermarkMap :=
  fun id => (session.streams id).bind StreamState.lastReceived

/-- Trim each stream's send history by the peer's acknowledgements. -/
def applyServerAcks (session : SessionState) (serverAcks : WatermarkMap) : SessionState :=
  { session with
    streams := fun id =>
      match serverAcks id with
      | some ackSeq => (session.streams id).map fun stream => stream.acknowledgeUpTo ackSeq
      | none => session.streams id
    terminalExists := by
      cases serverAcks 0 with
      | none => exact session.terminalExists
      | some ackSeq => simpa using session.terminalExists }

/-- The entries each stream must replay; streams with nothing to replay are
left out. -/
def collectReplays (session : SessionState) (peerLastReceived : WatermarkMap) :
    Nat → Option (List (Nat × Payload)) :=
  fun id =>
    (session.streams id).bind fun stream =>
      let replays := stream.replayFrom ((peerLastReceived id).getD 0)
      if replays.isEmpty then none else some replays

/-! ## What the operations do to the terminal stream -/

section Terminal

variable (session : SessionState) (acks : WatermarkMap)

theorem streams_zero : session.streams 0 = some session.terminal :=
  (Option.some_get session.terminalExists).symm

@[simp] theorem terminal_new (sessionId : List UInt8) (passkey : String) :
    (new sessionId passkey).terminal = StreamState.new 0 .terminal := rfl

@[simp] theorem terminal_updateTerminal (update : StreamState → StreamState) :
    (session.updateTerminal update).terminal = update session.terminal := rfl

variable {session} in
theorem terminal_eq {stream : StreamState} (table : session.streams 0 = some stream) :
    session.terminal = stream :=
  Option.some.inj ((streams_zero session).symm.trans table)

variable {acks} in
theorem terminal_applyServerAcks_of_some {ackSeq : Nat} (acknowledged : acks 0 = some ackSeq) :
    (session.applyServerAcks acks).terminal = session.terminal.acknowledgeUpTo ackSeq := by
  apply terminal_eq
  simp only [applyServerAcks, acknowledged]
  rw [streams_zero session, Option.map_some]

variable {acks} in
theorem terminal_applyServerAcks_of_none (silent : acks 0 = none) :
    (session.applyServerAcks acks).terminal = session.terminal := by
  apply terminal_eq
  simp only [applyServerAcks, silent]
  exact streams_zero session

@[simp] theorem nextInSeq_applyServerAcks :
    (session.applyServerAcks acks).terminal.nextInSeq = session.terminal.nextInSeq := by
  cases acknowledged : acks 0 with
  | none => rw [terminal_applyServerAcks_of_none session acknowledged]
  | some ackSeq =>
      rw [terminal_applyServerAcks_of_some session acknowledged,
        StreamState.nextInSeq_acknowledgeUpTo]

@[simp] theorem lastReceivedMap_zero :
    session.lastReceivedMap 0 = session.terminal.lastReceived := by
  simp [lastReceivedMap, streams_zero]

/-- The list the replay loops walk for stream 0. -/
@[simp] theorem collectReplays_zero :
    (session.collectReplays acks 0).getD [] =
      session.terminal.replayFrom ((acks 0).getD 0) := by
  simp only [collectReplays, streams_zero, Option.bind_some]
  cases session.terminal.replayFrom ((acks 0).getD 0) <;> rfl

end Terminal

end SessionState

end Etr.Session
