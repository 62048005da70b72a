import Etr.Protocol.Envelope
import Etr.Wire.Inbound

/-!
Contract: the stream dispatcher of the server's `handle_connection`.

Owns `dispatch_task`, which reads the tag and the header of every stream the
client opens behind the control stream, one stream after the other, and what
its end does to the connection.

Does not own the relays it spawns.
-/

namespace Etr.Server

open Etr.Protocol Etr.Wire

/-- Where the loop of `dispatch_task` is. -/
inductive DispatchStatus where
  /-- Waiting in `accept_bi`. -/
  | accepting
  /-- Waiting for the tag or the header of one stream. -/
  | reading
  /-- Left by `break`; the task has ended. -/
  | finished
deriving DecidableEq, Repr

structure DispatchState where
  status : DispatchStatus
  /-- The stream sent to `handle_connection`; the sender is there until then. -/
  ptyStream : Option InboundStream
  /-- Headers of the relays spawned so far, with the protocol of each. -/
  served : List (ForwardProto × StreamOpen)
deriving DecidableEq, Repr

namespace DispatchState

def init : DispatchState where
  status := .accepting
  ptyStream := none
  served := []

/-- `TAG_FORWARD` arm: read the header and spawn the relay. -/
def serveForward (state : DispatchState) (body : InboundStream) : DispatchState :=
  match body.pollMsg Envelope.decode with
  | none => { state with status := .reading }
  | some (.ok (some (⟨some (.streamOpen so)⟩, _))) =>
      { state with
        served := state.served ++ [((ForwardProto.ofInt32? so.forwardProto).getD .tcp, so)] }
  | some (.ok (some _)) => state
  | some _ => { state with status := .finished }

/-- One turn of the loop, on the next stream the client opened. -/
def dispatch (state : DispatchState) (stream : InboundStream) : DispatchState :=
  match state.status with
  | .reading | .finished => state
  | .accepting =>
      match stream.pollTag with
      | none => { state with status := .reading }
      | some (.error _) => { state with status := .finished }
      | some (.ok (tag, body)) =>
          if tag = tagPty then
            { state with ptyStream := state.ptyStream.or (some body) }
          else if tag = tagForward then
            state.serveForward body
          else
            state

/-- `handle_connection` returns `false` once the task has ended: the sender is
dropped while it waits for the PTY stream, or its arm of the `select!` fires. -/
def connectionResult (state : DispatchState) : Option Bool :=
  if state.status = .finished then some false else none

end DispatchState

/-! ## Streams -/

/-- The rest of a PTY stream behind its tag. -/
def ptyBody? (stream : InboundStream) : Option InboundStream :=
  match stream.pollTag with
  | some (.ok (tag, body)) => if tag = tagPty then some body else none
  | _ => none

/-- The header of a well-formed forward stream. -/
def forwardHeader? (stream : InboundStream) : Option (ForwardProto × StreamOpen) :=
  match stream.pollTag with
  | some (.ok (tag, body)) =>
      if tag = tagForward then
        match body.pollMsg Envelope.decode with
        | some (.ok (some (⟨some (.streamOpen so)⟩, _))) =>
            some ((ForwardProto.ofInt32? so.forwardProto).getD .tcp, so)
        | _ => none
      else
        none
  | _ => none

/-- A PTY stream, or a forward stream with a complete header. -/
def WellFormedStream (stream : InboundStream) : Prop :=
  (ptyBody? stream).isSome ∨ (forwardHeader? stream).isSome

/-- The tag has arrived, and behind a forward tag a whole frame of at most
4 MiB that decodes to some envelope. -/
def HeaderComplete (stream : InboundStream) : Prop :=
  match stream.bytes with
  | [] => False
  | tag :: rest =>
      tag = tagForward → InboundStream.CompleteMessage Envelope.decode ⟨rest, stream.ending⟩

/-- Whatever well-formed streams follow, the task goes on, the first PTY stream
is handed over and every well-formed forward stream is served. -/
def Survives (streams : List InboundStream) : Prop :=
  ∀ later, (∀ stream ∈ later, WellFormedStream stream) →
    ((streams ++ later).foldl DispatchState.dispatch .init).connectionResult = none ∧
    ((streams ++ later).foldl DispatchState.dispatch .init).ptyStream =
      (streams ++ later).findSome? ptyBody? ∧
    ((streams ++ later).foldl DispatchState.dispatch .init).served =
      (streams ++ later).filterMap forwardHeader?

namespace DispatchState

variable {state : DispatchState} {stream : InboundStream} {streams : List InboundStream}

/-! ## One turn -/

theorem dispatch_of_stopped (stopped : state.status ≠ .accepting) :
    state.dispatch stream = state := by
  unfold dispatch
  split
  · rfl
  · rfl
  · contradiction

theorem serveForward_of_incomplete {body : InboundStream}
    (incomplete : ¬ body.CompleteMessage Envelope.decode) :
    (state.serveForward body).status ≠ .accepting ∧
      (state.serveForward body).served = state.served := by
  cases read : body.pollMsg Envelope.decode with
  | none => simp [serveForward, read]
  | some outcome =>
      cases outcome with
      | error kind => simp [serveForward, read]
      | ok message =>
          cases message with
          | none => simp [serveForward, read]
          | some message => exact absurd (InboundStream.complete_of_pollMsg read) incomplete

/-- A complete stream is handled and the loop goes on. -/
theorem dispatch_of_complete (running : state.status = .accepting)
    (complete : HeaderComplete stream) :
    state.dispatch stream =
      { status := .accepting
        ptyStream := state.ptyStream.or (ptyBody? stream)
        served := state.served ++ (forwardHeader? stream).toList } := by
  obtain ⟨status, ptyStream, served⟩ := state
  subst running
  obtain ⟨bytes, ending⟩ := stream
  cases bytes with
  | nil => exact absurd complete id
  | cons tag rest =>
      by_cases pty : tag = tagPty
      · subst pty
        simp [dispatch, InboundStream.pollTag, ptyBody?, forwardHeader?,
          show tagPty ≠ tagForward by decide]
      · by_cases forward : tag = tagForward
        · rcases InboundStream.pollMsg_of_complete (complete forward) with
            ⟨envelope, remaining, -, read⟩
          subst forward
          rcases envelope with ⟨_ | payload⟩
          · simp [dispatch, InboundStream.pollTag, ptyBody?, forwardHeader?, pty, serveForward,
              read]
          · cases payload <;>
              simp [dispatch, InboundStream.pollTag, ptyBody?, forwardHeader?, pty,
                serveForward, read]
        · simp [dispatch, InboundStream.pollTag, ptyBody?, forwardHeader?, pty, forward]

/-- Any other stream keeps the loop, or ends it. -/
theorem dispatch_of_incomplete (incomplete : ¬ HeaderComplete stream) :
    (state.dispatch stream).status ≠ .accepting ∧
      (state.dispatch stream).served = state.served := by
  by_cases running : state.status = .accepting
  · obtain ⟨status, ptyStream, served⟩ := state
    subst running
    obtain ⟨bytes, ending⟩ := stream
    cases bytes with
    | nil => cases ending <;> simp [dispatch, InboundStream.pollTag]
    | cons tag rest =>
        have unread : tag = tagForward ∧
            ¬ InboundStream.CompleteMessage Envelope.decode ⟨rest, ending⟩ := by
          simpa [HeaderComplete] using incomplete
        have notPty : tag ≠ tagPty := by
          rw [unread.1]
          decide
        simp only [dispatch, InboundStream.pollTag, if_neg notPty, if_pos unread.1]
        exact serveForward_of_incomplete unread.2
  · rw [dispatch_of_stopped running]
    exact ⟨running, rfl⟩

theorem length_served_dispatch_le (state : DispatchState) (stream : InboundStream) :
    (state.dispatch stream).served.length ≤
      state.served.length + (forwardHeader? stream).toList.length := by
  by_cases complete : HeaderComplete stream
  · by_cases running : state.status = .accepting
    · rw [dispatch_of_complete running complete, List.length_append]
    · rw [dispatch_of_stopped running]
      omega
  · rw [(dispatch_of_incomplete complete).2]
    omega

/-! ## Runs -/

theorem foldl_dispatch_of_stopped (stopped : state.status ≠ .accepting) :
    streams.foldl dispatch state = state := by
  induction streams with
  | nil => rfl
  | cons stream rest inductionHypothesis =>
      rw [List.foldl_cons, dispatch_of_stopped stopped, inductionHypothesis]

theorem foldl_dispatch_of_complete (running : state.status = .accepting)
    (complete : ∀ stream ∈ streams, HeaderComplete stream) :
    streams.foldl dispatch state =
      { status := .accepting
        ptyStream := state.ptyStream.or (streams.findSome? ptyBody?)
        served := state.served ++ streams.filterMap forwardHeader? } := by
  induction streams generalizing state with
  | nil =>
      obtain ⟨status, ptyStream, served⟩ := state
      subst running
      simp
  | cons stream rest inductionHypothesis =>
      have parts := List.forall_mem_cons.mp complete
      rw [List.foldl_cons, dispatch_of_complete running parts.1,
        inductionHypothesis rfl parts.2]
      cases header : forwardHeader? stream with
      | none => cases body : ptyBody? stream <;> simp [header, body]
      | some header' => cases body : ptyBody? stream <;> simp [header, body]

/-- The loop is back in `accept_bi` exactly if every stream was complete. -/
theorem accepting_foldl_dispatch_iff (running : state.status = .accepting) :
    (streams.foldl dispatch state).status = .accepting ↔
      ∀ stream ∈ streams, HeaderComplete stream := by
  induction streams generalizing state with
  | nil => simpa using running
  | cons stream rest inductionHypothesis =>
      rw [List.foldl_cons, List.forall_mem_cons]
      by_cases complete : HeaderComplete stream
      · have next : (state.dispatch stream).status = .accepting := by
          rw [dispatch_of_complete running complete]
        rw [inductionHypothesis next, and_iff_right complete]
      · have stopped : (state.dispatch stream).status ≠ .accepting :=
          (dispatch_of_incomplete complete).1
        rw [foldl_dispatch_of_stopped stopped]
        exact iff_of_false stopped fun both => complete both.1

theorem length_served_foldl_le (state : DispatchState) (streams : List InboundStream) :
    (streams.foldl dispatch state).served.length ≤
      state.served.length + (streams.filterMap forwardHeader?).length := by
  induction streams generalizing state with
  | nil => simp
  | cons stream rest inductionHypothesis =>
      have first := length_served_dispatch_le state stream
      have others := inductionHypothesis (state.dispatch stream)
      have split : ((stream :: rest).filterMap forwardHeader?).length =
          (forwardHeader? stream).toList.length + (rest.filterMap forwardHeader?).length := by
        cases header : forwardHeader? stream with
        | none => simp [header]
        | some parsed =>
            simp [header]
            omega
      rw [List.foldl_cons, split]
      omega

theorem headerComplete_of_wellFormed (formed : WellFormedStream stream) :
    HeaderComplete stream := by
  obtain ⟨bytes, ending⟩ := stream
  cases bytes with
  | nil =>
      cases ending <;>
        simp [WellFormedStream, ptyBody?, forwardHeader?, InboundStream.pollTag] at formed
  | cons tag rest =>
      rintro rfl
      have notPty : tagForward ≠ tagPty := by decide
      simp only [WellFormedStream, ptyBody?, forwardHeader?, InboundStream.pollTag,
        if_neg notPty, Option.isSome_none, Bool.false_eq_true, false_or, if_true] at formed
      split at formed
      · rename_i read
        exact InboundStream.complete_of_pollMsg read
      · contradiction

/-! ## The connection -/

/-- A TCP forward stream to port 80 of `a`, still open. -/
def sampleForward : InboundStream :=
  ⟨[3, 0, 0, 0, 9, 26, 7, 16, 1, 26, 1, 97, 32, 80], none⟩

theorem wellFormed_sampleForward : WellFormedStream sampleForward :=
  Or.inr (by decide)

/-- **The dispatcher hands the PTY stream over, serves every well-formed forward
stream and keeps the connection, exactly if every stream the client opened
brought its tag and, behind a forward tag, a whole decodable header.** -/
theorem dispatch_survives_iff (streams : List InboundStream) :
    Survives streams ↔ ∀ stream ∈ streams, HeaderComplete stream := by
  constructor
  · intro survives
    have running : init.status = .accepting := rfl
    apply (accepting_foldl_dispatch_iff running).mp
    have alone := survives [] (by simp)
    have followed := survives [sampleForward] (by simpa using wellFormed_sampleForward)
    by_contra stopped
    -- A finished task ends the connection, a waiting one never serves the next stream.
    have bounded := length_served_foldl_le init streams
    rw [List.foldl_append, foldl_dispatch_of_stopped stopped] at followed
    have served := congrArg List.length followed.2.2
    have header : (forwardHeader? sampleForward).toList.length = 1 := by decide
    rw [List.filterMap_append, List.length_append] at served
    have one : ([sampleForward].filterMap forwardHeader?).length = 1 := by decide
    rw [one] at served
    simp only [init, List.length_nil, Nat.zero_add] at bounded served
    omega
  · intro complete later formed
    have all : ∀ stream ∈ streams ++ later, HeaderComplete stream := by
      intro stream member
      rcases List.mem_append.mp member with before | after
      · exact complete stream before
      · exact headerComplete_of_wellFormed (formed stream after)
    have running : init.status = .accepting := rfl
    rw [foldl_dispatch_of_complete running all]
    exact ⟨rfl, rfl, rfl⟩

/-- A forward stream that is finished behind its tag ends the connection before
the PTY stream is accepted. -/
theorem aborted_forward_ends_connection :
    ¬ Survives [⟨[tagForward], some .finished⟩] ∧
      (([⟨[tagForward], some .finished⟩, ⟨[tagPty], none⟩] : List InboundStream).foldl
        dispatch .init).connectionResult = some false ∧
      (([⟨[tagForward], some .finished⟩, ⟨[tagPty], none⟩] : List InboundStream).foldl
        dispatch .init).ptyStream = none := by
  refine ⟨?_, by decide, by decide⟩
  intro survives
  have kept := (survives [] (by simp)).1
  revert kept
  decide

end DispatchState

end Etr.Server
