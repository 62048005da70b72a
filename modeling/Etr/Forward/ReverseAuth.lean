import Etr.Forward.Spec
import Etr.Protocol.Envelope
import Etr.Wire.Inbound

/-!
Contract: which server-opened streams the client serves.

Owns `is_authorized_reverse_stream`, what the reverse acceptor of the client's
`run_session` does with one stream, the headers the server's reverse listeners
and its X11 listener write, and the agreement of the two sides.

Does not own the relay behind an accepted stream, nor name resolution.
-/

namespace Etr.Forward

open Etr.Protocol Etr.Wire

/-- `u16::try_from`. -/
def portOfUInt32? (number : UInt32) : Option UInt16 :=
  if number.toNat < 2 ^ 16 then some number.toUInt16 else none

def isAuthorizedReverseStream (so : StreamOpen) (x11Enabled : Bool)
    (reverseSpecs : List ForwardSpec) : Bool :=
  if so.streamType = streamTypeToInt32 .x11 then
    x11Enabled
  else if so.streamType ≠ streamTypeToInt32 .portForward then
    false
  else
    match ForwardProto.ofInt32? so.forwardProto with
    | none => false
    | some proto =>
        match portOfUInt32? so.remotePort with
        | none => false
        | some port =>
            reverseSpecs.any fun spec =>
              decide (spec.proto = proto) && decide (spec.remotePort = port) &&
                decide (spec.remoteHost = so.remoteHost)

/-- The specifications the client keeps: those of its strings that parse. -/
def parsedReverseSpecs (reverseForwardSpecs : List String) : List ForwardSpec :=
  reverseForwardSpecs.filterMap fun text => (ForwardSpec.parse text).toOption

/-- What the acceptor does with one stream the server opened. -/
inductive ReverseAction where
  /-- The tag or the header has not arrived. -/
  | waiting
  /-- Dropped: no forward tag, or no `StreamOpen` header. -/
  | dropped
  /-- Finished: not authorized. -/
  | rejected
  /-- Connected to the local X11 display. -/
  | x11
  | connectTcp (addr : String)
  | connectUdp (addr : String)
deriving DecidableEq, Repr

/-- Behind the header: authorize, then dispatch on type and protocol. -/
def reverseAction (so : StreamOpen) (x11Enabled : Bool) (reverseSpecs : List ForwardSpec) :
    ReverseAction :=
  if isAuthorizedReverseStream so x11Enabled reverseSpecs = false then
    .rejected
  else if so.streamType = streamTypeToInt32 .x11 then
    .x11
  else
    match (ForwardProto.ofInt32? so.forwardProto).getD .tcp with
    | .tcp => .connectTcp (so.remoteHost ++ ":" ++ toString so.remotePort.toNat)
    | .udp => .connectUdp (so.remoteHost ++ ":" ++ toString so.remotePort.toNat)

/-- The task the acceptor spawns for one stream. -/
def acceptReverseStream (stream : InboundStream) (x11Enabled : Bool)
    (reverseSpecs : List ForwardSpec) : ReverseAction :=
  match stream.pollTag with
  | none => .waiting
  | some (.error _) => .dropped
  | some (.ok (tag, body)) =>
      if tag ≠ tagForward then
        .dropped
      else
        match body.pollMsg Envelope.decode with
        | none => .waiting
        | some (.ok (some (⟨some (.streamOpen so)⟩, _))) =>
            reverseAction so x11Enabled reverseSpecs
        | some _ => .dropped

/-! ## The server's headers -/

/-- Header `run_tcp_reverse_listener` writes for each connection. -/
def tcpReverseHeader (spec : ForwardSpec) : StreamOpen where
  streamId := 0
  streamType := streamTypeToInt32 .portForward
  remoteHost := spec.remoteHost
  remotePort := spec.remotePort.toUInt32
  forwardProto := ForwardProto.toInt32 .tcp

/-- Header `run_udp_reverse_listener_socket` writes for each stream. -/
def udpReverseHeader (spec : ForwardSpec) : StreamOpen where
  streamId := 0
  streamType := streamTypeToInt32 .portForward
  remoteHost := spec.remoteHost
  remotePort := spec.remotePort.toUInt32
  forwardProto := ForwardProto.toInt32 .udp

/-- The listener `handle_connection` starts for a specification decides the
header. -/
def reverseListenerHeader (spec : ForwardSpec) : StreamOpen :=
  match spec.proto with
  | .tcp => tcpReverseHeader spec
  | .udp => udpReverseHeader spec

/-- Header `forward_x11_connection` writes. -/
def x11Header : StreamOpen where
  streamId := 0
  streamType := streamTypeToInt32 .x11
  remoteHost := ""
  remotePort := 0
  forwardProto := ForwardProto.toInt32 .tcp

/-! ## Ports -/

theorem portOfUInt32?_eq_some {number : UInt32} {port : UInt16} :
    portOfUInt32? number = some port ↔ number = port.toUInt32 := by
  unfold portOfUInt32?
  constructor
  · intro converted
    split at converted
    · rename_i fits
      cases converted
      apply UInt32.toNat_inj.mp
      simp
      omega
    · contradiction
  · intro same
    subst same
    have fits := port.toNat_lt
    rw [if_pos (by simpa using fits)]
    simp

theorem portOfUInt32?_eq_none {number : UInt32} :
    portOfUInt32? number = none ↔ 2 ^ 16 ≤ number.toNat := by
  simp [portOfUInt32?]

theorem mem_parsedReverseSpecs {texts : List String} {spec : ForwardSpec} :
    spec ∈ parsedReverseSpecs texts ↔ ∃ text ∈ texts, ForwardSpec.parse text = .ok spec := by
  simp only [parsedReverseSpecs, List.mem_filterMap]
  refine exists_congr fun text => and_congr_right fun _ => ?_
  cases ForwardSpec.parse text <;> simp [Except.toOption]

/-! ## The two sides agree -/

/-- The header asks for exactly what the specification names. -/
def Names (so : StreamOpen) (spec : ForwardSpec) : Prop :=
  so.remoteHost = spec.remoteHost ∧ so.remotePort = spec.remotePort.toUInt32 ∧
    so.forwardProto = spec.proto.toInt32

section Authorization

variable {so : StreamOpen} {x11Enabled : Bool} {specs : List ForwardSpec}

theorem authorized_portForward_iff (forward : so.streamType = streamTypeToInt32 .portForward) :
    isAuthorizedReverseStream so x11Enabled specs = true ↔ ∃ spec ∈ specs, Names so spec := by
  have notX11 : so.streamType ≠ streamTypeToInt32 .x11 := by
    rw [forward]
    decide
  rw [isAuthorizedReverseStream, if_neg notX11, if_neg (not_not_intro forward)]
  cases converted : ForwardProto.ofInt32? so.forwardProto with
  | none =>
      simp only [reduceCtorEq, false_iff, not_exists, not_and]
      intro spec _ names
      rw [names.2.2, ForwardProto.ofInt32?_toInt32] at converted
      contradiction
  | some proto =>
      have number := ForwardProto.toInt32_of_ofInt32? converted
      cases narrowed : portOfUInt32? so.remotePort with
      | none =>
          simp only [reduceCtorEq, false_iff, not_exists, not_and]
          intro spec _ names
          rw [portOfUInt32?_eq_some.mpr names.2.1] at narrowed
          contradiction
      | some port =>
          simp only [List.any_eq_true, Bool.and_eq_true, decide_eq_true_eq]
          refine exists_congr fun spec => and_congr_right fun _ => ?_
          constructor
          · rintro ⟨⟨rfl, rfl⟩, host⟩
            exact ⟨host.symm, portOfUInt32?_eq_some.mp narrowed, number⟩
          · rintro ⟨host, samePort, sameProto⟩
            rw [sameProto, ForwardProto.ofInt32?_toInt32, Option.some.injEq] at converted
            rw [portOfUInt32?_eq_some.mpr samePort, Option.some.injEq] at narrowed
            exact ⟨⟨converted, narrowed⟩, host.symm⟩

/-- Authorized streams: X11 if enabled, and the configured forwards. -/
theorem authorized_iff :
    isAuthorizedReverseStream so x11Enabled specs = true ↔
      (so.streamType = streamTypeToInt32 .x11 ∧ x11Enabled = true) ∨
        (so.streamType = streamTypeToInt32 .portForward ∧ ∃ spec ∈ specs, Names so spec) := by
  by_cases x11 : so.streamType = streamTypeToInt32 .x11
  · have notForward : so.streamType ≠ streamTypeToInt32 .portForward := by
      rw [x11]
      decide
    rw [isAuthorizedReverseStream, if_pos x11]
    simp [x11, show streamTypeToInt32 .x11 ≠ streamTypeToInt32 .portForward by decide]
  · by_cases forward : so.streamType = streamTypeToInt32 .portForward
    · rw [authorized_portForward_iff forward]
      simp [forward, show streamTypeToInt32 .portForward ≠ streamTypeToInt32 .x11 by decide]
    · rw [isAuthorizedReverseStream, if_neg x11, if_pos forward]
      simp [x11, forward]

theorem names_reverseListenerHeader (spec : ForwardSpec) :
    Names (reverseListenerHeader spec) spec := by
  unfold reverseListenerHeader
  cases proto : spec.proto with
  | tcp => exact ⟨rfl, rfl, congrArg ForwardProto.toInt32 proto.symm⟩
  | udp => exact ⟨rfl, rfl, congrArg ForwardProto.toInt32 proto.symm⟩

theorem streamType_reverseListenerHeader (spec : ForwardSpec) :
    (reverseListenerHeader spec).streamType = streamTypeToInt32 .portForward := by
  unfold reverseListenerHeader
  cases spec.proto <;> rfl

/-- The address the client dials for a header that names a specification. -/
theorem reverseAction_of_names {spec : ForwardSpec}
    (forward : so.streamType = streamTypeToInt32 .portForward)
    (authorized : isAuthorizedReverseStream so x11Enabled specs = true)
    (names : Names so spec) :
    reverseAction so x11Enabled specs =
      match spec.proto with
      | .tcp => .connectTcp spec.target
      | .udp => .connectUdp spec.target := by
  have notX11 : so.streamType ≠ streamTypeToInt32 .x11 := by
    rw [forward]
    decide
  have address : so.remoteHost ++ ":" ++ toString so.remotePort.toNat = spec.target := by
    rw [names.1, names.2.1, ForwardSpec.target]
    simp
  rw [reverseAction, authorized, if_neg (by decide), if_neg notX11, names.2.2,
    ForwardProto.ofInt32?_toInt32, Option.getD_some, address]

end Authorization

/-- What the client may do with a stream: nothing, show X11 if it was enabled,
or dial the target of one configured specification with its protocol. -/
def Configured (x11Enabled : Bool) (texts : List String) : ReverseAction → Prop
  | .waiting | .dropped | .rejected => True
  | .x11 => x11Enabled = true
  | .connectTcp addr =>
      ∃ text ∈ texts, ∃ spec, ForwardSpec.parse text = .ok spec ∧ spec.proto = .tcp ∧
        addr = spec.target
  | .connectUdp addr =>
      ∃ text ∈ texts, ∃ spec, ForwardSpec.parse text = .ok spec ∧ spec.proto = .udp ∧
        addr = spec.target

theorem configured_reverseAction (so : StreamOpen) (x11Enabled : Bool) (texts : List String) :
    Configured x11Enabled texts (reverseAction so x11Enabled (parsedReverseSpecs texts)) := by
  cases authorized : isAuthorizedReverseStream so x11Enabled (parsedReverseSpecs texts) with
  | false =>
      rw [reverseAction, authorized, if_pos rfl]
      trivial
  | true =>
      rcases authorized_iff.mp authorized with ⟨x11, enabled⟩ | ⟨forward, spec, member, names⟩
      · rw [reverseAction, authorized, if_neg (by decide), if_pos x11]
        exact enabled
      · rcases mem_parsedReverseSpecs.mp member with ⟨text, listed, parsed⟩
        rw [reverseAction_of_names forward authorized names]
        cases proto : spec.proto with
        | tcp => exact ⟨text, listed, spec, parsed, proto, rfl⟩
        | udp => exact ⟨text, listed, spec, parsed, proto, rfl⟩

theorem configured_acceptReverseStream (stream : InboundStream) (x11Enabled : Bool)
    (texts : List String) :
    Configured x11Enabled texts
      (acceptReverseStream stream x11Enabled (parsedReverseSpecs texts)) := by
  unfold acceptReverseStream
  split
  · trivial
  · trivial
  · split
    · trivial
    · split
      · trivial
      · exact configured_reverseAction _ x11Enabled texts
      · trivial

/-- **The client authorizes exactly the reverse streams its configuration makes
the server open.** Accepted headers are X11 with X11 enabled or name a
configured specification, whatever arrives on a stream leads at most to a
configured target, and every header a listener writes for one of the same
strings is accepted. Ports above 65535, unknown protocols and other stream types
are rejected. -/
theorem reverse_authorization_exact (texts : List String) (x11Enabled : Bool) :
    (∀ so, isAuthorizedReverseStream so x11Enabled (parsedReverseSpecs texts) = true ↔
      (so.streamType = streamTypeToInt32 .x11 ∧ x11Enabled = true) ∨
        (so.streamType = streamTypeToInt32 .portForward ∧
          ∃ text ∈ texts, ∃ spec, ForwardSpec.parse text = .ok spec ∧ Names so spec)) ∧
    (∀ stream, Configured x11Enabled texts
      (acceptReverseStream stream x11Enabled (parsedReverseSpecs texts))) ∧
    (∀ text ∈ texts, ∀ spec, ForwardSpec.parse text = .ok spec → ∀ streamId,
      isAuthorizedReverseStream { reverseListenerHeader spec with streamId := streamId }
        x11Enabled (parsedReverseSpecs texts) = true) ∧
    (∀ so, so.streamType = streamTypeToInt32 .portForward →
      2 ^ 16 ≤ so.remotePort.toNat ∨ ForwardProto.ofInt32? so.forwardProto = none →
        isAuthorizedReverseStream so x11Enabled (parsedReverseSpecs texts) = false) ∧
    (∀ so, so.streamType ≠ streamTypeToInt32 .x11 →
      so.streamType ≠ streamTypeToInt32 .portForward →
        isAuthorizedReverseStream so x11Enabled (parsedReverseSpecs texts) = false) := by
  refine ⟨?_, ?_, ?_, ?_, ?_⟩
  · intro so
    rw [authorized_iff]
    simp only [mem_parsedReverseSpecs]
    constructor
    · rintro (x11 | ⟨forward, spec, ⟨text, listed, parsed⟩, names⟩)
      · exact Or.inl x11
      · exact Or.inr ⟨forward, text, listed, spec, parsed, names⟩
    · rintro (x11 | ⟨forward, text, listed, spec, parsed, names⟩)
      · exact Or.inl x11
      · exact Or.inr ⟨forward, spec, ⟨text, listed, parsed⟩, names⟩
  · intro stream
    exact configured_acceptReverseStream stream x11Enabled texts
  · intro text listed spec parsed streamId
    have member := mem_parsedReverseSpecs.mpr ⟨text, listed, parsed⟩
    exact authorized_iff.mpr (Or.inr ⟨streamType_reverseListenerHeader spec, spec, member,
      names_reverseListenerHeader spec⟩)
  · intro so forward outOfRange
    apply Bool.eq_false_iff.mpr
    intro authorized
    rcases (authorized_portForward_iff forward).mp authorized with ⟨spec, -, names⟩
    rcases outOfRange with tooLarge | unknown
    · rw [← portOfUInt32?_eq_none, portOfUInt32?_eq_some.mpr names.2.1] at tooLarge
      contradiction
    · rw [names.2.2, ForwardProto.ofInt32?_toInt32] at unknown
      contradiction
  · intro so notX11 notForward
    rw [isAuthorizedReverseStream, if_neg notX11, if_pos notForward]

/-- The header of an X11 connection is accepted exactly if X11 is enabled. -/
theorem authorized_x11Header (x11Enabled : Bool) (specs : List ForwardSpec) :
    isAuthorizedReverseStream x11Header x11Enabled specs = x11Enabled := rfl

end Etr.Forward
