import Etr.Protocol.Envelope
import Etr.Wire.Inbound
import Mathlib.Data.List.Forall2

/-!
Contract: which connections the server takes for its client.

Owns `constant_time_eq`, the control handshake at the start of
`handle_connection` and the check of the session's credentials, with the
reason each rejection closes the connection with. Owns the exact content of an
opening that passes.

Does not own what an authenticated connection does.
-/

namespace Etr.Server

open Etr.Library Etr.Protocol Etr.Wire
open FieldCodec (utf8 ofUtf8)

def constantTimeEq (a b : List UInt8) : Bool :=
  if a.length ≠ b.length then
    false
  else
    (a.zip b).foldl (fun diff pair => diff ||| (pair.1 ^^^ pair.2)) 0 == 0

/-- What the server's session was started with. -/
structure Credentials where
  sessionId : List UInt8
  passkey : String
deriving DecidableEq, Repr

/-- The first stream of a connection when its handshake is decided: the
`SESSION_OPEN_TIMEOUT` is over, or what the peer sent settles it. -/
inductive Opening where
  /-- `accept_bi` failed. -/
  | lost
  /-- The peer opened no stream. -/
  | silent
  | opened (stream : InboundStream)
deriving DecidableEq, Repr

inductive HandshakeError where
  | acceptBi
  | readTag
  | expectedControlTag (tag : UInt8)
  | expectedSessionOpen
  | failedToReadSessionOpen
  | timedOut
  | sessionIdMismatch
  | passkeyMismatch
deriving DecidableEq, Repr

/-- The reason `handle_connection` closes the connection with. -/
def HandshakeError.closeReason : HandshakeError → String
  | .acceptBi | .readTag | .expectedControlTag _ | .expectedSessionOpen
  | .failedToReadSessionOpen => "invalid control handshake"
  | .timedOut => "handshake timeout"
  | .sessionIdMismatch | .passkeyMismatch => "authentication failed"

/-- The handshake under its timeout. -/
def readSessionOpen : Opening → Except HandshakeError SessionOpen
  | .lost => .error .acceptBi
  | .silent => .error .timedOut
  | .opened stream =>
      match stream.pollTag with
      | none => .error .timedOut
      | some (.error _) => .error .readTag
      | some (.ok (tag, body)) =>
          if tag ≠ tagControl then
            .error (.expectedControlTag tag)
          else
            match body.pollMsg Envelope.decode with
            | none => .error .timedOut
            | some (.ok (some (⟨some (.sessionOpen so)⟩, _))) => .ok so
            | some (.ok (some _)) => .error .expectedSessionOpen
            | some _ => .error .failedToReadSessionOpen

/-- The handshake and the two credential checks behind it. -/
def authenticate (credentials : Credentials) (opening : Opening) :
    Except HandshakeError SessionOpen :=
  match readSessionOpen opening with
  | .error reason => .error reason
  | .ok so =>
      if constantTimeEq so.sessionId credentials.sessionId = false then
        .error .sessionIdMismatch
      else if constantTimeEq (utf8 so.passkey) (utf8 credentials.passkey) = false then
        .error .passkeyMismatch
      else
        .ok so

/-- The stream is tagged control and carries, as its first message and in time,
a `SessionOpen` with the session's credentials. -/
def Opening.Presents (credentials : Credentials) (so : SessionOpen) : Opening → Prop
  | .lost | .silent => False
  | .opened stream =>
      ∃ body, stream.bytes = tagControl :: body ∧
        InboundStream.CompleteMessage Envelope.decode ⟨body, stream.ending⟩ ∧
        Envelope.decode ((body.drop 4).take (fromBeBytes (body.take 4))) =
          some ⟨some (.sessionOpen so)⟩ ∧
        so.sessionId = credentials.sessionId ∧ so.passkey = credentials.passkey

/-- The control handshake fails: the first stream is not tagged control, its
first message is missing, undecodable, too large or not `SessionOpen`, or a
credential differs. -/
def Opening.Fails (credentials : Credentials) (opening : Opening) : Prop :=
  ∀ so, ¬ opening.Presents credentials so

/-! ## Comparing credentials -/

theorem foldl_diff_eq_zero (pairs : List (UInt8 × UInt8)) (diff : UInt8) :
    pairs.foldl (fun diff pair => diff ||| (pair.1 ^^^ pair.2)) diff = 0 ↔
      diff = 0 ∧ ∀ pair ∈ pairs, pair.1 = pair.2 := by
  induction pairs generalizing diff with
  | nil => simp
  | cons pair rest inductionHypothesis =>
      rw [List.foldl_cons, inductionHypothesis, List.forall_mem_cons, UInt8.or_eq_zero_iff,
        UInt8.xor_eq_zero_iff, and_assoc]

theorem constantTimeEq_eq_true {a b : List UInt8} : constantTimeEq a b = true ↔ a = b := by
  unfold constantTimeEq
  split
  · rename_i different
    apply iff_of_false (by simp)
    rintro rfl
    exact different rfl
  · rename_i same
    rw [beq_iff_eq, foldl_diff_eq_zero]
    constructor
    · rintro ⟨-, pairwise⟩
      have equal : List.Forall₂ Eq a b :=
        List.forall₂_iff_zip.mpr ⟨not_not.mp same, fun member => pairwise _ member⟩
      exact List.forall₂_eq_eq_eq ▸ equal
    · rintro rfl
      refine ⟨rfl, fun pair member => ?_⟩
      have reflexive : List.Forall₂ Eq a a := List.forall₂_refl a
      exact (List.forall₂_iff_zip.mp reflexive).2 member

theorem utf8_inj {left right : String} : utf8 left = utf8 right ↔ left = right := by
  constructor
  · intro same
    have decoded := congrArg ofUtf8 same
    simpa using decoded
  · exact congrArg utf8

/-! ## Who is let in -/

variable {credentials : Credentials} {opening : Opening} {so : SessionOpen}

/-- The handshake yields the first message of a tagged stream. -/
theorem readSessionOpen_eq_ok : readSessionOpen opening = .ok so ↔
    ∃ body ending rest, opening = .opened ⟨tagControl :: body, ending⟩ ∧
      InboundStream.pollMsg Envelope.decode ⟨body, ending⟩ =
        some (.ok (some (⟨some (.sessionOpen so)⟩, rest))) := by
  constructor
  · intro accepted
    cases opening with
    | lost => cases accepted
    | silent => cases accepted
    | opened stream =>
        obtain ⟨bytes, ending⟩ := stream
        cases bytes with
        | nil => cases ending <;> cases accepted
        | cons tag body =>
            simp only [readSessionOpen, InboundStream.pollTag] at accepted
            split at accepted
            · cases accepted
            · rename_i control
              cases not_not.mp control
              split at accepted
              · cases accepted
              · rename_i message rest read
                cases accepted
                exact ⟨body, ending, rest, rfl, read⟩
              · cases accepted
              · cases accepted
  · rintro ⟨body, ending, rest, rfl, read⟩
    simp [readSessionOpen, InboundStream.pollTag, read]

theorem presents_iff : opening.Presents credentials so ↔
    readSessionOpen opening = .ok so ∧
      so.sessionId = credentials.sessionId ∧ so.passkey = credentials.passkey := by
  rw [readSessionOpen_eq_ok]
  cases opening with
  | lost => simp [Opening.Presents]
  | silent => simp [Opening.Presents]
  | opened stream =>
      obtain ⟨bytes, ending⟩ := stream
      constructor
      · rintro ⟨body, tagged, complete, decoded, sameId, samePasskey⟩
        rcases InboundStream.pollMsg_of_complete complete with ⟨envelope, rest, read, polled⟩
        cases tagged
        cases decoded.symm.trans read
        exact ⟨⟨body, ending, rest, rfl, polled⟩, sameId, samePasskey⟩
      · rintro ⟨⟨body, ending', rest, same, polled⟩, sameId, samePasskey⟩
        cases same
        have complete := InboundStream.complete_of_pollMsg polled
        rcases InboundStream.pollMsg_of_complete complete with ⟨envelope, rest', read, polled'⟩
        cases polled.symm.trans polled'
        exact ⟨body, rfl, complete, read, sameId, samePasskey⟩

/-- **Exactly the openings that present the session's credentials pass.** -/
theorem authenticate_eq_ok :
    authenticate credentials opening = .ok so ↔ opening.Presents credentials so := by
  rw [presents_iff]
  cases read : readSessionOpen opening with
  | error reason => simp [authenticate, read]
  | ok found =>
      simp only [authenticate, read, Bool.eq_false_iff, ne_eq, constantTimeEq_eq_true,
        utf8_inj, Except.ok.injEq]
      split
      · rename_i different
        apply iff_of_false (by simp)
        rintro ⟨rfl, sameId, -⟩
        exact different sameId
      · rename_i sameId
        split
        · rename_i different
          apply iff_of_false (by simp)
          rintro ⟨rfl, -, samePasskey⟩
          exact different samePasskey
        · rename_i samePasskey
          constructor
          · intro same
            cases same
            exact ⟨rfl, not_not.mp sameId, not_not.mp samePasskey⟩
          · rintro ⟨rfl, -⟩
            rfl

/-- A failed handshake is rejected, for one of the reasons above. -/
theorem authenticate_of_fails (fails : opening.Fails credentials) :
    ∃ reason, authenticate credentials opening = .error reason := by
  cases outcome : authenticate credentials opening with
  | error reason => exact ⟨reason, rfl⟩
  | ok so => exact absurd (authenticate_eq_ok.mp outcome) (fails so)

end Etr.Server
