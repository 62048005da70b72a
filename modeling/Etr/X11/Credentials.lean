import Etr.X11.Setup
import Etr.Bootstrap.Fields
import Etr.Forward.Spec
import Etr.Protocol.Envelope

/-!
Contract: the X11 credentials on their way from the client's `xauth` to its X
server.

Owns the listing parser of `src/forward.rs`, the two credential fields of the
client's `SessionOpen`, the cookie the server stores, and the exact protocols
whose credentials arrive.

Does not own running `xauth`: the listing is its output as text.
-/

namespace Etr.X11

open Etr.Library Etr.Protocol Etr.Wire Etr.Bootstrap Etr.Forward
open FieldCodec (utf8)

/-! ## Client -/

/-- The display number's text in the first field of an entry. -/
def displayPart (entry : Text) : Option Text :=
  if ':' ∈ entry then
    let rest := (entry.reverse.takeWhile fun c => c != ':').reverse
    some ((rest.takeWhile fun c => c != '/').takeWhile fun c => c != '.')
  else
    none

/-- The loop body of `parse_xauth_list_for_display`. -/
def parseXauthLine (targetNum : UInt16) (line : Text) :
    Except SlicePanic (Option (String × List UInt8)) :=
  match splitWhitespace line with
  | entry :: proto :: cookieHex :: _ =>
      match displayPart entry with
      | none => .ok none
      | some display =>
          if parsePort display = some targetNum then
            (hexDecodeBytes cookieHex).map fun cookie =>
              cookie.map fun bytes => (String.ofList proto, bytes)
          else
            .ok none
  | _ => .ok none

def parseXauthListForDisplay (stdout : Text) (targetNum : UInt16) :
    Except SlicePanic (Option (String × List UInt8)) :=
  firstLine (parseXauthLine targetNum) (linesFrom [] stdout)

/-- The `SessionOpen` of `run_session`, with the credentials that were found;
without any, both fields stay empty. -/
def withCredentials (sessionOpen : SessionOpen) (found : Option (String × List UInt8)) :
    SessionOpen :=
  { sessionOpen with
    x11AuthProto := (found.map Prod.fst).getD ""
    x11AuthCookie := (found.map Prod.snd).getD [] }

/-! ## Server -/

/-- What `handle_connection` stores of a `SessionOpen`. -/
def storeX11Cookie (stored : Option (List UInt8)) (sessionOpen : SessionOpen) :
    Option (List UInt8) :=
  if sessionOpen.x11Enabled then some sessionOpen.x11AuthCookie else stored

/-- An accepted X11 connection: without a stored cookie it is dropped. -/
def rewriteSetup (stored : Option (List UInt8)) (fakeCookie : List UInt8) (stream : RecvStream) :
    Option (List UInt8) :=
  stored.bind fun realCookie =>
    match processX11Setup stream fakeCookie realCookie with
    | .error _ => none
    | .ok (_, block) => some block

/-! ## End to end -/

/-- What the X server of the client is shown: the listing is searched, the
credentials are sent and stored, and the setup request of `stream` is
rewritten. -/
def shownToXServer (order : MapOrder) (sessionOpen : SessionOpen) (stored : Option (List UInt8))
    (listing : Text) (targetNum : UInt16) (fakeCookie : List UInt8) (stream : RecvStream) :
    Option Authorization :=
  match parseXauthListForDisplay listing targetNum with
  | .error _ => none
  | .ok found =>
      (Envelope.decode
          (Envelope.encode order ⟨some (.sessionOpen (withCredentials sessionOpen found))⟩)).bind
        fun
        | ⟨some (.sessionOpen received)⟩ =>
            (rewriteSetup (storeX11Cookie stored received) fakeCookie stream).bind fun block =>
              (readSetup block).map Prod.fst
        | _ => none

section Shown

variable {order : MapOrder} {sessionOpen : SessionOpen} {listing : Text} {targetNum : UInt16}
variable {proto : String} {cookie : List UInt8}

/-- The cookie that was found is shown, under the one protocol name the server
writes. -/
theorem shownToXServer_eq
    (selected : parseXauthListForDisplay listing targetNum = .ok (some (proto, cookie)))
    (enabled : sessionOpen.x11Enabled = true) (nonempty : cookie ≠ [])
    (fits : cookie.length < 2 ^ 16)
    (sent : (Envelope.encode order
      ⟨some (.sessionOpen (withCredentials sessionOpen (some (proto, cookie))))⟩).length < 2 ^ 64)
    {fakeCookie : List UInt8} (spoofed : fakeCookie ≠ []) {request : SetupRequest}
    (carried : fakeCookie <+: request.data) (stored : Option (List UInt8)) (rest : List UInt8)
    (ending : StreamEnd) :
    shownToXServer order sessionOpen stored listing targetNum fakeCookie
      ⟨request.bytes ++ rest, ending⟩ = some ⟨protoName, cookie⟩ := by
  rcases request.exists_rewritten request.name.length request.data.length fits with
    ⟨rewritten, block, shown⟩
  have accepted : storeX11Cookie stored (withCredentials sessionOpen (some (proto, cookie))) =
      some cookie := by
    rw [storeX11Cookie, if_pos]
    · rfl
    · exact enabled
  have blockRead := rewritten.readSetup_bytes []
  rw [List.append_nil] at blockRead
  rw [shownAuthorization, if_neg (by simpa using nonempty)] at shown
  rw [shownToXServer, selected]
  simp only [Envelope.decode_encode sent, Option.bind_some, accepted, rewriteSetup,
    request.processX11Setup_bytes spoofed carried, block, blockRead, Option.map_some, shown]

/-- **The X server is shown the credentials the client found exactly if their
protocol is MIT-MAGIC-COOKIE-1.** -/
theorem credentials_shown_iff
    (selected : parseXauthListForDisplay listing targetNum = .ok (some (proto, cookie)))
    (enabled : sessionOpen.x11Enabled = true) (nonempty : cookie ≠ [])
    (fits : cookie.length < 2 ^ 16)
    (sent : (Envelope.encode order
      ⟨some (.sessionOpen (withCredentials sessionOpen (some (proto, cookie))))⟩).length < 2 ^ 64)
    {fakeCookie : List UInt8} (spoofed : fakeCookie ≠ []) {request : SetupRequest}
    (carried : fakeCookie <+: request.data) (stored : Option (List UInt8)) (rest : List UInt8)
    (ending : StreamEnd) :
    shownToXServer order sessionOpen stored listing targetNum fakeCookie
        ⟨request.bytes ++ rest, ending⟩ = some ⟨utf8 proto, cookie⟩ ↔
      proto = "MIT-MAGIC-COOKIE-1" := by
  rw [shownToXServer_eq selected enabled nonempty fits sent spoofed carried, Option.some.injEq,
    Authorization.mk.injEq, protoName, Server.utf8_inj, and_iff_left rfl]
  exact eq_comm

end Shown

/-! ## A listing with another protocol -/

/-- A session with X11 forwarding. -/
def sampleSession : SessionOpen :=
  ⟨[1], "k3y", ∅, [], false, true, "", []⟩

/-- A little-endian client with the server's cookie. -/
def spoofedRequest : SetupRequest where
  order := .little
  version := #v[0, 11, 0, 0, 0]
  name := protoName
  namePadding := zeroPadding protoName
  data := [7, 7, 7, 7]
  dataPadding := []
  unused := #v[0, 0]
  nameFits := by decide
  dataFits := by decide
  namePadded := length_zeroPadding protoName
  dataPadded := rfl

/-- An entry for display 0 with the protocol `proto`. -/
def sampleListing (proto : Text) : Text :=
  "host/unix:0  ".toList ++ proto ++ "  30ff\n".toList

theorem mitCredentials_shown :
    shownToXServer (.ascending UInt32 UInt64) sampleSession none
        (sampleListing "MIT-MAGIC-COOKIE-1".toList) 0 [7, 7, 7, 7]
        ⟨spoofedRequest.bytes ++ [98], .finished⟩ =
      some ⟨utf8 "MIT-MAGIC-COOKIE-1", [0x30, 0xFF]⟩ := by
  have selected : parseXauthListForDisplay (sampleListing "MIT-MAGIC-COOKIE-1".toList) 0 =
      .ok (some ("MIT-MAGIC-COOKIE-1", [0x30, 0xFF])) := rfl
  exact (credentials_shown_iff selected rfl (by decide) (by decide) (by decide) (by decide)
    (by decide) none [98] .finished).mpr rfl

/-- The cookie of another protocol is shown under the usual name. -/
theorem xdmCredentials_renamed :
    parseXauthListForDisplay (sampleListing "XDM-AUTHORIZATION-1".toList) 0 =
        .ok (some ("XDM-AUTHORIZATION-1", [0x30, 0xFF])) ∧
      shownToXServer (.ascending UInt32 UInt64) sampleSession none
          (sampleListing "XDM-AUTHORIZATION-1".toList) 0 [7, 7, 7, 7]
          ⟨spoofedRequest.bytes ++ [98], .finished⟩ =
        some ⟨utf8 "MIT-MAGIC-COOKIE-1", [0x30, 0xFF]⟩ ∧
      utf8 "MIT-MAGIC-COOKIE-1" ≠ utf8 "XDM-AUTHORIZATION-1" := by
  have selected : parseXauthListForDisplay (sampleListing "XDM-AUTHORIZATION-1".toList) 0 =
      .ok (some ("XDM-AUTHORIZATION-1", [0x30, 0xFF])) := rfl
  refine ⟨selected, ?_, by decide⟩
  exact shownToXServer_eq selected rfl (by decide) (by decide) (by decide) (by decide) (by decide)
    none [98] .finished

end Etr.X11
