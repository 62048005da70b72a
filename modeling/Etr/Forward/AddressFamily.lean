import Etr.Library.Preference
import Etr.Bootstrap.Request
import Etr.Forward.UdpFrame

/-!
Contract: address-family preferences.

Owns the reordering of `src/addrfam.rs`, the selection loops on it there and in
`src/forward.rs`, and what a preference can and cannot change.

Does not own name resolution, nor which addresses have a route or accept.
-/

namespace Etr.Forward

def SocketAddr.isIpv6 : SocketAddr → Bool
  | .v4 .. => false
  | .v6 .. => true

end Etr.Forward

namespace Etr.Bootstrap.AddrPref

def or (pref fallback : AddrPref) : AddrPref :=
  match pref with
  | .auto => fallback
  | other => other

/-- `matches`. -/
def matchesAddr (pref : AddrPref) (addr : Forward.SocketAddr) : Bool :=
  match pref with
  | .auto => false
  | .ipv4 => !addr.isIpv6
  | .ipv6 => addr.isIpv6

end Etr.Bootstrap.AddrPref

namespace Etr.Forward

open Etr.Library Etr.Bootstrap

def orderByFamily (addrs : List SocketAddr) (pref : AddrPref) : List SocketAddr :=
  match pref with
  | .auto => addrs
  | _ => addrs.filter pref.matchesAddr ++ addrs.filter fun addr => !pref.matchesAddr addr

/-- What the network answers: whether a UDP socket can be bound to an address
text and connected, and what a TCP connection gives. -/
structure Network (Stream : Type) where
  bindUdp : String → Bool
  connectUdp : SocketAddr → Bool
  connectTcp : SocketAddr → Except String Stream

section Selection

variable {Stream : Type} (network : Network Stream)

/-- The probe of `first_routable`. -/
def Network.routable (addr : SocketAddr) : Bool :=
  network.bindUdp (if addr.isIpv6 then "[::]:0" else "0.0.0.0:0") && network.connectUdp addr

def firstRoutable : List SocketAddr → Option SocketAddr
  | [] => none
  | addr :: rest => if network.routable addr then some addr else firstRoutable rest

/-- `resolve_preferred`, from the answer of the resolver. -/
def resolvePreferred (lookupHost : Except String (List SocketAddr)) (pref : AddrPref) :
    Option SocketAddr :=
  match lookupHost with
  | .error _ => none
  | .ok addrs =>
      let ordered := orderByFamily addrs pref
      (firstRoutable network ordered).or ordered.head?

def resolveUdpTarget (lookupHost : Except String (List SocketAddr)) (pref : AddrPref) :
    Option SocketAddr :=
  match lookupHost with
  | .error _ => none
  | .ok addrs => firstRoutable network (orderByFamily addrs (pref.or .ipv6))

def connectTcpPreferred (addrStr : String) (lookupHost : Except String (List SocketAddr))
    (pref : AddrPref) : Except String Stream :=
  match lookupHost with
  | .error error => .error error
  | .ok addrs =>
      tryEach network.connectTcp ("could not resolve " ++ addrStr) (orderByFamily addrs pref)

end Selection

/-! ## The order -/

theorem orderByFamily_eq_preferring (addrs : List SocketAddr) (pref : AddrPref) :
    orderByFamily addrs pref = preferring pref.matchesAddr addrs := by
  cases pref with
  | auto => simp [orderByFamily, preferring, AddrPref.matchesAddr]
  | ipv4 => rfl
  | ipv6 => rfl

/-- The resolver's order stays within each family. -/
theorem filter_orderByFamily (addrs : List SocketAddr) (pref : AddrPref) :
    (orderByFamily addrs pref).filter SocketAddr.isIpv6 = addrs.filter SocketAddr.isIpv6 ∧
      (orderByFamily addrs pref).filter (fun addr => !addr.isIpv6) =
        addrs.filter fun addr => !addr.isIpv6 := by
  rw [orderByFamily_eq_preferring]
  cases pref with
  | auto =>
      exact ⟨filter_preferring_of_others addrs fun _ _ => rfl,
        filter_preferring_of_others addrs fun _ _ => rfl⟩
  | ipv4 =>
      refine ⟨filter_preferring_of_others addrs ?_,
        filter_preferring_of_preferred addrs fun _ kept => kept⟩
      intro addr kept
      simp [AddrPref.matchesAddr, kept]
  | ipv6 =>
      refine ⟨filter_preferring_of_preferred addrs fun _ kept => kept,
        filter_preferring_of_others addrs ?_⟩
      intro addr kept
      simpa [AddrPref.matchesAddr] using kept

/-! ## The selections -/

section Selected

variable {Stream : Type} (network : Network Stream)

theorem firstRoutable_eq_find? (addrs : List SocketAddr) :
    firstRoutable network addrs = addrs.find? network.routable := by
  induction addrs with
  | nil => rfl
  | cons addr rest inductionHypothesis =>
      rw [firstRoutable, List.find?_cons]
      cases network.routable addr with
      | false => simpa using inductionHypothesis
      | true => rfl

/-- Which address is picked: the first routable one of the preferred family, else
the first routable one, else the first one of the preferred family, else the
first one. -/
theorem resolvePreferred_ok (addrs : List SocketAddr) (pref : AddrPref) :
    resolvePreferred network (.ok addrs) pref =
      ((addrs.find? fun addr => pref.matchesAddr addr && network.routable addr).or
        (addrs.find? network.routable)).or
          ((addrs.find? pref.matchesAddr).or addrs.head?) := by
  have firstOfAll : (addrs.find? fun addr => pref.matchesAddr addr && true).or
      (addrs.find? fun addr => !pref.matchesAddr addr && true) =
        (addrs.find? fun addr => pref.matchesAddr addr && true).or
          (addrs.find? fun _ => true) := or_find?_not pref.matchesAddr (fun _ => true) addrs
  simp only [Bool.and_true] at firstOfAll
  have anyHead : (addrs.find? fun _ => true) = addrs.head? := by
    cases addrs with
    | nil => rfl
    | cons addr rest => rfl
  simp only [resolvePreferred, firstRoutable_eq_find?, orderByFamily_eq_preferring,
    find?_preferring, or_find?_not, head?_preferring, firstOfAll, anyHead]

/-- The target of a UDP forward has a route, or is none at all. -/
theorem resolveUdpTarget_ok (addrs : List SocketAddr) (pref : AddrPref) :
    resolveUdpTarget network (.ok addrs) pref =
      (addrs.find? fun addr => (pref.or .ipv6).matchesAddr addr && network.routable addr).or
        (addrs.find? network.routable) := by
  simp only [resolveUdpTarget, firstRoutable_eq_find?, orderByFamily_eq_preferring,
    find?_preferring, or_find?_not]

end Selected

/-- The preferred family comes first. -/
theorem orderByFamily_split (addrs : List SocketAddr) (pref : AddrPref) :
    ∃ first rest, orderByFamily addrs pref = first ++ rest ∧
      (∀ addr ∈ first, pref.matchesAddr addr = true) ∧
        ∀ addr ∈ rest, pref.matchesAddr addr = false := by
  refine ⟨_, _, orderByFamily_eq_preferring addrs pref, ?_, ?_⟩
  · intro addr member
    exact (List.mem_filter.mp member).2
  · intro addr member
    simpa using (List.mem_filter.mp member).2

/-- An address is picked from every nonempty list. -/
theorem exists_resolvePreferred {Stream : Type} (network : Network Stream)
    {addrs : List SocketAddr} (nonempty : addrs ≠ []) (pref : AddrPref) :
    ∃ addr ∈ addrs, resolvePreferred network (.ok addrs) pref = some addr := by
  cases picked : resolvePreferred network (.ok addrs) pref with
  | none =>
      rw [resolvePreferred_ok] at picked
      simp only [Option.or_eq_none_iff, List.head?_eq_none_iff] at picked
      exact absurd picked.2.2 nonempty
  | some addr =>
      refine ⟨addr, ?_, rfl⟩
      rw [resolvePreferred_ok] at picked
      simp only [Option.or_eq_some_iff] at picked
      rcases picked with (preferred | ⟨-, routable⟩) | ⟨-, family | ⟨-, first⟩⟩
      · exact List.mem_of_find?_eq_some preferred
      · exact List.mem_of_find?_eq_some routable
      · exact List.mem_of_find?_eq_some family
      · exact List.mem_of_mem_head? first

/-- **A preference reorders the candidates and nothing more.** The order is a
permutation with the preferred family in front and the resolver's order within
each family; an address is picked from every nonempty list, a routable one if
there is any, one of the preferred family if a routable one is there, and the
earliest of its kind each time; and a TCP connection succeeds exactly if some
candidate accepts, on the first such one in that order. -/
theorem preference_costs_nothing {Stream : Type} (network : Network Stream)
    (addrs : List SocketAddr) (pref : AddrPref) (addrStr : String) :
    ((orderByFamily addrs pref).Perm addrs ∧ (pref = .auto → orderByFamily addrs pref = addrs) ∧
      (∃ first rest, orderByFamily addrs pref = first ++ rest ∧
        (∀ addr ∈ first, pref.matchesAddr addr = true) ∧
          ∀ addr ∈ rest, pref.matchesAddr addr = false) ∧
      (orderByFamily addrs pref).filter SocketAddr.isIpv6 = addrs.filter SocketAddr.isIpv6 ∧
      (orderByFamily addrs pref).filter (fun addr => !addr.isIpv6) =
        addrs.filter fun addr => !addr.isIpv6) ∧
    ((addrs ≠ [] → ∃ addr ∈ addrs, resolvePreferred network (.ok addrs) pref = some addr) ∧
      (∀ addr, (addrs.find? fun addr => pref.matchesAddr addr && network.routable addr) =
          some addr → resolvePreferred network (.ok addrs) pref = some addr) ∧
      ((addrs.find? fun addr => pref.matchesAddr addr && network.routable addr) = none →
        ∀ addr, addrs.find? network.routable = some addr →
          resolvePreferred network (.ok addrs) pref = some addr) ∧
      (addrs.find? network.routable = none →
        resolvePreferred network (.ok addrs) pref = (orderByFamily addrs pref).head?)) ∧
    ((∃ stream, connectTcpPreferred network addrStr (.ok addrs) pref = .ok stream) ↔
      ∃ addr ∈ addrs, ∃ stream, network.connectTcp addr = .ok stream) ∧
    ∀ stream, connectTcpPreferred network addrStr (.ok addrs) pref = .ok stream ↔
      ∃ before addr after, orderByFamily addrs pref = before ++ addr :: after ∧
        (∀ earlier ∈ before, ∃ error, network.connectTcp earlier = .error error) ∧
          network.connectTcp addr = .ok stream := by
  refine ⟨⟨?_, ?_, orderByFamily_split addrs pref, filter_orderByFamily addrs pref⟩,
    ⟨fun nonempty => exists_resolvePreferred network nonempty pref, ?_, ?_, ?_⟩, ?_,
    fun stream => tryEach_eq_ok_iff⟩
  · rw [orderByFamily_eq_preferring]
    exact preferring_perm addrs
  · rintro rfl
    rfl
  · intro addr found
    rw [resolvePreferred_ok, found]
    rfl
  · intro unpreferred addr found
    rw [resolvePreferred_ok, unpreferred, found]
    rfl
  · intro unroutable
    have unfound : (orderByFamily addrs pref).find? network.routable = none := by
      rw [orderByFamily_eq_preferring, List.find?_eq_none]
      intro addr member
      exact List.find?_eq_none.mp unroutable addr ((mem_preferring addrs).mp member)
    simp only [resolvePreferred, firstRoutable_eq_find?, unfound, Option.none_or]
  · rw [connectTcpPreferred, exists_tryEach_eq_ok_iff, orderByFamily_eq_preferring]
    simp only [mem_preferring]

end Etr.Forward
