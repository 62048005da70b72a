import Etr.Protocol.Messages

/-!
Contract: forwarding specifications, as `src/forward.rs` parses them.

Owns `ForwardSpec`, the bracket-aware split, the port parser,
`ForwardSpec::parse` with its error texts and the addresses a listener binds.

Does not own binding or connecting.
-/

namespace Etr.Forward

open Etr.Protocol

/-- A parsed `-L` or `-R` forwarding specification. -/
structure ForwardSpec where
  bindAddress : Option String
  localPort : UInt16
  remoteHost : String
  remotePort : UInt16
  proto : ForwardProto
deriving DecidableEq, Repr

/-- `split_ignoring_brackets`, inside its loop: `current` is the part being
collected. -/
def splitIgnoringBrackets (inBrackets : Bool) (current : List Char) :
    List Char → List (List Char)
  | [] => [current]
  | c :: rest =>
      if c = '[' then
        splitIgnoringBrackets true (current ++ [c]) rest
      else if c = ']' then
        splitIgnoringBrackets false (current ++ [c]) rest
      else if c = ':' ∧ inBrackets = false then
        current :: splitIgnoringBrackets inBrackets [] rest
      else
        splitIgnoringBrackets inBrackets (current ++ [c]) rest

def stripSuffix (suffix text : List Char) : Option (List Char) :=
  if suffix.isSuffixOf text then some (text.take (text.length - suffix.length)) else none

/-- One more decimal digit, unless it overflows 16 bits. -/
def pushDigit (number : Nat) (digit : Char) : Option Nat :=
  if digit.isDigit then
    let pushed := number * 10 + (digit.toNat - '0'.toNat)
    if pushed < 2 ^ 16 then some pushed else none
  else
    none

/-- `parse::<u16>`: decimal digits behind an optional plus sign. -/
def parsePort (text : List Char) : Option UInt16 :=
  let digits :=
    match text with
    | '+' :: digits => digits
    | _ => text
  if digits.isEmpty then none else (digits.foldlM pushDigit 0).map UInt16.ofNat

/-! ## Printed ports -/

theorem pushDigit_digitChar {number digit : Nat} (small : digit < 10)
    (fits : number * 10 + digit < 2 ^ 16) :
    pushDigit number digit.digitChar = some (number * 10 + digit) := by
  have isDigit : ∀ digit < 10, (Nat.digitChar digit).isDigit = true := by decide
  have value : ∀ digit < 10, (Nat.digitChar digit).toNat - '0'.toNat = digit := by decide
  rw [pushDigit, if_pos (isDigit digit small), value digit small, if_pos fits]

theorem foldlM_pushDigit_toDigits {number : Nat} (fits : number < 2 ^ 16) :
    (Nat.toDigits 10 number).foldlM pushDigit 0 = some number := by
  induction number using Nat.strongRecOn with
  | ind number inductionHypothesis =>
      by_cases single : number < 10
      · rw [Nat.toDigits_of_lt_base single, List.foldlM_cons,
          pushDigit_digitChar single (by omega)]
        simp
      · have high := inductionHypothesis (number / 10) (by omega) (by omega)
        have low : number % 10 < 10 := Nat.mod_lt _ (by decide)
        have pushed := pushDigit_digitChar low
          (show number / 10 * 10 + number % 10 < 2 ^ 16 by omega)
        rw [Nat.toDigits_of_base_le (by decide) (Nat.not_lt.mp single), List.foldlM_append, high]
        simp only [Option.bind_eq_bind, Option.bind_some, List.foldlM_cons, pushed,
          List.foldlM_nil]
        rw [Nat.div_add_mod']
        rfl

/-- A printed port is read back. -/
theorem parsePort_toDigits (port : UInt16) :
    parsePort (Nat.toDigits 10 port.toNat) = some port := by
  have digits := foldlM_pushDigit_toDigits port.toNat_lt
  unfold parsePort
  split
  · rename_i rest plus
    have head : '+' ∈ Nat.toDigits 10 port.toNat := plus ▸ List.mem_cons_self
    have isDigit := Nat.isDigit_of_mem_toDigits (by decide) (by decide) head
    exact absurd isDigit (by decide)
  · have nonempty : (Nat.toDigits 10 port.toNat).isEmpty = false := by simp
    simp [nonempty, digits]

namespace ForwardSpec

/-- The parts between the colons, without the protocol suffix. -/
def specParts (text : List Char) : List (List Char) × ForwardProto :=
  match stripSuffix "/udp".toList text with
  | some base => (splitIgnoringBrackets false [] base, .udp)
  | none =>
      (splitIgnoringBrackets false [] ((stripSuffix "/tcp".toList text).getD text), .tcp)

/-- The checks of `parse` on the parts, in its order. -/
def ofParts (spec : String) (bindAddress : Option (List Char))
    (localPort remoteHost remotePort : List Char) (proto : ForwardProto) :
    Except String ForwardSpec :=
  match parsePort localPort with
  | none =>
      .error ("invalid local port '" ++ String.ofList localPort ++ "' in spec '" ++ spec ++ "'")
  | some localNumber =>
      match parsePort remotePort with
      | none =>
          .error ("invalid remote port '" ++ String.ofList remotePort ++ "' in spec '" ++
            spec ++ "'")
      | some remoteNumber =>
          if remoteHost.isEmpty then
            .error ("empty remote host in spec '" ++ spec ++ "'")
          else
            .ok { bindAddress := bindAddress.map String.ofList
                  localPort := localNumber
                  remoteHost := String.ofList remoteHost
                  remotePort := remoteNumber
                  proto := proto }

/-- `ForwardSpec::parse`. -/
def parse (spec : String) : Except String ForwardSpec :=
  match specParts spec.toList with
  | ([localPort, remoteHost, remotePort], proto) =>
      ofParts spec none localPort remoteHost remotePort proto
  | ([bindAddress, localPort, remoteHost, remotePort], proto) =>
      ofParts spec (some bindAddress) localPort remoteHost remotePort proto
  | _ =>
      .error ("invalid spec '" ++ spec ++
        "': expected [bind_address:]local_port:remote_host:remote_port")

/-- The address text a client connects to for this specification. -/
def target (spec : ForwardSpec) : String :=
  spec.remoteHost ++ ":" ++ toString spec.remotePort.toNat

/-- `get_bind_addresses`: the one wildcard socket takes both address families,
the loopback addresses take two. -/
def getBindAddresses (spec : ForwardSpec) (gateway : Bool) : List String :=
  match spec.bindAddress with
  | some address =>
      if address = "*" ∨ address = "0.0.0.0" ∨ address = "::" ∨ address.isEmpty then
        ["[::]"]
      else
        [address]
  | none => if gateway then ["[::]"] else ["127.0.0.1", "[::1]"]

/-- There is always an address to bind. -/
theorem getBindAddresses_ne_nil (spec : ForwardSpec) (gateway : Bool) :
    spec.getBindAddresses gateway ≠ [] := by
  unfold getBindAddresses
  split
  · split <;> exact List.cons_ne_nil _ _
  · split <;> exact List.cons_ne_nil _ _

theorem remoteHost_ne_empty_of_ofParts {spec : String} {bindAddress : Option (List Char)}
    {localPort remoteHost remotePort : List Char} {proto : ForwardProto} {parsed : ForwardSpec}
    (accepted : ofParts spec bindAddress localPort remoteHost remotePort proto = .ok parsed) :
    parsed.remoteHost ≠ "" := by
  unfold ofParts at accepted
  split at accepted
  · cases accepted
  · split at accepted
    · cases accepted
    · split at accepted
      · cases accepted
      · rename_i nonempty
        cases accepted
        simpa [String.ext_iff] using nonempty

/-- An accepted specification names a host. -/
theorem remoteHost_ne_empty_of_parse {spec : String} {parsed : ForwardSpec}
    (accepted : parse spec = .ok parsed) : parsed.remoteHost ≠ "" := by
  unfold parse at accepted
  split at accepted
  · exact remoteHost_ne_empty_of_ofParts accepted
  · exact remoteHost_ne_empty_of_ofParts accepted
  · cases accepted

/-- The examples in the module documentation of the source. -/
example : (parse "5353:192.168.1.1:53/udp").toOption =
    some ⟨none, 5353, "192.168.1.1", 53, .udp⟩ := by decide

example : (parse "5432:[::1]:5432").toOption = some ⟨none, 5432, "[::1]", 5432, .tcp⟩ := by decide

end ForwardSpec

end Etr.Forward
