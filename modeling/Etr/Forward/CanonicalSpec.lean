import Etr.Forward.Spec

/-!
Contract: the printed form of a forwarding specification.

Owns `Display` for `ForwardSpec`, the texts that the bracket-aware split leaves
in one piece, and that parsing a printed specification gives it back.

Does not own the parser.
-/

namespace Etr.Forward

open Etr.Protocol

/-! ## Parts of a split -/

/-- Whether the split is inside brackets behind the text; `none` if it finds a
colon to split at in it. -/
def bracketsBehind : Bool → List Char → Option Bool
  | inBrackets, [] => some inBrackets
  | inBrackets, c :: rest =>
      if c = '[' then
        bracketsBehind true rest
      else if c = ']' then
        bracketsBehind false rest
      else if c = ':' ∧ inBrackets = false then
        none
      else
        bracketsBehind inBrackets rest

/-- A text that the split leaves whole between two separators. -/
def IsPart (text : List Char) : Prop :=
  bracketsBehind false text = some false

theorem bracketsBehind_append (inBrackets : Bool) (left right : List Char) :
    bracketsBehind inBrackets (left ++ right) =
      (bracketsBehind inBrackets left).bind fun behind => bracketsBehind behind right := by
  induction left generalizing inBrackets with
  | nil => rfl
  | cons c rest inductionHypothesis =>
      simp only [List.cons_append, bracketsBehind]
      split
      · exact inductionHypothesis true
      · split
        · exact inductionHypothesis false
        · split
          · rfl
          · exact inductionHypothesis inBrackets

/-- A text without a colon to split at joins the part being collected. -/
theorem splitIgnoringBrackets_append {inBrackets behind : Bool} {text : List Char}
    (whole : bracketsBehind inBrackets text = some behind) (current rest : List Char) :
    splitIgnoringBrackets inBrackets current (text ++ rest) =
      splitIgnoringBrackets behind (current ++ text) rest := by
  induction text generalizing inBrackets current with
  | nil =>
      cases whole
      simp
  | cons c tail inductionHypothesis =>
      simp only [bracketsBehind] at whole
      simp only [List.cons_append, splitIgnoringBrackets]
      split at whole
      · rename_i opens
        rw [if_pos opens, inductionHypothesis whole]
        simp
      · rename_i notOpening
        split at whole
        · rename_i closes
          rw [if_neg notOpening, if_pos closes, inductionHypothesis whole]
          simp
        · rename_i notClosing
          split at whole
          · contradiction
          · rename_i notSeparating
            rw [if_neg notOpening, if_neg notClosing, if_neg notSeparating,
              inductionHypothesis whole]
            simp

/-- A part and a separator are split off. -/
theorem splitIgnoringBrackets_part {text : List Char} (part : IsPart text) (rest : List Char) :
    splitIgnoringBrackets false [] (text ++ ':' :: rest) =
      text :: splitIgnoringBrackets false [] rest := by
  rw [splitIgnoringBrackets_append part, List.nil_append]
  simp [splitIgnoringBrackets]

theorem splitIgnoringBrackets_last {text : List Char} (part : IsPart text) :
    splitIgnoringBrackets false [] text = [text] := by
  have split := splitIgnoringBrackets_append part [] []
  rwa [List.append_nil, List.nil_append] at split

theorem splitIgnoringBrackets_ne_nil (inBrackets : Bool) (current text : List Char) :
    splitIgnoringBrackets inBrackets current text ≠ [] := by
  induction text generalizing inBrackets current with
  | nil => simp [splitIgnoringBrackets]
  | cons c rest inductionHypothesis =>
      simp only [splitIgnoringBrackets]
      split
      · exact inductionHypothesis _ _
      · split
        · exact inductionHypothesis _ _
        · split
          · simp
          · exact inductionHypothesis _ _

/-- Every part in front of a separator is left whole by another split. -/
theorem isPart_of_mem_dropLast {inBrackets : Bool} {current text part : List Char}
    (collected : bracketsBehind false current = some inBrackets)
    (member : part ∈ (splitIgnoringBrackets inBrackets current text).dropLast) :
    IsPart part := by
  induction text generalizing inBrackets current with
  | nil => simp [splitIgnoringBrackets] at member
  | cons c rest inductionHypothesis =>
      have next : bracketsBehind false (current ++ [c]) = bracketsBehind inBrackets [c] := by
        rw [bracketsBehind_append, collected, Option.bind_some]
      simp only [splitIgnoringBrackets] at member
      simp only [bracketsBehind] at next
      split at member
      · rename_i opens
        rw [if_pos opens] at next
        exact inductionHypothesis next member
      · rename_i notOpening
        rw [if_neg notOpening] at next
        split at member
        · rename_i closes
          rw [if_pos closes] at next
          exact inductionHypothesis next member
        · rename_i notClosing
          rw [if_neg notClosing] at next
          split at member
          · rename_i separates
            rw [List.dropLast_cons_of_ne_nil (splitIgnoringBrackets_ne_nil _ _ _)] at member
            rcases List.mem_cons.mp member with same | later
            · rw [same, IsPart, collected, separates.2]
            · exact inductionHypothesis (separates.2 ▸ rfl) later
          · rename_i notSeparating
            rw [if_neg notSeparating] at next
            exact inductionHypothesis next member

/-- A text without brackets and colons is a part. -/
theorem isPart_of_plain {text : List Char} (plain : ∀ c ∈ text, c ≠ '[' ∧ c ≠ ']' ∧ c ≠ ':') :
    IsPart text := by
  induction text with
  | nil => rfl
  | cons c rest inductionHypothesis =>
      have parts := List.forall_mem_cons.mp plain
      have notSeparating : ¬ (c = ':' ∧ false = false) := fun separates => parts.1.2.2 separates.1
      rw [IsPart, bracketsBehind, if_neg parts.1.1, if_neg parts.1.2.1, if_neg notSeparating]
      exact inductionHypothesis parts.2

theorem isPart_toDigits (number : Nat) : IsPart (Nat.toDigits 10 number) := by
  apply isPart_of_plain
  intro c member
  have isDigit := Nat.isDigit_of_mem_toDigits (by decide) (by decide) member
  refine ⟨?_, ?_, ?_⟩
  · rintro rfl
    exact absurd isDigit (by decide)
  · rintro rfl
    exact absurd isDigit (by decide)
  · rintro rfl
    exact absurd isDigit (by decide)

/-! ## The protocol suffix -/

theorem stripSuffix_append (suffix text : List Char) :
    stripSuffix suffix (text ++ suffix) = some text := by
  rw [stripSuffix, if_pos (by simp)]
  simp

theorem stripSuffix_of_ne {suffix other : List Char} (sized : suffix.length = other.length)
    (differs : suffix ≠ other) (text : List Char) : stripSuffix suffix (text ++ other) = none := by
  rw [stripSuffix, if_neg]
  intro ends
  rw [List.isSuffixOf_iff_suffix] at ends
  have inside := List.suffix_of_suffix_length_le ends (List.suffix_append text other)
    (Nat.le_of_eq sized)
  exact differs (inside.eq_of_length sized)

namespace ForwardSpec

/-- The protocol as `Display` prints it. -/
def protoName : ForwardProto → String
  | .tcp => "tcp"
  | .udp => "udp"

def display (spec : ForwardSpec) : String :=
  match spec.bindAddress with
  | some bind =>
      bind ++ ":" ++ toString spec.localPort.toNat ++ ":" ++ spec.remoteHost ++ ":" ++
        toString spec.remotePort.toNat ++ "/" ++ protoName spec.proto
  | none =>
      toString spec.localPort.toNat ++ ":" ++ spec.remoteHost ++ ":" ++
        toString spec.remotePort.toNat ++ "/" ++ protoName spec.proto

/-- What is printed in front of the protocol suffix. -/
def displayBase (spec : ForwardSpec) : List Char :=
  (match spec.bindAddress with
    | some bind => bind.toList ++ [':']
    | none => []) ++
  (Nat.toDigits 10 spec.localPort.toNat ++
    ':' :: (spec.remoteHost.toList ++ ':' :: Nat.toDigits 10 spec.remotePort.toNat))

/-- The texts a parsed specification can hold. -/
structure Splittable (spec : ForwardSpec) : Prop where
  bind : ∀ bind, spec.bindAddress = some bind → IsPart bind.toList
  host : IsPart spec.remoteHost.toList
  hostNamed : spec.remoteHost ≠ ""

theorem toList_display (spec : ForwardSpec) :
    spec.display.toList = spec.displayBase ++ '/' :: (protoName spec.proto).toList := by
  unfold display displayBase
  cases spec.bindAddress with
  | none => simp [String.toList_append]
  | some bind => simp [String.toList_append]

/-! ## Parsing what was printed -/

/-- The printed suffix is stripped, and only that one. -/
theorem specParts_append (base : List Char) (proto : ForwardProto) :
    specParts (base ++ '/' :: (protoName proto).toList) =
      (splitIgnoringBrackets false [] base, proto) := by
  unfold specParts
  cases proto with
  | udp =>
      have stripped : stripSuffix "/udp".toList (base ++ '/' :: (protoName .udp).toList) =
          some base := stripSuffix_append "/udp".toList base
      rw [stripped]
  | tcp =>
      have other : stripSuffix "/udp".toList (base ++ '/' :: (protoName .tcp).toList) = none :=
        stripSuffix_of_ne (by decide) (by decide) base
      have stripped : stripSuffix "/tcp".toList (base ++ '/' :: (protoName .tcp).toList) =
          some base := stripSuffix_append "/tcp".toList base
      rw [other, stripped, Option.getD_some]

theorem splitIgnoringBrackets_displayBase {spec : ForwardSpec} (splittable : Splittable spec) :
    splitIgnoringBrackets false [] spec.displayBase =
      (spec.bindAddress.map String.toList).toList ++
        [Nat.toDigits 10 spec.localPort.toNat, spec.remoteHost.toList,
          Nat.toDigits 10 spec.remotePort.toNat] := by
  have tail : splitIgnoringBrackets false [] (Nat.toDigits 10 spec.localPort.toNat ++
        ':' :: (spec.remoteHost.toList ++ ':' :: Nat.toDigits 10 spec.remotePort.toNat)) =
      [Nat.toDigits 10 spec.localPort.toNat, spec.remoteHost.toList,
        Nat.toDigits 10 spec.remotePort.toNat] := by
    rw [splitIgnoringBrackets_part (isPart_toDigits _), splitIgnoringBrackets_part splittable.host,
      splitIgnoringBrackets_last (isPart_toDigits _)]
  unfold displayBase
  cases bound : spec.bindAddress with
  | none => simpa using tail
  | some bind =>
      have whole := splitIgnoringBrackets_part (splittable.bind bind bound)
        (Nat.toDigits 10 spec.localPort.toNat ++
          ':' :: (spec.remoteHost.toList ++ ':' :: Nat.toDigits 10 spec.remotePort.toNat))
      rw [tail] at whole
      simpa using whole

theorem ofParts_toDigits (text : String) (bind : Option String) (localPort remotePort : UInt16)
    {remoteHost : String} (named : remoteHost ≠ "") (proto : ForwardProto) :
    ofParts text (bind.map String.toList) (Nat.toDigits 10 localPort.toNat) remoteHost.toList
        (Nat.toDigits 10 remotePort.toNat) proto =
      .ok ⟨bind, localPort, remoteHost, remotePort, proto⟩ := by
  have nonempty : remoteHost.toList.isEmpty = false := by
    simpa [List.isEmpty_eq_false_iff] using named
  simp [ofParts, parsePort_toDigits, nonempty, Function.comp_def]

/-- A printed specification parses to itself. -/
theorem parse_display {spec : ForwardSpec} (splittable : Splittable spec) :
    parse spec.display = .ok spec := by
  have parts := specParts_append spec.displayBase spec.proto
  rw [← toList_display, splitIgnoringBrackets_displayBase splittable] at parts
  have built : ofParts spec.display (spec.bindAddress.map String.toList)
      (Nat.toDigits 10 spec.localPort.toNat) spec.remoteHost.toList
      (Nat.toDigits 10 spec.remotePort.toNat) spec.proto = .ok spec :=
    ofParts_toDigits spec.display spec.bindAddress spec.localPort spec.remotePort
      splittable.hostNamed spec.proto
  unfold parse
  rw [parts]
  cases bound : spec.bindAddress with
  | none =>
      rw [bound] at built
      exact built
  | some bind =>
      rw [bound] at built
      exact built

/-! ## What a parsed specification holds -/

theorem specParts_fst (text : List Char) :
    ∃ base, (specParts text).1 = splitIgnoringBrackets false [] base := by
  unfold specParts
  split
  · exact ⟨_, rfl⟩
  · exact ⟨_, rfl⟩

theorem ofParts_fields {text : String} {bindAddress : Option (List Char)}
    {localPort remoteHost remotePort : List Char} {proto : ForwardProto} {spec : ForwardSpec}
    (accepted : ofParts text bindAddress localPort remoteHost remotePort proto = .ok spec) :
    spec.bindAddress = bindAddress.map String.ofList ∧
      spec.remoteHost = String.ofList remoteHost := by
  unfold ofParts at accepted
  split at accepted
  · cases accepted
  · split at accepted
    · cases accepted
    · split at accepted
      · cases accepted
      · cases accepted
        exact ⟨rfl, rfl⟩

/-- What the parser accepts can be split again. -/
theorem splittable_of_parse {text : String} {spec : ForwardSpec}
    (accepted : parse text = .ok spec) : Splittable spec := by
  have named := remoteHost_ne_empty_of_parse accepted
  obtain ⟨base, parts⟩ := specParts_fst text.toList
  have whole : ∀ part ∈ (specParts text.toList).1.dropLast, IsPart part := by
    rw [parts]
    intro part member
    exact isPart_of_mem_dropLast rfl member
  unfold parse at accepted
  split at accepted
  · rename_i localPort remoteHost remotePort proto split
    rw [split] at whole
    have fields := ofParts_fields accepted
    refine ⟨?_, ?_, named⟩
    · intro bind bound
      rw [fields.1] at bound
      contradiction
    · rw [fields.2, String.toList_ofList]
      exact whole remoteHost (by simp)
  · rename_i bindAddress localPort remoteHost remotePort proto split
    rw [split] at whole
    have fields := ofParts_fields accepted
    refine ⟨?_, ?_, named⟩
    · intro bind bound
      rw [fields.1, Option.map_some, Option.some.injEq] at bound
      rw [← bound, String.toList_ofList]
      exact whole bindAddress (by simp)
    · rw [fields.2, String.toList_ofList]
      exact whole remoteHost (by simp)
  · contradiction

/-- **`Display` is a canonical form of what the parser accepts.** The printed
specification parses to the same five fields, so printing it again prints the
same, and two accepted texts print the same exactly if they denote the same
fields. -/
theorem display_canonical {text : String} {spec : ForwardSpec} (accepted : parse text = .ok spec) :
    parse spec.display = .ok spec ∧
      (∀ again, parse spec.display = .ok again → again.display = spec.display) ∧
      ∀ other otherSpec, parse other = .ok otherSpec →
        (otherSpec.display = spec.display ↔ otherSpec = spec) := by
  have reparsed := parse_display (splittable_of_parse accepted)
  refine ⟨reparsed, ?_, ?_⟩
  · intro again parsed
    rw [reparsed] at parsed
    cases parsed
    rfl
  · intro other otherSpec otherAccepted
    constructor
    · intro same
      have otherReparsed := parse_display (splittable_of_parse otherAccepted)
      rw [same, reparsed] at otherReparsed
      cases otherReparsed
      rfl
    · intro same
      rw [same]

/-- An empty bind address, a host with a colon and a slash in brackets, and a
port with a sign and a leading zero. -/
theorem display_bracketed_host :
    parse (⟨some "", 80, "[a:b/udp]", 443, .tcp⟩ : ForwardSpec).display =
      .ok ⟨some "", 80, "[a:b/udp]", 443, .tcp⟩ := by
  have accepted : parse ":+080:[a:b/udp]:443" = .ok ⟨some "", 80, "[a:b/udp]", 443, .tcp⟩ := by
    decide
  exact (display_canonical accepted).1

end ForwardSpec

end Etr.Forward
