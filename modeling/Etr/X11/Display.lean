import Etr.X11.Credentials
import Etr.Forward.CanonicalSpec

/-!
Contract: the display number on its way from `DISPLAY` to the cookie lookup.

Owns `X11Display` of `src/forward.rs` with its 16-bit arithmetic in both kinds
of builds, `get_xauth_cookie` with its error texts, the display names of the
claimed forms, and for which of them the number is kept.

Does not own the listing parser, or running `xauth`.
-/

namespace Etr.X11

open Etr.Bootstrap Etr.Forward

/-! ## 16-bit arithmetic -/

/-- What the program does when an addition overflows. -/
inductive Build where
  /-- With overflow checks, as in debug builds. -/
  | checked
  /-- Without them, as in release builds. -/
  | wrapping
deriving DecidableEq, Repr

/-- How `get_xauth_cookie` ends without a cookie. -/
inductive LookupFault where
  | overflow
  | slice (panic : SlicePanic)
  | failed (message : String)
deriving DecidableEq, Repr

/-- `left + right`. -/
def addU16 (build : Build) (left right : UInt16) : Except LookupFault UInt16 :=
  if left.toNat + right.toNat < 2 ^ 16 then
    .ok (left + right)
  else
    match build with
    | .checked => .error .overflow
    | .wrapping => .ok (left + right)

/-- `left - right`. -/
def subU16 (build : Build) (left right : UInt16) : Except LookupFault UInt16 :=
  if right.toNat ≤ left.toNat then
    .ok (left - right)
  else
    match build with
    | .checked => .error .overflow
    | .wrapping => .ok (left - right)

/-! ## Displays -/

/-- A parsed `DISPLAY`. -/
inductive X11Display where
  | unix (displayNum : UInt16)
  | path (path : Text)
  | tcp (host : Text) (port : UInt16)
deriving DecidableEq, Repr

namespace X11Display

/-- `X11Display::parse`. -/
def parse (build : Build) (s : Text) : Except LookupFault X11Display :=
  if s.head? = some '/' then
    .ok (.path s)
  else
    match splitIgnoringBrackets false [] s with
    | host :: rest :: _ =>
        let displayNumStr := rest.takeWhile fun c => c != '.'
        match parsePort displayNumStr with
        | none =>
            .error (.failed ("invalid display number '" ++ String.ofList displayNumStr ++ "'"))
        | some displayNum =>
            if host = [] ∨ host = "unix".toList then
              .ok (.unix displayNum)
            else
              (addU16 build 6000 displayNum).map fun port => .tcp host port
    | _ => .error (.failed ("invalid DISPLAY '" ++ String.ofList s ++ "'"))

def displayNum (build : Build) : X11Display → Except LookupFault UInt16
  | .unix n => .ok n
  | .path p =>
      if ':' ∈ p then
        let rest := (p.reverse.takeWhile fun c => c != ':').reverse
        .ok ((parsePort (rest.takeWhile fun c => c != '.')).getD 0)
      else
        .ok 0
  | .tcp _ port => if 6000 ≤ port then subU16 build port 6000 else .ok 0

/-- The examples in the tests of the source. -/
example : parse .checked "localhost:10.0".toList = .ok (.tcp "localhost".toList 6010) := by decide

example : displayNum .checked (.path "/tmp/launch-123/org.xquartz:0".toList) = .ok 0 := by decide

end X11Display

/-- How running `xauth list` went. -/
inductive XauthRun where
  | notExecuted (error : String)
  | unsuccessful (stderr : Text)
  | listed (stdout : Text)
deriving DecidableEq, Repr

def getXauthCookie (build : Build) (displayStr : Text) (run : XauthRun) :
    Except LookupFault (String × List UInt8) := do
  let display ← X11Display.parse build displayStr
  let targetNum ← display.displayNum build
  match run with
  | .notExecuted error => .error (.failed ("failed to execute xauth: " ++ error))
  | .unsuccessful stderr =>
      .error (.failed ("xauth failed: " ++ String.ofList (trim stderr)))
  | .listed stdout =>
      match parseXauthListForDisplay stdout targetNum with
      | .error panic => .error (.slice panic)
      | .ok none =>
          .error (.failed ("no xauth cookie found for display " ++ String.ofList displayStr))
      | .ok (some found) => .ok found

/-! ## Display names -/

/-- What stands in front of the number: a host that the bracket-aware split
leaves whole (nothing, `unix`, a name or an address in brackets), or the
directory part of an absolute path. -/
inductive DisplayPlace where
  | host (name : Text) (whole : IsPart name) (relative : name.head? ≠ some '/')
  | path (socket : Text)

def DisplayPlace.text : DisplayPlace → Text
  | .host name _ _ => name
  | .path socket => '/' :: socket

/-- No TCP port is computed. -/
def DisplayPlace.IsLocal : DisplayPlace → Prop
  | .host name _ _ => name = [] ∨ name = "unix".toList
  | .path _ => True

/-- A display `place:number` or `place:number.screen`. -/
structure DisplayName where
  place : DisplayPlace
  number : UInt16
  /-- The number as it is written, leading zeros included. -/
  digits : Text
  screen : Option Text
  decimal : ∀ c ∈ digits, c.isDigit = true
  written : parsePort digits = some number
  screenDecimal : ∀ text, screen = some text → ∀ c ∈ text, c.isDigit = true

namespace DisplayName

def screenText (name : DisplayName) : Text :=
  match name.screen with
  | none => []
  | some screen => '.' :: screen

/-- Behind the colon. -/
def numberText (name : DisplayName) : Text :=
  name.digits ++ name.screenText

def text (name : DisplayName) : Text :=
  name.place.text ++ ':' :: name.numberText

end DisplayName

/-- An `xauth` entry for display `number`, by the number in its own first
field. -/
def IsEntryFor (number : UInt16) (found : String × List UInt8) (line : Text) : Prop :=
  ∃ entry cookieHex more display,
    splitWhitespace line = entry :: found.1.toList :: cookieHex :: more ∧
      displayPart entry = some display ∧ parsePort display = some number ∧
      hexDecodeBytes cookieHex = .ok (some found.2)

/-- In every build nothing overflows, the number is kept, and only cookies of
that display are returned. -/
def DisplayName.NumberKept (name : DisplayName) : Prop :=
  ∀ build, X11Display.parse build name.text ≠ .error .overflow ∧
    ∀ display, X11Display.parse build name.text = .ok display →
      display.displayNum build = .ok name.number ∧
        ∀ run found, getXauthCookie build name.text run = .ok found →
          ∃ stdout, run = .listed stdout ∧
            ∃ line ∈ linesFrom [] stdout, IsEntryFor name.number found line

/-! ## The lookup -/

/-- What a loop over lines returns, it found on one of them. -/
theorem exists_of_firstLine {Found : Type} {parse : Text → Except SlicePanic (Option Found)}
    {lines : List Text} {found : Found} (returned : firstLine parse lines = .ok (some found)) :
    ∃ line ∈ lines, parse line = .ok (some found) := by
  induction lines with
  | nil => cases returned
  | cons line rest inductionHypothesis =>
      rw [firstLine] at returned
      split at returned
      · contradiction
      · obtain ⟨later, member, taken⟩ := inductionHypothesis returned
        exact ⟨later, List.mem_cons_of_mem line member, taken⟩
      · rename_i taken
        cases returned
        exact ⟨line, List.mem_cons_self, taken⟩

/-- The listing parser goes by the entry's own number. -/
theorem isEntryFor_of_parseXauthLine {number : UInt16} {line : Text}
    {found : String × List UInt8} (taken : parseXauthLine number line = .ok (some found)) :
    IsEntryFor number found line := by
  unfold parseXauthLine at taken
  split at taken
  · rename_i entry proto cookieHex more fields
    split at taken
    · cases taken
    · rename_i display shown
      split at taken
      · rename_i number
        cases decoded : hexDecodeBytes cookieHex with
        | error panic => simp [decoded, Except.map] at taken
        | ok cookie =>
            cases cookie with
            | none => simp [decoded, Except.map] at taken
            | some cookie =>
                simp only [decoded, Except.map, Option.map_some, Except.ok.injEq,
                  Option.some.injEq] at taken
                subst taken
                exact ⟨entry, cookieHex, more, display, by simpa using fields, shown, number,
                  decoded⟩
      · cases taken
  · cases taken

/-- A returned cookie is that of an entry for the number that was looked up. -/
theorem entry_of_getXauthCookie {build : Build} {displayStr : Text} {run : XauthRun}
    {found : String × List UInt8} {display : X11Display} {number : UInt16}
    (parsed : X11Display.parse build displayStr = .ok display)
    (numbered : display.displayNum build = .ok number)
    (returned : getXauthCookie build displayStr run = .ok found) :
    ∃ stdout, run = .listed stdout ∧
      ∃ line ∈ linesFrom [] stdout, IsEntryFor number found line := by
  simp only [getXauthCookie, parsed, numbered, bind, Except.bind] at returned
  cases run with
  | notExecuted error => cases returned
  | unsuccessful stderr => cases returned
  | listed stdout =>
      change (match parseXauthListForDisplay stdout number with
        | .error panic => _
        | .ok none => _
        | .ok (some found) => _) = _ at returned
      split at returned
      · cases returned
      · cases returned
      · rename_i listed
        cases returned
        obtain ⟨line, member, taken⟩ := exists_of_firstLine listed
        exact ⟨stdout, rfl, line, member, isEntryFor_of_parseXauthLine taken⟩

/-! ## Reading the number -/

namespace DisplayName

variable (name : DisplayName)

theorem ne_of_isDigit {c d : Char} (digit : c.isDigit = true) (other : d.isDigit = false) :
    c ≠ d := by
  rintro rfl
  rw [digit] at other
  cases other

/-- Digits and dots are all there is behind the colon. -/
theorem isDigit_or_dot_of_mem_numberText {c : Char} (member : c ∈ name.numberText) :
    c.isDigit = true ∨ c = '.' := by
  rcases List.mem_append.mp member with digit | screen
  · exact Or.inl (name.decimal c digit)
  · unfold screenText at screen
    split at screen
    · cases screen
    · rename_i shown
      rcases List.mem_cons.mp screen with dot | digit
      · exact Or.inr dot
      · exact Or.inl (name.screenDecimal _ shown c digit)

theorem isPart_numberText : IsPart name.numberText := by
  apply isPart_of_plain
  intro c member
  rcases name.isDigit_or_dot_of_mem_numberText member with digit | rfl
  · exact ⟨ne_of_isDigit digit rfl, ne_of_isDigit digit rfl, ne_of_isDigit digit rfl⟩
  · decide

theorem takeWhile_numberText :
    (name.numberText.takeWhile fun c => c != '.') = name.digits := by
  have digits : ∀ c ∈ name.digits, (c != '.') = true := by
    intro c member
    exact bne_iff_ne.mpr (ne_of_isDigit (name.decimal c member) rfl)
  rw [numberText, List.takeWhile_append_of_pos digits]
  unfold screenText
  split
  · simp
  · simp

/-- The part behind the last colon. -/
theorem afterLastColon_text :
    (name.text.reverse.takeWhile fun c => c != ':').reverse = name.numberText := by
  have visible : ∀ c ∈ name.numberText.reverse, (c != ':') = true := by
    intro c member
    rcases name.isDigit_or_dot_of_mem_numberText (List.mem_reverse.mp member) with digit | rfl
    · exact bne_iff_ne.mpr (ne_of_isDigit digit rfl)
    · decide
  rw [text, List.reverse_append, List.reverse_cons, List.append_assoc,
    List.takeWhile_append_of_pos visible]
  simp

/-- The path scanner reads the number. -/
theorem displayNum_path (build : Build) :
    X11Display.displayNum build (.path name.text) = .ok name.number := by
  have colon : ':' ∈ name.text := List.mem_append_right _ List.mem_cons_self
  rw [X11Display.displayNum, if_pos colon]
  dsimp only
  rw [afterLastColon_text, takeWhile_numberText, name.written, Option.getD_some]

theorem parse_path {build : Build} {socket : Text} (placed : name.place = .path socket) :
    X11Display.parse build name.text = .ok (.path name.text) := by
  rw [X11Display.parse, if_pos]
  rw [text, placed]
  rfl

/-- The bracket-aware scanner reads the number. -/
theorem parse_host {build : Build} {host : Text} {whole : IsPart host}
    {relative : host.head? ≠ some '/'} (placed : name.place = .host host whole relative) :
    X11Display.parse build name.text =
      if host = [] ∨ host = "unix".toList then
        .ok (.unix name.number)
      else
        (addU16 build 6000 name.number).map fun port => .tcp host port := by
  have start : name.text.head? ≠ some '/' := by
    rw [text, placed]
    cases host with
    | nil =>
        show some ':' ≠ some '/'
        decide
    | cons c rest => exact relative
  have parts : splitIgnoringBrackets false [] name.text = [host, name.numberText] := by
    rw [text, placed]
    exact (splitIgnoringBrackets_part whole name.numberText).trans
      (congrArg _ (splitIgnoringBrackets_last name.isPart_numberText))
  rw [X11Display.parse, if_neg start, parts]
  dsimp only
  rw [takeWhile_numberText, name.written]

end DisplayName

theorem addU16_eq_ok {left right : UInt16} (fits : left.toNat + right.toNat < 2 ^ 16)
    (build : Build) : addU16 build left right = .ok (left + right) :=
  if_pos fits

theorem addU16_wrapping (left right : UInt16) :
    addU16 .wrapping left right = .ok (left + right) :=
  ite_self _

theorem subU16_eq_ok {left right : UInt16} (ordered : right.toNat ≤ left.toNat) (build : Build) :
    subU16 build left right = .ok (left - right) :=
  if_pos ordered

/-- Back from the port, the number is the one that went in. -/
theorem displayNum_tcp {number : UInt16} (inRange : number.toNat ≤ 59535) (build : Build)
    (host : Text) :
    X11Display.displayNum build (.tcp host (6000 + number)) = .ok number := by
  have port : (6000 + number).toNat = 6000 + number.toNat := by
    rw [UInt16.toNat_add]
    exact Nat.mod_eq_of_lt (show 6000 + number.toNat < 2 ^ 16 by omega)
  have above : (6000 : UInt16) ≤ 6000 + number := by
    rw [UInt16.le_iff_toNat_le, port]
    exact Nat.le_add_right 6000 number.toNat
  rw [X11Display.displayNum, if_pos above, subU16_eq_ok (UInt16.le_iff_toNat_le.mp above)]
  rw [UInt16.add_comm, UInt16.add_sub_cancel]

/-- A port that wrapped around is below 6000. -/
theorem displayNum_tcp_of_wrapped {number : UInt16} (wraps : 59535 < number.toNat)
    (build : Build) (host : Text) :
    X11Display.displayNum build (.tcp host (6000 + number)) = .ok 0 := by
  have below : ¬ (6000 : UInt16) ≤ 6000 + number := by
    have bounded := number.toNat_lt
    have six : (6000 : UInt16).toNat = 6000 := rfl
    rw [UInt16.le_iff_toNat_le, UInt16.toNat_add, six]
    omega
  rw [X11Display.displayNum, if_neg below]

namespace DisplayName

variable {name : DisplayName}

/-- A name that is accepted with its own number looks up that number only. -/
theorem numberKept_of_parsed
    (parsed : ∀ build, ∃ display, X11Display.parse build name.text = .ok display ∧
      display.displayNum build = .ok name.number) : name.NumberKept := by
  intro build
  obtain ⟨display, accepted, numbered⟩ := parsed build
  rw [accepted]
  refine ⟨nofun, ?_⟩
  intro same isDisplay
  cases isDisplay
  exact ⟨numbered, fun run found => entry_of_getXauthCookie accepted numbered⟩

/-- **The display number is kept exactly if no TCP port is computed from it, or
the port is in range.** -/
theorem numberKept_iff (name : DisplayName) :
    name.NumberKept ↔ name.place.IsLocal ∨ name.number.toNat ≤ 59535 := by
  cases placed : name.place with
  | path socket =>
      apply iff_of_true
      · apply numberKept_of_parsed
        intro build
        exact ⟨.path name.text, name.parse_path placed, name.displayNum_path build⟩
      · exact Or.inl trivial
  | host host whole relative =>
      by_cases isLocal : host = [] ∨ host = "unix".toList
      · apply iff_of_true
        · apply numberKept_of_parsed
          intro build
          refine ⟨.unix name.number, ?_, rfl⟩
          rw [name.parse_host placed, if_pos isLocal]
        · exact Or.inl isLocal
      · by_cases inRange : name.number.toNat ≤ 59535
        · apply iff_of_true
          · apply numberKept_of_parsed
            intro build
            refine ⟨.tcp host (6000 + name.number), ?_, displayNum_tcp inRange build host⟩
            have fits : (6000 : UInt16).toNat + name.number.toNat < 2 ^ 16 := by
              show 6000 + name.number.toNat < 2 ^ 16
              omega
            rw [name.parse_host placed, if_neg isLocal, addU16_eq_ok fits]
            rfl
          · exact Or.inr inRange
        · apply iff_of_false
          · intro kept
            have accepted : X11Display.parse .wrapping name.text =
                .ok (.tcp host (6000 + name.number)) := by
              rw [name.parse_host placed, if_neg isLocal, addU16_wrapping]
              rfl
            have numbered := ((kept .wrapping).2 _ accepted).1
            rw [displayNum_tcp_of_wrapped (Nat.not_le.mp inRange), Except.ok.injEq] at numbered
            rw [← numbered] at inRange
            exact inRange (by decide)
          · rintro (isLocal' | inRange')
            · exact isLocal isLocal'
            · exact inRange inRange'

end DisplayName

/-! ## A display whose port wraps around -/

/-- `localhost:59536`. -/
def wrappedDisplay : DisplayName where
  place := .host "localhost".toList rfl (by decide)
  number := 59536
  digits := "59536".toList
  screen := none
  decimal := by simp
  written := rfl
  screenDecimal := nofun

/-- Without overflow checks the cookie of display 0 is returned for it. -/
theorem wrappedDisplay_takes_other_cookie :
    wrappedDisplay.text = "localhost:59536".toList ∧
      X11Display.parse .checked wrappedDisplay.text = .error .overflow ∧
      getXauthCookie .wrapping wrappedDisplay.text
          (.listed (sampleListing "MIT-MAGIC-COOKIE-1".toList)) =
        .ok ("MIT-MAGIC-COOKIE-1", [0x30, 0xFF]) ∧
      ¬ wrappedDisplay.NumberKept := by
  have overflow : X11Display.parse .checked wrappedDisplay.text = .error .overflow := rfl
  refine ⟨rfl, overflow, rfl, ?_⟩
  intro kept
  exact (kept .checked).1 overflow

end Etr.X11
