import Etr.Bootstrap.Request
import Mathlib.Data.List.TakeWhile

/-!
Contract: what the server reads from the request a client wrote.

Owns the inversion of each writing step by its reading step, the terminal type
the server is left with, and the exact requests that come back unchanged.

Does not own which terminal types and environments a user has.
-/

namespace Etr.Bootstrap

/-! ## Hexadecimal -/

theorem hexValue_hexDigit : ∀ digit < 16, hexValue (hexDigit digit) = some digit := by
  decide

theorem hexDigit_ne_plus : ∀ digit < 16, hexDigit digit ≠ '+' := by
  decide

/-- A hexadecimal digit is no separator and no white space. -/
theorem hexDigit_plain : ∀ digit < 16,
    hexDigit digit ≠ '/' ∧ hexDigit digit ≠ '\n' ∧ isWhitespace (hexDigit digit) = false := by
  decide

theorem hexPair_hexDigit (byte : UInt8) :
    hexPair (hexDigit (byte.toNat / 16)) (hexDigit (byte.toNat % 16)) = some byte := by
  have bounded := byte.toNat_lt
  have high : byte.toNat / 16 < 16 := by omega
  have low : byte.toNat % 16 < 16 := by omega
  have recombined : byte.toNat / 16 * 16 + byte.toNat % 16 = byte.toNat := by omega
  rw [hexPair, if_neg (hexDigit_ne_plus _ high), hexValue_hexDigit _ high, Option.bind_some,
    hexValue_hexDigit _ low, Option.map_some, recombined, UInt8.ofNat_toNat]

theorem hexDecode_hexEncode (bytes : List UInt8) : hexDecode (hexEncode bytes) = some bytes := by
  induction bytes with
  | nil => rfl
  | cons byte rest inductionHypothesis =>
      rw [hexEncode] at inductionHypothesis
      rw [hexEncode, List.flatMap_cons, List.cons_append, List.cons_append, List.nil_append,
        hexDecode, hexPair_hexDigit, Option.bind_some, inductionHypothesis, Option.map_some]

theorem mem_hexEncode_plain {bytes : List UInt8} {c : Char} (member : c ∈ hexEncode bytes) :
    c ≠ '/' ∧ c ≠ '\n' ∧ isWhitespace c = false := by
  rcases List.mem_flatMap.mp member with ⟨byte, -, digit⟩
  have bounded := byte.toNat_lt
  simp only [List.mem_cons, List.not_mem_nil, or_false] at digit
  rcases digit with rfl | rfl
  · exact hexDigit_plain _ (by omega)
  · exact hexDigit_plain _ (by omega)

/-! ## Lines -/

theorem writeLines_cons (line : Text) (rest : List Text) :
    writeLines (line :: rest) = line ++ '\n' :: writeLines rest := by
  rw [writeLines, List.flatMap_cons, List.append_assoc, List.singleton_append, writeLines]

theorem readLine_append {line : Text} (unbroken : '\n' ∉ line) (rest : Text) :
    readLine (line ++ '\n' :: rest) = (line ++ ['\n'], rest) := by
  induction line with
  | nil => simp [readLine]
  | cons c line inductionHypothesis =>
      rw [List.mem_cons, not_or] at unbroken
      rw [List.cons_append, readLine, if_neg (Ne.symm unbroken.1),
        inductionHypothesis unbroken.2, List.cons_append]

theorem linesFrom_append {line : Text} (unbroken : '\n' ∉ line) (current rest : Text) :
    linesFrom current (line ++ '\n' :: rest) =
      stripCarriageReturn (current ++ line) :: linesFrom [] rest := by
  induction line generalizing current with
  | nil => simp [linesFrom]
  | cons c line inductionHypothesis =>
      rw [List.mem_cons, not_or] at unbroken
      rw [List.cons_append, linesFrom, if_neg (Ne.symm unbroken.1),
        inductionHypothesis unbroken.2, List.append_assoc, List.singleton_append]

theorem stripCarriageReturn_eq_self {line : Text} (clean : '\r' ∉ line) :
    stripCarriageReturn line = line := by
  rw [stripCarriageReturn, if_neg]
  intro last
  exact clean (List.mem_of_getLast? last)

/-- A line that both line readers give back. -/
def Unbroken (line : Text) : Prop :=
  '\n' ∉ line ∧ '\r' ∉ line

/-- Reading back written lines loses the carriage returns at their ends. -/
theorem linesFrom_writeLines_map {lines : List Text} (unbroken : ∀ line ∈ lines, '\n' ∉ line) :
    linesFrom [] (writeLines lines) = lines.map stripCarriageReturn := by
  induction lines with
  | nil => rfl
  | cons line rest inductionHypothesis =>
      have parts := List.forall_mem_cons.mp unbroken
      rw [writeLines_cons, linesFrom_append parts.1, List.nil_append,
        inductionHypothesis parts.2, List.map_cons]

theorem linesFrom_writeLines {lines : List Text} (unbroken : ∀ line ∈ lines, Unbroken line) :
    linesFrom [] (writeLines lines) = lines := by
  have unchanged : lines.map stripCarriageReturn = lines.map id :=
    List.map_congr_left fun line member => stripCarriageReturn_eq_self (unbroken line member).2
  rw [linesFrom_writeLines_map fun line member => (unbroken line member).1, unchanged,
    List.map_id]

/-! ## The header -/

theorem trimEnd_append {c : Char} (visible : isWhitespace c = false) (front back : Text) :
    trimEnd (front ++ c :: back) = front ++ c :: trimEnd back := by
  have stops : (c :: front.reverse).dropWhile isWhitespace = c :: front.reverse := by
    rw [List.dropWhile_cons, visible]
    rfl
  simp only [trimEnd, List.reverse_append, List.reverse_cons, List.append_assoc,
    List.singleton_append, List.dropWhile_append, stops]
  split
  · rename_i blank
    simp [List.isEmpty_iff.mp blank]
  · simp

theorem trimEnd_append_newline (text : Text) : trimEnd (text ++ ['\n']) = trimEnd text := by
  simp [trimEnd, show isWhitespace '\n' = true by decide]

/-- The terminal type is what `trim` and the third part of the split leave. -/
def parsedTerm (term : Text) : Text :=
  (trimEnd term).takeWhile fun c => c != '/'

theorem splitOn_eq_cons (text : Text) :
    ∃ others, text.splitOn '/' = (text.takeWhile fun c => c != '/') :: others := by
  induction text with
  | nil => exact ⟨[], rfl⟩
  | cons c rest inductionHypothesis =>
      rcases inductionHypothesis with ⟨others, split⟩
      rw [List.splitOn_cons_eq_if_modifyHead]
      by_cases separator : c = '/'
      · subst separator
        exact ⟨rest.splitOn '/', by simp⟩
      · exact ⟨others, by simp [separator, split]⟩

/-- The header split gives back the identity and the secret. -/
theorem splitOn_header {request : Request} (identified : request.sessionId ≠ [])
    (secret : '/' ∉ request.passkey) :
    ∃ others, (trim (headerLine request ++ ['\n'])).splitOn '/' =
      hexEncode request.sessionId :: request.passkey :: parsedTerm request.term :: others := by
  have slash : isWhitespace '/' = false := by decide
  have visibleFront : (headerLine request ++ ['\n']).dropWhile isWhitespace =
      headerLine request ++ ['\n'] := by
    cases bytes : request.sessionId with
    | nil => exact absurd bytes identified
    | cons byte rest =>
        have bounded := byte.toNat_lt
        have visible := (hexDigit_plain (byte.toNat / 16) (by omega)).2.2
        rw [headerLine, bytes, hexEncode, List.flatMap_cons, List.cons_append, List.cons_append,
          List.cons_append, List.dropWhile_cons, visible]
        rfl
  have hexClean : '/' ∉ hexEncode request.sessionId := by
    intro member
    exact (mem_hexEncode_plain member).1 rfl
  rcases splitOn_eq_cons (trimEnd request.term) with ⟨others, split⟩
  refine ⟨others, ?_⟩
  rw [trim, visibleFront, trimEnd_append_newline, headerLine, trimEnd_append slash,
    trimEnd_append slash, List.splitOn_append_cons_self_of_not_mem hexClean,
    List.splitOn_append_cons_self_of_not_mem secret, split, parsedTerm]

theorem trimEnd_isPrefixOf_self (text : Text) : trimEnd text <+: text := by
  rw [trimEnd, ← List.reverse_suffix, List.reverse_reverse]
  exact List.dropWhile_suffix isWhitespace

theorem trimEnd_eq_self_iff (text : Text) :
    trimEnd text = text ↔ ∀ c, text.getLast? = some c → isWhitespace c = false := by
  rw [trimEnd, ← List.reverse_inj, List.reverse_reverse]
  cases reversed : text.reverse with
  | nil =>
      rw [List.reverse_eq_nil_iff] at reversed
      simp [reversed]
  | cons last front =>
      have ends : text.getLast? = some last := by
        rw [← List.head?_reverse, reversed, List.head?_cons]
      rw [ends, List.dropWhile_cons]
      cases blank : isWhitespace last with
      | false => simp [blank]
      | true =>
          simp only [if_true, Option.some.injEq, forall_eq', blank, Bool.true_eq_false, iff_false]
          intro same
          have shorter := (List.dropWhile_suffix isWhitespace (l := front)).length_le
          rw [same, List.length_cons] at shorter
          omega

/-- The terminal type comes back unless it has a slash or ends in white space. -/
theorem parsedTerm_eq_iff (term : Text) :
    parsedTerm term = term ↔
      '/' ∉ term ∧ ∀ c, term.getLast? = some c → isWhitespace c = false := by
  rw [← trimEnd_eq_self_iff]
  constructor
  · intro same
    have cut : parsedTerm term <+: trimEnd term := List.takeWhile_prefix _
    have trimmed : trimEnd term = term := by
      apply (trimEnd_isPrefixOf_self term).eq_of_length_le
      rw [same] at cut
      exact cut.length_le
    rw [parsedTerm, trimmed, List.takeWhile_eq_self_iff] at same
    refine ⟨?_, trimmed⟩
    intro member
    exact absurd (same '/' member) (by decide)
  · rintro ⟨unsplit, trimmed⟩
    rw [parsedTerm, trimmed, List.takeWhile_eq_self_iff]
    intro c member
    simp only [bne_iff_ne]
    rintro rfl
    exact unsplit member

/-! ## The extra lines -/

/-- A line the server keeps as an environment entry. -/
def PlainEntry (line : Text) : Prop :=
  ¬ cmdPrefix <+: line ∧ ¬ x11Prefix <+: line ∧ ¬ preferPrefix <+: line

instance (line : Text) : Decidable (PlainEntry line) :=
  inferInstanceAs (Decidable (_ ∧ _ ∧ _))

theorem applyLine_of_plain {line : Text} (plain : PlainEntry line) (request : Request) :
    applyLine request line = { request with envVars := request.envVars ++ [line] } := by
  simp [applyLine, parseBootstrapLine, stripPrefix, plain.1, plain.2.1, plain.2.2]

theorem applyLine_fields (request : Request) (line : Text) :
    (applyLine request line).term = request.term ∧
      (applyLine request line).envVars =
        request.envVars ++ if PlainEntry line then [line] else [] := by
  by_cases plain : PlainEntry line
  · rw [applyLine_of_plain plain, if_pos plain]
    exact ⟨rfl, rfl⟩
  · rw [if_neg plain, List.append_nil, applyLine, parseBootstrapLine, stripPrefix, stripPrefix]
    by_cases command : cmdPrefix <+: line
    · simp [command]
    · by_cases x11 : x11Prefix <+: line
      · simp [command, x11]
      · have prefer : preferPrefix <+: line := by
          by_contra other
          exact plain ⟨command, x11, other⟩
        simp [command, x11, prefer]

/-- The environment the server is left with. -/
theorem foldl_applyLine_fields (lines : List Text) (request : Request) :
    (lines.foldl applyLine request).term = request.term ∧
      (lines.foldl applyLine request).envVars =
        request.envVars ++ lines.filter fun line => PlainEntry line := by
  induction lines generalizing request with
  | nil => simp
  | cons line rest inductionHypothesis =>
      have fields := applyLine_fields request line
      have others := inductionHypothesis (applyLine request line)
      rw [List.foldl_cons, others.1, others.2, fields.1, fields.2, List.append_assoc]
      refine ⟨rfl, ?_⟩
      by_cases plain : PlainEntry line
      · simp [plain]
      · simp [plain]

theorem foldl_applyLine_of_plain {entries : List Text} (plain : ∀ entry ∈ entries, PlainEntry entry)
    (request : Request) :
    entries.foldl applyLine request = { request with envVars := request.envVars ++ entries } := by
  induction entries generalizing request with
  | nil => simp
  | cons entry rest inductionHypothesis =>
      have parts := List.forall_mem_cons.mp plain
      rw [List.foldl_cons, applyLine_of_plain parts.1, inductionHypothesis parts.2]
      simp

theorem applyLines_eq_foldl {lines : List Text} (filled : ∀ line ∈ lines, line ≠ [])
    (request : Request) : applyLines request lines = lines.foldl applyLine request := by
  induction lines generalizing request with
  | nil => rfl
  | cons line rest inductionHypothesis =>
      have parts := List.forall_mem_cons.mp filled
      rw [applyLines, if_neg (by simpa using parts.1), inductionHypothesis parts.2,
        List.foldl_cons]

theorem fromWire_wire {pref : AddrPref} {value : Text} (sent : pref.wire = some value) :
    AddrPref.fromWire value = pref := by
  cases pref with
  | auto => cases sent
  | ipv4 =>
      cases sent
      decide
  | ipv6 =>
      cases sent
      decide

theorem applyLine_command (request : Request) (command : Text) :
    applyLine request (cmdPrefix ++ command) = { request with remoteCommand := some command } := by
  simp [applyLine, parseBootstrapLine, stripPrefix]

theorem foldl_x11 (request : Request) (enabled : Bool) :
    (if enabled then [x11Prefix ++ ['t', 'r', 'u', 'e']] else []).foldl applyLine request =
      { request with x11Enabled := request.x11Enabled || enabled } := by
  cases enabled with
  | false => simp
  | true =>
      rw [Bool.or_true]
      rfl

theorem applyLine_prefer (request : Request) (value : Text) :
    applyLine request (preferPrefix ++ value) =
      { request with addrPref := AddrPref.fromWire value } := by
  have notCommand : ¬ cmdPrefix <+: preferPrefix ++ value := by
    simp [cmdPrefix, preferPrefix]
  have notX11 : ¬ x11Prefix <+: preferPrefix ++ value := by
    simp [x11Prefix, preferPrefix]
  simp [applyLine, parseBootstrapLine, stripPrefix, notCommand, notX11]

theorem foldl_prefer {request : Request} (unset : request.addrPref = .auto) (pref : AddrPref) :
    (pref.wire.map fun value => preferPrefix ++ value).toList.foldl applyLine request =
      { request with addrPref := pref } := by
  cases sent : pref.wire with
  | none =>
      cases pref with
      | auto => simp [← unset]
      | ipv4 => cases sent
      | ipv6 => cases sent
  | some value =>
      rw [Option.map_some, Option.toList_some, List.foldl_cons, applyLine_prefer,
        fromWire_wire sent, List.foldl_nil]

theorem foldl_command {request : Request} (unset : request.remoteCommand = none)
    (command : Option Text) :
    (command.map fun command => cmdPrefix ++ command).toList.foldl applyLine request =
      { request with remoteCommand := command } := by
  cases command with
  | none =>
      show request = { request with remoteCommand := none }
      rw [← unset]
  | some command =>
      rw [Option.map_some, Option.toList_some, List.foldl_cons, applyLine_command, List.foldl_nil]

theorem not_plain_of_mem_tail {request : Request} {line : Text}
    (member : line ∈ (if request.x11Enabled then [x11Prefix ++ ['t', 'r', 'u', 'e']] else []) ++
      (request.addrPref.wire.map fun value => preferPrefix ++ value).toList ++
      (request.remoteCommand.map fun command => cmdPrefix ++ command).toList) :
    ¬ PlainEntry line := by
  rintro ⟨command, x11, prefer⟩
  rcases List.mem_append.mp member with early | sent
  · rcases List.mem_append.mp early with flag | sent
    · split at flag
      · rw [List.mem_singleton.mp flag] at x11
        exact x11 (List.prefix_append _ _)
      · exact absurd flag List.not_mem_nil
    · rcases Option.map_eq_some_iff.mp (Option.mem_toList.mp sent) with ⟨value, -, rfl⟩
      exact prefer (List.prefix_append _ _)
  · rcases Option.map_eq_some_iff.mp (Option.mem_toList.mp sent) with ⟨value, -, rfl⟩
    exact command (List.prefix_append _ _)

/-- Only environment entries can be taken for environment entries. -/
theorem filter_requestLines (request : Request) :
    ((requestLines request).filter fun line => PlainEntry line) =
      request.envVars.filter fun line => PlainEntry line := by
  rw [requestLines, List.append_assoc, List.append_assoc, List.filter_append]
  have others : (List.filter (fun line => decide (PlainEntry line))
      ((if request.x11Enabled then [x11Prefix ++ ['t', 'r', 'u', 'e']] else []) ++
        ((request.addrPref.wire.map fun value => preferPrefix ++ value).toList ++
          (request.remoteCommand.map fun command => cmdPrefix ++ command).toList))) = [] := by
    apply List.filter_eq_nil_iff.mpr
    intro line member
    rw [← List.append_assoc] at member
    simpa using not_plain_of_mem_tail member
  rw [others, List.append_nil]

/-- With a plain environment, the lines rebuild the request. -/
theorem foldl_requestLines {request : Request}
    (plain : ∀ entry ∈ request.envVars, PlainEntry entry) :
    (requestLines request).foldl applyLine
        { request with
          envVars := []
          x11Enabled := false
          addrPref := .auto
          remoteCommand := none } = request := by
  rw [requestLines, List.foldl_append, List.foldl_append, List.foldl_append,
    foldl_applyLine_of_plain plain, foldl_x11, foldl_prefer rfl, foldl_command rfl]
  rfl

/-! ## The whole request -/

/-- Session ids are 16 bytes, passkeys alphanumeric, and environment entries
contain an equals sign. -/
structure WellFormed (request : Request) : Prop where
  identity : request.sessionId.length = 16
  secret : ∀ c ∈ request.passkey, c.isAlphanum = true
  entries : ∀ entry ∈ request.envVars, '=' ∈ entry

theorem not_mem_of_isAlphanum {text : Text} (alphanumeric : ∀ c ∈ text, c.isAlphanum = true)
    {c : Char} (separator : c.isAlphanum = false) : c ∉ text := by
  intro member
  rw [alphanumeric c member] at separator
  contradiction

theorem unbroken_of_containsControl {text : Text} (clean : containsControl text = false) :
    Unbroken text := by
  rw [containsControl, List.any_eq_false] at clean
  constructor
  · intro member
    exact clean '\n' member (by decide)
  · intro member
    exact clean '\r' member (by decide)

/-- What the client's checks accept has no line break anywhere. -/
theorem unbroken_of_bootstrapSsh {target text : Text} {request : Request}
    (written : bootstrapSsh target request = .ok text) :
    text = writeLines (headerLine request :: requestLines request) ∧ Unbroken request.term ∧
      (∀ entry ∈ request.envVars, Unbroken entry) ∧
      ∀ command, request.remoteCommand = some command → Unbroken command := by
  unfold bootstrapSsh validateBootstrapInputs at written
  split at written
  · cases written
  · split at written
    · cases written
    · rename_i term
      split at written
      · cases written
      · rename_i entries
        split at written
        · cases written
        · rename_i command
          cases written
          rw [Bool.not_eq_true] at term entries command
          refine ⟨rfl, unbroken_of_containsControl term, ?_, ?_⟩
          · intro entry member
            exact unbroken_of_containsControl
              (Bool.eq_false_iff.mpr (List.any_eq_false.mp entries entry member))
          · intro sent same
            rw [same, Option.any_some] at command
            exact unbroken_of_containsControl command

theorem unbroken_append {front back : Text} (frontUnbroken : Unbroken front)
    (backUnbroken : Unbroken back) : Unbroken (front ++ back) :=
  ⟨fun member => (List.mem_append.mp member).elim frontUnbroken.1 backUnbroken.1,
    fun member => (List.mem_append.mp member).elim frontUnbroken.2 backUnbroken.2⟩

theorem newline_notMem_headerLine {request : Request} (formed : WellFormed request)
    (term : Unbroken request.term) : '\n' ∉ headerLine request := by
  have hex : '\n' ∉ hexEncode request.sessionId := by
    intro member
    exact (mem_hexEncode_plain member).2.1 rfl
  have secret := not_mem_of_isAlphanum formed.secret (show '\n'.isAlphanum = false by decide)
  simp [headerLine, hex, secret, term.1]

/-- Every extra line is read as one nonempty line. -/
theorem requestLines_readable {request : Request} (formed : WellFormed request)
    (entries : ∀ entry ∈ request.envVars, Unbroken entry)
    (command : ∀ command, request.remoteCommand = some command → Unbroken command) :
    ∀ line ∈ requestLines request, Unbroken line ∧ line ≠ [] := by
  intro line member
  simp only [requestLines, List.mem_append, Option.mem_toList, Option.map_eq_some_iff] at member
  rcases member with ((entry | flag) | ⟨value, sent, rfl⟩) | ⟨sent, same, rfl⟩
  · refine ⟨entries line entry, ?_⟩
    rintro rfl
    exact absurd (formed.entries [] entry) List.not_mem_nil
  · split at flag
    · rw [List.mem_singleton.mp flag]
      exact ⟨⟨by decide, by decide⟩, by decide⟩
    · exact absurd flag List.not_mem_nil
  · have unbroken : Unbroken value := by
      cases pref : request.addrPref with
      | auto =>
          rw [pref] at sent
          cases sent
      | ipv4 =>
          rw [pref] at sent
          cases sent
          exact ⟨by decide, by decide⟩
      | ipv6 =>
          rw [pref] at sent
          cases sent
          exact ⟨by decide, by decide⟩
    exact ⟨unbroken_append ⟨by decide, by decide⟩ unbroken, by simp [preferPrefix]⟩
  · exact ⟨unbroken_append ⟨by decide, by decide⟩ (command sent same), by simp [cmdPrefix]⟩

/-- What the server makes of the text a client wrote. -/
theorem parseRequest_written {target text : Text} {request : Request}
    (formed : WellFormed request) (written : bootstrapSsh target request = .ok text) :
    parseRequest text = .ok ((requestLines request).foldl applyLine
      { request with
        term := parsedTerm request.term
        envVars := []
        x11Enabled := false
        addrPref := .auto
        remoteCommand := none }) := by
  rcases unbroken_of_bootstrapSsh written with ⟨rfl, term, entries, command⟩
  have readable := requestLines_readable formed entries command
  have first : readLine (writeLines (headerLine request :: requestLines request)) =
      (headerLine request ++ ['\n'], writeLines (requestLines request)) := by
    rw [writeLines_cons, readLine_append (newline_notMem_headerLine formed term)]
  have identified : request.sessionId ≠ [] := by
    intro empty
    have sixteen := formed.identity
    rw [empty] at sixteen
    contradiction
  have secret := not_mem_of_isAlphanum formed.secret (show '/'.isAlphanum = false by decide)
  rcases splitOn_header identified secret with ⟨others, split⟩
  have accepted : (Option.some request.sessionId).filter (fun bytes => bytes.length == 16) =
      some request.sessionId := by
    simp [formed.identity]
  have lines := linesFrom_writeLines fun line member => (readable line member).1
  simp only [parseRequest, first, split, hexDecode_hexEncode, accepted, lines]
  rw [applyLines_eq_foldl fun line member => (readable line member).2]

/-- **The server reads back exactly the request a client with valid inputs
wrote, if and only if the terminal type has no slash and no white space at its
end and no environment entry starts like one of the tagged lines.** -/
theorem bootstrap_round_trip_iff {target text : Text} {request : Request}
    (formed : WellFormed request) (written : bootstrapSsh target request = .ok text) :
    parseRequest text = .ok request ↔
      ('/' ∉ request.term ∧ ∀ c, request.term.getLast? = some c → isWhitespace c = false) ∧
        ∀ entry ∈ request.envVars,
          ¬ cmdPrefix <+: entry ∧ ¬ x11Prefix <+: entry ∧ ¬ preferPrefix <+: entry := by
  rw [parseRequest_written formed written, Except.ok.injEq, ← parsedTerm_eq_iff]
  constructor
  · intro same
    have fields := foldl_applyLine_fields (requestLines request)
      { request with
        term := parsedTerm request.term
        envVars := []
        x11Enabled := false
        addrPref := .auto
        remoteCommand := none }
    rw [same, filter_requestLines, List.nil_append] at fields
    refine ⟨fields.1.symm, ?_⟩
    intro entry member
    rw [fields.2] at member
    exact of_decide_eq_true (List.mem_filter.mp member).2
  · rintro ⟨term, plain⟩
    rw [term]
    exact foldl_requestLines plain

/-- A request with everything in it. -/
def sampleRequest (envVars : List Text) (remoteCommand : Option Text) : Request where
  sessionId := [0, 17, 34, 51, 68, 85, 102, 119, 136, 153, 170, 187, 204, 221, 238, 255]
  passkey := "k3y".toList
  term := "xterm".toList
  envVars := envVars
  x11Enabled := true
  addrPref := .ipv6
  remoteCommand := remoteCommand

theorem wellFormed_sampleRequest {envVars : List Text} {remoteCommand : Option Text}
    (entries : ∀ entry ∈ envVars, '=' ∈ entry) :
    WellFormed (sampleRequest envVars remoteCommand) where
  identity := rfl
  secret := show ∀ c ∈ "k3y".toList, c.isAlphanum = true by simp
  entries := entries

theorem sample_request_round_trip :
    ∃ text,
      bootstrapSsh "host".toList (sampleRequest ["LANG=C".toList] (some "ls -l".toList)) =
        .ok text ∧
      parseRequest text = .ok (sampleRequest ["LANG=C".toList] (some "ls -l".toList)) := by
  have formed : WellFormed (sampleRequest ["LANG=C".toList] (some "ls -l".toList)) :=
    wellFormed_sampleRequest (by decide)
  have written : ∃ text,
      bootstrapSsh "host".toList (sampleRequest ["LANG=C".toList] (some "ls -l".toList)) =
        .ok text := ⟨_, rfl⟩
  rcases written with ⟨text, written⟩
  refine ⟨text, written, (bootstrap_round_trip_iff formed written).mpr ⟨⟨by decide, ?_⟩, by decide⟩⟩
  intro c last
  cases last
  rfl

/-- An accepted environment entry makes the server run a command that was not
asked for. -/
theorem env_entry_runs_command :
    WellFormed (sampleRequest ["ETRCMD:reboot;A=1".toList] none) ∧
      ∃ text parsed,
        bootstrapSsh "host".toList (sampleRequest ["ETRCMD:reboot;A=1".toList] none) = .ok text ∧
        parseRequest text = .ok parsed ∧ parsed.remoteCommand = some "reboot;A=1".toList ∧
        parseRequest text ≠ .ok (sampleRequest ["ETRCMD:reboot;A=1".toList] none) := by
  refine ⟨wellFormed_sampleRequest (by decide), _, _, rfl, rfl, rfl, ?_⟩
  intro same
  cases same

end Etr.Bootstrap
