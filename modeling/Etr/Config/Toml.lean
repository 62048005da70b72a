import Etr.Bootstrap.Reply

/-!
Contract: the lines of a TOML file and the tables they belong to.

Owns the strings and brackets that are open at the start of a line, table
headers with the spellings TOML allows for a single key, escapes in quoted keys
included, the tables that lines define, and the lines that are neither blank nor comments.

Does not own values, or what makes a file valid.
-/

namespace Etr.Config

open Etr.Bootstrap

/-! ## Scanning a line -/

inductive Quote where
  | basic
  | literal
deriving DecidableEq, Repr

def Quote.char : Quote → Char
  | .basic => '"'
  | .literal => '\''

/-- Where a scan is between two characters. -/
inductive Mode where
  | plain
  | comment
  /-- Behind the first quote of a string. -/
  | opening (quote : Quote)
  /-- Behind two quotes: an empty string, or the start of a multi-line one. -/
  | openingTwice (quote : Quote)
  | short (quote : Quote)
  | shortEscape
  /-- In a multi-line string, behind `quotes` quotes. -/
  | long (quote : Quote) (quotes : Nat)
  | longEscape
  /-- Behind the end of a multi-line string, which may have quotes in front of
  its three closing ones. -/
  | closing (quote : Quote)
deriving DecidableEq, Repr

def plainMode (c : Char) : Mode :=
  if c = '#' then .comment
  else if c = '"' then .opening .basic
  else if c = '\'' then .opening .literal
  else .plain

/-- The character is outside of strings and comments. -/
def isOutside : Mode → Char → Bool
  | .plain, _ => true
  | .openingTwice quote, c => c != quote.char
  | .closing quote, c => c != quote.char
  | _, _ => false

def stringMode : Mode → Char → Mode
  | .opening quote, c =>
      if c = quote.char then .openingTwice quote
      else if quote = .basic ∧ c = '\\' then .shortEscape
      else .short quote
  | .openingTwice quote, _ => .long quote 0
  | .short quote, c =>
      if c = quote.char then .plain
      else if quote = .basic ∧ c = '\\' then .shortEscape
      else .short quote
  | .shortEscape, _ => .short .basic
  | .long quote quotes, c =>
      if c = quote.char then
        if quotes = 2 then .closing quote else .long quote (quotes + 1)
      else if quote = .basic ∧ c = '\\' then .longEscape
      else .long quote 0
  | .longEscape, _ => .long .basic 0
  | mode, _ => mode

def nextMode (mode : Mode) (c : Char) : Mode :=
  if isOutside mode c then plainMode c else stringMode mode c

/-- Brackets and braces that are opened, less those that are closed. -/
def nesting (mode : Mode) (c : Char) : Int :=
  if isOutside mode c then
    if c = '[' ∨ c = '\x7b' then 1 else if c = ']' ∨ c = '\x7d' then -1 else 0
  else
    0

def scan : Mode → Int → Text → Mode × Int
  | mode, depth, [] => (mode, depth)
  | mode, depth, c :: rest => scan (nextMode mode c) (depth + nesting mode c) rest

/-- A newline ends everything but a multi-line string. -/
def openString : Mode → Option Quote
  | .long quote _ => some quote
  | .longEscape => some .basic
  | _ => none

/-! ## Tables -/

inductive Table where
  | root
  | named (name : Text)
  /-- A sub-table, an array of tables, or a line that is no header of TOML. -/
  | other (header : Text)
deriving DecidableEq, Repr

def isBlankChar (c : Char) : Bool :=
  c == ' ' || c == '\t'

def isBareKeyChar (c : Char) : Bool :=
  c.isAlphanum || c == '_' || c == '-'

/-- Where the scan of a quoted key is. -/
inductive KeyMode where
  | plain
  /-- Behind a backslash. -/
  | escape
  /-- In a numeric escape, with the digits still to come and the number so far. -/
  | digits (left value : Nat)
deriving DecidableEq, Repr

/-- The escapes of one character. -/
def escapedChar : Char → Option Char
  | 'b' => some '\x08'
  | 't' => some '\t'
  | 'n' => some '\n'
  | 'f' => some '\x0c'
  | 'r' => some '\r'
  | 'e' => some '\x1b'
  | '"' => some '"'
  | '\\' => some '\\'
  | _ => none

/-- Digits of the numeric escapes. -/
def escapeDigits : Char → Option Nat
  | 'x' => some 2
  | 'u' => some 4
  | 'U' => some 8
  | _ => none

/-- Surrogates are no characters. -/
def charOfNumber (number : Nat) : Option Char :=
  if number.isValidChar then some (Char.ofNat number) else none

/-- A key in double quotes behind the first of them, and what follows it. -/
def basicKey : KeyMode → Text → Option (Text × Text)
  | _, [] => none
  | .plain, c :: rest =>
      if c = '"' then some ([], rest)
      else if c = '\\' then basicKey .escape rest
      else (basicKey .plain rest).map fun key => (c :: key.1, key.2)
  | .escape, c :: rest =>
      match escapeDigits c with
      | some count => basicKey (.digits count 0) rest
      | none =>
          (escapedChar c).bind fun named =>
            (basicKey .plain rest).map fun key => (named :: key.1, key.2)
  | .digits left value, c :: rest =>
      (hexValue c).bind fun digit =>
        if 1 < left then
          basicKey (.digits (left - 1) (value * 16 + digit)) rest
        else
          (charOfNumber (value * 16 + digit)).bind fun named =>
            (basicKey .plain rest).map fun key => (named :: key.1, key.2)

/-- A key in single quotes, which has no escapes. -/
def literalKey (text : Text) : Option (Text × Text) :=
  match text.dropWhile (· != '\'') with
  | _ :: rest => some (text.takeWhile (· != '\''), rest)
  | [] => none

def bareKey (text : Text) : Option (Text × Text) :=
  let key := text.takeWhile isBareKeyChar
  if key.isEmpty then none else some (key, text.dropWhile isBareKeyChar)

/-- The single key behind a bracket, and what follows it. -/
def headerKey (inner : Text) : Option (Text × Text) :=
  match inner.dropWhile isBlankChar with
  | '"' :: rest => basicKey .plain rest
  | '\'' :: rest => literalKey rest
  | rest => bareKey rest

/-- What a file may have in front of its first line. -/
def byteOrderMark : Char := '\uFEFF'

/-- A line without the white space around it and without a byte order mark. (In
front of any line but the first the mark makes the file invalid.) -/
def visible (line : Text) : Text :=
  match trim line with
  | [] => []
  | c :: rest => if c = byteOrderMark then trim rest else c :: rest

/-- The end of a header: a bracket, and a comment at most. -/
def closesHeader (rest : Text) : Bool :=
  match rest.dropWhile isBlankChar with
  | ']' :: behind =>
      match behind.dropWhile isBlankChar with
      | [] => true
      | c :: _ => c == '#'
  | _ => false

/-- The table that a line is the header of. -/
def headerTable (line : Text) : Option Table :=
  match visible line with
  | '[' :: inner =>
      match headerKey inner with
      | some (key, rest) => some (if closesHeader rest then .named key else .other (trim line))
      | none => some (.other (trim line))
  | _ => none

/-- The table that a line adds an element to, as an array of tables. -/
def arrayTable (line : Text) : Option Table :=
  match visible line with
  | '[' :: '[' :: inner =>
      (headerKey inner).bind fun (key, rest) =>
        match rest.dropWhile isBlankChar with
        | ']' :: ']' :: _ => some (.named key)
        | _ => none
  | _ => none

/-- The table that a line without a header is about: a dotted key, or a key of
its own. -/
def keyTable (line : Text) : Option Table :=
  (headerKey (visible line)).bind fun (key, rest) =>
    match rest.dropWhile isBlankChar with
    | '.' :: _ => some (.named key)
    | '=' :: _ => some (.named key)
    | _ => none

example : headerTable "\uFEFF[ \"cl\\u0069ent\" ] # mine".toList =
    some (.named "client".toList) := by decide

/-! ## Lines in their places -/

/-- What is open at the start of a line, and the table it belongs to. -/
structure Spot where
  string : Option Quote
  depth : Int
  table : Table
deriving DecidableEq, Repr

namespace Spot

def start : Spot :=
  ⟨none, 0, .root⟩

/-- Not inside of a value. -/
def isTop (spot : Spot) : Bool :=
  spot.string.isNone && spot.depth == 0

/-- The table of a line: a header begins its own. -/
def tableOf (spot : Spot) (line : Text) : Table :=
  if spot.isTop then (headerTable line).getD spot.table else spot.table

def startMode (spot : Spot) : Mode :=
  match spot.string with
  | none => .plain
  | some quote => .long quote 0

/-- Behind a line. -/
def next (spot : Spot) (line : Text) : Spot :=
  let scanned := scan spot.startMode spot.depth line
  ⟨openString scanned.1, scanned.2, spot.tableOf line⟩

def after (spot : Spot) (lines : List Text) : Spot :=
  lines.foldl next spot

end Spot

/-- A line in its place, without white space at its end. -/
structure Entry where
  /-- It starts inside of a string. -/
  quoted : Bool
  top : Bool
  table : Table
  line : Text
deriving DecidableEq, Repr

def Spot.entry (spot : Spot) (line : Text) : Entry :=
  ⟨spot.string.isSome, spot.isTop, spot.tableOf line, trimEnd line⟩

def annotate : Spot → List Text → List Entry
  | _, [] => []
  | spot, line :: rest => spot.entry line :: annotate (spot.next line) rest

/-- The lines of a file. -/
def entries (text : Text) : List Entry :=
  annotate .start (linesFrom [] text)

namespace Entry

/-- A header of the table. -/
def isHeaderOf (table : Table) (entry : Entry) : Bool :=
  entry.top && headerTable entry.line == some table

/-- The table is there, by a header or by a key. -/
def defines (table : Table) (entry : Entry) : Bool :=
  entry.isHeaderOf table ||
    (entry.top && (arrayTable entry.line == some table ||
      (entry.table == .root && keyTable entry.line == some table)))

/-- Neither blank nor a comment; inside of a string there are no comments. -/
def isSignificant (entry : Entry) : Bool :=
  !(trim entry.line).isEmpty && (entry.quoted || (trim entry.line).head? != some '#')

end Entry

/-! ## White space at the end of a line -/

theorem scan_append (mode : Mode) (depth : Int) (front back : Text) :
    scan mode depth (front ++ back) =
      scan (scan mode depth front).1 (scan mode depth front).2 back := by
  induction front generalizing mode depth with
  | nil => rfl
  | cons c rest inductionHypothesis => exact inductionHypothesis _ _

theorem ne_of_isWhitespace {c special : Char} (blank : isWhitespace c = true)
    (visible : isWhitespace special = false) : c ≠ special := by
  rintro rfl
  rw [blank] at visible
  cases visible

theorem ne_quote_of_isWhitespace {c : Char} (blank : isWhitespace c = true) (quote : Quote) :
    c ≠ quote.char := by
  cases quote with
  | basic => exact ne_of_isWhitespace blank (by decide)
  | literal => exact ne_of_isWhitespace blank (by decide)

theorem plainMode_of_isWhitespace {c : Char} (blank : isWhitespace c = true) :
    plainMode c = .plain := by
  have noBasic : c ≠ '"' := ne_quote_of_isWhitespace blank .basic
  have noLiteral : c ≠ '\'' := ne_quote_of_isWhitespace blank .literal
  rw [plainMode, if_neg (ne_of_isWhitespace blank (by decide)), if_neg noBasic, if_neg noLiteral]

/-- White space in front of a newline changes nothing. -/
theorem openString_nextMode {c : Char} (blank : isWhitespace c = true) (mode : Mode) :
    openString (nextMode mode c) = openString mode := by
  have noQuote := ne_quote_of_isWhitespace blank
  have noEscape : c ≠ '\\' := ne_of_isWhitespace blank (by decide)
  have plain := plainMode_of_isWhitespace blank
  cases mode with
  | plain => simp [nextMode, isOutside, plain, openString]
  | comment => rfl
  | opening quote => simp [nextMode, isOutside, stringMode, noQuote, noEscape, openString]
  | openingTwice quote => simp [nextMode, isOutside, noQuote, plain, openString]
  | short quote => simp [nextMode, isOutside, stringMode, noQuote, noEscape, openString]
  | shortEscape => rfl
  | long quote quotes => simp [nextMode, isOutside, stringMode, noQuote, noEscape, openString]
  | longEscape => rfl
  | closing quote => simp [nextMode, isOutside, noQuote, plain, openString]

theorem nesting_of_isWhitespace {c : Char} (blank : isWhitespace c = true) (mode : Mode) :
    nesting mode c = 0 := by
  have noOpening : ¬ (c = '[' ∨ c = '\x7b') := by
    rintro (rfl | rfl)
    · exact absurd blank (by decide)
    · exact absurd blank (by decide)
  have noClosing : ¬ (c = ']' ∨ c = '\x7d') := by
    rintro (rfl | rfl)
    · exact absurd blank (by decide)
    · exact absurd blank (by decide)
  rw [nesting, if_neg noOpening, if_neg noClosing, ite_self]

theorem scan_blank {blank : Text} (isBlank : Blank blank) (mode : Mode) (depth : Int) :
    openString (scan mode depth blank).1 = openString mode ∧ (scan mode depth blank).2 = depth := by
  induction blank generalizing mode depth with
  | nil => exact ⟨rfl, rfl⟩
  | cons c rest inductionHypothesis =>
      have parts := List.forall_mem_cons.mp isBlank
      have later := inductionHypothesis parts.2 (nextMode mode c) (depth + nesting mode c)
      rw [openString_nextMode parts.1, nesting_of_isWhitespace parts.1, Int.add_zero] at later
      rw [scan, nesting_of_isWhitespace parts.1, Int.add_zero]
      exact later

/-- Nor does white space at the start of a line. -/
theorem scan_startMode_blank {blank : Text} (isBlank : Blank blank) (spot : Spot) :
    scan spot.startMode spot.depth blank = (spot.startMode, spot.depth) := by
  induction blank with
  | nil => rfl
  | cons c rest inductionHypothesis =>
      have parts := List.forall_mem_cons.mp isBlank
      have stays : nextMode spot.startMode c = spot.startMode := by
        have noEscape : c ≠ '\\' := ne_of_isWhitespace parts.1 (by decide)
        rw [Spot.startMode]
        cases spot.string with
        | none => exact plainMode_of_isWhitespace parts.1
        | some quote =>
            simp [nextMode, isOutside, stringMode, ne_quote_of_isWhitespace parts.1, noEscape]
      rw [scan, stays, nesting_of_isWhitespace parts.1, Int.add_zero, inductionHypothesis parts.2]

theorem Spot.openString_startMode (spot : Spot) : openString spot.startMode = spot.string := by
  rw [startMode]
  cases spot.string with
  | none => rfl
  | some quote => rfl

theorem visible_eq_of_trim {left right : Text} (same : trim left = trim right) :
    visible left = visible right := by
  rw [visible, same, visible]

/-- A line that starts with another character than a byte order mark. -/
theorem visible_of_trim {line rest : Text} {c : Char} (trimmed : trim line = c :: rest)
    (noMark : c ≠ byteOrderMark) : visible line = trim line := by
  rw [visible, trimmed]
  exact if_neg noMark

theorem headerTable_eq_of_trim {left right : Text} (same : trim left = trim right) :
    headerTable left = headerTable right := by
  rw [headerTable, visible_eq_of_trim same, same, headerTable]

theorem headerTable_trimEnd (line : Text) : headerTable (trimEnd line) = headerTable line :=
  headerTable_eq_of_trim (trim_trimEnd line)

namespace Spot

variable (spot : Spot) (line : Text)

theorem tableOf_trimEnd : spot.tableOf (trimEnd line) = spot.tableOf line := by
  rw [tableOf, headerTable_trimEnd, tableOf]

theorem next_trimEnd : spot.next (trimEnd line) = spot.next line := by
  obtain ⟨blank, isBlank, whole⟩ := exists_trimEnd_append line
  have scanned := scan_append spot.startMode spot.depth (trimEnd line) blank
  rw [← whole] at scanned
  have same := scan_blank isBlank (scan spot.startMode spot.depth (trimEnd line)).1
    (scan spot.startMode spot.depth (trimEnd line)).2
  rw [next, next, tableOf_trimEnd, scanned, same.1, same.2]

theorem entry_trimEnd : spot.entry (trimEnd line) = spot.entry line := by
  rw [entry, tableOf_trimEnd, trimEnd_trimEnd, entry]

end Spot

/-- Lines that differ in white space at their ends only are in the same places. -/
theorem annotate_map_trimEnd (spot : Spot) (lines : List Text) :
    annotate spot (lines.map trimEnd) = annotate spot lines := by
  induction lines generalizing spot with
  | nil => rfl
  | cons line rest inductionHypothesis =>
      rw [List.map_cons, annotate, annotate, spot.entry_trimEnd, spot.next_trimEnd,
        inductionHypothesis]

theorem annotate_line (spot : Spot) (lines : List Text) :
    (annotate spot lines).map Entry.line = lines.map trimEnd := by
  induction lines generalizing spot with
  | nil => rfl
  | cons line rest inductionHypothesis =>
      rw [annotate, List.map_cons, inductionHypothesis, List.map_cons]
      rfl

theorem annotate_append (spot : Spot) (front back : List Text) :
    annotate spot (front ++ back) = annotate spot front ++ annotate (spot.after front) back := by
  induction front generalizing spot with
  | nil => rfl
  | cons line rest inductionHypothesis =>
      rw [List.cons_append, annotate, inductionHypothesis, annotate]
      rfl

end Etr.Config
