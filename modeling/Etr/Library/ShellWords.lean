import Mathlib.Data.List.Basic

/-!
Contract: how a POSIX shell cuts a command line into words.

Owns the token recognition with its quoting, operators, comments and line
continuations, quote removal, which characters of a word still mean something
to the expansions, and the texts that are read as one piece of a word in every
context.

Does not own the expansions, the grammar, or the inside of a substitution: a
word in which one starts is only told apart from the others.
-/

namespace Etr.Library.Shell

/-! ## Words -/

/-- How a character of a word is quoted. -/
inductive Quoting where
  | bare
  | escaped
  | single
  | double
deriving DecidableEq, Repr

structure WordChar where
  char : Char
  quoting : Quoting
deriving DecidableEq, Repr

/-- A word, without the quotes themselves. -/
abbrev Word := List WordChar

inductive Token where
  | word (content : Word)
  | operator (text : List Char)
deriving DecidableEq, Repr

def removeQuotes (word : Word) : List Char :=
  word.map WordChar.char

/-- A substitution starts here, or the character is one that may be special to
a later expansion without quotes. A leading tilde is not looked at. -/
def WordChar.IsActive (c : WordChar) : Prop :=
  (c.quoting = .bare ∨ c.quoting = .double) ∧ (c.char = '$' ∨ c.char = (Char.ofNat 0x60)) ∨
    c.quoting = .bare ∧ c.char ∈ "*?[]^#%!=\x7b,\x7d".toList

instance (c : WordChar) : Decidable c.IsActive := by
  unfold WordChar.IsActive
  infer_instance

/-- Nothing is left to expand but a leading tilde. -/
def Inert (word : Word) : Prop :=
  ∀ c ∈ word, ¬ c.IsActive

/-- The login name behind a leading tilde that is expanded: all characters up to
the first slash have to be unquoted. -/
def tildeLogin (word : Word) : Option (List Char) :=
  match word with
  | ⟨'~', .bare⟩ :: rest =>
      let login := rest.takeWhile fun c => c != ⟨'/', .bare⟩
      if login.all fun c => c.quoting == .bare then some (login.map WordChar.char) else none
  | _ => none

instance (word : Word) : Decidable (Inert word) :=
  inferInstanceAs (Decidable (∀ c ∈ word, ¬ c.IsActive))

theorem inert_append {left right : Word} : Inert (left ++ right) ↔ Inert left ∧ Inert right :=
  List.forall_mem_append

/-- A word whose first character is quoted, or no tilde, is left alone. -/
theorem tildeLogin_eq_none {word : Word} (notTilde : ∀ rest, word ≠ ⟨'~', .bare⟩ :: rest) :
    tildeLogin word = none := by
  unfold tildeLogin
  split
  · rename_i rest
    exact absurd rfl (notTilde rest)
  · rfl

/-! ## Token recognition -/

def isBlank (c : Char) : Bool :=
  c == ' ' || c == '\t'

def isOperatorChar (c : Char) : Bool :=
  c == '&' || c == '|' || c == ';' || c == '<' || c == '>' || c == '(' || c == ')'

/-- Operators of more than one character. -/
def longOperators : List (List Char) :=
  ["&&", "||", ";;", "<<", ">>", "<&", ">&", "<>", "<<-", ">|"].map String.toList

inductive LexState where
  /-- Outside of quotes; `none` between two tokens. -/
  | unquoted (content : Option Word)
  | comment
  | operator (text : List Char)
  /-- Behind a backslash. -/
  | escape (content : Option Word)
  | single (content : Word)
  | double (content : Word)
  /-- Behind a backslash in double quotes. -/
  | doubleEscape (content : Word)
deriving DecidableEq, Repr

/-- The word that ends here. -/
def ended (content : Option Word) : List Token :=
  (content.map Token.word).toList

/-- One more character of a word, which it may begin. -/
def push (content : Option Word) (c : Char) (quoting : Quoting) : Word :=
  content.getD [] ++ [⟨c, quoting⟩]

/-- One character outside of quotes. -/
def stepUnquoted (content : Option Word) (c : Char) : List Token × LexState :=
  if c = '\'' then
    ([], .single (content.getD []))
  else if c = '"' then
    ([], .double (content.getD []))
  else if c = '\\' then
    ([], .escape content)
  else if isBlank c then
    (ended content, .unquoted none)
  else if c = '\n' then
    (ended content ++ [.operator ['\n']], .unquoted none)
  else if isOperatorChar c then
    (ended content, .operator [c])
  else if c = '#' ∧ content = none then
    ([], .comment)
  else
    ([], .unquoted (some (push content c .bare)))

/-- One character, and the tokens that end with it. -/
def step : LexState → Char → List Token × LexState
  | .unquoted content, c => stepUnquoted content c
  | .comment, c => if c = '\n' then ([.operator ['\n']], .unquoted none) else ([], .comment)
  | .operator text, c =>
      if text ++ [c] ∈ longOperators then
        ([], .operator (text ++ [c]))
      else
        (.operator text :: (stepUnquoted none c).1, (stepUnquoted none c).2)
  | .escape content, c =>
      -- A line continuation is as if it were not there.
      if c = '\n' then ([], .unquoted content) else ([], .unquoted (some (push content c .escaped)))
  | .single content, c =>
      if c = '\'' then ([], .unquoted (some content)) else ([], .single (content ++ [⟨c, .single⟩]))
  | .double content, c =>
      if c = '"' then ([], .unquoted (some content))
      else if c = '\\' then ([], .doubleEscape content)
      else ([], .double (content ++ [⟨c, .double⟩]))
  | .doubleEscape content, c =>
      if c = '\n' then
        ([], .double content)
      else if c = '$' ∨ c = (Char.ofNat 0x60) ∨ c = '"' ∨ c = '\\' then
        ([], .double (content ++ [⟨c, .escaped⟩]))
      else
        ([], .double (content ++ [⟨'\\', .double⟩, ⟨c, .double⟩]))

/-- The tokens that end inside a text, and the state behind it. -/
def run : LexState → List Char → List Token × LexState
  | state, [] => ([], state)
  | state, c :: rest =>
      let first := step state c
      let later := run first.2 rest
      (first.1 ++ later.1, later.2)

/-- The last token; quotes have to be closed. -/
def finish : LexState → Option (List Token)
  | .unquoted content => some (ended content)
  | .comment => some []
  | .operator text => some [.operator text]
  | .escape _ | .single _ | .double _ | .doubleEscape _ => none

/-- The tokens of a command line. -/
def lex (text : List Char) : Option (List Token) :=
  (finish (run (.unquoted none) text).2).map fun last => (run (.unquoted none) text).1 ++ last

theorem run_append (state : LexState) (left right : List Char) :
    run state (left ++ right) =
      ((run state left).1 ++ (run (run state left).2 right).1,
        (run (run state left).2 right).2) := by
  induction left generalizing state with
  | nil => rfl
  | cons c rest inductionHypothesis =>
      rw [List.cons_append, run, inductionHypothesis, run]
      simp only [List.append_assoc]

example : lex "ls -l 'a b'>>x # y".toList =
    some [.word ("ls".toList.map (⟨·, .bare⟩)), .word ("-l".toList.map (⟨·, .bare⟩)),
      .word ("a b".toList.map (⟨·, .single⟩)), .operator ">>".toList,
      .word ("x".toList.map (⟨·, .bare⟩))] := by decide

/-! ## Pieces of a word -/

/-- Wherever `text` stands outside of quotes, it is read as `chars`, within the
word that has begun or as the beginning of one. -/
def Reads (text : List Char) (chars : Word) : Prop :=
  ∀ content, run (.unquoted content) text = ([], .unquoted (some (content.getD [] ++ chars)))

/-- Pieces that are written behind one another are one piece. -/
theorem Reads.append {left right : List Char} {leftChars rightChars : Word}
    (readsLeft : Reads left leftChars) (readsRight : Reads right rightChars) :
    Reads (left ++ right) (leftChars ++ rightChars) := by
  intro content
  rw [run_append, readsLeft, readsRight, Option.getD_some, List.append_assoc]
  rfl

/-- Not special to the token recognition. -/
def IsOrdinary (c : Char) : Prop :=
  c ≠ '\'' ∧ c ≠ '"' ∧ c ≠ '\\' ∧ c ≠ '\n' ∧ c ≠ '#' ∧ isBlank c = false ∧
    isOperatorChar c = false

instance (c : Char) : Decidable (IsOrdinary c) := by
  unfold IsOrdinary
  infer_instance

theorem reads_ordinary {c : Char} (ordinary : IsOrdinary c) : Reads [c] [⟨c, .bare⟩] := by
  intro content
  obtain ⟨noSingle, noDouble, noEscape, noNewline, noComment, noBlank, noOperator⟩ := ordinary
  simp [run, step, stepUnquoted, push, noSingle, noDouble, noEscape, noNewline, noComment, noBlank,
    noOperator]

theorem reads_plain {text : List Char} (nonempty : text ≠ [])
    (ordinary : ∀ c ∈ text, IsOrdinary c) : Reads text (text.map (⟨·, .bare⟩)) := by
  induction text with
  | nil => exact absurd rfl nonempty
  | cons c rest inductionHypothesis =>
      have parts := List.forall_mem_cons.mp ordinary
      have first := reads_ordinary parts.1
      cases rest with
      | nil => exact first
      | cons next more => exact first.append (inductionHypothesis (List.cons_ne_nil _ _) parts.2)

/-! ## Command lines -/

/-- A text that is read as one word. -/
structure Argument where
  text : List Char
  word : Word
  reads : Reads text word

def Argument.token (argument : Argument) : Token :=
  .word argument.word

/-- Arguments with a space between them. -/
def commandLine (texts : List (List Char)) : List Char :=
  [' '].intercalate texts

theorem run_commandLine (first : Argument) (rest : List Argument) :
    ∃ tokens last, run (.unquoted none) (commandLine ((first :: rest).map Argument.text)) =
        (tokens, .unquoted (some last)) ∧
      tokens ++ [.word last] = (first :: rest).map Argument.token := by
  induction rest generalizing first with
  | nil =>
      refine ⟨[], first.word, ?_, rfl⟩
      have read := first.reads none
      simpa [commandLine] using read
  | cons next rest inductionHypothesis =>
      obtain ⟨tokens, last, ran, tokensEq⟩ := inductionHypothesis next
      refine ⟨.word first.word :: tokens, last, ?_, ?_⟩
      · have joined : commandLine ((first :: next :: rest).map Argument.text) =
            first.text ++ ' ' :: commandLine ((next :: rest).map Argument.text) := by
          simp [commandLine, List.intercalate_cons_cons]
        rw [joined, run_append, first.reads none, run, Option.getD_none, List.nil_append]
        -- The space ends the first word.
        change ([Token.word first.word] ++ (run (.unquoted none) _).1, _) = _
        rw [ran]
        exact congrArg (Prod.mk _) (congrArg Prod.snd ran)
      · rw [List.map_cons, ← tokensEq, List.cons_append, Argument.token]

/-- A command line has the words that its arguments are read as. -/
theorem lex_commandLine (arguments : List Argument) :
    lex (commandLine (arguments.map Argument.text)) = some (arguments.map Argument.token) := by
  cases arguments with
  | nil => rfl
  | cons first rest =>
      obtain ⟨tokens, last, ran, tokensEq⟩ := run_commandLine first rest
      rw [lex, ran, ← tokensEq]
      rfl

end Etr.Library.Shell
