import Etr.Bootstrap.Request
import Etr.Library.ShellWords
import Mathlib.Data.List.Forall2

/-!
Contract: the command line that `ssh` hands to the remote shell.

Owns `posix_shell_quote` of `src/bin/etr.rs`, the words a shell reads from what
it writes, and the remote arguments of `bootstrap_ssh`.

Does not own the options of `ssh` itself, or how a shell looks a command up.
-/

namespace Etr.Bootstrap

open Etr.Library.Shell

/-! ## Quoting -/

/-- The bytes that are left bare. -/
def isSafe (c : Char) : Bool :=
  c.isAlphanum || c == '_' || c == '-' || c == '.' || c == '/' || c == ':'

/-- `'{}'` around `s.replace('\'', "'\\''")`. -/
def singleQuoted (s : Text) : Text :=
  '\'' :: (s.flatMap fun c => if c = '\'' then "'\\''".toList else [c]) ++ ['\'']

def posixShellQuote : Text → Text
  | ['~'] => ['~']
  | '~' :: '/' :: rest => if rest.isEmpty then "~/".toList else '~' :: '/' :: posixShellQuote rest
  | s => if !s.isEmpty && s.all isSafe then s else singleQuoted s

/-- The tests of the source. -/
example : posixShellQuote "/tmp/it's.log".toList = "'/tmp/it'\\''s.log'".toList := by decide

example : posixShellQuote "~/my bin/etrs".toList = "~/'my bin/etrs'".toList := by decide

/-! ## The words that are read -/

/-- One character between single quotes, or the escaped quote between two
quoted parts. -/
def quotedChar (c : Char) : WordChar :=
  if c = '\'' then ⟨c, .escaped⟩ else ⟨c, .single⟩

/-- The word that a shell reads from a quoted argument. -/
def quotedWord : Text → Word
  | ['~'] => [⟨'~', .bare⟩]
  | '~' :: '/' :: rest =>
      if rest.isEmpty then
        "~/".toList.map (⟨·, .bare⟩)
      else
        ⟨'~', .bare⟩ :: ⟨'/', .bare⟩ :: quotedWord rest
  | s => if !s.isEmpty && s.all isSafe then s.map (⟨·, .bare⟩) else s.map quotedChar

/-- The word stands for `s` and nothing else; only a tilde in front of it is
left open. -/
structure StandsFor (word : Word) (s : Text) : Prop where
  content : removeQuotes word = s
  inert : Inert word
  tilde : tildeLogin word = if s = ['~'] ∨ ['~', '/'] <+: s then some [] else none

theorem ne_of_isSafe {c special : Char} (safe : isSafe c = true)
    (quoted : isSafe special = false) : c ≠ special := by
  rintro rfl
  rw [safe] at quoted
  cases quoted

theorem isOrdinary_of_isSafe {c : Char} (safe : isSafe c = true) : IsOrdinary c := by
  refine ⟨ne_of_isSafe safe rfl, ne_of_isSafe safe rfl, ne_of_isSafe safe rfl,
    ne_of_isSafe safe rfl, ne_of_isSafe safe rfl, ?_, ?_⟩
  · simp only [isBlank, Bool.or_eq_false_iff, beq_eq_false_iff_ne]
    exact ⟨ne_of_isSafe safe rfl, ne_of_isSafe safe rfl⟩
  · simp only [isOperatorChar, Bool.or_eq_false_iff, beq_eq_false_iff_ne]
    exact ⟨⟨⟨⟨⟨⟨ne_of_isSafe safe rfl, ne_of_isSafe safe rfl⟩, ne_of_isSafe safe rfl⟩,
      ne_of_isSafe safe rfl⟩, ne_of_isSafe safe rfl⟩, ne_of_isSafe safe rfl⟩,
      ne_of_isSafe safe rfl⟩

theorem not_isActive_of_isSafe {c : Char} (safe : isSafe c = true) (quoting : Quoting) :
    ¬ (WordChar.mk c quoting).IsActive := by
  have special : ("*?[]^#%!=\x7b,\x7d".toList.all fun other => !isSafe other) = true := by
    decide
  rintro (⟨-, isDollar | isBacktick⟩ | ⟨-, isSpecial⟩)
  · exact ne_of_isSafe safe rfl isDollar
  · exact ne_of_isSafe safe rfl isBacktick
  · have quoted := List.all_eq_true.mp special c isSpecial
    rw [safe] at quoted
    cases quoted

/-- Between single quotes everything but the quote itself stands for itself. -/
theorem run_single (s : Text) (content : Word) :
    run (.single content)
        ((s.flatMap fun c => if c = '\'' then "'\\''".toList else [c]) ++ ['\'']) =
      ([], .unquoted (some (content ++ s.map quotedChar))) := by
  induction s generalizing content with
  | nil => simp [run, step]
  | cons c rest inductionHypothesis =>
      rw [List.flatMap_cons, List.append_assoc, run_append]
      by_cases isQuote : c = '\''
      · have closed : run (.single content) "'\\''".toList =
            ([], .single (content ++ [quotedChar c])) := by
          rw [isQuote]
          rfl
        rw [if_pos isQuote, closed, inductionHypothesis]
        simp
      · have taken : run (.single content) [c] = ([], .single (content ++ [quotedChar c])) := by
          simp [run, step, quotedChar, isQuote]
        rw [if_neg isQuote, taken, inductionHypothesis]
        simp

theorem reads_singleQuoted (s : Text) : Reads (singleQuoted s) (s.map quotedChar) := by
  intro content
  rw [singleQuoted, List.cons_append, run]
  change ([] ++ (run (.single (content.getD [])) _).1, (run (.single (content.getD [])) _).2) = _
  rw [run_single, List.append_nil]

theorem reads_tilde : Reads ['~'] [⟨'~', .bare⟩] :=
  reads_ordinary (by decide)

theorem reads_tildeSlash : Reads ['~', '/'] [⟨'~', .bare⟩, ⟨'/', .bare⟩] :=
  reads_tilde.append (reads_ordinary (by decide))

/-- What is written is read as one word. -/
theorem reads_posixShellQuote (s : Text) : Reads (posixShellQuote s) (quotedWord s) := by
  induction s using posixShellQuote.induct with
  | case1 => exact reads_tilde
  | case2 rest empty =>
      rw [posixShellQuote, quotedWord, if_pos empty, if_pos empty]
      exact reads_tildeSlash
  | case3 rest nonempty inductionHypothesis =>
      rw [posixShellQuote, quotedWord, if_neg nonempty, if_neg nonempty]
      exact reads_tildeSlash.append inductionHypothesis
  | case4 s notTilde notHome safe =>
      rw [posixShellQuote.eq_3 s notTilde notHome, quotedWord.eq_3 s notTilde notHome,
        if_pos safe, if_pos safe]
      rw [Bool.and_eq_true, List.all_eq_true] at safe
      exact reads_plain (by simpa using safe.1) fun c member =>
        isOrdinary_of_isSafe (safe.2 c member)
  | case5 s notTilde notHome special =>
      rw [posixShellQuote.eq_3 s notTilde notHome, quotedWord.eq_3 s notTilde notHome,
        if_neg special, if_neg special]
      exact reads_singleQuoted s

theorem char_quotedChar (c : Char) : (quotedChar c).char = c := by
  unfold quotedChar
  split
  · rfl
  · rfl

/-- Single quotes and the escape take every meaning from a character. -/
theorem not_bare_quotedChar (c : Char) :
    (quotedChar c).quoting ≠ .bare ∧ (quotedChar c).quoting ≠ .double := by
  unfold quotedChar
  split
  · exact ⟨nofun, nofun⟩
  · exact ⟨nofun, nofun⟩

theorem not_isActive_quotedChar (c : Char) : ¬ (quotedChar c).IsActive := by
  rintro (⟨isBare | isDouble, -⟩ | ⟨isBare, -⟩)
  · exact (not_bare_quotedChar c).1 isBare
  · exact (not_bare_quotedChar c).2 isDouble
  · exact (not_bare_quotedChar c).1 isBare

/-- A word whose characters are those of `s`, each read as `read` has it. -/
theorem standsFor_map {read : Char → WordChar} {s : Text} (char : ∀ c, (read c).char = c)
    (inert : ∀ c ∈ s, ¬ (read c).IsActive)
    (noTilde : ∀ c ∈ s, read c ≠ ⟨'~', .bare⟩)
    (noHome : ¬ (s = ['~'] ∨ ['~', '/'] <+: s)) : StandsFor (s.map read) s := by
  refine ⟨?_, ?_, ?_⟩
  · rw [removeQuotes, List.map_map]
    exact List.map_id'' char s
  · intro c member
    obtain ⟨original, inside, rfl⟩ := List.mem_map.mp member
    exact inert original inside
  · rw [if_neg noHome]
    apply tildeLogin_eq_none
    intro rest isTilde
    obtain ⟨first, later, rfl, same, -⟩ := List.map_eq_cons_iff.mp isTilde
    exact noTilde first List.mem_cons_self same

/-- The word that is read is the argument, and nothing in it is left to expand
but a tilde for the home directory. -/
theorem standsFor_quotedWord (s : Text) : StandsFor (quotedWord s) s := by
  induction s using posixShellQuote.induct with
  | case1 => exact ⟨rfl, by decide, rfl⟩
  | case2 rest empty =>
      rw [List.isEmpty_iff.mp empty]
      exact ⟨rfl, by decide, rfl⟩
  | case3 rest nonempty inductionHypothesis =>
      have front : Inert [⟨'~', .bare⟩, ⟨'/', .bare⟩] := by decide
      have isHome : ['~', '/'] <+: '~' :: '/' :: rest := List.prefix_append ['~', '/'] rest
      rw [quotedWord, if_neg nonempty]
      refine ⟨?_, inert_append.mpr ⟨front, inductionHypothesis.inert⟩, ?_⟩
      · exact congrArg (['~', '/'] ++ ·) inductionHypothesis.content
      · rw [if_pos (Or.inr isHome)]
        rfl
  | case4 s notTilde notHome safe =>
      have noHome : ¬ (s = ['~'] ∨ ['~', '/'] <+: s) := by
        rintro (isTilde | ⟨rest, isHome⟩)
        · exact notTilde isTilde
        · exact notHome rest isHome.symm
      rw [quotedWord.eq_3 s notTilde notHome, if_pos safe]
      rw [Bool.and_eq_true, List.all_eq_true] at safe
      refine standsFor_map (fun c => rfl) ?_ ?_ noHome
      · exact fun c member => not_isActive_of_isSafe (safe.2 c member) .bare
      · intro c member isTilde
        exact ne_of_isSafe (safe.2 c member) rfl (congrArg WordChar.char isTilde)
  | case5 s notTilde notHome special =>
      have noHome : ¬ (s = ['~'] ∨ ['~', '/'] <+: s) := by
        rintro (isTilde | ⟨rest, isHome⟩)
        · exact notTilde isTilde
        · exact notHome rest isHome.symm
      rw [quotedWord.eq_3 s notTilde notHome, if_neg special]
      refine standsFor_map char_quotedChar ?_ ?_ noHome
      · exact fun c _ => not_isActive_quotedChar c
      · intro c _ isTilde
        exact (not_bare_quotedChar c).1 (congrArg WordChar.quoting isTilde)

/-! ## The remote command -/

/-- The flag of `-v` options: `"v".repeat(n)` behind a dash. -/
def vFlag (verbose : UInt8) : Text :=
  if verbose = 0 then [] else '-' :: List.replicate verbose.toNat 'v'

/-- The arguments of `ssh` behind the target. -/
def remoteArguments (serverPath : Text) (serverLogPath : Option Text) (verbose : UInt8) :
    List Text :=
  [posixShellQuote serverPath] ++
    (match serverLogPath with
      | some logPath => ["--log-path".toList, posixShellQuote logPath]
      | none => []) ++
    if (vFlag verbose).isEmpty then [] else [vFlag verbose]

/-- The words that are meant. -/
def remoteWords (serverPath : Text) (serverLogPath : Option Text) (verbose : UInt8) : List Text :=
  [serverPath] ++
    (match serverLogPath with
      | some logPath => ["--log-path".toList, logPath]
      | none => []) ++
    if (vFlag verbose).isEmpty then [] else [vFlag verbose]

theorem posixShellQuote_of_safe {s : Text} (nonempty : s ≠ []) (safe : ∀ c ∈ s, isSafe c = true) :
    posixShellQuote s = s := by
  have allSafe : (!s.isEmpty && s.all isSafe) = true := by
    rw [Bool.and_eq_true, List.all_eq_true]
    exact ⟨by simpa using nonempty, safe⟩
  have noTilde : ∀ rest, s ≠ '~' :: rest := by
    rintro rest rfl
    exact ne_of_isSafe (safe '~' List.mem_cons_self) rfl rfl
  rw [posixShellQuote.eq_3 s (noTilde []) fun rest => noTilde ('/' :: rest), if_pos allSafe]

/-- The options are written without quotes, which is how they would be quoted. -/
theorem remoteArguments_eq (serverPath : Text) (serverLogPath : Option Text) (verbose : UInt8) :
    remoteArguments serverPath serverLogPath verbose =
      (remoteWords serverPath serverLogPath verbose).map posixShellQuote := by
  have logFlag : posixShellQuote "--log-path".toList = "--log-path".toList := rfl
  have options : (if (vFlag verbose).isEmpty then [] else [vFlag verbose]).map posixShellQuote =
      if (vFlag verbose).isEmpty then [] else [vFlag verbose] := by
    split
    · rfl
    · rename_i nonempty
      have safe : ∀ c ∈ vFlag verbose, isSafe c = true := by
        intro c member
        unfold vFlag at member
        split at member
        · cases member
        · rcases List.mem_cons.mp member with rfl | isV
          · rfl
          · rw [List.eq_of_mem_replicate isV]
            rfl
      rw [List.map_singleton, posixShellQuote_of_safe (by simpa using nonempty) safe]
  unfold remoteArguments remoteWords
  rw [List.map_append, List.map_append, options]
  cases serverLogPath with
  | none => rfl
  | some logPath =>
      simp only [List.map_cons, List.map_nil, logFlag]

/-- An argument that is quoted. -/
def quotedArgument (s : Text) : Argument :=
  ⟨posixShellQuote s, quotedWord s, reads_posixShellQuote s⟩

/-- **A quoted argument is read as one word that stands for it, among any other
arguments, and the remote command has exactly the words that are meant.** -/
theorem quoting_neutralises :
    (∀ s, ∃ word, StandsFor word s ∧ ∀ before after : List Argument,
        lex (commandLine
            (before.map Argument.text ++ posixShellQuote s :: after.map Argument.text)) =
          some (before.map Argument.token ++ .word word :: after.map Argument.token)) ∧
      ∀ serverPath serverLogPath verbose, ∃ words,
        lex (commandLine (remoteArguments serverPath serverLogPath verbose)) =
            some (words.map Token.word) ∧
          List.Forall₂ StandsFor words (remoteWords serverPath serverLogPath verbose) := by
  constructor
  · intro s
    refine ⟨quotedWord s, standsFor_quotedWord s, ?_⟩
    intro before after
    have read := lex_commandLine (before ++ quotedArgument s :: after)
    rw [List.map_append, List.map_append] at read
    exact read
  · intro serverPath serverLogPath verbose
    have read := lex_commandLine
      ((remoteWords serverPath serverLogPath verbose).map quotedArgument)
    rw [List.map_map, List.map_map] at read
    refine ⟨(remoteWords serverPath serverLogPath verbose).map quotedWord, ?_, ?_⟩
    · rw [remoteArguments_eq, List.map_map]
      exact read
    · rw [List.forall₂_map_left_iff, List.forall₂_same]
      exact fun s _ => standsFor_quotedWord s

end Etr.Bootstrap
