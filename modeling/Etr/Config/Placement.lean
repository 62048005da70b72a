import Etr.Config.MergedLines
import Etr.Config.Toml
import Etr.Library.Insertion

/-!
Contract: where the lines of a merged configuration file stand.

Owns the places where a merge inserts lines, that the lines of the file keep
theirs, and that comment lines and headers change no string or bracket.

Does not own what the places mean for the file.
-/

namespace Etr.Config

open Etr.Bootstrap Etr.Library

/-! ## Added lines change no place -/

theorem scan_comment (depth : Int) (text : Text) :
    scan .comment depth text = (.comment, depth) := by
  induction text generalizing depth with
  | nil => rfl
  | cons c rest inductionHypothesis =>
      rw [scan]
      have stays : nextMode .comment c = .comment := rfl
      have flat : nesting .comment c = 0 := rfl
      rw [stays, flat, Int.add_zero, inductionHypothesis]

theorem hasQuotePair_cons {c : Char} {rest : Text} (noPair : hasQuotePair (c :: rest) = false)
    (quote : Quote) :
    hasQuotePair rest = false ∧ (c = quote.char → rest.head? ≠ some quote.char) := by
  cases rest with
  | nil => exact ⟨rfl, fun _ => nofun⟩
  | cons next more =>
      rw [hasQuotePair, Bool.or_eq_false_iff] at noPair
      refine ⟨noPair.2, ?_⟩
      rintro rfl same
      rw [List.head?_cons, Option.some.injEq] at same
      rw [same] at noPair
      cases quote with
      | basic => exact absurd noPair.1 (by decide)
      | literal => exact absurd noPair.1 (by decide)

/-- Without two quotes behind one another, and without escapes, a multi-line
string goes on. -/
theorem scan_long {quote : Quote} {quotes : Nat} {text : Text} (noEscape : '\\' ∉ text)
    (noPair : hasQuotePair text = false)
    (behind : quotes = 0 ∨ quotes = 1 ∧ text.head? ≠ some quote.char) (depth : Int) :
    ∃ later, scan (.long quote quotes) depth text = (.long quote later, depth) := by
  induction text generalizing quotes with
  | nil => exact ⟨quotes, rfl⟩
  | cons c rest inductionHypothesis =>
      rw [List.mem_cons, not_or] at noEscape
      have pair := hasQuotePair_cons noPair quote
      have flat : nesting (.long quote quotes) c = 0 := rfl
      rw [scan, flat, Int.add_zero]
      by_cases isQuote : c = quote.char
      · have first : quotes = 0 := by
          rcases behind with zero | ⟨-, notQuote⟩
          · exact zero
          · exact absurd (congrArg some isQuote) notQuote
        have mode : nextMode (.long quote quotes) c = .long quote 1 := by
          simp [nextMode, isOutside, stringMode, isQuote, first]
        rw [mode]
        exact inductionHypothesis noEscape.2 pair.1 (Or.inr ⟨rfl, pair.2 isQuote⟩)
      · have mode : nextMode (.long quote quotes) c = .long quote 0 := by
          simp [nextMode, isOutside, stringMode, isQuote, Ne.symm noEscape.1]
        rw [mode]
        exact inductionHypothesis noEscape.2 pair.1 (Or.inl rfl)

theorem trim_cons_of_visible {c : Char} (visible : isWhitespace c = false) (rest : Text) :
    trim (c :: rest) = c :: trimEnd rest := by
  have stops : (c :: rest).dropWhile isWhitespace = c :: rest := by
    rw [List.dropWhile_cons, visible]
    rfl
  rw [trim, stops]
  exact trimEnd_append visible [] rest

theorem exists_of_quietComment {line : Text} (quiet : isQuietComment line = true) :
    ∃ rest, line = '#' :: rest ∧ '\\' ∉ line ∧ hasQuotePair line = false := by
  simp only [isQuietComment, Bool.and_eq_true, beq_iff_eq, Bool.not_eq_true',
    List.contains_eq_mem, decide_eq_false_iff_not] at quiet
  obtain ⟨⟨⟨starts, -⟩, noEscape⟩, noPair⟩ := quiet
  cases line with
  | nil => cases starts
  | cons c rest =>
      rw [List.head?_cons, Option.some.injEq] at starts
      exact ⟨rest, by rw [starts], noEscape, noPair⟩

theorem trim_of_quietComment {line : Text} (quiet : isQuietComment line = true) :
    ∃ rest, trim line = '#' :: rest := by
  obtain ⟨rest, rfl, -, -⟩ := exists_of_quietComment quiet
  exact ⟨trimEnd rest, trim_cons_of_visible (by decide) rest⟩

theorem headerTable_of_quietComment {line : Text} (quiet : isQuietComment line = true) :
    headerTable line = none := by
  obtain ⟨rest, trimmed⟩ := trim_of_quietComment quiet
  rw [headerTable, visible_of_trim trimmed (by decide), trimmed]
  rfl

/-- A comment line belongs to the table in front of it. -/
theorem tableOf_of_quietComment {line : Text} (quiet : isQuietComment line = true) (spot : Spot) :
    spot.tableOf line = spot.table := by
  rw [Spot.tableOf, headerTable_of_quietComment quiet, Option.getD_none, ite_self]

/-- Behind a comment line everything is as in front of it, also in a string. -/
theorem next_of_quietComment {line : Text} (quiet : isQuietComment line = true) (spot : Spot) :
    spot.next line = spot := by
  have table := tableOf_of_quietComment quiet spot
  obtain ⟨rest, starts, noEscape, noPair⟩ := exists_of_quietComment quiet
  obtain ⟨string, depth, current⟩ := spot
  cases string with
  | none =>
      have scanned : scan .plain depth line = (.comment, depth) := by
        have flat : nesting .plain '#' = 0 := rfl
        rw [starts, scan, flat, Int.add_zero]
        exact scan_comment depth rest
      rw [Spot.next, table, Spot.startMode, scanned]
      rfl
  | some quote =>
      obtain ⟨later, scanned⟩ := @scan_long quote 0 line noEscape noPair (Or.inl rfl) depth
      rw [Spot.next, table, Spot.startMode, scanned]
      rfl

/-- An empty line changes nothing. -/
theorem next_nil (spot : Spot) : spot.next [] = spot ∧ spot.tableOf [] = spot.table := by
  have table : spot.tableOf [] = spot.table := by
    rw [Spot.tableOf, show headerTable [] = none from rfl, Option.getD_none, ite_self]
  obtain ⟨string, depth, current⟩ := spot
  refine ⟨?_, table⟩
  rw [Spot.next, table]
  cases string with
  | none => rfl
  | some quote => rfl

/-! ## Headers -/

def clientTable : Table := .named "client".toList

def serverTable : Table := .named "server".toList

/-- A header as `merge_defaults` writes it, which is also how it has to be
spelled to be recognized. -/
structure PlainHeader where
  line : Text
  table : Table
  trimmed : trim line = line
  names : headerTable line = some table
  /-- Brackets are closed again; in a string they do not count. -/
  scanned : ∀ spot : Spot, scan spot.startMode spot.depth line = (spot.startMode, spot.depth)

theorem scan_plainHeader {line : Text} (isHeader : line = clientHeader ∨ line = serverHeader)
    (spot : Spot) : scan spot.startMode spot.depth line = (spot.startMode, spot.depth) := by
  have counted : scan spot.startMode spot.depth line =
      (spot.startMode, spot.depth + nesting spot.startMode '[' + 0 + 0 + 0 + 0 + 0 + 0 +
        nesting spot.startMode ']') := by
    rw [Spot.startMode]
    rcases isHeader with rfl | rfl
    · cases spot.string with
      | none => rfl
      | some quote =>
          cases quote with
          | basic => rfl
          | literal => rfl
    · cases spot.string with
      | none => rfl
      | some quote =>
          cases quote with
          | basic => rfl
          | literal => rfl
  have balanced : nesting spot.startMode '[' + nesting spot.startMode ']' = 0 := by
    rw [Spot.startMode]
    cases spot.string with
    | none => rfl
    | some quote => rfl
  rw [counted]
  congr 1
  omega

def clientPlain : PlainHeader where
  line := clientHeader
  table := clientTable
  trimmed := by decide
  names := by decide
  scanned := scan_plainHeader (Or.inl rfl)

def serverPlain : PlainHeader where
  line := serverHeader
  table := serverTable
  trimmed := by decide
  names := by decide
  scanned := scan_plainHeader (Or.inr rfl)

/-- At the top level a header begins its table. -/
theorem tableOf_header {line : Text} {table : Table} (isHeader : headerTable line = some table)
    (spot : Spot) : spot.tableOf line = if spot.isTop then table else spot.table := by
  rw [Spot.tableOf, isHeader, Option.getD_some]

namespace PlainHeader

variable (header : PlainHeader) {line : Text} (recognized : trim line = header.line) (spot : Spot)

include recognized

theorem headerTable_line : headerTable line = some header.table := by
  rw [← header.names]
  exact headerTable_eq_of_trim (recognized.trans header.trimmed.symm)

theorem tableOf_line : spot.tableOf line = if spot.isTop then header.table else spot.table :=
  tableOf_header (header.headerTable_line recognized) spot

theorem next_line : spot.next line = { spot with table := spot.tableOf line } := by
  obtain ⟨blank, isBlank, whole⟩ := exists_trimEnd_append (line.dropWhile isWhitespace)
  have split : line = line.takeWhile isWhitespace ++ (header.line ++ blank) := by
    rw [← recognized, trim, ← whole, List.takeWhile_append_dropWhile]
  have leading : Blank (line.takeWhile isWhitespace) := fun c => List.mem_takeWhile_imp
  have scanned : openString (scan spot.startMode spot.depth line).1 = spot.string ∧
      (scan spot.startMode spot.depth line).2 = spot.depth := by
    have trailing := scan_blank isBlank spot.startMode spot.depth
    rw [spot.openString_startMode] at trailing
    rw [split, scan_append, scan_startMode_blank leading, scan_append, header.scanned]
    exact trailing
  rw [Spot.next, scanned.1, scanned.2]

end PlainHeader

/-! ## The places of the added lines -/

/-- A place where the blocks of a section are inserted. -/
structure Insertion where
  /-- With a header of its own in front of the blocks. -/
  opened : Bool
  spot : Spot
deriving DecidableEq, Repr

/-- The places for a section if something is missing in it: behind each of its
own headers, or in front of another one or at the end if there has been no place
yet. -/
def insertions (own : Text) (before : Option Text) : Bool → Spot → List Text → List Insertion
  | inserted, spot, [] => if inserted then [] else [⟨true, spot⟩]
  | inserted, spot, line :: rest =>
      if trim line = own then
        ⟨false, spot.next line⟩ :: insertions own before true (spot.next line) rest
      else if some (trim line) = before then
        (if inserted then [] else [⟨true, spot⟩]) ++
          insertions own before true (spot.next line) rest
      else
        insertions own before inserted (spot.next line) rest

def clientInsertions : Bool → Spot → List Text → List Insertion :=
  insertions clientHeader (some serverHeader)

def serverInsertions : Bool → Spot → List Text → List Insertion :=
  insertions serverHeader none

section Added

variable (header : PlainHeader) (missing : List KeyBlock)

/-- The lines that are inserted, without empty ones. -/
def Insertion.entries (insertion : Insertion) : List Entry :=
  if insertion.opened then
    insertion.spot.entry header.line ::
      (blockLines missing).map (insertion.spot.next header.line).entry
  else
    (blockLines missing).map insertion.spot.entry

def addedEntries (places : List Insertion) : List Entry :=
  if missing.isEmpty then [] else places.flatMap (Insertion.entries header missing)

theorem addedEntries_append (front back : List Insertion) :
    addedEntries header missing (front ++ back) =
      addedEntries header missing front ++ addedEntries header missing back := by
  rw [addedEntries, addedEntries, addedEntries]
  split
  · rfl
  · exact List.flatMap_append

theorem addedEntries_cons (first : Insertion) (rest : List Insertion) :
    addedEntries header missing (first :: rest) =
      addedEntries header missing [first] ++ addedEntries header missing rest :=
  addedEntries_append header missing [first] rest

/-- What follows does not depend on a section that had nothing to insert. -/
theorem addedEntries_insertions (own : Text) (before : Option Text) (inserted : Bool) (spot : Spot)
    (lines : List Text) :
    addedEntries header missing (insertions own before (inserted || !missing.isEmpty) spot lines) =
      addedEntries header missing (insertions own before true spot lines) := by
  cases missing with
  | nil => rfl
  | cons entry rest => rw [List.isEmpty_cons, Bool.not_false, Bool.or_true]

end Added

theorem isQuietComment_of_mem_blockLines {missing : List KeyBlock} {line : Text}
    (member : line ∈ blockLines missing) : isQuietComment line = true := by
  obtain ⟨entry, -, inside⟩ := List.mem_flatMap.mp member
  have documented := entry.documented
  rw [documents, Bool.and_eq_true, List.all_eq_true] at documented
  exact documented.1 line inside

/-- Comment lines leave everything where it is. -/
theorem after_of_quietComments {lines : List Text}
    (quiet : ∀ line ∈ lines, isQuietComment line = true) (spot : Spot) :
    spot.after lines = spot ∧ annotate spot lines = lines.map spot.entry := by
  induction lines with
  | nil => exact ⟨rfl, rfl⟩
  | cons line rest inductionHypothesis =>
      have parts := List.forall_mem_cons.mp quiet
      have later := inductionHypothesis parts.2
      have stays := next_of_quietComment parts.1 spot
      refine ⟨?_, ?_⟩
      · rw [Spot.after, List.foldl_cons, stays]
        exact later.1
      · rw [annotate, stays, later.2, List.map_cons]

theorem after_blockLines (missing : List KeyBlock) (spot : Spot) :
    spot.after (blockLines missing) = spot ∧
      annotate spot (blockLines missing) = (blockLines missing).map spot.entry :=
  after_of_quietComments (fun _ => isQuietComment_of_mem_blockLines) spot

/-- An entry that the tests on the lines of a file do not look at. -/
def IsEmptyLine (entry : Entry) : Prop :=
  entry.line = []

section Opened

variable (header : PlainHeader) (missing : List KeyBlock) (started inserted : Bool) (spot : Spot)

theorem after_sectionLines :
    spot.after (sectionLines started header.line missing) = spot.next header.line := by
  have front : spot.after (if started then [[]] else []) = spot := by
    cases started with
    | true => exact (next_nil spot).1
    | false => rfl
  rw [sectionLines, Spot.after, List.foldl_append, List.foldl_cons]
  exact (congrArg (fun spot => (spot.next header.line).after (blockLines missing)) front).trans
    (after_blockLines missing _).1

/-- A section that is opened adds its header and its blocks. -/
theorem extends_openedLines :
    Extends IsEmptyLine []
      (addedEntries header missing (if inserted then [] else [⟨true, spot⟩]))
      (annotate spot (openedLines started inserted header.line missing)) := by
  rw [openedLines, addedEntries]
  cases missing with
  | nil => exact Extends.refl []
  | cons entry rest =>
      cases inserted with
      | true => exact Extends.refl []
      | false =>
          have front :
              Extends IsEmptyLine [] [] (annotate spot (if started then [[]] else [])) := by
            apply Extends.of_ignored (List.forall_mem_nil _)
            cases started with
            | true =>
                intro item member
                rw [List.mem_singleton.mp member]
                rfl
            | false => exact List.forall_mem_nil _
          have stays : spot.after (if started then [[]] else []) = spot := by
            cases started with
            | true => exact (next_nil spot).1
            | false => rfl
          have written : annotate spot (sectionLines started header.line (entry :: rest)) =
              annotate spot (if started then [[]] else []) ++
                Insertion.entries header (entry :: rest) ⟨true, spot⟩ := by
            rw [sectionLines, annotate_append, stays, annotate, (after_blockLines _ _).2]
            rfl
          simp only [List.isEmpty_cons, Bool.not_false, Bool.and_true, if_true,
            Bool.false_eq_true, if_false, List.flatMap_singleton]
          rw [written]
          exact front.append (Extends.insert _)

end Opened

/-- A header means the same behind another one. -/
theorem header_behind {line : Text} {table : Table} (isHeader : headerTable line = some table)
    (spot : Spot) (other : Text) :
    Spot.entry { spot with table := spot.tableOf other } line = spot.entry line ∧
      Spot.next { spot with table := spot.tableOf other } line = spot.next line := by
  have sameTable : Spot.tableOf { spot with table := spot.tableOf other } line =
      spot.tableOf line := by
    rw [tableOf_header isHeader, tableOf_header isHeader spot]
    by_cases top : spot.isTop = true
    · rw [if_pos top]
      exact if_pos top
    · rw [if_neg top]
      exact (if_neg top).trans (if_neg top)
  constructor
  · rw [Spot.entry, sameTable]
    rfl
  · rw [Spot.next, sameTable]
    rfl

/-- A header is the same behind a section that has been opened. -/
theorem after_openedLines (header : PlainHeader) (missing : List KeyBlock)
    (started inserted : Bool) (spot : Spot) {line : Text} {table : Table}
    (isHeader : headerTable line = some table) :
    (spot.after (openedLines started inserted header.line missing)).entry line =
        spot.entry line ∧
      (spot.after (openedLines started inserted header.line missing)).next line =
        spot.next line := by
  rw [openedLines]
  split
  · rw [after_sectionLines, header.next_line header.trimmed]
    exact header_behind isHeader spot header.line
  · exact ⟨rfl, rfl⟩

theorem insertion_entries_congr (header : PlainHeader) (missing : List KeyBlock) {left right : Spot}
    (sameEntry : left.entry header.line = right.entry header.line)
    (sameNext : left.next header.line = right.next header.line) :
    Insertion.entries header missing ⟨true, left⟩ =
      Insertion.entries header missing ⟨true, right⟩ := by
  rw [Insertion.entries, Insertion.entries, if_pos rfl, if_pos rfl, sameEntry, sameNext]

/-- The blocks behind a header of the file. -/
theorem added_behind (header : PlainHeader) (missing : List KeyBlock) (spot : Spot) :
    Extends IsEmptyLine [] (addedEntries header missing [⟨false, spot⟩])
      (annotate spot (blockLines missing)) := by
  have same : addedEntries header missing [⟨false, spot⟩] = annotate spot (blockLines missing) := by
    rw [(after_blockLines missing spot).2, addedEntries]
    cases missing with
    | nil => rfl
    | cons entry rest => exact List.flatMap_singleton _ _
  rw [same]
  exact Extends.insert _

section Rebuilt

variable (missingClient missingServer : List KeyBlock) (started client server : Bool) (spot : Spot)

/-- The sections that are appended: the first one is no header of the second. -/
theorem extends_closingLines :
    Extends IsEmptyLine []
      (addedEntries clientPlain missingClient (if client then [] else [⟨true, spot⟩]) ++
        addedEntries serverPlain missingServer (if server then [] else [⟨true, spot⟩]))
      (annotate spot (closingLines missingClient missingServer started client server)) := by
  have first := extends_openedLines clientPlain missingClient started client spot
  have second := extends_openedLines serverPlain missingServer
    (started || !missingClient.isEmpty && !client) server
    (spot.after (openedLines started client clientPlain.line missingClient))
  have moved := after_openedLines clientPlain missingClient started client spot
    (serverPlain.headerTable_line serverPlain.trimmed)
  have same : addedEntries serverPlain missingServer (if server then []
        else [⟨true, spot.after (openedLines started client clientPlain.line missingClient)⟩]) =
      addedEntries serverPlain missingServer (if server then [] else [⟨true, spot⟩]) := by
    cases server with
    | true => rfl
    | false =>
        have entries := insertion_entries_congr serverPlain missingServer moved.1 moved.2
        simp only [addedEntries, Bool.false_eq_true, if_false, List.flatMap_singleton, entries]
  rw [same] at second
  rw [closingLines, annotate_append]
  exact first.append second

/-- Blocks behind a header of the file leave what follows where it is. -/
theorem annotate_behind (line : Text) (missing : List KeyBlock) (rest : List Text) :
    annotate spot (line :: blockLines missing ++ rest) =
      [spot.entry line] ++
        (annotate (spot.next line) (blockLines missing) ++ annotate (spot.next line) rest) := by
  rw [List.cons_append, annotate, annotate_append, (after_blockLines _ _).1]
  rfl

/-- A section that is opened in front of a header leaves the header where it is. -/
theorem annotate_opened {line : Text} {table : Table} (isHeader : headerTable line = some table)
    (header : PlainHeader) (missing : List KeyBlock) (inserted : Bool) (rest : List Text) :
    annotate spot (openedLines started inserted header.line missing ++ line :: rest) =
      annotate spot (openedLines started inserted header.line missing) ++
        annotate spot (line :: rest) := by
  have moved := after_openedLines header missing started inserted spot isHeader
  rw [annotate_append, annotate, moved.1, moved.2, annotate]

/-- **The lines of the file keep their places, and the added ones are where
the insertions are.** -/
theorem extends_rebuilt (lines : List Text) :
    Extends IsEmptyLine (annotate spot lines)
      (addedEntries clientPlain missingClient (clientInsertions client spot lines) ++
        addedEntries serverPlain missingServer (serverInsertions server spot lines))
      (annotate spot (rebuilt missingClient missingServer started client server lines)) := by
  induction lines generalizing started client server spot with
  | nil => exact extends_closingLines missingClient missingServer started client server spot
  | cons line rest inductionHypothesis =>
      have kept : Extends IsEmptyLine [spot.entry line] [] [spot.entry line] := Extends.refl _
      have clientFlag := addedEntries_insertions clientPlain missingClient clientHeader
        (some serverHeader) client (spot.next line) rest
      have serverFlag := addedEntries_insertions serverPlain missingServer serverHeader
        none server (spot.next line) rest
      have notBefore : ¬ some (trim line) = none := Option.some_ne_none _
      rw [rebuilt, annotate, clientInsertions, insertions, serverInsertions, insertions]
      by_cases isClient : trim line = clientHeader
      · have isServer : ¬ trim line = serverHeader := by
          rw [isClient]
          decide
        have blocks := added_behind clientPlain missingClient (spot.next line)
        have later := inductionHypothesis true (client || !missingClient.isEmpty) server
          (spot.next line)
        rw [clientInsertions, clientFlag] at later
        rw [if_pos isClient, if_pos isClient, if_neg isServer, if_neg notBefore, annotate_behind,
          ← List.singleton_append, addedEntries_cons, List.append_assoc]
        exact kept.append (blocks.append later)
      · rw [if_neg isClient, if_neg isClient]
        by_cases isServer : trim line = serverHeader
        · have opened := extends_openedLines clientPlain missingClient started client spot
          have blocks := added_behind serverPlain missingServer (spot.next line)
          have later := inductionHypothesis true (client || !missingClient.isEmpty)
            (server || !missingServer.isEmpty) (spot.next line)
          have opens := annotate_opened started spot (serverPlain.headerTable_line isServer)
            clientPlain missingClient client
          have written : ∀ rest, annotate spot (openedLines started client clientHeader
                missingClient ++ line :: blockLines missingServer ++ rest) =
              annotate spot (openedLines started client clientPlain.line missingClient) ++
                ([spot.entry line] ++ (annotate (spot.next line) (blockLines missingServer) ++
                  annotate (spot.next line) rest)) := by
            intro rest
            rw [← annotate_behind, List.append_assoc]
            exact opens _
          rw [clientInsertions, serverInsertions, clientFlag, serverFlag] at later
          rw [if_pos isServer, if_pos isServer, if_pos (congrArg some isServer), written,
            ← List.singleton_append, addedEntries_append]
          apply (opened.append (kept.append (blocks.append later))).of_perm
          rw [addedEntries_cons serverPlain missingServer ⟨false, spot.next line⟩
            (insertions serverHeader none true (spot.next line) rest), List.nil_append,
            List.append_assoc]
          exact (List.perm_append_comm_assoc _ _ _).append_left _
        · have notServer : some (trim line) ≠ some serverHeader :=
            fun same => isServer (Option.some.inj same)
          rw [if_neg isServer, if_neg isServer, if_neg notServer, if_neg notBefore, annotate]
          exact kept.append (inductionHypothesis true client server (spot.next line))

end Rebuilt

end Etr.Config
