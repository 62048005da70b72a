import Etr.Config.Placement

/-!
Contract: the tables of a merged configuration file.

Owns that a merge keeps the lines of a file in their tables, and for which files
it opens no table twice and writes into no string.

Does not own the keys in the tables.
-/

namespace Etr.Config

open Etr.Bootstrap Etr.Library

/-! ## The merged file -/

section Merged

variable (existing : Text)

def addedClient : List Entry :=
  addedEntries clientPlain (missingClientOf existing)
    (clientInsertions false .start (linesFrom [] existing))

def addedServer : List Entry :=
  addedEntries serverPlain (missingServerOf existing)
    (serverInsertions false .start (linesFrom [] existing))

theorem entries_merged (missing : (mergeDefaults existing).2 ≠ []) :
    entries (mergeDefaults existing).1 = annotate .start (mergedLines existing) := by
  have same : trimEnd ∘ stripCarriageReturn = trimEnd := funext trimEnd_stripCarriageReturn
  rw [entries, linesFrom_merged existing missing, ← annotate_map_trimEnd, List.map_map, same,
    annotate_map_trimEnd]

theorem isEmptyLine_of_mem_annotate {spot : Spot} {count : Nat} {entry : Entry}
    (member : entry ∈ annotate spot (List.replicate count [])) : IsEmptyLine entry := by
  have inside := List.mem_map_of_mem (f := Entry.line) member
  rw [annotate_line, List.map_replicate] at inside
  exact List.eq_of_mem_replicate inside

/-- **The lines of the file keep their order and their places.** -/
theorem extends_merged :
    Extends IsEmptyLine (entries existing) (addedClient existing ++ addedServer existing)
      (entries (mergeDefaults existing).1) := by
  by_cases nothing : (mergeDefaults existing).2 = []
  · obtain ⟨count, lines⟩ := linesFrom_cleaned existing
    have whole : entries existing = entries (cleaned existing) ++
        annotate (Spot.start.after ((linesFrom [] (cleaned existing)).map trimEnd))
          (List.replicate count []) := by
      rw [entries, ← annotate_map_trimEnd, lines, annotate_append, annotate_map_trimEnd, entries]
    have kept : Extends IsEmptyLine (entries existing) [] (entries (cleaned existing)) := by
      rw [whole]
      exact Extends.append_ignored _ fun _ => isEmptyLine_of_mem_annotate
    rw [mergeDefaults_of_nothing existing nothing]
    rw [mergeDefaults_additions, List.map_eq_nil_iff, List.append_eq_nil_iff] at nothing
    rw [addedClient, addedServer, nothing.1, nothing.2]
    exact kept
  · rw [entries_merged existing nothing]
    exact extends_rebuilt _ _ false false false .start _

end Merged

/-! ## Harmless insertions -/

namespace Entry

/-- The line is taken for this header. -/
def reads (header : Text) (entry : Entry) : Bool :=
  trim entry.line == header

/-- The line gives blocks a place, behind it or in front of it. -/
def makesPlace (own : Text) (before : Option Text) (entry : Entry) : Bool :=
  entry.reads own || some (trim entry.line) == before

end Entry

/-- Comments do no harm outside of strings. A header does none at the top level,
if there has been none of its table. -/
def Insertion.isHarmless (absent : Bool) (insertion : Insertion) : Bool :=
  if insertion.opened then insertion.spot.isTop && absent else insertion.spot.string.isNone

/-- The first place needs no header of its own, or a header does no harm there. -/
def startsHarmless (absent : Bool) (own : Text) (endsTop : Bool) : Option Entry → Bool
  | some entry => entry.reads own || (entry.top && absent)
  | none => endsTop && absent

def neverQuoted (header : Text) (file : List Entry) : Bool :=
  file.all fun entry => !(entry.reads header && entry.quoted)

theorem Spot.reads_entry (spot : Spot) (header line : Text) :
    (spot.entry line).reads header = (trim line == header) := by
  rw [entry, Entry.reads, trim_trimEnd]

theorem Spot.makesPlace_entry (spot : Spot) (own : Text) (before : Option Text) (line : Text) :
    (spot.entry line).makesPlace own before = (trim line == own || some (trim line) == before) := by
  rw [Entry.makesPlace, reads_entry]
  rw [entry, trim_trimEnd]

/-- **What holds at the places, read off the lines of the file.** Behind a header
the test sees what it sees at the header, and in front of a line what it sees at
the line. -/
theorem all_insertions (header : PlainHeader) (before : Option Text) (good : Insertion → Bool)
    (behind opened : Entry → Bool)
    (goodBehind : ∀ (spot : Spot) line, trim line = header.line →
      good ⟨false, spot.next line⟩ = behind (spot.entry line))
    (goodOpened : ∀ (spot : Spot) line, good ⟨true, spot⟩ = opened (spot.entry line))
    (inserted : Bool) (spot : Spot) (lines : List Text) :
    (insertions header.line before inserted spot lines).all good =
      ((annotate spot lines).all (fun entry => !entry.reads header.line || behind entry) &&
        (inserted || ((annotate spot lines).find? (Entry.makesPlace header.line before)).elim
          (good ⟨true, spot.after lines⟩)
          fun entry => entry.reads header.line || opened entry)) := by
  induction lines generalizing inserted spot with
  | nil =>
      cases inserted with
      | true => rfl
      | false => exact Bool.and_true _
  | cons line rest inductionHypothesis =>
      have after : spot.after (line :: rest) = (spot.next line).after rest := rfl
      rw [insertions, annotate, List.all_cons, List.find?_cons, spot.reads_entry,
        spot.makesPlace_entry, after]
      by_cases own : trim line = header.line
      · have isOwn : (trim line == header.line) = true := beq_iff_eq.mpr own
        simp only [isOwn, Bool.not_true, Bool.false_or, Bool.true_or, Bool.and_true,
          Bool.or_true, if_pos own, List.all_cons, inductionHypothesis, goodBehind spot line own,
          Option.elim_some, spot.reads_entry]
      · have notOwn : (trim line == header.line) = false := beq_eq_false_iff_ne.mpr own
        by_cases other : some (trim line) = before
        · have isOther : (some (trim line) == before) = true := beq_iff_eq.mpr other
          cases inserted with
          | true =>
              simp only [notOwn, Bool.not_false, Bool.true_or, Bool.true_and, Bool.and_true,
                if_neg own, if_pos other, if_true, List.nil_append, inductionHypothesis]
          | false =>
              simp only [notOwn, isOther, Bool.not_false, Bool.true_or, Bool.false_or,
                Bool.true_and, Bool.and_true, if_neg own, if_pos other, Bool.false_eq_true,
                if_false, List.singleton_append, List.all_cons, inductionHypothesis,
                goodOpened spot line, Option.elim_some, spot.reads_entry]
              exact Bool.and_comm _ _
        · have notOther : (some (trim line) == before) = false := beq_eq_false_iff_ne.mpr other
          simp only [notOwn, notOther, Bool.not_false, Bool.true_or, Bool.true_and,
            Bool.or_false, if_neg own, if_neg other, inductionHypothesis]

/-- Which places do no harm. -/
theorem all_isHarmless_insertions (header : PlainHeader) (before : Option Text) (absent : Bool)
    (spot : Spot) (lines : List Text) :
    (insertions header.line before false spot lines).all (Insertion.isHarmless absent) =
      (neverQuoted header.line (annotate spot lines) &&
        startsHarmless absent header.line (spot.after lines).isTop
          ((annotate spot lines).find? (Entry.makesPlace header.line before))) := by
  rw [all_insertions header before (Insertion.isHarmless absent) (fun entry => !entry.quoted)
    (fun entry => entry.top && absent) ?_ (fun _ _ => rfl), neverQuoted, Bool.false_or]
  · simp only [Bool.not_and]
    cases (annotate spot lines).find? (Entry.makesPlace header.line before) with
    | none => rfl
    | some entry => rfl
  · intro spot line own
    rw [header.next_line own]
    exact (Option.not_isSome _).symm

/-! ## Lines that count -/

def headerCount (table : Table) (text : Text) : Nat :=
  (entries text).countP (Entry.isHeaderOf table)

/-- Nothing in the file defines the table. -/
def isAbsent (table : Table) (text : Text) : Bool :=
  (entries text).all fun entry => !entry.defines table

theorem headerCount_of_isAbsent {table : Table} {text : Text}
    (absent : isAbsent table text = true) : headerCount table text = 0 := by
  rw [isAbsent, List.all_eq_true] at absent
  rw [headerCount, List.countP_eq_zero]
  intro entry member isHeader
  have undefined := absent entry member
  rw [Entry.defines, isHeader] at undefined
  cases undefined

/-- The lines that are neither blank nor comments. -/
def significant (text : Text) : List Entry :=
  (entries text).filter Entry.isSignificant

/-- A header of a table that the file does not have. -/
def isNewHeader (existing : Text) (entry : Entry) : Bool :=
  [clientTable, serverTable].any fun table =>
    isAbsent table existing && entry.isHeaderOf table

/-- A line that a merge must not add. -/
def isForeign (existing : Text) (entry : Entry) : Bool :=
  entry.isSignificant && !isNewHeader existing entry

theorem Spot.isHeaderOf_entry (spot : Spot) (table : Table) (line : Text) :
    (spot.entry line).isHeaderOf table = (spot.isTop && headerTable line == some table) := by
  rw [Entry.isHeaderOf, entry, headerTable_trimEnd]

theorem Spot.isSignificant_entry (spot : Spot) (line : Text) :
    (spot.entry line).isSignificant =
      (!(trim line).isEmpty && (spot.string.isSome || (trim line).head? != some '#')) := by
  rw [Entry.isSignificant, entry, trim_trimEnd]

theorem isHeaderOf_emptyLine (table : Table) : Blind IsEmptyLine (Entry.isHeaderOf table) := by
  intro entry empty
  rw [Entry.isHeaderOf, empty]
  exact Bool.and_false _

theorem isForeign_emptyLine (existing : Text) : Blind IsEmptyLine (isForeign existing) := by
  intro entry empty
  rw [isForeign, Entry.isSignificant, empty]
  rfl

section Blocks

variable {line : Text} (quiet : isQuietComment line = true) (spot : Spot)

include quiet

theorem isHeaderOf_of_quietComment (table : Table) :
    (spot.entry line).isHeaderOf table = false := by
  rw [spot.isHeaderOf_entry, headerTable_of_quietComment quiet]
  exact Bool.and_false _

/-- A comment line is one unless it is in a string. -/
theorem isForeign_of_quietComment (existing : Text) :
    isForeign existing (spot.entry line) = spot.string.isSome := by
  obtain ⟨rest, trimmed⟩ := trim_of_quietComment quiet
  have noHeader : isNewHeader existing (spot.entry line) = false := by
    simp only [isNewHeader, isHeaderOf_of_quietComment quiet, Bool.and_false, List.any_cons,
      List.any_nil, Bool.or_false]
  rw [isForeign, noHeader, spot.isSignificant_entry, trimmed]
  simp

end Blocks

/-- A header is neither blank nor a comment. -/
theorem exists_trim_of_headerTable {line : Text} {table : Table}
    (isHeader : headerTable line = some table) :
    ∃ c inner, trim line = c :: inner ∧ c ≠ '#' := by
  cases trimmed : trim line with
  | nil =>
      have blank : visible line = [] := by
        rw [visible, trimmed]
      rw [headerTable, blank] at isHeader
      cases isHeader
  | cons c inner =>
      refine ⟨c, inner, rfl, ?_⟩
      rintro rfl
      rw [headerTable, visible_of_trim trimmed (by decide), trimmed] at isHeader
      cases isHeader

/-- The two sections that `merge_defaults` knows. -/
def plainHeaders : List PlainHeader :=
  [clientPlain, serverPlain]

/-- A header that is added may be there if it is a header at all, and the first
one of its table. -/
theorem isForeign_header {header : PlainHeader} (known : header ∈ plainHeaders) (existing : Text)
    (spot : Spot) :
    isForeign existing (spot.entry header.line) =
      !(spot.isTop && isAbsent header.table existing) := by
  have significant : (spot.entry header.line).isSignificant = true := by
    obtain ⟨c, inner, trimmed, noComment⟩ := exists_trim_of_headerTable header.names
    rw [spot.isSignificant_entry, trimmed]
    simp [noComment]
  have isNew : isNewHeader existing (spot.entry header.line) =
      (spot.isTop && isAbsent header.table existing) := by
    simp only [isNewHeader, spot.isHeaderOf_entry, header.names, List.any_cons, List.any_nil,
      Bool.or_false]
    rw [plainHeaders, List.mem_cons, List.mem_singleton] at known
    have apart : (some clientTable == some serverTable) = false := by decide
    have apart' : (some serverTable == some clientTable) = false := by decide
    rcases known with rfl | rfl
    · simp [clientPlain, apart, Bool.and_comm]
    · simp [serverPlain, apart', Bool.and_comm]
  rw [isForeign, significant, isNew, Bool.true_and]

section Inserted

variable {header : PlainHeader} {missing : List KeyBlock}

theorem all_blockLines (filled : missing ≠ []) {test : Text → Bool} {answer : Bool}
    (constant : ∀ line ∈ blockLines missing, test line = answer) :
    (blockLines missing).all test = answer := by
  cases answer with
  | true => exact List.all_eq_true.mpr constant
  | false =>
      have nonempty : blockLines missing ≠ [] := by
        cases missing with
        | nil => exact absurd rfl filled
        | cons entry rest =>
            rw [blockLines, List.flatMap_cons]
            exact List.append_ne_nil_of_left_ne_nil (List.splitOn_ne_nil _ _) _
      obtain ⟨line, member⟩ := List.exists_mem_of_ne_nil _ nonempty
      rw [List.all_eq_false]
      exact ⟨line, member, by rw [constant line member]; exact Bool.false_ne_true⟩

/-- Blocks are foreign in strings, all of them or none. -/
theorem all_blocks (filled : missing ≠ []) (existing : Text) (spot : Spot) :
    ((blockLines missing).map spot.entry).all (fun entry => !isForeign existing entry) =
      spot.string.isNone := by
  rw [List.all_map]
  apply all_blockLines filled
  intro line member
  rw [Function.comp_apply,
    isForeign_of_quietComment (isQuietComment_of_mem_blockLines member) spot existing,
    Option.not_isSome]

theorem all_insertion_entries (known : header ∈ plainHeaders) (filled : missing ≠ [])
    (existing : Text) (insertion : Insertion) :
    (insertion.entries header missing).all (fun entry => !isForeign existing entry) =
      insertion.isHarmless (isAbsent header.table existing) := by
  rw [Insertion.entries, Insertion.isHarmless]
  split
  · have sameString : (insertion.spot.next header.line).string = insertion.spot.string := by
      rw [header.next_line header.trimmed]
    rw [List.all_cons, all_blocks filled, isForeign_header known, Bool.not_not, sameString,
      Spot.isTop]
    cases insertion.spot.string with
    | none => exact Bool.and_true _
    | some quote => exact Bool.and_false _
  · exact all_blocks filled existing insertion.spot

/-- Nothing foreign is added exactly if every place is harmless. -/
theorem all_addedEntries (known : header ∈ plainHeaders) (existing : Text)
    (places : List Insertion) :
    (addedEntries header missing places).all (fun entry => !isForeign existing entry) =
      (missing.isEmpty ||
        places.all (Insertion.isHarmless (isAbsent header.table existing))) := by
  rw [addedEntries]
  split
  · rename_i empty
    rw [empty]
    rfl
  · rename_i filled
    rw [Bool.not_eq_true] at filled
    have nonempty : missing ≠ [] := by
      rintro rfl
      cases filled
    rw [filled, Bool.false_or, List.all_flatMap]
    exact congrArg (List.all places)
      (funext fun insertion => all_insertion_entries known nonempty existing insertion)

theorem countP_insertion_entries (table : Table) (insertion : Insertion) :
    (insertion.entries header missing).countP (Entry.isHeaderOf table) =
      if insertion.opened && insertion.spot.isTop && header.table == table then 1 else 0 := by
  have blocks : ∀ spot : Spot,
      ((blockLines missing).map spot.entry).countP (Entry.isHeaderOf table) = 0 := by
    intro spot
    rw [List.countP_map, List.countP_eq_zero]
    intro line member
    rw [Function.comp_apply,
      isHeaderOf_of_quietComment (isQuietComment_of_mem_blockLines member) spot table]
    exact Bool.false_ne_true
  rw [Insertion.entries]
  split
  · rename_i opened
    rw [List.countP_cons, blocks, Nat.zero_add, Spot.isHeaderOf_entry, header.names, opened,
      Bool.true_and]
    rfl
  · rename_i closed
    rw [Bool.not_eq_true] at closed
    rw [blocks, closed, Bool.false_and]
    rfl

/-- The headers that are added, counted. -/
theorem countP_addedEntries (table : Table) (places : List Insertion) :
    (addedEntries header missing places).countP (Entry.isHeaderOf table) =
      if !missing.isEmpty && header.table == table then
        places.countP fun insertion => insertion.opened && insertion.spot.isTop
      else 0 := by
  rw [addedEntries]
  cases empty : missing.isEmpty with
  | true => rfl
  | false =>
      simp only [Bool.false_eq_true, if_false, Bool.not_false, Bool.true_and]
      induction places with
      | nil => exact (ite_self 0).symm
      | cons first rest inductionHypothesis =>
          rw [List.flatMap_cons, List.countP_append, countP_insertion_entries,
            inductionHypothesis, List.countP_cons]
          cases header.table == table with
          | true =>
              rw [Bool.and_true]
              exact Nat.add_comm _ _
          | false =>
              rw [Bool.and_false]
              rfl

end Inserted

/-- A section is opened once at most. -/
theorem countP_opened_le (own : Text) (before : Option Text) (inserted : Bool) (spot : Spot)
    (lines : List Text) :
    (insertions own before inserted spot lines).countP Insertion.opened ≤
      if inserted then 0 else 1 := by
  induction lines generalizing inserted spot with
  | nil =>
      cases inserted with
      | true => exact Nat.le_refl 0
      | false => exact Nat.le_refl 1
  | cons line rest inductionHypothesis =>
      have later := inductionHypothesis true (spot.next line)
      rw [insertions]
      split
      · rw [List.countP_cons_of_neg Bool.false_ne_true]
        exact later.trans (Nat.zero_le _)
      · split
        · rw [List.countP_append]
          cases inserted with
          | true => exact (Nat.zero_add _).trans_le later
          | false => exact Nat.add_le_add_left later 1
        · exact inductionHypothesis inserted (spot.next line)

/-! ## Merging defaults and tables -/

section Tables

variable (existing : Text)

/-- There is nothing to insert for these blocks. -/
def hasEveryKey (blocks : List KeyBlock) : Bool :=
  blocks.all fun block => containsKeyLine existing block.key

theorem isEmpty_missingBlocks (blocks : List KeyBlock) :
    (missingBlocks existing blocks).isEmpty = hasEveryKey existing blocks := by
  rw [missingBlocks, hasEveryKey, Bool.eq_iff_iff, List.isEmpty_iff, List.filter_eq_nil_iff,
    List.all_eq_true]
  simp only [Bool.not_eq_true', Bool.not_eq_false]

/-- Adding to the section does no harm to the file. -/
def isHarmlessSection (header : PlainHeader) (before : Option Text) (blocks : List KeyBlock) :
    Bool :=
  hasEveryKey existing blocks ||
    (neverQuoted header.line (entries existing) &&
      startsHarmless (isAbsent header.table existing) header.line
        (Spot.start.after (linesFrom [] existing)).isTop
        ((entries existing).find? (Entry.makesPlace header.line before)))

def isHarmlessClient : Bool :=
  isHarmlessSection existing clientPlain (some serverHeader) clientKeyBlocks

def isHarmlessServer : Bool :=
  isHarmlessSection existing serverPlain none serverKeyBlocks

variable {existing} in
theorem isForeign_of_mem {entry : Entry} (member : entry ∈ entries existing) :
    isForeign existing entry = entry.isSignificant := by
  have notNew : isNewHeader existing entry = false := by
    rw [isNewHeader, List.any_eq_false]
    intro table _ isNew
    rw [Bool.and_eq_true] at isNew
    have none := headerCount_of_isAbsent isNew.1
    rw [headerCount, List.countP_eq_zero] at none
    exact none entry member isNew.2
  rw [isForeign, notNew, Bool.not_false, Bool.and_true]

variable {existing} in
theorem forall_addedEntries_iff {header : PlainHeader} (known : header ∈ plainHeaders)
    (before : Option Text) (blocks : List KeyBlock) :
    (∀ entry ∈ addedEntries header (missingBlocks existing blocks)
        (insertions header.line before false .start (linesFrom [] existing)),
      isForeign existing entry = false) ↔
        isHarmlessSection existing header before blocks = true := by
  have places := all_isHarmless_insertions header before (isAbsent header.table existing)
    .start (linesFrom [] existing)
  rw [isHarmlessSection, ← isEmpty_missingBlocks, entries, ← places, ← all_addedEntries known,
    List.all_eq_true]
  simp only [Bool.not_eq_true']

/-- The file stays as it is but for headers of tables that it did not have. -/
theorem significant_merged_iff :
    (significant (mergeDefaults existing).1).filter (fun entry => !isNewHeader existing entry) =
        significant existing ↔
      isHarmlessClient existing = true ∧ isHarmlessServer existing = true := by
  have own : significant existing = (entries existing).filter (isForeign existing) :=
    List.filter_congr fun _ member => (isForeign_of_mem member).symm
  have whole : (significant (mergeDefaults existing).1).filter
      (fun entry => !isNewHeader existing entry) =
        (entries (mergeDefaults existing).1).filter (isForeign existing) := by
    rw [significant, List.filter_filter]
    exact List.filter_congr fun _ _ => Bool.and_comm _ _
  have client : clientPlain ∈ plainHeaders := List.mem_cons_self
  have server : serverPlain ∈ plainHeaders := List.mem_cons_of_mem _ List.mem_cons_self
  rw [own, whole, (extends_merged existing).filter_eq_iff (isForeign_emptyLine existing),
    List.forall_mem_append]
  exact and_congr (forall_addedEntries_iff client _ _) (forall_addedEntries_iff server _ _)

/-- The headers of a section in the result. -/
theorem headerCount_merged (table : Table) :
    headerCount table (mergeDefaults existing).1 = headerCount table existing +
      ((addedClient existing).countP (Entry.isHeaderOf table) +
        (addedServer existing).countP (Entry.isHeaderOf table)) := by
  have counted := (extends_merged existing).counted _ (isHeaderOf_emptyLine table)
  rw [List.countP_append] at counted
  exact counted

variable {existing} in
/-- A harmless section leaves at most one header where there was at most one. -/
theorem headerCount_add_le {header : PlainHeader} {before : Option Text} {blocks : List KeyBlock}
    (harmless : isHarmlessSection existing header before blocks = true)
    (once : headerCount header.table existing ≤ 1) :
    headerCount header.table existing + (addedEntries header (missingBlocks existing blocks)
        (insertions header.line before false .start (linesFrom [] existing))).countP
          (Entry.isHeaderOf header.table) ≤ 1 := by
  rw [countP_addedEntries]
  split
  · rename_i added
    rw [Bool.and_eq_true, Bool.not_eq_true'] at added
    have places := all_isHarmless_insertions header before
      (isAbsent header.table existing) .start (linesFrom [] existing)
    rw [isHarmlessSection, ← isEmpty_missingBlocks, added.1, Bool.false_or, entries] at harmless
    rw [harmless, List.all_eq_true] at places
    have opened := countP_opened_le header.line before false .start (linesFrom [] existing)
    by_cases none : (insertions header.line before false .start (linesFrom [] existing)).countP
        (fun insertion => insertion.opened && insertion.spot.isTop) = 0
    · rw [none]
      exact once
    · obtain ⟨insertion, member, isTop⟩ := List.countP_pos_iff.mp (Nat.pos_of_ne_zero none)
      rw [Bool.and_eq_true] at isTop
      have absent := places insertion member
      rw [Insertion.isHarmless, if_pos isTop.1, isTop.2, Bool.true_and] at absent
      rw [headerCount_of_isAbsent absent, Nat.zero_add]
      refine (List.countP_mono_left ?_).trans opened
      intro other _ both
      exact (Bool.and_eq_true_iff.mp both).1
  · exact once

end Tables

/-- The other section adds no headers of this one. -/
theorem countP_other_section (existing : Text) :
    (addedServer existing).countP (Entry.isHeaderOf clientTable) = 0 ∧
      (addedClient existing).countP (Entry.isHeaderOf serverTable) = 0 := by
  have apart : (serverPlain.table == clientTable) = false ∧
      (clientPlain.table == serverTable) = false := by decide
  rw [addedServer, countP_addedEntries, apart.1, addedClient, countP_addedEntries, apart.2,
    Bool.and_false, Bool.and_false]
  exact ⟨rfl, rfl⟩

/-- **Merging keeps the lines of a file in their order and under their tables,
with a header for an absent table at most, exactly if it is harmless in both
sections.** -/
theorem merge_keeps_tables_iff (existing : Text)
    (once : headerCount clientTable existing ≤ 1 ∧ headerCount serverTable existing ≤ 1) :
    (headerCount clientTable (mergeDefaults existing).1 ≤ 1 ∧
        headerCount serverTable (mergeDefaults existing).1 ≤ 1 ∧
        (significant (mergeDefaults existing).1).filter
            (fun entry => !isNewHeader existing entry) = significant existing) ↔
      isHarmlessClient existing = true ∧ isHarmlessServer existing = true := by
  constructor
  · rintro ⟨-, -, same⟩
    exact (significant_merged_iff existing).mp same
  · intro harmless
    have client := headerCount_add_le harmless.1 once.1
    have server := headerCount_add_le harmless.2 once.2
    have others := countP_other_section existing
    refine ⟨?_, ?_, (significant_merged_iff existing).mpr harmless⟩
    · rw [headerCount_merged, others.1, Nat.add_zero]
      exact client
    · rw [headerCount_merged, others.2, Nat.zero_add]
      exact server

def plainFile : Text := "[client]\nssh_port = 2222\n".toList

theorem plainFile_keepsTables :
    headerCount clientTable (mergeDefaults plainFile).1 ≤ 1 ∧
      headerCount serverTable (mergeDefaults plainFile).1 ≤ 1 ∧
      (significant (mergeDefaults plainFile).1).filter
          (fun entry => !isNewHeader plainFile entry) = significant plainFile :=
  (merge_keeps_tables_iff plainFile ⟨by decide +kernel, by decide +kernel⟩).mpr
    ⟨by decide +kernel, by decide +kernel⟩

/-- A header with a comment behind it, as TOML allows. -/
def commentedHeader : Text := "[client] # mine\n".toList

theorem commentedHeader_doubled :
    headerCount clientTable commentedHeader = 1 ∧ headerCount serverTable commentedHeader = 0 ∧
      headerCount clientTable (mergeDefaults commentedHeader).1 = 2 := by
  have added : (addedClient commentedHeader).countP (Entry.isHeaderOf clientTable) = 1 := by
    rw [addedClient, countP_addedEntries]
    decide +kernel
  have before : headerCount clientTable commentedHeader = 1 := by decide +kernel
  refine ⟨before, by decide +kernel, ?_⟩
  rw [headerCount_merged, (countP_other_section _).1, added, before]

end Etr.Config
