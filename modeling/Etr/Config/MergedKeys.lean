import Etr.Config.MergedTables

/-!
Contract: the keys of a merged configuration file.

Owns in which tables the keys of a file are, and for which files a merge
completes both sections and reports what was missing in them.

Does not own values, or keys that are spelled in another way than the scan of
`merge_defaults` knows.
-/

namespace Etr.Config

open Etr.Bootstrap Etr.Library

/-! ## Keys in tables -/

/-- The key, active or commented, in the table. -/
def Entry.mentions (table : Table) (key : Text) (entry : Entry) : Bool :=
  entry.top && entry.table == table && isKeyLine key entry.line

def hasKey (table : Table) (text key : Text) : Bool :=
  (entries text).any (Entry.mentions table key)

/-- The blocks whose keys are missing from the table. -/
def lacking (table : Table) (text : Text) (blocks : List KeyBlock) : List KeyBlock :=
  blocks.filter fun entry => !hasKey table text entry.key

theorem mentions_emptyLine (table : Table) (key : Text) :
    Blind IsEmptyLine (Entry.mentions table key) := by
  intro entry empty
  rw [Entry.mentions, empty, isKeyLine_nil, Bool.and_false]

/-- A key in a table is one that the scan finds. -/
theorem containsKeyLine_of_hasKey {table : Table} {text key : Text}
    (present : hasKey table text key = true) : containsKeyLine text key = true := by
  rw [hasKey, List.any_eq_true] at present
  obtain ⟨entry, member, mentions⟩ := present
  rw [Entry.mentions, Bool.and_eq_true] at mentions
  have inside := List.mem_map_of_mem (f := Entry.line) member
  rw [entries, annotate_line] at inside
  rw [containsKeyLine_eq_any, List.any_eq_true]
  exact ⟨entry.line, inside, mentions.2⟩

/-! ## Places in tables -/

/-- The first place is not the section's own header, and at the top level. -/
def startsTop (own : Text) (endsTop : Bool) : Option Entry → Bool
  | some entry => !entry.reads own && entry.top
  | none => endsTop

section Places

variable (header : PlainHeader) (before : Option Text)

theorem isTop_next_header {line : Text} (recognized : trim line = header.line) (spot : Spot) :
    (spot.next line).isTop = spot.isTop := by
  rw [header.next_line recognized]
  rfl

/-- **Whether there is a place at the top level, read off the lines of the file.** -/
theorem any_isTop_insertions (spot : Spot) (lines : List Text) :
    (insertions header.line before false spot lines).any (fun place => place.spot.isTop) =
      ((annotate spot lines).any (fun entry => entry.reads header.line && entry.top) ||
        startsTop header.line (spot.after lines).isTop
          ((annotate spot lines).find? (Entry.makesPlace header.line before))) := by
  rw [List.any_eq_not_all_not, all_insertions header before (fun place => !place.spot.isTop)
    (fun entry => !entry.top) (fun entry => !entry.top) ?_ (fun _ _ => rfl), Bool.false_or,
    Bool.not_and, List.any_eq_not_all_not]
  · simp only [Bool.not_and]
    cases (annotate spot lines).find? (Entry.makesPlace header.line before) with
    | none => simp [startsTop]
    | some entry => simp [startsTop]
  · intro spot line own
    rw [isTop_next_header header own]
    rfl

/-- Behind a header of the file, the table is its own at the top level. -/
theorem table_of_mem_insertions {inserted : Bool} {spot : Spot} {lines : List Text}
    {place : Insertion} (member : place ∈ insertions header.line before inserted spot lines)
    (behind : place.opened = false) (top : place.spot.isTop = true) :
    place.spot.table = header.table := by
  induction lines generalizing inserted spot with
  | nil =>
      rw [insertions] at member
      split at member
      · cases member
      · rw [List.mem_singleton] at member
        rw [member] at behind
        cases behind
  | cons line rest inductionHypothesis =>
      rw [insertions] at member
      split at member
      · rename_i own
        rcases List.mem_cons.mp member with same | later
        · rw [same] at top ⊢
          rw [isTop_next_header header own] at top
          rw [header.next_line own]
          exact (header.tableOf_line own spot).trans (if_pos top)
        · exact inductionHypothesis later
      · split at member
        · rcases List.mem_append.mp member with first | later
          · split at first
            · cases first
            · rw [List.mem_singleton] at first
              rw [first] at behind
              cases behind
          · exact inductionHypothesis later
        · exact inductionHypothesis member

end Places

/-! ## Inserted keys -/

section Inserted

variable {header : PlainHeader} {before : Option Text} {missing : List KeyBlock}

/-- Everything that is inserted at a place is as deep as the place. -/
theorem top_of_mem_entries {place : Insertion} {entry : Entry}
    (member : entry ∈ place.entries header missing) : entry.top = place.spot.isTop := by
  rw [Insertion.entries] at member
  split at member
  · rcases List.mem_cons.mp member with rfl | block
    · rfl
    · obtain ⟨line, -, rfl⟩ := List.mem_map.mp block
      exact isTop_next_header header header.trimmed place.spot
  · obtain ⟨line, -, rfl⟩ := List.mem_map.mp member
    rfl

/-- At the top level it is in the table of the section. -/
theorem table_of_mem_entries {place : Insertion} {entry : Entry}
    (member : entry ∈ place.entries header missing) (top : place.spot.isTop = true)
    (placed : place.opened = false → place.spot.table = header.table) :
    entry.table = header.table := by
  have named : place.spot.tableOf header.line = header.table :=
    (header.tableOf_line header.trimmed place.spot).trans (if_pos top)
  rw [Insertion.entries] at member
  split at member
  · rcases List.mem_cons.mp member with rfl | block
    · exact named
    · obtain ⟨line, inside, rfl⟩ := List.mem_map.mp block
      have quiet := isQuietComment_of_mem_blockLines inside
      rw [Spot.entry, tableOf_of_quietComment quiet]
      exact named
  · rename_i behind
    obtain ⟨line, inside, rfl⟩ := List.mem_map.mp member
    rw [Spot.entry, tableOf_of_quietComment (isQuietComment_of_mem_blockLines inside)]
    exact placed (Bool.not_eq_true _ ▸ behind)

theorem exists_place_of_mem_addedEntries {places : List Insertion} {entry : Entry}
    (member : entry ∈ addedEntries header missing places) :
    ∃ place ∈ places, entry ∈ place.entries header missing := by
  rw [addedEntries] at member
  split at member
  · cases member
  · exact List.mem_flatMap.mp member

/-- What is inserted in a table is inserted in that of its section. -/
theorem table_of_mem_added {inserted : Bool} {spot : Spot} {lines : List Text} {entry : Entry}
    (member : entry ∈
      addedEntries header missing (insertions header.line before inserted spot lines))
    (top : entry.top = true) : entry.table = header.table := by
  obtain ⟨place, inside, written⟩ := exists_place_of_mem_addedEntries member
  rw [top_of_mem_entries written] at top
  exact table_of_mem_entries written top fun behind =>
    table_of_mem_insertions header before inside behind top

theorem exists_entry_of_block {line : Text} (member : line ∈ blockLines missing)
    (place : Insertion) : ∃ spot : Spot, spot.entry line ∈ place.entries header missing := by
  rw [Insertion.entries]
  split
  · exact ⟨_, List.mem_cons_of_mem _ (List.mem_map_of_mem member)⟩
  · exact ⟨_, List.mem_map_of_mem member⟩

/-- The key of an inserted block is in its table if there is a place at the top
level. -/
theorem any_mentions_added {block : KeyBlock} (member : block ∈ missing) (inserted : Bool)
    (spot : Spot) (lines : List Text) :
    (addedEntries header missing (insertions header.line before inserted spot lines)).any
        (Entry.mentions header.table block.key) =
      (insertions header.line before inserted spot lines).any fun place => place.spot.isTop := by
  rw [Bool.eq_iff_iff, List.any_eq_true, List.any_eq_true]
  constructor
  · rintro ⟨entry, added, mentions⟩
    obtain ⟨place, inside, written⟩ := exists_place_of_mem_addedEntries added
    rw [Entry.mentions, Bool.and_eq_true, Bool.and_eq_true, top_of_mem_entries written] at mentions
    exact ⟨place, inside, mentions.1.1⟩
  · rintro ⟨place, inside, top⟩
    obtain ⟨line, onBlock, isKey⟩ := block.exists_keyLine
    obtain ⟨behind, written⟩ := @exists_entry_of_block header missing line
      (List.mem_flatMap.mpr ⟨block, member, onBlock⟩) place
    have added : behind.entry line ∈
        addedEntries header missing (insertions header.line before inserted spot lines) := by
      have filled : ¬ missing.isEmpty = true := by
        rw [List.isEmpty_iff]
        exact List.ne_nil_of_mem member
      rw [addedEntries, if_neg filled]
      exact List.mem_flatMap.mpr ⟨place, inside, written⟩
    have isTop : (behind.entry line).top = true := (top_of_mem_entries written).trans top
    refine ⟨behind.entry line, added, ?_⟩
    rw [Entry.mentions, isTop, table_of_mem_added added isTop, beq_self_eq_true, Bool.true_and,
      Bool.true_and]
    exact (isKeyLine_trimEnd block.key line).trans isKey

end Inserted

/-! ## Merging defaults and keys -/

section Keys

variable (existing : Text)

/-- There is a place at the top level for what is missing in the section. -/
def isPlaced (header : PlainHeader) (before : Option Text) (blocks : List KeyBlock) : Bool :=
  hasEveryKey existing blocks ||
    ((entries existing).any (fun entry => entry.reads header.line && entry.top) ||
      startsTop header.line (Spot.start.after (linesFrom [] existing)).isTop
        ((entries existing).find? (Entry.makesPlace header.line before)))

/-- The keys that the scan finds anywhere are in the table. -/
def isScannedInTable (table : Table) (blocks : List KeyBlock) : Bool :=
  blocks.all fun block => !containsKeyLine existing block.key || hasKey table existing block.key

def isCompletableClient : Bool :=
  isScannedInTable existing clientTable clientKeyBlocks &&
    isPlaced existing clientPlain (some serverHeader) clientKeyBlocks

def isCompletableServer : Bool :=
  isScannedInTable existing serverTable serverKeyBlocks &&
    isPlaced existing serverPlain none serverKeyBlocks

/-- A key of the result is one of the file or an inserted one. -/
theorem hasKey_merged (table : Table) (key : Text) :
    hasKey table (mergeDefaults existing).1 key =
      (hasKey table existing key ||
        ((addedClient existing).any (Entry.mentions table key) ||
          (addedServer existing).any (Entry.mentions table key))) := by
  have whole := (extends_merged existing).exists_iff (mentions_emptyLine table key)
  rw [← List.any_append, Bool.eq_iff_iff, Bool.or_eq_true, hasKey, hasKey, List.any_eq_true,
    List.any_eq_true, List.any_eq_true]
  exact whole

/-- The scan is right about a section exactly if the keys that it finds anywhere
are in the table. -/
theorem missingBlocks_eq_lacking_iff (table : Table) (blocks : List KeyBlock) :
    missingBlocks existing blocks = lacking table existing blocks ↔
      isScannedInTable existing table blocks = true := by
  rw [isScannedInTable, List.all_eq_true]
  constructor
  · intro same block member
    cases present : hasKey table existing block.key with
    | true => exact Bool.or_true _
    | false =>
        have isLacking : block ∈ lacking table existing blocks :=
          List.mem_filter.mpr ⟨member, by rw [present]; rfl⟩
        rw [← same] at isLacking
        rw [Bool.or_false]
        exact (List.mem_filter.mp isLacking).2
  · intro right
    apply List.filter_congr
    intro block member
    cases present : hasKey table existing block.key with
    | true => rw [containsKeyLine_of_hasKey present]
    | false =>
        have absent := right block member
        rw [present, Bool.or_false] at absent
        exact absent

/-- A place for the blocks is a place for each of their keys. -/
theorem isPlaced_eq_any {header : PlainHeader} {before : Option Text} {blocks : List KeyBlock}
    {block : KeyBlock} (member : block ∈ missingBlocks existing blocks) :
    isPlaced existing header before blocks =
      (addedEntries header (missingBlocks existing blocks)
        (insertions header.line before false .start (linesFrom [] existing))).any
          (Entry.mentions header.table block.key) := by
  have filled : hasEveryKey existing blocks = false := by
    rw [← isEmpty_missingBlocks, List.isEmpty_eq_false_iff]
    exact List.ne_nil_of_mem member
  rw [any_mentions_added member, any_isTop_insertions, isPlaced, filled, entries]
  rfl

/-- A merge completes one section exactly if the scan is right about it and
there is a place for what it finds missing. -/
theorem section_completed_iff (header : PlainHeader) (before : Option Text)
    (blocks : List KeyBlock)
    (merged : ∀ key, hasKey header.table (mergeDefaults existing).1 key =
      (hasKey header.table existing key ||
        (addedEntries header (missingBlocks existing blocks)
          (insertions header.line before false .start (linesFrom [] existing))).any
            (Entry.mentions header.table key))) :
    ((∀ block ∈ blocks, hasKey header.table (mergeDefaults existing).1 block.key = true) ∧
        missingBlocks existing blocks = lacking header.table existing blocks) ↔
      (isScannedInTable existing header.table blocks &&
        isPlaced existing header before blocks) = true := by
  rw [missingBlocks_eq_lacking_iff, Bool.and_eq_true, and_comm]
  apply and_congr_right
  intro scanned
  constructor
  · intro complete
    cases missing : missingBlocks existing blocks with
    | nil =>
        rw [isPlaced, ← isEmpty_missingBlocks, missing]
        rfl
    | cons block rest =>
        have member : block ∈ missingBlocks existing blocks := by
          rw [missing]
          exact List.mem_cons_self
        have parts := List.mem_filter.mp member
        have absent : hasKey header.table existing block.key = false := by
          cases present : hasKey header.table existing block.key with
          | false => rfl
          | true =>
              rw [containsKeyLine_of_hasKey present] at parts
              cases parts.2
        rw [isPlaced_eq_any existing member]
        have found := complete block parts.1
        rw [merged, absent, Bool.false_or] at found
        exact found
  · intro placed block member
    rw [merged]
    cases contained : containsKeyLine existing block.key with
    | true =>
        rw [isScannedInTable, List.all_eq_true] at scanned
        have present := scanned block member
        rw [contained, Bool.not_true, Bool.false_or] at present
        rw [present, Bool.true_or]
    | false =>
        have missing : block ∈ missingBlocks existing blocks :=
          List.mem_filter.mpr ⟨member, by rw [contained]; rfl⟩
        rw [← isPlaced_eq_any existing missing, placed, Bool.or_true]

/-- What the scan finds missing is missing from the table. -/
theorem missingBlocks_sublist (table : Table) (blocks : List KeyBlock) :
    (missingBlocks existing blocks).Sublist (lacking table existing blocks) := by
  apply List.monotone_filter_right
  intro block absent
  cases present : hasKey table existing block.key with
  | false => rfl
  | true =>
      rw [containsKeyLine_of_hasKey present] at absent
      cases absent

/-- The names that are returned are right if and only if the scan is. -/
theorem additions_eq_iff :
    (mergeDefaults existing).2 =
        (lacking clientTable existing clientKeyBlocks ++
          lacking serverTable existing serverKeyBlocks).map KeyBlock.key ↔
      missingClientOf existing = lacking clientTable existing clientKeyBlocks ∧
        missingServerOf existing = lacking serverTable existing serverKeyBlocks := by
  rw [mergeDefaults_additions]
  constructor
  · intro same
    have client := missingBlocks_sublist existing clientTable clientKeyBlocks
    have server := missingBlocks_sublist existing serverTable serverKeyBlocks
    have total := congrArg List.length same
    have clientLength := client.length_le
    have serverLength := server.length_le
    rw [List.length_map, List.length_map, List.length_append, List.length_append,
      missingClientOf, missingServerOf] at total
    exact ⟨client.eq_of_length (by omega), server.eq_of_length (by omega)⟩
  · rintro ⟨client, server⟩
    rw [client, server]

end Keys

theorem not_mentions_of_other {header : PlainHeader} {before : Option Text}
    {missing : List KeyBlock} {table : Table} (apart : header.table ≠ table) (lines : List Text)
    (key : Text) :
    (addedEntries header missing (insertions header.line before false .start lines)).any
      (Entry.mentions table key) = false := by
  rw [List.any_eq_false]
  intro entry member mentions
  rw [Entry.mentions, Bool.and_eq_true, Bool.and_eq_true, beq_iff_eq] at mentions
  exact apart ((table_of_mem_added member mentions.1.1).symm.trans mentions.1.2)

/-- **Merging completes both sections and reports what was missing in each,
exactly if the scan is right about the file and there are places at the top
level.** -/
theorem merge_completes_iff (existing : Text) :
    ((∀ block ∈ clientKeyBlocks,
          hasKey clientTable (mergeDefaults existing).1 block.key = true) ∧
        (∀ block ∈ serverKeyBlocks,
          hasKey serverTable (mergeDefaults existing).1 block.key = true) ∧
        (mergeDefaults existing).2 =
          (lacking clientTable existing clientKeyBlocks ++
            lacking serverTable existing serverKeyBlocks).map KeyBlock.key) ↔
      isCompletableClient existing = true ∧ isCompletableServer existing = true := by
  have client := section_completed_iff existing clientPlain (some serverHeader) clientKeyBlocks
    (by
      intro key
      have other : (addedServer existing).any (Entry.mentions clientTable key) = false :=
        not_mentions_of_other (by decide) _ key
      have merged := hasKey_merged existing clientTable key
      rw [other, Bool.or_false] at merged
      exact merged)
  have server := section_completed_iff existing serverPlain none serverKeyBlocks
    (by
      intro key
      have other : (addedClient existing).any (Entry.mentions serverTable key) = false :=
        not_mentions_of_other (by decide) _ key
      have merged := hasKey_merged existing serverTable key
      rw [other, Bool.false_or] at merged
      exact merged)
  rw [additions_eq_iff, isCompletableClient, isCompletableServer]
  constructor
  · rintro ⟨clientKeys, serverKeys, clientMissing, serverMissing⟩
    exact ⟨client.mp ⟨clientKeys, clientMissing⟩, server.mp ⟨serverKeys, serverMissing⟩⟩
  · rintro ⟨clientFits, serverFits⟩
    have clientDone := client.mpr clientFits
    have serverDone := server.mpr serverFits
    exact ⟨clientDone.1, serverDone.1, clientDone.2, serverDone.2⟩

/-- A key of both sections, in one of them. -/
def sharedKey : Text := "[client]\naddress_family = \"auto\"\n".toList

theorem sharedKey_stays_missing :
    hasKey serverTable sharedKey "address_family".toList = false ∧
      "address_family".toList ∉ (mergeDefaults sharedKey).2 ∧
      hasKey serverTable (mergeDefaults sharedKey).1 "address_family".toList = false := by
  have absent : hasKey serverTable sharedKey "address_family".toList = false := by decide +kernel
  have other : (addedClient sharedKey).any
      (Entry.mentions serverTable "address_family".toList) = false :=
    not_mentions_of_other (by decide) _ _
  have blocks : (addedServer sharedKey).any
      (Entry.mentions serverTable "address_family".toList) = false := by
    decide +kernel
  refine ⟨absent, ?_, ?_⟩
  · rw [mergeDefaults_additions]
    decide +kernel
  · rw [hasKey_merged, absent, other, blocks]
    rfl

end Etr.Config
