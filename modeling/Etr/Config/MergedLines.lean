import Etr.Config.Merge

/-!
Contract: the lines of a merged configuration file.

Owns the lines that `merge_defaults` writes, where each of them comes from, what
is lost at the end of a file, and that merging twice is merging once.

Does not own what a line means in TOML.
-/

namespace Etr.Config

open Etr.Bootstrap

/-! ## The lines of the result -/

/-- The lines of some blocks. -/
def blockLines (missing : List KeyBlock) : List Text :=
  missing.flatMap fun entry => entry.block.splitOn '\n'

/-- The lines of a new section. -/
def sectionLines (started : Bool) (header : Text) (missing : List KeyBlock) : List Text :=
  (if started then [[]] else []) ++ header :: blockLines missing

/-- A section that is opened if there is something for it that has not been
inserted. -/
def openedLines (started inserted : Bool) (header : Text) (missing : List KeyBlock) : List Text :=
  if !missing.isEmpty && !inserted then sectionLines started header missing else []

section Loop

variable (missingClient missingServer : List KeyBlock)

/-- The sections that are appended. -/
def closingLines (started client server : Bool) : List Text :=
  openedLines started client clientHeader missingClient ++
    openedLines (started || !missingClient.isEmpty && !client) server serverHeader missingServer

/-- What the loop emits from here on: whether there is anything in front, and
which sections have been given their blocks. -/
def rebuilt (started client server : Bool) : List Text → List Text
  | [] => closingLines missingClient missingServer started client server
  | line :: rest =>
      if trim line = clientHeader then
        line :: blockLines missingClient ++
          rebuilt true (client || !missingClient.isEmpty) server rest
      else if trim line = serverHeader then
        openedLines started client clientHeader missingClient ++
          line :: blockLines missingServer ++
            rebuilt true (client || !missingClient.isEmpty) (server || !missingServer.isEmpty) rest
      else
        line :: rebuilt true client server rest

end Loop

theorem writeLines_append (front back : List Text) :
    writeLines (front ++ back) = writeLines front ++ writeLines back :=
  List.flatMap_append

theorem writeLines_eq_intercalate {lines : List Text} (nonempty : lines ≠ []) :
    writeLines lines = ['\n'].intercalate lines ++ ['\n'] := by
  induction lines with
  | nil => exact absurd rfl nonempty
  | cons line rest inductionHypothesis =>
      cases rest with
      | nil => simp [writeLines]
      | cons next more =>
          rw [writeLines_cons, inductionHypothesis (List.cons_ne_nil _ _),
            List.intercalate_cons_cons]
          simp

theorem writeLines_blockLines (missing : List KeyBlock) :
    writeLines (blockLines missing) = missing.flatMap fun entry => entry.block ++ ['\n'] := by
  induction missing with
  | nil => rfl
  | cons entry rest inductionHypothesis =>
      rw [blockLines, List.flatMap_cons, writeLines_append,
        writeLines_eq_intercalate (List.splitOn_ne_nil _ _), List.intercalate_splitOn,
        List.flatMap_cons]
      exact congrArg _ inductionHypothesis

/-! ### The loop -/

/-- A text is empty exactly if no line has been written. -/
theorem isEmpty_writeLines (lines : List Text) : (writeLines lines).isEmpty = lines.isEmpty := by
  cases lines with
  | nil => rfl
  | cons line rest =>
      rw [writeLines_cons]
      simp

theorem pushBlocks_writeLines (out : List Text) (missing : List KeyBlock) :
    pushBlocks (writeLines out) missing = writeLines (out ++ blockLines missing) := by
  rw [pushBlocks, writeLines_append, writeLines_blockLines]

theorem writeLines_snoc (out : List Text) (line : Text) :
    writeLines out ++ line ++ ['\n'] = writeLines (out ++ [line]) := by
  rw [writeLines_append, writeLines_cons, List.append_assoc]
  rfl

theorem pushSection_writeLines (out : List Text) (header : Text) (missing : List KeyBlock) :
    pushSection (writeLines out) header missing =
      writeLines (out ++ sectionLines (!out.isEmpty) header missing) := by
  have front : (if (writeLines out).isEmpty then writeLines out else writeLines out ++ ['\n']) =
      writeLines (out ++ if !out.isEmpty then [[]] else []) := by
    rw [isEmpty_writeLines]
    cases out with
    | nil => rfl
    | cons line rest =>
        rw [writeLines_append]
        rfl
  rw [pushSection, front, writeLines_snoc, pushBlocks_writeLines, sectionLines]
  simp

section Loop

variable (missingClient missingServer : List KeyBlock)

theorem started_append_cons (front : List Text) (line : Text) (back : List Text) :
    (!(front ++ line :: back).isEmpty) = true := by
  cases front with
  | nil => rfl
  | cons first rest => rfl

/-- Something is in front once a section is. -/
theorem started_append_openedLines (out : List Text) (inserted : Bool) (header : Text)
    (missing : List KeyBlock) :
    (!(out ++ openedLines (!out.isEmpty) inserted header missing).isEmpty) =
      (!out.isEmpty || !missing.isEmpty && !inserted) := by
  rw [openedLines]
  split
  · rename_i opens
    rw [sectionLines, ← List.append_assoc, started_append_cons, opens, Bool.or_true]
  · rename_i stays
    rw [Bool.not_eq_true] at stays
    rw [List.append_nil, stays, Bool.or_false]

theorem openedLines_written (out : List Text) (inserted : Bool) (header : Text)
    (missing : List KeyBlock) :
    writeLines (out ++ openedLines (!out.isEmpty) inserted header missing) =
      if !missing.isEmpty && !inserted then pushSection (writeLines out) header missing
      else writeLines out := by
  rw [openedLines]
  split
  · exact (pushSection_writeLines out header missing).symm
  · rw [List.append_nil]

/-- The flag of a section that is opened if it is missing something. -/
theorem inserted_or (missing : List KeyBlock) (inserted : Bool) :
    (inserted || !missing.isEmpty) = if !missing.isEmpty && !inserted then true else inserted := by
  cases inserted with
  | true => rw [Bool.not_true, Bool.and_false, if_neg Bool.false_ne_true, Bool.true_or]
  | false =>
      cases missing with
      | nil => rfl
      | cons entry rest => rfl

theorem openClient_writeLines (out : List Text) (client server : Bool) :
    MergeState.openClient missingClient ⟨writeLines out, client, server⟩ =
      ⟨writeLines (out ++ openedLines (!out.isEmpty) client clientHeader missingClient),
        client || !missingClient.isEmpty, server⟩ := by
  rw [openedLines_written, inserted_or, MergeState.openClient]
  split
  · rfl
  · rfl

theorem openServer_writeLines (out : List Text) (client server : Bool) :
    MergeState.openServer missingServer ⟨writeLines out, client, server⟩ =
      ⟨writeLines (out ++ openedLines (!out.isEmpty) server serverHeader missingServer),
        client, server || !missingServer.isEmpty⟩ := by
  rw [openedLines_written, inserted_or, MergeState.openServer]
  split
  · rfl
  · rfl

/-- The loop and what is appended behind it, line by line. -/
theorem finishMerge_foldl (lines out : List Text) (client server : Bool) :
    finishMerge missingClient missingServer
        (lines.foldl (mergeLine missingClient missingServer) ⟨writeLines out, client, server⟩) =
      writeLines
        (out ++ rebuilt missingClient missingServer (!out.isEmpty) client server lines) := by
  induction lines generalizing out client server with
  | nil =>
      rw [List.foldl_nil, finishMerge, openClient_writeLines, openServer_writeLines, rebuilt,
        started_append_openedLines, closingLines, List.append_assoc]
  | cons line rest inductionHypothesis =>
      rw [List.foldl_cons, mergeLine, rebuilt]
      split
      · dsimp only
        rw [writeLines_snoc, pushBlocks_writeLines, inductionHypothesis]
        simp only [List.append_assoc, List.nil_append, List.cons_append, started_append_cons]
      · split
        · rw [openClient_writeLines]
          dsimp only
          rw [writeLines_snoc, pushBlocks_writeLines, inductionHypothesis,
            List.append_assoc (out ++ _), List.singleton_append, started_append_cons]
          simp only [List.append_assoc, List.cons_append]
        · dsimp only
          rw [writeLines_snoc, inductionHypothesis, List.append_assoc, List.singleton_append,
            started_append_cons]

end Loop

/-! ## Reading the result again -/

theorem notMem_newline_of_mem_linesFrom {current text line : Text} (unbroken : '\n' ∉ current)
    (member : line ∈ linesFrom current text) : '\n' ∉ line := by
  induction text generalizing current with
  | nil =>
      rw [linesFrom] at member
      split at member
      · cases member
      · rw [List.mem_singleton] at member
        exact member ▸ unbroken
  | cons c rest inductionHypothesis =>
      rw [linesFrom] at member
      split at member
      · rcases List.mem_cons.mp member with same | later
        · rw [same]
          intro newline
          apply unbroken
          unfold stripCarriageReturn at newline
          split at newline
          · exact (List.dropLast_sublist _).subset newline
          · exact newline
        · exact inductionHypothesis List.not_mem_nil later
      · rename_i visible
        apply inductionHypothesis _ member
        rw [List.mem_append, List.mem_singleton, not_or]
        exact ⟨unbroken, Ne.symm visible⟩

theorem newline_notMem_of_mem_splitOn {text line : Text} (member : line ∈ text.splitOn '\n') :
    '\n' ∉ line := by
  induction text generalizing line with
  | nil =>
      rw [List.splitOn_nil, List.mem_singleton] at member
      rw [member]
      exact List.not_mem_nil
  | cons c rest inductionHypothesis =>
      rw [List.splitOn_cons_eq_if_modifyHead] at member
      split at member
      · rcases List.mem_cons.mp member with same | later
        · rw [same]
          exact List.not_mem_nil
        · exact inductionHypothesis later
      · rename_i visible
        cases parts : rest.splitOn '\n' with
        | nil => exact absurd parts (List.splitOn_ne_nil _ _)
        | cons first others =>
            rw [parts, List.modifyHead_cons] at member
            rw [parts] at inductionHypothesis
            rcases List.mem_cons.mp member with same | later
            · rw [same, List.mem_cons, not_or]
              exact ⟨fun isNewline => visible (by simp [← isNewline]),
                inductionHypothesis List.mem_cons_self⟩
            · exact inductionHypothesis (List.mem_cons_of_mem first later)

section Loop

variable {missingClient missingServer : List KeyBlock}

/-- The lines of the file are kept in their order. -/
theorem sublist_rebuilt (started client server : Bool) (lines : List Text) :
    lines.Sublist (rebuilt missingClient missingServer started client server lines) := by
  induction lines generalizing started client server with
  | nil => exact List.nil_sublist _
  | cons line rest inductionHypothesis =>
      rw [rebuilt]
      split
      · exact ((inductionHypothesis _ _ _).trans (List.sublist_append_right _ _)).cons_cons line
      · split
        · have kept := (inductionHypothesis true (client || !missingClient.isEmpty)
            (server || !missingServer.isEmpty)).trans
              (List.sublist_append_right (blockLines missingServer) _)
          rw [List.append_assoc]
          exact (kept.cons_cons line).trans (List.sublist_append_right _ _)
        · exact (inductionHypothesis _ _ _).cons_cons line

theorem blockLines_subset_openedLines (started : Bool) (header : Text)
    (missing : List KeyBlock) : blockLines missing ⊆ openedLines started false header missing := by
  intro line member
  rw [openedLines, if_pos]
  · exact List.mem_append_right _ (List.mem_cons_of_mem header member)
  · cases missing with
    | nil => cases member
    | cons entry rest => rfl

/-- The lines that merging may add. -/
def addedLines (missingClient missingServer : List KeyBlock) : List Text :=
  [[], clientHeader, serverHeader] ++ (blockLines missingClient ++ blockLines missingServer)

theorem clientBlocks_subset_addedLines :
    blockLines missingClient ⊆ addedLines missingClient missingServer :=
  fun _ member => List.mem_append_right _ (List.mem_append_left _ member)

theorem serverBlocks_subset_addedLines :
    blockLines missingServer ⊆ addedLines missingClient missingServer :=
  fun _ member => List.mem_append_right _ (List.mem_append_right _ member)

theorem openedLines_subset_addedLines {started inserted : Bool} {header : Text}
    {missing : List KeyBlock} (isHeader : header ∈ [clientHeader, serverHeader])
    (blocks : blockLines missing ⊆ addedLines missingClient missingServer) :
    openedLines started inserted header missing ⊆ addedLines missingClient missingServer := by
  have empty : [] ∈ addedLines missingClient missingServer := List.mem_cons_self
  have headerAdded : header ∈ addedLines missingClient missingServer :=
    List.mem_append_left _ (List.mem_cons_of_mem [] isHeader)
  rw [openedLines]
  split
  · apply List.append_subset.mpr
    refine ⟨?_, List.cons_subset.mpr ⟨headerAdded, blocks⟩⟩
    split
    · exact List.cons_subset.mpr ⟨empty, List.nil_subset _⟩
    · exact List.nil_subset _
  · exact List.nil_subset _

/-- Every line of the result is one of the file or one that merging adds. -/
theorem rebuilt_subset {lines target : List Text} (kept : lines ⊆ target)
    (added : addedLines missingClient missingServer ⊆ target) (started client server : Bool) :
    rebuilt missingClient missingServer started client server lines ⊆ target := by
  have clientSection := fun started inserted => List.Subset.trans
    (@openedLines_subset_addedLines missingClient missingServer started inserted clientHeader
      missingClient (by decide) clientBlocks_subset_addedLines) added
  have serverSection := fun started inserted => List.Subset.trans
    (@openedLines_subset_addedLines missingClient missingServer started inserted serverHeader
      missingServer (by decide) serverBlocks_subset_addedLines) added
  have clientBlocks := List.Subset.trans
    (@clientBlocks_subset_addedLines missingClient missingServer) added
  have serverBlocks := List.Subset.trans
    (@serverBlocks_subset_addedLines missingClient missingServer) added
  induction lines generalizing started client server with
  | nil =>
      rw [rebuilt, closingLines]
      exact List.append_subset.mpr ⟨clientSection _ _, serverSection _ _⟩
  | cons line rest inductionHypothesis =>
      have parts := List.cons_subset.mp kept
      rw [rebuilt]
      split
      · apply List.append_subset.mpr
        exact ⟨List.cons_subset.mpr ⟨parts.1, clientBlocks⟩, inductionHypothesis parts.2 _ _ _⟩
      · split
        · apply List.append_subset.mpr
          refine ⟨List.append_subset.mpr ⟨clientSection _ _, ?_⟩, inductionHypothesis parts.2 _ _ _⟩
          exact List.cons_subset.mpr ⟨parts.1, serverBlocks⟩
        · exact List.cons_subset.mpr ⟨parts.1, inductionHypothesis parts.2 _ _ _⟩

/-- The blocks of the client's section are inserted unless they already are. -/
theorem blockLines_subset_rebuilt_client (started server : Bool) (lines : List Text) :
    blockLines missingClient ⊆ rebuilt missingClient missingServer started false server lines := by
  induction lines generalizing started server with
  | nil =>
      rw [rebuilt, closingLines]
      exact List.subset_append_of_subset_left _ (blockLines_subset_openedLines _ _ _)
  | cons first rest inductionHypothesis =>
      rw [rebuilt]
      split
      · exact List.subset_append_of_subset_left _ (List.subset_cons_self _ _)
      · split
        · rw [List.append_assoc]
          exact List.subset_append_of_subset_left _ (blockLines_subset_openedLines _ _ _)
        · exact List.subset_cons_of_subset _ (inductionHypothesis _ _)

theorem blockLines_subset_rebuilt_server (started client : Bool) (lines : List Text) :
    blockLines missingServer ⊆ rebuilt missingClient missingServer started client false lines := by
  induction lines generalizing started client with
  | nil =>
      rw [rebuilt, closingLines]
      exact List.subset_append_of_subset_right _ (blockLines_subset_openedLines _ _ _)
  | cons first rest inductionHypothesis =>
      rw [rebuilt]
      split
      · exact List.subset_append_of_subset_right _ (inductionHypothesis _ _)
      · split
        · exact List.subset_append_of_subset_left _ (List.subset_append_of_subset_right _
            (List.subset_cons_self _ _))
        · exact List.subset_cons_of_subset _ (inductionHypothesis _ _)

end Loop

/-! ### White space at the end -/

/-- The last visible character of a trimmed text. -/
theorem trimEnd_snoc_of_visible {c : Char} (visible : isWhitespace c = false) (front : Text) :
    trimEnd (front ++ [c]) = front ++ [c] :=
  trimEnd_append visible front []

/-- What blank text behind a line makes of it: no other lines but empty ones. -/
theorem linesFrom_blank {blank : Text} (isBlank : Blank blank) (current : Text) :
    ∃ count, (linesFrom current blank).map trimEnd =
      (if (trimEnd current).isEmpty then [] else [trimEnd current]) ++ List.replicate count [] := by
  induction blank generalizing current with
  | nil =>
      rw [linesFrom]
      split
      · rename_i empty
        rw [List.isEmpty_iff.mp empty]
        exact ⟨0, rfl⟩
      · split
        · rename_i allBlank
          exact ⟨1, by simp [List.isEmpty_iff.mp allBlank]⟩
        · exact ⟨0, by simp⟩
  | cons c rest inductionHypothesis =>
      have parts := List.forall_mem_cons.mp isBlank
      rw [linesFrom]
      split
      · obtain ⟨count, rest⟩ := inductionHypothesis parts.2 []
        have noLine : (if (trimEnd []).isEmpty then [] else [trimEnd []]) = ([] : List Text) := rfl
        rw [noLine, List.nil_append] at rest
        rw [List.map_cons, rest, trimEnd_stripCarriageReturn]
        split
        · rename_i allBlank
          exact ⟨count + 1, by rw [List.isEmpty_iff.mp allBlank]; rfl⟩
        · exact ⟨count, rfl⟩
      · obtain ⟨count, rest⟩ := inductionHypothesis parts.2 (current ++ [c])
        have single : Blank [c] := by
          intro other member
          rw [List.mem_singleton.mp member]
          exact parts.1
        rw [trimEnd_append_blank single] at rest
        exact ⟨count, rest⟩

/-- A text that ends visibly keeps its lines, whatever blank text follows. -/
theorem linesFrom_append_blank {blank : Text} (isBlank : Blank blank) {body : Text} {c : Char}
    (visible : isWhitespace c = false) (current : Text) :
    ∃ count, (linesFrom current (body ++ c :: blank)).map trimEnd =
      (linesFrom current (body ++ [c, '\n'])).map trimEnd ++ List.replicate count [] := by
  induction body generalizing current with
  | nil =>
      have notNewline : c ≠ '\n' := by
        rintro rfl
        exact absurd visible (by decide)
      obtain ⟨count, rest⟩ := linesFrom_blank isBlank (current ++ [c])
      have filled : (trimEnd (current ++ [c])).isEmpty = false := by
        rw [trimEnd_snoc_of_visible visible]
        simp
      rw [filled] at rest
      refine ⟨count, ?_⟩
      rw [List.nil_append, List.nil_append, linesFrom, if_neg notNewline, linesFrom,
        if_neg notNewline, linesFrom, if_pos rfl, rest]
      simp [linesFrom, trimEnd_stripCarriageReturn]
  | cons first rest inductionHypothesis =>
      rw [List.cons_append, linesFrom, List.cons_append, linesFrom]
      split
      · obtain ⟨count, later⟩ := inductionHypothesis []
        exact ⟨count, by rw [List.map_cons, later, List.map_cons, List.cons_append]⟩
      · exact inductionHypothesis _

/-- The text without white space at its end, as it is returned if there is
nothing to add. -/
def cleaned (text : Text) : Text :=
  if (trimEnd text).isEmpty then trimEnd text else trimEnd text ++ ['\n']

/-- Only empty lines are lost. -/
theorem linesFrom_cleaned (text : Text) :
    ∃ count, (linesFrom [] text).map trimEnd =
      (linesFrom [] (cleaned text)).map trimEnd ++ List.replicate count [] := by
  obtain ⟨blank, isBlank, whole⟩ := exists_trimEnd_append text
  rw [cleaned]
  split
  · rename_i empty
    rw [List.isEmpty_iff] at empty
    rw [empty, List.nil_append] at whole
    rw [empty, whole]
    exact linesFrom_blank isBlank []
  · rename_i filled
    rw [List.isEmpty_iff] at filled
    obtain ⟨body, c, last⟩ := (List.eq_nil_or_concat _).resolve_left filled
    rw [List.concat_eq_append] at last
    have visible : isWhitespace c = false := by
      apply (trimEnd_eq_self_iff (trimEnd text)).mp (trimEnd_trimEnd text) c
      rw [last, List.getLast?_concat]
    obtain ⟨count, lines⟩ := @linesFrom_append_blank blank isBlank body c visible []
    refine ⟨count, ?_⟩
    rw [whole, trimEnd_append_blank isBlank, trimEnd_trimEnd, last]
    simpa using lines

/-! ### Keys -/

theorem isKeyLine_trimEnd (key line : Text) :
    isKeyLine key (trimEnd line) = isKeyLine key line := by
  rw [isKeyLine, trim_trimEnd, isKeyLine]

theorem isKeyLine_nil (key : Text) : isKeyLine key [] = false := by
  cases key with
  | nil => rfl
  | cons c rest => rfl

/-- White space at the end of a line makes no difference to the scan. -/
theorem containsKeyLine_eq_any (content key : Text) :
    containsKeyLine content key = ((linesFrom [] content).map trimEnd).any (isKeyLine key) := by
  rw [containsKeyLine, List.any_map]
  exact congrArg (List.any _) (funext fun line => (isKeyLine_trimEnd key line).symm)

theorem containsKeyLine_cleaned (text key : Text) :
    containsKeyLine (cleaned text) key = containsKeyLine text key := by
  obtain ⟨count, lines⟩ := linesFrom_cleaned text
  rw [containsKeyLine_eq_any, containsKeyLine_eq_any, lines, List.any_append]
  have noKey : (List.replicate count ([] : Text)).any (isKeyLine key) = false := by
    rw [List.any_eq_false]
    intro line member
    rw [List.eq_of_mem_replicate member, isKeyLine_nil]
    exact Bool.false_ne_true
  rw [noKey, Bool.or_false]

/-- A block names its key on one of its lines. -/
theorem KeyBlock.exists_keyLine (entry : KeyBlock) :
    ∃ line ∈ entry.block.splitOn '\n', isKeyLine entry.key line = true := by
  have documented := entry.documented
  rw [documents, Bool.and_eq_true, List.any_eq_true] at documented
  exact documented.2

/-! ## Merging again -/

section Merged

variable (existing : Text)

/-- What `merge_defaults` finds missing. -/
def missingClientOf : List KeyBlock :=
  missingBlocks existing clientKeyBlocks

def missingServerOf : List KeyBlock :=
  missingBlocks existing serverKeyBlocks

/-- The lines that are written if something is missing. -/
def mergedLines : List Text :=
  rebuilt (missingClientOf existing) (missingServerOf existing) false false false
    (linesFrom [] existing)

theorem mergeDefaults_additions :
    (mergeDefaults existing).2 =
      (missingClientOf existing ++ missingServerOf existing).map KeyBlock.key := by
  rw [mergeDefaults]
  split
  · rfl
  · rfl

theorem mergeDefaults_of_nothing (nothing : (mergeDefaults existing).2 = []) :
    (mergeDefaults existing).1 = cleaned existing := by
  rw [mergeDefaults_additions] at nothing
  have empty : ((missingBlocks existing clientKeyBlocks ++
      missingBlocks existing serverKeyBlocks).map KeyBlock.key).isEmpty = true :=
    List.isEmpty_iff.mpr nothing
  rw [mergeDefaults, if_pos empty]
  rfl

theorem mergeDefaults_of_missing (missing : (mergeDefaults existing).2 ≠ []) :
    (mergeDefaults existing).1 = writeLines (mergedLines existing) := by
  rw [mergeDefaults_additions] at missing
  have filled : ¬ ((missingBlocks existing clientKeyBlocks ++
      missingBlocks existing serverKeyBlocks).map KeyBlock.key).isEmpty = true :=
    fun empty => missing (List.isEmpty_iff.mp empty)
  have looped := finishMerge_foldl (missingBlocks existing clientKeyBlocks)
    (missingBlocks existing serverKeyBlocks) (linesFrom [] existing) [] false false
  rw [mergeDefaults, if_neg filled]
  exact looped

theorem newline_notMem_blockLines (missing : List KeyBlock) :
    ∀ line ∈ blockLines missing, '\n' ∉ line := by
  intro line member
  obtain ⟨entry, -, inside⟩ := List.mem_flatMap.mp member
  exact newline_notMem_of_mem_splitOn inside

/-- The lines of the result are those that were written. -/
theorem linesFrom_merged (missing : (mergeDefaults existing).2 ≠ []) :
    linesFrom [] (mergeDefaults existing).1 =
      (mergedLines existing).map stripCarriageReturn := by
  rw [mergeDefaults_of_missing existing missing]
  apply linesFrom_writeLines_map
  intro line member
  have origin := rebuilt_subset (List.subset_append_left _ (addedLines _ _))
    (List.subset_append_right (linesFrom [] existing) _) false false false member
  rcases List.mem_append.mp origin with kept | added
  · exact notMem_newline_of_mem_linesFrom List.not_mem_nil kept
  · rcases List.mem_append.mp added with header | block
    · have plain : ∀ header ∈ [[], clientHeader, serverHeader], '\n' ∉ header := by decide
      exact plain line header
    · rcases List.mem_append.mp block with client | server
      · exact newline_notMem_blockLines _ line client
      · exact newline_notMem_blockLines _ line server

/-- A key that is missing is on a line of its block, which is written. -/
theorem exists_keyLine_of_missing {entry : KeyBlock}
    (missing : entry ∈ missingClientOf existing ∨ entry ∈ missingServerOf existing) :
    ∃ line ∈ mergedLines existing, isKeyLine entry.key line = true := by
  obtain ⟨line, inside, isKey⟩ := entry.exists_keyLine
  refine ⟨line, ?_, isKey⟩
  rcases missing with client | server
  · exact blockLines_subset_rebuilt_client false false _
      (List.mem_flatMap.mpr ⟨entry, client, inside⟩)
  · exact blockLines_subset_rebuilt_server false false _
      (List.mem_flatMap.mpr ⟨entry, server, inside⟩)

/-- Every key is on a line of the result. -/
theorem containsKeyLine_merged {entry : KeyBlock}
    (member : entry ∈ clientKeyBlocks ∨ entry ∈ serverKeyBlocks) :
    containsKeyLine (mergeDefaults existing).1 entry.key = true := by
  have missing_of : containsKeyLine existing entry.key = false →
      entry ∈ missingClientOf existing ∨ entry ∈ missingServerOf existing := by
    intro absent
    rcases member with client | server
    · exact Or.inl (List.mem_filter.mpr ⟨client, by rw [absent]; rfl⟩)
    · exact Or.inr (List.mem_filter.mpr ⟨server, by rw [absent]; rfl⟩)
  by_cases nothing : (mergeDefaults existing).2 = []
  · rw [mergeDefaults_of_nothing existing nothing, containsKeyLine_cleaned]
    cases present : containsKeyLine existing entry.key with
    | true => rfl
    | false =>
        have missing := missing_of present
        rw [mergeDefaults_additions, List.map_eq_nil_iff, List.append_eq_nil_iff] at nothing
        rw [nothing.1, nothing.2] at missing
        simp at missing
  · have found : ∃ line ∈ mergedLines existing, isKeyLine entry.key line = true := by
      cases present : containsKeyLine existing entry.key with
      | true =>
          rw [containsKeyLine, List.any_eq_true] at present
          obtain ⟨line, inside, isKey⟩ := present
          exact ⟨line, (sublist_rebuilt false false false _).subset inside, isKey⟩
      | false => exact exists_keyLine_of_missing existing (missing_of present)
    obtain ⟨line, inside, isKey⟩ := found
    rw [containsKeyLine, linesFrom_merged existing nothing, List.any_eq_true]
    refine ⟨stripCarriageReturn line, List.mem_map_of_mem inside, ?_⟩
    rw [← isKeyLine_trimEnd, trimEnd_stripCarriageReturn, isKeyLine_trimEnd, isKey]

/-- A second merge has nothing to add. -/
theorem mergeDefaults_merged_additions :
    (mergeDefaults (mergeDefaults existing).1).2 = [] := by
  have present : ∀ blocks : List KeyBlock,
      (∀ entry ∈ blocks, entry ∈ clientKeyBlocks ∨ entry ∈ serverKeyBlocks) →
        missingBlocks (mergeDefaults existing).1 blocks = [] := by
    intro blocks known
    rw [missingBlocks, List.filter_eq_nil_iff]
    intro entry member
    rw [containsKeyLine_merged existing (known entry member)]
    exact Bool.false_ne_true
  rw [mergeDefaults_additions, missingClientOf, missingServerOf,
    present clientKeyBlocks fun _ => Or.inl, present serverKeyBlocks fun _ => Or.inr]
  rfl

end Merged

/-- A line without the carriage returns of its ending. -/
def withoutReturns (line : Text) : Text :=
  (line.reverse.dropWhile fun c => c == '\r').reverse

theorem withoutReturns_stripCarriageReturn (line : Text) :
    withoutReturns (stripCarriageReturn line) = withoutReturns line := by
  rw [stripCarriageReturn]
  split
  · rename_i last
    obtain ⟨front, rfl⟩ := List.getLast?_eq_some_iff.mp last
    rw [List.dropLast_concat, withoutReturns, withoutReturns, List.reverse_append]
    rfl
  · rfl

/-- A newline behind a visible character starts no line. -/
theorem linesFrom_snoc_newline {c : Char} (notNewline : c ≠ '\n') (front current : Text) :
    (linesFrom current (front ++ [c, '\n'])).map withoutReturns =
      (linesFrom current (front ++ [c])).map withoutReturns := by
  induction front generalizing current with
  | nil => simp [linesFrom, notNewline, withoutReturns_stripCarriageReturn]
  | cons first rest inductionHypothesis =>
      rw [List.cons_append, linesFrom, List.cons_append, linesFrom]
      split
      · rw [List.map_cons, inductionHypothesis, List.map_cons]
      · exact inductionHypothesis _

theorem linesFrom_cleaned_withoutReturns (text : Text) :
    (linesFrom [] (cleaned text)).map withoutReturns =
      (linesFrom [] (trimEnd text)).map withoutReturns := by
  rw [cleaned]
  split
  · rfl
  · rename_i filled
    rw [List.isEmpty_iff] at filled
    obtain ⟨front, c, last⟩ := (List.eq_nil_or_concat _).resolve_left filled
    rw [List.concat_eq_append] at last
    have visible : isWhitespace c = false := by
      apply (trimEnd_eq_self_iff (trimEnd text)).mp (trimEnd_trimEnd text) c
      rw [last, List.getLast?_concat]
    have notNewline : c ≠ '\n' := by
      rintro rfl
      exact absurd visible (by decide)
    rw [last, List.append_assoc]
    exact linesFrom_snoc_newline notNewline front []

/-- **Merging keeps every line of the file, up to line terminators and white
space at its end, and merging again changes nothing.** -/
theorem merge_idempotent (existing : Text) :
    (∃ body blank, existing = body ++ blank ∧ Blank blank ∧
        ((mergeDefaults existing).2 ≠ [] → blank = []) ∧
        ((linesFrom [] body).map withoutReturns).Sublist
          ((linesFrom [] (mergeDefaults existing).1).map withoutReturns)) ∧
      (mergeDefaults (mergeDefaults existing).1).2 = [] ∧
      trimEnd (mergeDefaults (mergeDefaults existing).1).1 =
        trimEnd (mergeDefaults existing).1 := by
  have again := mergeDefaults_merged_additions existing
  refine ⟨?_, again, ?_⟩
  · by_cases nothing : (mergeDefaults existing).2 = []
    · obtain ⟨blank, isBlank, whole⟩ := exists_trimEnd_append existing
      refine ⟨trimEnd existing, blank, whole, isBlank, fun missing => absurd nothing missing, ?_⟩
      have same := linesFrom_cleaned_withoutReturns existing
      rw [mergeDefaults_of_nothing existing nothing]
      exact same ▸ List.Sublist.refl _
    · refine ⟨existing, [], (List.append_nil existing).symm, ?_, fun _ => rfl, ?_⟩
      · exact List.forall_mem_nil _
      · rw [linesFrom_merged existing nothing, List.map_map]
        have same : withoutReturns ∘ stripCarriageReturn = withoutReturns :=
          funext withoutReturns_stripCarriageReturn
        rw [same]
        exact (sublist_rebuilt false false false _).map withoutReturns
  · rw [mergeDefaults_of_nothing _ again, cleaned]
    split
    · exact trimEnd_trimEnd _
    · rw [trimEnd_append_newline, trimEnd_trimEnd]

end Etr.Config
