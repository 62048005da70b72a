import Etr.Library.Transition

/-!
Contract: the reader of the client's standard input.

Owns the loop that `run_connection_loop` of `src/bin/etr.rs` runs over its reads,
with the two flags of the escape, what it forwards of a stream, and the exact
streams and partitions for which it forwards all of it.

Does not own what becomes of the payloads. They are received as long as the
client runs.
-/

namespace Etr.Client

def escapeChar : UInt8 := 0x7E

/-- The byte that disconnects behind an escape character. -/
def disconnectChar : UInt8 := 0x2E

/-- `matches!(b, b'\r' | b'\n')`. -/
def isLineEnd (b : UInt8) : Bool :=
  b == 0x0D || b == 0x0A

/-- The flags of the loop. -/
structure EscapeState where
  atLineStart : Bool
  escapePending : Bool
deriving DecidableEq, Repr

namespace EscapeState

def init : EscapeState where
  atLineStart := true
  escapePending := false

/-- The loop body for one byte: the flags behind it and what it adds to `out`;
`none` where it disconnects. -/
def step (state : EscapeState) (b : UInt8) : Option (EscapeState × List UInt8) :=
  if state.escapePending then
    if b = disconnectChar then
      none
    else if b = escapeChar then
      some (⟨false, false⟩, [escapeChar])
    else
      some (⟨isLineEnd b, false⟩, [escapeChar, b])
  else if b = escapeChar ∧ state.atLineStart then
    some ({ state with escapePending := true }, [])
  else
    some (⟨isLineEnd b, false⟩, [b])

/-- The loop over the bytes of one read. -/
def filter (state : EscapeState) : List UInt8 → Option (EscapeState × List UInt8)
  | [] => some (state, [])
  | b :: rest =>
      (state.step b).bind fun (next, out) =>
        (next.filter rest).map fun (last, more) => (last, out ++ more)

end EscapeState

/-- What the reader has done when it ends. -/
structure StdinOutcome where
  /-- Payloads, in order. -/
  sent : List (List UInt8)
  /-- The forced disconnect was signalled. -/
  disconnected : Bool
deriving DecidableEq, Repr

/-- The loop over the reads. No bytes are the end of the input, and so is the end
of the list; a disconnect returns at once. -/
def readStdin (state : EscapeState) : List (List UInt8) → StdinOutcome
  | [] => ⟨[], false⟩
  | read :: rest =>
      if read.isEmpty then
        ⟨[], false⟩
      else
        match state.filter read with
        | none => ⟨[], true⟩
        | some (next, out) =>
            let later := readStdin next rest
            if out.isEmpty then later else { later with sent := out :: later.sent }

/-! ## The stream as a whole -/

/-- Behind these bytes a line starts. -/
def LineStart (before : List UInt8) : Prop :=
  before = [] ∨ ∃ b, before.getLast? = some b ∧ isLineEnd b = true

/-- Behind these bytes an escape character at a line start is the last one. -/
def TildeOpen (before : List UInt8) : Prop :=
  ∃ front, before = front ++ [escapeChar] ∧ LineStart front

/-- A disconnect stands at a line start. -/
def HasDisconnect (stream : List UInt8) : Prop :=
  ∃ before after, stream = before ++ [escapeChar, disconnectChar] ++ after ∧ LineStart before

/-- The bytes in front of the first disconnect. -/
structure FirstDisconnect (stream before after : List UInt8) : Prop where
  split : stream = before ++ [escapeChar, disconnectChar] ++ after
  lineStart : LineStart before
  first : ¬ HasDisconnect before

instance (before : List UInt8) : Decidable (LineStart before) :=
  decidable_of_iff (before = [] ∨ before.getLast?.any isLineEnd = true)
    (by simp [LineStart, Option.any_eq_true])

instance (before : List UInt8) : Decidable (TildeOpen before) :=
  decidable_of_iff (before.getLast? = some escapeChar ∧ LineStart before.dropLast) <| by
    constructor
    · rintro ⟨last, lineStart⟩
      obtain ⟨front, rfl⟩ := List.getLast?_eq_some_iff.mp last
      rw [List.dropLast_concat] at lineStart
      exact ⟨front, rfl, lineStart⟩
    · rintro ⟨front, rfl, lineStart⟩
      exact ⟨List.getLast?_concat, by rwa [List.dropLast_concat]⟩

instance (stream : List UInt8) : Decidable (HasDisconnect stream) :=
  decidable_of_iff (∃ count < stream.length,
      (stream.drop count).take 2 = [escapeChar, disconnectChar] ∧
        LineStart (stream.take count)) <| by
    constructor
    · rintro ⟨count, -, pair, lineStart⟩
      refine ⟨stream.take count, (stream.drop count).drop 2, ?_, lineStart⟩
      rw [List.append_assoc, ← pair, List.take_append_drop, List.take_append_drop]
    · rintro ⟨before, after, rfl, lineStart⟩
      refine ⟨before.length, by simp, ?_, ?_⟩
      · rw [List.append_assoc, List.drop_left]
        rfl
      · rwa [List.append_assoc, List.take_left]

/-- The stream behind `before` with one tilde for each pair of tildes at a line
start. -/
def unescapeFrom (before : List UInt8) : List UInt8 → List UInt8
  | [] => []
  | b :: rest =>
      if b = escapeChar ∧ TildeOpen before then
        unescapeFrom (before ++ [b]) rest
      else
        b :: unescapeFrom (before ++ [b]) rest

/-- The stream with one tilde for each pair of tildes at a line start. -/
def unescape (stream : List UInt8) : List UInt8 :=
  unescapeFrom [] stream

/-! ## Line starts -/

theorem lineStart_concat (before : List UInt8) (b : UInt8) :
    LineStart (before ++ [b]) ↔ isLineEnd b = true := by
  simp [LineStart]

theorem tildeOpen_concat (before : List UInt8) (b : UInt8) :
    TildeOpen (before ++ [b]) ↔ b = escapeChar ∧ LineStart before := by
  constructor
  · rintro ⟨front, same, lineStart⟩
    obtain ⟨rfl, last⟩ := List.append_inj' same rfl
    exact ⟨(List.cons.inj last).1, lineStart⟩
  · rintro ⟨rfl, lineStart⟩
    exact ⟨before, rfl, lineStart⟩

theorem not_tildeOpen_nil : ¬ TildeOpen [] := by
  rintro ⟨front, same, -⟩
  simp at same

/-- A tilde does not end a line. -/
theorem not_tildeOpen_of_lineStart {before : List UInt8} (lineStart : LineStart before) :
    ¬ TildeOpen before := by
  rintro ⟨front, rfl, -⟩
  rw [lineStart_concat] at lineStart
  exact absurd lineStart (by decide)

/-- A disconnect is completed in these bytes. -/
def DisconnectsIn (before read : List UInt8) : Prop :=
  ∃ front after, read = front ++ disconnectChar :: after ∧ TildeOpen (before ++ front)

theorem hasDisconnect_iff (stream : List UInt8) :
    HasDisconnect stream ↔ DisconnectsIn [] stream := by
  constructor
  · rintro ⟨before, after, rfl, lineStart⟩
    exact ⟨before ++ [escapeChar], after, by simp, before, rfl, lineStart⟩
  · rintro ⟨front, after, rfl, before, same, lineStart⟩
    rw [List.nil_append] at same
    exact ⟨before, after, by simp [same], lineStart⟩

theorem not_disconnectsIn_nil (before : List UInt8) : ¬ DisconnectsIn before [] := by
  rintro ⟨front, after, same, -⟩
  simp at same

theorem disconnectsIn_cons (before rest : List UInt8) (b : UInt8) :
    DisconnectsIn before (b :: rest) ↔
      b = disconnectChar ∧ TildeOpen before ∨ DisconnectsIn (before ++ [b]) rest := by
  constructor
  · rintro ⟨front, after, same, tilde⟩
    cases front with
    | nil =>
        obtain ⟨rfl, -⟩ := List.cons.inj same
        rw [List.append_nil] at tilde
        exact Or.inl ⟨rfl, tilde⟩
    | cons first front =>
        obtain ⟨rfl, rfl⟩ := List.cons.inj same
        exact Or.inr ⟨front, after, rfl, by simpa using tilde⟩
  · rintro (⟨rfl, tilde⟩ | ⟨front, after, rfl, tilde⟩)
    · exact ⟨[], rest, rfl, by rwa [List.append_nil]⟩
    · exact ⟨b :: front, after, rfl, by simpa using tilde⟩

theorem disconnectsIn_append (before first second : List UInt8) :
    DisconnectsIn before (first ++ second) ↔
      DisconnectsIn before first ∨ DisconnectsIn (before ++ first) second := by
  induction first generalizing before with
  | nil => simp [not_disconnectsIn_nil]
  | cons b first inductionHypothesis =>
      rw [List.cons_append, disconnectsIn_cons, disconnectsIn_cons, inductionHypothesis, or_assoc,
        List.append_assoc, List.singleton_append]

theorem unescapeFrom_append (before first second : List UInt8) :
    unescapeFrom before (first ++ second) =
      unescapeFrom before first ++ unescapeFrom (before ++ first) second := by
  induction first generalizing before with
  | nil => simp [unescapeFrom]
  | cons b first inductionHypothesis =>
      rw [List.cons_append, unescapeFrom, unescapeFrom, inductionHypothesis, List.append_assoc,
        List.singleton_append]
      split
      · rfl
      · rfl

/-! ## The flags -/

/-- The tilde that is held back. -/
def heldBack (before : List UInt8) : List UInt8 :=
  if TildeOpen before then [escapeChar] else []

theorem heldBack_of_open {before : List UInt8} (tilde : TildeOpen before) :
    heldBack before = [escapeChar] :=
  if_pos tilde

theorem heldBack_of_not {before : List UInt8} (settled : ¬ TildeOpen before) :
    heldBack before = [] :=
  if_neg settled

namespace EscapeState

/-- The flags say what the bytes so far say. -/
structure Tracks (before : List UInt8) (state : EscapeState) : Prop where
  pending : state.escapePending = true ↔ TildeOpen before
  lineStart : state.escapePending = false → (state.atLineStart = true ↔ LineStart before)

variable {before read out : List UInt8} {state next : EscapeState} {b : UInt8}

theorem tracks_init : Tracks [] init where
  pending := by simp [init, not_tildeOpen_nil]
  lineStart := by simp [init, LineStart]

/-- The loop disconnects exactly behind an open tilde. -/
theorem Tracks.step_eq_none_iff (tracks : Tracks before state) :
    state.step b = none ↔ b = disconnectChar ∧ TildeOpen before := by
  rw [← tracks.pending, EscapeState.step]
  cases state.escapePending with
  | false =>
      refine iff_of_false ?_ (by simp)
      simp only [Bool.false_eq_true, if_false]
      split
      · simp
      · simp
  | true =>
      simp only [if_true, and_true]
      split
      · rename_i disconnects
        exact iff_of_true rfl disconnects
      · rename_i other
        refine iff_of_false ?_ other
        split
        · simp
        · simp

/-- One byte: the flags go on, and what is sent or held back is the stream with
its pairs of tildes merged. -/
theorem Tracks.step (tracks : Tracks before state) (stepped : state.step b = some (next, out)) :
    Tracks (before ++ [b]) next ∧
      out ++ heldBack (before ++ [b]) = heldBack before ++ unescapeFrom before [b] := by
  simp only [unescapeFrom]
  unfold EscapeState.step at stepped
  split at stepped
  · rename_i pending
    have tilde := tracks.pending.mp pending
    have unstarted : ¬ LineStart before := fun lineStart =>
      not_tildeOpen_of_lineStart lineStart tilde
    have settled : ¬ TildeOpen (before ++ [b]) := by
      rw [tildeOpen_concat]
      exact fun both => unstarted both.2
    rw [heldBack_of_open tilde, heldBack_of_not settled]
    split at stepped
    · contradiction
    · split at stepped
      · -- The second tilde of a pair.
        rename_i isTilde
        cases stepped
        rw [if_pos ⟨isTilde, tilde⟩]
        refine ⟨⟨by simp [settled], fun _ => ?_⟩, rfl⟩
        rw [lineStart_concat, isTilde]
        exact iff_of_false (by decide) (by decide)
      · rename_i other
        cases stepped
        rw [if_neg fun both => other both.1]
        exact ⟨⟨by simp [settled], fun _ => (lineStart_concat before b).symm⟩, rfl⟩
  · rename_i settled
    rw [Bool.not_eq_true] at settled
    have unopened : ¬ TildeOpen before := by
      rw [← tracks.pending, settled]
      decide
    have flag := tracks.lineStart settled
    rw [heldBack_of_not unopened, if_neg fun both => unopened both.2]
    split at stepped
    · rename_i opens
      cases stepped
      have tilde : TildeOpen (before ++ [b]) :=
        (tildeOpen_concat before b).mpr ⟨opens.1, flag.mp opens.2⟩
      rw [heldBack_of_open tilde, opens.1]
      exact ⟨⟨by simp [← opens.1, tilde], by simp⟩, rfl⟩
    · rename_i plain
      cases stepped
      have closed : ¬ TildeOpen (before ++ [b]) := by
        rw [tildeOpen_concat, ← flag]
        exact plain
      rw [heldBack_of_not closed]
      exact ⟨⟨by simp [closed], fun _ => (lineStart_concat before b).symm⟩, rfl⟩

/-- A read is cut short exactly if a disconnect is completed in it. -/
theorem Tracks.filter_eq_none_iff (tracks : Tracks before state) :
    state.filter read = none ↔ DisconnectsIn before read := by
  induction read generalizing before state with
  | nil => simp [EscapeState.filter, not_disconnectsIn_nil]
  | cons b rest inductionHypothesis =>
      rw [EscapeState.filter, disconnectsIn_cons, ← tracks.step_eq_none_iff]
      cases stepped : state.step b with
      | none => simp
      | some moved =>
          obtain ⟨next, out⟩ := moved
          have onward := inductionHypothesis (tracks.step stepped).1
          simp [onward]

/-- One read, if it is not cut short. -/
theorem Tracks.filter (tracks : Tracks before state)
    (filtered : state.filter read = some (next, out)) :
    Tracks (before ++ read) next ∧
      out ++ heldBack (before ++ read) = heldBack before ++ unescapeFrom before read := by
  induction read generalizing before state out with
  | nil =>
      cases filtered
      rw [List.append_nil]
      exact ⟨tracks, by simp [unescapeFrom]⟩
  | cons b rest inductionHypothesis =>
      rw [EscapeState.filter] at filtered
      obtain ⟨⟨middle, first⟩, stepped, filtered⟩ := Option.bind_eq_some_iff.mp filtered
      obtain ⟨⟨last, more⟩, onward, same⟩ := Option.map_eq_some_iff.mp filtered
      cases same
      obtain ⟨moved, firstOut⟩ := tracks.step stepped
      obtain ⟨ended, restOut⟩ := inductionHypothesis moved onward
      rw [List.append_assoc, List.singleton_append] at ended restOut
      refine ⟨ended, ?_⟩
      rw [List.append_assoc, restOut, ← List.append_assoc, firstOut, List.append_assoc,
        ← unescapeFrom_append, List.singleton_append]

end EscapeState

/-! ## The reads -/

section Reads

variable {before : List UInt8} {state : EscapeState} {reads : List (List UInt8)}

open EscapeState

/-- A read that is not cut short is forwarded. -/
theorem readStdin_cons {read out : List UInt8} {next : EscapeState} (filled : read ≠ [])
    (filtered : state.filter read = some (next, out)) :
    (readStdin state (read :: reads)).disconnected = (readStdin next reads).disconnected ∧
      (readStdin state (read :: reads)).sent.flatten =
        out ++ (readStdin next reads).sent.flatten := by
  rw [readStdin, if_neg (by simpa using filled), filtered]
  cases out with
  | nil => exact ⟨rfl, rfl⟩
  | cons b more => exact ⟨rfl, rfl⟩

/-- Without a disconnect, all is sent but a tilde that is held back at the end. -/
theorem sent_of_undisturbed (tracks : Tracks before state) (filled : ∀ read ∈ reads, read ≠ [])
    (undisturbed : ¬ DisconnectsIn before reads.flatten) :
    (readStdin state reads).disconnected = false ∧
      (readStdin state reads).sent.flatten ++ heldBack (before ++ reads.flatten) =
        heldBack before ++ unescapeFrom before reads.flatten := by
  induction reads generalizing before state with
  | nil => simp [readStdin, unescapeFrom]
  | cons read rest inductionHypothesis =>
      have parts := List.forall_mem_cons.mp filled
      rw [List.flatten_cons, disconnectsIn_append, not_or, ← tracks.filter_eq_none_iff]
        at undisturbed
      obtain ⟨⟨next, out⟩, filtered⟩ := Option.ne_none_iff_exists'.mp undisturbed.1
      obtain ⟨moved, firstOut⟩ := tracks.filter filtered
      obtain ⟨running, restOut⟩ := inductionHypothesis moved parts.2 undisturbed.2
      have sent := @readStdin_cons state rest read out next parts.1 filtered
      refine ⟨sent.1.trans running, ?_⟩
      rw [sent.2, List.flatten_cons, ← List.append_assoc before, List.append_assoc, restOut,
        ← List.append_assoc, firstOut, List.append_assoc, ← unescapeFrom_append]

/-- With a disconnect, what precedes the read that completes it is sent. -/
theorem sent_of_disconnect (tracks : Tracks before state) (filled : ∀ read ∈ reads, read ≠ [])
    (disturbed : DisconnectsIn before reads.flatten) :
    (readStdin state reads).disconnected = true ∧
      ∃ earlier read later, reads = earlier ++ read :: later ∧
        ¬ DisconnectsIn before earlier.flatten ∧
        DisconnectsIn (before ++ earlier.flatten) read ∧
        (readStdin state reads).sent.flatten ++ heldBack (before ++ earlier.flatten) =
          heldBack before ++ unescapeFrom before earlier.flatten := by
  induction reads generalizing before state with
  | nil => exact absurd disturbed (not_disconnectsIn_nil before)
  | cons read rest inductionHypothesis =>
      have parts := List.forall_mem_cons.mp filled
      cases filtered : state.filter read with
      | none =>
          have here := tracks.filter_eq_none_iff.mp filtered
          have outcome : readStdin state (read :: rest) = ⟨[], true⟩ := by
            rw [readStdin, if_neg (by simpa using parts.1), filtered]
          rw [outcome]
          exact ⟨rfl, [], read, rest, rfl, not_disconnectsIn_nil before, by simpa using here,
            by simp [unescapeFrom]⟩
      | some moved =>
          obtain ⟨next, out⟩ := moved
          obtain ⟨goesOn, firstOut⟩ := tracks.filter filtered
          have undisturbed : ¬ DisconnectsIn before read := by
            rw [← tracks.filter_eq_none_iff, filtered]
            simp
          rw [List.flatten_cons, disconnectsIn_append, or_iff_right undisturbed] at disturbed
          obtain ⟨stopped, earlier, last, later, rfl, quiet, completes, restOut⟩ :=
            inductionHypothesis goesOn parts.2 disturbed
          have sent :=
            @readStdin_cons state (earlier ++ last :: later) read out next parts.1 filtered
          refine ⟨sent.1.trans stopped, read :: earlier, last, later, rfl, ?_, ?_, ?_⟩
          · rw [List.flatten_cons, disconnectsIn_append, not_or]
            exact ⟨undisturbed, quiet⟩
          · rwa [List.flatten_cons, ← List.append_assoc]
          · rw [sent.2, List.flatten_cons, ← List.append_assoc before, List.append_assoc, restOut,
              ← List.append_assoc, firstOut, List.append_assoc, ← unescapeFrom_append]

end Reads

/-- **All but the pairs of tildes is forwarded unchanged exactly if the stream
does not end in a tilde at a line start**, however it is cut into reads. -/
theorem forwards_everything_iff {reads : List (List UInt8)} (filled : ∀ read ∈ reads, read ≠ [])
    (undisturbed : ¬ HasDisconnect reads.flatten) :
    (readStdin .init reads).sent.flatten = unescape reads.flatten ↔ ¬ TildeOpen reads.flatten := by
  rw [hasDisconnect_iff] at undisturbed
  obtain ⟨-, sent⟩ := sent_of_undisturbed EscapeState.tracks_init filled undisturbed
  rw [heldBack_of_not not_tildeOpen_nil, List.nil_append, List.nil_append] at sent
  rw [unescape, ← sent, heldBack]
  split
  · rename_i tilde
    simp [tilde]
  · rename_i settled
    simp [settled]

/-- `ls\n~~x` in two reads. -/
theorem doubledTilde_forwarded :
    (readStdin .init [[108, 115, 10, 126], [126, 120]]).sent.flatten = [108, 115, 10, 126, 120] :=
  (forwards_everything_iff (by decide) (by decide)).mpr (by decide)

/-- A stream that ends in a tilde at a line start loses it. -/
theorem lastTilde_dropped :
    ¬ HasDisconnect [108, 115, 10, 126] ∧
      (readStdin .init [[108, 115, 10, 126]]).sent.flatten = [108, 115, 10] ∧
      (readStdin .init [[108, 115, 10, 126]]).sent.flatten ≠ unescape [108, 115, 10, 126] := by
  decide

/-! ## Two partitions -/

/-- The two partitions forward the same bytes and take the same decision, and all
that precedes a disconnect is forwarded in both. -/
structure ChunkingInvisible (reads others : List (List UInt8)) : Prop where
  sameBytes : (readStdin .init reads).sent.flatten = (readStdin .init others).sent.flatten
  sameDecision : (readStdin .init reads).disconnected = (readStdin .init others).disconnected
  precedingSent : ∀ before after, FirstDisconnect reads.flatten before after →
    (readStdin .init reads).sent.flatten = unescape before ∧
      (readStdin .init others).sent.flatten = unescape before

/-- A read ends in front of the disconnect behind `before`, or inside it. -/
def EndsAtDisconnect (reads : List (List UInt8)) (before : List UInt8) : Prop :=
  ∃ earlier later, reads = earlier ++ later ∧
    (earlier.flatten = before ∨ earlier.flatten = before ++ [escapeChar])

theorem exists_firstDisconnect {stream : List UInt8} (disconnects : HasDisconnect stream) :
    ∃ before after, FirstDisconnect stream before after := by
  induction length : stream.length using Nat.strongRecOn generalizing stream with
  | ind count inductionHypothesis =>
      obtain ⟨before, after, rfl, lineStart⟩ := disconnects
      by_cases first : HasDisconnect before
      · have shorter : before.length < count := by
          rw [← length]
          simp
        obtain ⟨front, rest, earliest⟩ := inductionHypothesis _ shorter first rfl
        refine ⟨front, rest ++ [escapeChar, disconnectChar] ++ after, ?_, earliest.lineStart,
          earliest.first⟩
        rw [earliest.split]
        simp
      · exact ⟨before, after, rfl, lineStart, first⟩

/-- Nothing disconnects before the first disconnect is complete. -/
theorem FirstDisconnect.quiet {stream before after : List UInt8}
    (first : FirstDisconnect stream before after) :
    ¬ DisconnectsIn [] (before ++ [escapeChar]) := by
  rw [disconnectsIn_append, ← hasDisconnect_iff, or_iff_right first.first, disconnectsIn_cons]
  rintro (⟨other, -⟩ | completed)
  · exact absurd other (by decide)
  · exact not_disconnectsIn_nil _ completed

/-- Something is sent for bytes behind which no tilde is held back. -/
theorem unescapeFrom_ne_nil {before : List UInt8} (settled : ¬ TildeOpen before) {more : List UInt8}
    (nonempty : more ≠ []) : unescapeFrom before more ≠ [] := by
  cases more with
  | nil => contradiction
  | cons b rest =>
      rw [unescapeFrom, if_neg fun both => settled both.2]
      exact List.cons_ne_nil _ _

/-- Only the read that completes the disconnect can start there. -/
theorem endsAtDisconnect_iff {stream before after read : List UInt8}
    (first : FirstDisconnect stream before after) {earlier later : List (List UInt8)}
    (starts : earlier.flatten <+: before ++ [escapeChar])
    (completes : DisconnectsIn earlier.flatten read) :
    EndsAtDisconnect (earlier ++ read :: later) before ↔
      earlier.flatten = before ∨ earlier.flatten = before ++ [escapeChar] := by
  constructor
  · rintro ⟨front, rest, split, ends⟩
    have reaches : before <+: front.flatten ∧ front.flatten <+: before ++ [escapeChar] := by
      rcases ends with same | same
      · rw [same]
        exact ⟨List.prefix_refl _, List.prefix_append _ _⟩
      · rw [same]
        exact ⟨List.prefix_append _ _, List.prefix_refl _⟩
    rcases List.append_eq_append_iff.mp split with ⟨more, rfl, same⟩ | ⟨more, rfl, -⟩
    · cases more with
      | nil => rwa [List.append_nil] at ends
      | cons next more =>
          obtain ⟨rfl, -⟩ := List.cons.inj same
          obtain ⟨tail, whole⟩ := reaches.2
          have completed : DisconnectsIn [] (before ++ [escapeChar]) := by
            rw [← whole, List.flatten_append, List.flatten_cons, disconnectsIn_append,
              disconnectsIn_append, disconnectsIn_append, List.nil_append]
            exact Or.inl (Or.inr (Or.inl completes))
          exact absurd completed first.quiet
    · have longer : before <+: (front ++ more).flatten := by
        rw [List.flatten_append]
        exact reaches.1.trans (List.prefix_append _ _)
      rcases List.prefix_concat_iff.mp starts with whole | part
      · exact Or.inr whole
      · exact Or.inl (part.eq_of_length_le longer.length_le)
  · intro ends
    exact ⟨earlier, read :: later, rfl, ends⟩

/-- What precedes the first disconnect is all sent exactly if a read ends in
front of the disconnect or inside it. -/
theorem sent_eq_unescape_iff {reads : List (List UInt8)} (filled : ∀ read ∈ reads, read ≠ [])
    {before after : List UInt8} (first : FirstDisconnect reads.flatten before after) :
    (readStdin .init reads).sent.flatten = unescape before ↔ EndsAtDisconnect reads before := by
  have disturbed : DisconnectsIn [] reads.flatten := by
    rw [← hasDisconnect_iff]
    exact ⟨before, after, first.split, first.lineStart⟩
  obtain ⟨-, earlier, read, later, rfl, quiet, completes, sent⟩ :=
    sent_of_disconnect EscapeState.tracks_init filled disturbed
  rw [heldBack_of_not not_tildeOpen_nil, List.nil_append, List.nil_append] at sent
  have settled : ¬ TildeOpen before := not_tildeOpen_of_lineStart first.lineStart
  -- The read that completes the disconnect starts at its last byte or before.
  have starts : earlier.flatten <+: before ++ [escapeChar] := by
    have split := first.split
    rw [List.flatten_append, show before ++ [escapeChar, disconnectChar] ++ after =
      before ++ [escapeChar] ++ disconnectChar :: after by simp] at split
    rcases List.append_eq_append_iff.mp split with ⟨rest, whole, -⟩ | ⟨rest, whole, same⟩
    · exact ⟨rest, whole.symm⟩
    · cases rest with
      | nil =>
          rw [List.append_nil] at whole
          exact whole ▸ List.prefix_refl _
      | cons b rest =>
          obtain ⟨rfl, -⟩ := List.cons.inj same
          exact absurd ⟨_, rest, whole, before, rfl, first.lineStart⟩ quiet
  rw [endsAtDisconnect_iff first starts completes]
  rcases List.prefix_concat_iff.mp starts with whole | ⟨rest, whole⟩
  · refine iff_of_true ?_ (Or.inr whole)
    have tilde : TildeOpen (before ++ [escapeChar]) := ⟨before, rfl, first.lineStart⟩
    rw [whole, heldBack_of_open tilde, unescapeFrom_append] at sent
    rw [List.nil_append, unescapeFrom, if_neg fun both => settled both.2, unescapeFrom] at sent
    exact List.append_cancel_right sent
  · cases rest with
    | nil =>
        rw [List.append_nil] at whole
        refine iff_of_true ?_ (Or.inl whole)
        rw [whole, heldBack_of_not settled, List.append_nil] at sent
        exact sent
    | cons b rest =>
        refine iff_of_false ?_ ?_
        · intro all
          have split : unescape before =
              unescapeFrom [] earlier.flatten ++ unescapeFrom earlier.flatten (b :: rest) := by
            rw [unescape, ← whole, unescapeFrom_append, List.nil_append]
          rw [all, split, List.append_assoc, List.append_right_eq_self, List.append_eq_nil_iff]
            at sent
          have unopened : ¬ TildeOpen earlier.flatten := by
            intro tilde
            rw [heldBack_of_open tilde] at sent
            exact List.cons_ne_nil _ _ sent.2
          exact unescapeFrom_ne_nil unopened (List.cons_ne_nil b rest) sent.1
        · have lengths := congrArg List.length whole
          rw [List.length_append, List.length_cons] at lengths
          rintro (same | same)
          · rw [same] at lengths
            omega
          · rw [same, List.length_append] at lengths
            omega

/-- **Cutting a stream into other reads changes nothing, and all that precedes a
disconnect is forwarded, exactly if the stream has no disconnect or a read ends
in front of the first one or inside it, in both partitions.** -/
theorem chunking_invisible_iff {reads others : List (List UInt8)}
    (filled : ∀ read ∈ reads, read ≠ []) (othersFilled : ∀ read ∈ others, read ≠ [])
    (same : others.flatten = reads.flatten) :
    ChunkingInvisible reads others ↔
      ∀ before after, FirstDisconnect reads.flatten before after →
        EndsAtDisconnect reads before ∧ EndsAtDisconnect others before := by
  constructor
  · intro invisible before after first
    have preceding := invisible.precedingSent before after first
    exact ⟨(sent_eq_unescape_iff filled first).mp preceding.1,
      (sent_eq_unescape_iff othersFilled (same ▸ first)).mp preceding.2⟩
  · intro ends
    have preceding : ∀ before after, FirstDisconnect reads.flatten before after →
        (readStdin .init reads).sent.flatten = unescape before ∧
          (readStdin .init others).sent.flatten = unescape before := by
      intro before after first
      have both := ends before after first
      exact ⟨(sent_eq_unescape_iff filled first).mpr both.1,
        (sent_eq_unescape_iff othersFilled (same ▸ first)).mpr both.2⟩
    by_cases disconnects : HasDisconnect reads.flatten
    · have stops := (hasDisconnect_iff _).mp disconnects
      obtain ⟨before, after, first⟩ := exists_firstDisconnect disconnects
      have sent := preceding before after first
      have decision := sent_of_disconnect EscapeState.tracks_init filled stops
      have otherDecision := sent_of_disconnect EscapeState.tracks_init othersFilled (same ▸ stops)
      exact ⟨sent.1.trans sent.2.symm, decision.1.trans otherDecision.1.symm, preceding⟩
    · have quiet := mt (hasDisconnect_iff _).mpr disconnects
      have whole := sent_of_undisturbed EscapeState.tracks_init filled quiet
      have otherWhole := sent_of_undisturbed EscapeState.tracks_init othersFilled (same ▸ quiet)
      rw [same] at otherWhole
      exact ⟨List.append_cancel_right (whole.2.trans otherWhole.2.symm),
        whole.1.trans otherWhole.1.symm, preceding⟩

/-- `ls\n~.` typed, with the disconnect in reads of its own. -/
theorem typedDisconnect_invisible :
    ChunkingInvisible [[108, 115, 10], [126, 46]] [[108], [115, 10], [126], [46]] := by
  have ends : ∀ before after, FirstDisconnect [108, 115, 10, 126, 46] before after →
      before = [108, 115, 10] := by
    intro before after first
    have split := first.split
    rcases before with _ | ⟨b, _ | ⟨c, _ | ⟨d, _ | ⟨e, rest⟩⟩⟩⟩
    · simp [escapeChar] at split
    · simp [escapeChar] at split
    · simp [escapeChar] at split
    · simp only [List.cons_append, List.nil_append, List.cons.injEq] at split
      rw [split.1, split.2.1, split.2.2.1]
    · rcases rest with _ | ⟨f, rest⟩
      · simp [escapeChar] at split
      · simp at split
  refine (@chunking_invisible_iff [[108, 115, 10], [126, 46]] [[108], [115, 10], [126], [46]]
    (by decide) (by decide) rfl).mpr ?_
  intro before after first
  rw [ends before after first]
  exact ⟨⟨[[108, 115, 10]], [[126, 46]], rfl, Or.inl rfl⟩,
    ⟨[[108], [115, 10], [126]], [[46]], rfl, Or.inr rfl⟩⟩

/-- `ls\n~.` pasted loses the line in front of the disconnect, which is forwarded
if it is typed. -/
theorem pastedDisconnect_drops_line :
    (readStdin .init [[108, 115, 10, 126, 46]]).sent = [] ∧
      (readStdin .init [[108, 115, 10], [126, 46]]).sent = [[108, 115, 10]] ∧
      ¬ ChunkingInvisible [[108, 115, 10, 126, 46]] [[108, 115, 10], [126, 46]] := by
  refine ⟨by decide, by decide, ?_⟩
  intro invisible
  exact absurd invisible.sameBytes (by decide)

end Etr.Client
