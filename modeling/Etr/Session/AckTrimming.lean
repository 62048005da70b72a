import Etr.Library.Unwinding
import Etr.Session.Runs
import Mathlib.Data.List.Perm.Basic

/-!
Contract: acknowledgements are invisible to a resume.

Owns the relation between a session that trims by acknowledgements and the same
session without them, its preservation by every operation, the independence of
the order in which acknowledgements are applied, and what a resume replays from
both.

Does not own which acknowledgements a peer sends.
-/

namespace Etr.Session

open Etr.Library

/-! ## Histories -/

/-- Two acknowledgements trim like the higher one. -/
theorem trim_trim (first second : Nat) (history : List (Nat × Payload)) (bytes : Nat) :
    StreamState.trim second (StreamState.trim first history bytes).1
        (StreamState.trim first history bytes).2 =
      StreamState.trim (max first second) history bytes := by
  induction history generalizing bytes with
  | nil => rfl
  | cons entry rest inductionHypothesis =>
      by_cases covered : entry.1 ≤ first
      · have either : entry.1 ≤ max first second := Nat.le_trans covered (Nat.le_max_left _ _)
        simp only [StreamState.trim, if_pos covered, if_pos either]
        exact inductionHypothesis (bytes - entry.2.length)
      · simp only [StreamState.trim, if_neg covered]
        by_cases later : entry.1 ≤ second
        · have either : entry.1 ≤ max first second := Nat.le_trans later (Nat.le_max_right _ _)
          simp only [if_pos later, if_pos either]
          rw [Nat.max_eq_right (by omega)]
        · have neither : ¬ entry.1 ≤ max first second := by omega
          simp only [if_neg later, if_neg neither]

/-- What an acknowledgement leaves out is nothing a replay above it needs. -/
theorem filter_dropWhile_above (watermark : Nat) (history : List (Nat × Payload)) :
    (history.dropWhile fun entry => decide (entry.1 ≤ watermark)).filter
        (fun entry => decide (watermark < entry.1)) =
      history.filter fun entry => decide (watermark < entry.1) := by
  induction history with
  | nil => rfl
  | cons entry rest inductionHypothesis =>
      by_cases covered : entry.1 ≤ watermark
      · simp [covered, Nat.not_lt.mpr covered, inductionHypothesis]
      · simp [covered]

namespace StreamState

theorem acknowledgeUpTo_acknowledgeUpTo (stream : StreamState) (first second : Nat) :
    (stream.acknowledgeUpTo first).acknowledgeUpTo second =
      stream.acknowledgeUpTo (max first second) := by
  simp only [acknowledgeUpTo, trim_trim]

theorem acknowledgeUpTo_comm (stream : StreamState) (first second : Nat) :
    (stream.acknowledgeUpTo first).acknowledgeUpTo second =
      (stream.acknowledgeUpTo second).acknowledgeUpTo first := by
  rw [acknowledgeUpTo_acknowledgeUpTo, acknowledgeUpTo_acknowledgeUpTo, Nat.max_comm]

theorem replayFrom_acknowledgeUpTo (stream : StreamState) (watermark : Nat) :
    (stream.acknowledgeUpTo watermark).replayFrom watermark = stream.replayFrom watermark := by
  simp only [replayFrom, acknowledgeUpTo, trim_eq_dropWhile]
  exact filter_dropWhile_above watermark stream.sendHistory

end StreamState

/-! ## One stream, trimmed and not -/

/-- Both streams sent the same; what the trimmed one lacks was evicted by the
other too or lies at or below the watermark. -/
def TrimmedStream (watermark : Nat) (trimmed bare : StreamState) : Prop :=
  ∃ log dropped evicted, Window log dropped trimmed ∧ Window log evicted bare ∧
    dropped ≤ max evicted watermark

namespace TrimmedStream

variable {watermark : Nat} {trimmed bare : StreamState}

theorem new (streamId : Nat) (streamType : StreamType) :
    TrimmedStream watermark (StreamState.new streamId streamType)
      (StreamState.new streamId streamType) :=
  ⟨[], 0, 0, window_new streamId streamType, window_new streamId streamType, Nat.zero_le _⟩

/-- A send evicts no more from the trimmed stream. -/
theorem numberAndRecord (related : TrimmedStream watermark trimmed bare) (payload : Payload) :
    TrimmedStream watermark (trimmed.numberAndRecord payload) (bare.numberAndRecord payload) := by
  rcases related with ⟨log, dropped, evicted, trimmedWindow, bareWindow, bounded⟩
  obtain ⟨keptBare, grownBare, bareNext, -⟩ := bareWindow.numberAndRecord payload
  obtain ⟨kept, -, trimmedNext, least⟩ := trimmedWindow.numberAndRecord payload
  refine ⟨log ++ [payload], kept, keptBare, trimmedNext, bareNext, ?_⟩
  have underCap := StreamState.historyBytes_numberAndRecord_le bareWindow.bytes payload
  rw [bareNext.bytes, bareNext.history] at underCap
  -- What the bare stream still holds fits, so the trimmed one stops there.
  have fits := Nat.le_trans
    (totalBytes_drop_le (Nat.le_max_left keptBare dropped) _) underCap
  have stopped := least (max keptBare dropped) (Nat.le_max_right _ _) fits
  omega

theorem acknowledgeUpTo (related : TrimmedStream watermark trimmed bare) {ackSeq : Nat}
    (covered : ackSeq ≤ watermark) :
    TrimmedStream watermark (trimmed.acknowledgeUpTo ackSeq) bare := by
  rcases related with ⟨log, dropped, evicted, trimmedWindow, bareWindow, bounded⟩
  exact ⟨log, _, evicted, trimmedWindow.acknowledgeUpTo ackSeq, bareWindow, by omega⟩

/-- Only the sending halves matter. -/
theorem congr {otherTrimmed otherBare : StreamState}
    (related : TrimmedStream watermark trimmed bare)
    (trimmedSame : otherTrimmed.nextOutSeq = trimmed.nextOutSeq ∧
      otherTrimmed.sendHistory = trimmed.sendHistory ∧
      otherTrimmed.historyBytes = trimmed.historyBytes)
    (bareSame : otherBare.nextOutSeq = bare.nextOutSeq ∧
      otherBare.sendHistory = bare.sendHistory ∧
      otherBare.historyBytes = bare.historyBytes) :
    TrimmedStream watermark otherTrimmed otherBare := by
  rcases related with ⟨log, dropped, evicted, trimmedWindow, bareWindow, bounded⟩
  exact ⟨log, dropped, evicted,
    trimmedWindow.congr trimmedSame.1 trimmedSame.2.1 trimmedSame.2.2,
    bareWindow.congr bareSame.1 bareSame.2.1 bareSame.2.2, bounded⟩

/-- A replay above the watermark loses nothing by trimming. -/
theorem replayFrom (related : TrimmedStream watermark trimmed bare) :
    bare.replayFrom watermark <:+ trimmed.replayFrom watermark := by
  rcases related with ⟨log, dropped, evicted, trimmedWindow, bareWindow, bounded⟩
  rw [trimmedWindow.replayFrom, bareWindow.replayFrom]
  have deeper : max evicted watermark =
      max dropped watermark + (max evicted watermark - max dropped watermark) := by
    omega
  rw [deeper, ← List.drop_drop]
  exact List.drop_suffix _ _

end TrimmedStream

/-! ## Sessions -/

/-- The operations the comparison leaves out. -/
def isAcknowledge : SessionOp → Bool
  | .acknowledge _ => true
  | _ => false

/-- Recording evicts nothing. -/
def KeepsAll (session : SessionState) : SessionOp → Prop
  | .send streamId payload =>
      ∀ stream, session.streams streamId = some stream →
        stream.historyBytes + payload.length ≤ maxHistoryBytes
  | _ => True

/-- No acknowledgement the operation carries exceeds the watermarks. -/
def Covered (watermarks : WatermarkMap) : SessionOp → Prop
  | .acknowledge acks =>
      ∀ streamId ackSeq, acks streamId = some ackSeq → ackSeq ≤ (watermarks streamId).getD 0
  | _ => True

/-- The two sessions have the same streams, trimmed and not. -/
def Trimmed (watermarks : WatermarkMap) (trimmed bare : SessionState) : Prop :=
  ∀ streamId, Option.Rel (TrimmedStream ((watermarks streamId).getD 0))
    (trimmed.streams streamId) (bare.streams streamId)

namespace SessionState

theorem applyServerAcks_comm (session : SessionState) (first second : WatermarkMap) :
    (session.applyServerAcks first).applyServerAcks second =
      (session.applyServerAcks second).applyServerAcks first := by
  refine SessionState.ext ?_ ?_ ?_
  · rfl
  · rfl
  funext streamId
  simp only [applyServerAcks]
  cases first streamId with
  | none => rfl
  | some firstSeq =>
      cases second streamId with
      | none => rfl
      | some secondSeq =>
          cases session.streams streamId with
          | none => rfl
          | some stream =>
              exact congrArg some (StreamState.acknowledgeUpTo_comm stream firstSeq secondSeq)

/-- Acknowledgements between sends may be applied in any order. -/
theorem afterOps_acknowledge_perm (session : SessionState) {maps others : List WatermarkMap}
    (reordered : maps.Perm others) :
    session.afterOps (maps.map .acknowledge) = session.afterOps (others.map .acknowledge) := by
  unfold afterOps
  rw [List.foldl_map, List.foldl_map]
  apply reordered.foldl_eq'
  intro first _ second _ state
  exact applyServerAcks_comm state first second

/-- Trimming by the watermarks of a resume does not change what it replays. -/
theorem collectReplays_applyServerAcks (session : SessionState) (watermarks : WatermarkMap) :
    (session.applyServerAcks watermarks).collectReplays watermarks =
      session.collectReplays watermarks := by
  funext streamId
  simp only [collectReplays, applyServerAcks]
  cases acknowledged : watermarks streamId with
  | none => rfl
  | some ackSeq =>
      cases session.streams streamId with
      | none => rfl
      | some stream =>
          simp only [Option.map_some, Option.bind_some, Option.getD_some,
            StreamState.replayFrom_acknowledgeUpTo]

end SessionState

theorem rel_map {watermark : Nat} {trimmed bare : Option StreamState}
    {update : StreamState → StreamState}
    (related : Option.Rel (TrimmedStream watermark) trimmed bare)
    (kept : ∀ {left right}, TrimmedStream watermark left right →
      TrimmedStream watermark (update left) (update right)) :
    Option.Rel (TrimmedStream watermark) (trimmed.map update) (bare.map update) := by
  cases related with
  | none => exact .none
  | some streams => exact .some (kept streams)

theorem rel_map_left {watermark : Nat} {trimmed bare : Option StreamState}
    {update : StreamState → StreamState}
    (related : Option.Rel (TrimmedStream watermark) trimmed bare)
    (kept : ∀ {left right}, TrimmedStream watermark left right →
      TrimmedStream watermark (update left) right) :
    Option.Rel (TrimmedStream watermark) (trimmed.map update) bare := by
  cases related with
  | none => exact .none
  | some streams => exact .some (kept streams)

theorem rel_getD {watermark : Nat} {trimmed bare : Option StreamState}
    (related : Option.Rel (TrimmedStream watermark) trimmed bare) {fresh : StreamState}
    (freshRelated : TrimmedStream watermark fresh fresh) :
    TrimmedStream watermark (trimmed.getD fresh) (bare.getD fresh) := by
  cases related with
  | none => exact freshRelated
  | some streams => exact streams

namespace Trimmed

variable {watermarks : WatermarkMap} {trimmed bare : SessionState}

theorem new (sessionId : List UInt8) (passkey : String) :
    Trimmed watermarks (SessionState.new sessionId passkey)
      (SessionState.new sessionId passkey) := by
  intro streamId
  by_cases isTerminal : streamId = 0
  · simpa [SessionState.new, isTerminal] using TrimmedStream.new 0 .terminal
  · simp [SessionState.new, isTerminal]

/-- An acknowledgement below the watermarks concerns the trimmed session only. -/
theorem applyServerAcks (related : Trimmed watermarks trimmed bare) {acks : WatermarkMap}
    (covered : Covered watermarks (.acknowledge acks)) :
    Trimmed watermarks (trimmed.applyServerAcks acks) bare := by
  intro streamId
  have streams := related streamId
  simp only [SessionState.applyServerAcks]
  cases acknowledged : acks streamId with
  | none => exact streams
  | some ackSeq =>
      exact rel_map_left streams fun pair =>
        pair.acknowledgeUpTo (covered streamId ackSeq acknowledged)

/-- Every other operation keeps the relation when both sessions take it. -/
theorem apply (related : Trimmed watermarks trimmed bare) {op : SessionOp}
    (visible : isAcknowledge op = false) :
    Trimmed watermarks (trimmed.apply op) (bare.apply op) := by
  intro streamId
  have streams := related streamId
  rw [SessionState.streams_apply, SessionState.streams_apply]
  cases op with
  | openStream opened streamType =>
      simp only [SessionOp.onStream]
      split
      · exact .some (rel_getD streams (TrimmedStream.new opened streamType))
      · exact streams
  | closeStream closed =>
      simp only [SessionOp.onStream]
      split
      · exact rel_map streams fun pair => pair.congr ⟨rfl, rfl, rfl⟩ ⟨rfl, rfl, rfl⟩
      · exact streams
  | send sender payload =>
      simp only [SessionOp.onStream]
      split
      · exact rel_map streams fun pair => pair.numberAndRecord payload
      · exact streams
  | acknowledge acks => contradiction
  | chunk seq =>
      simp only [SessionOp.onStream]
      split
      · exact rel_map streams fun pair => pair.congr ⟨rfl, rfl, rfl⟩ ⟨rfl, rfl, rfl⟩
      · exact streams

end Trimmed

/-! ## Sessions that evicted nothing -/

/-- Every stream still holds all it sent. -/
def Complete (session : SessionState) : Prop :=
  ∀ streamId stream, session.streams streamId = some stream → ∃ log, Window log 0 stream

theorem Window.numberAndRecord_of_fits {log : List Payload} {stream : StreamState}
    (window : Window log 0 stream) {payload : Payload}
    (fits : stream.historyBytes + payload.length ≤ maxHistoryBytes) :
    Window (log ++ [payload]) 0 (stream.numberAndRecord payload) := by
  obtain ⟨kept, -, next, least⟩ := window.numberAndRecord payload
  have all : totalBytes ((numberFrom 1 (log ++ [payload])).drop 0) ≤ maxHistoryBytes := by
    have counted := window.bytes
    rw [window.history, List.drop_zero, totalBytes_numberFrom] at counted
    rw [List.drop_zero, totalBytes_numberFrom, List.map_append, List.sum_append, ← counted]
    simpa using fits
  rw [Nat.le_zero.mp (least 0 (Nat.le_refl 0) all)] at next
  exact next

/-- The dropped prefix is determined by the stream. -/
theorem Window.dropped_eq {log other : List Payload} {dropped evicted : Nat}
    {stream : StreamState} (window : Window log dropped stream)
    (same : Window other evicted stream) : dropped = evicted := by
  have next := window.next.symm.trans same.next
  have held := congrArg List.length (window.history.symm.trans same.history)
  rw [List.length_drop, List.length_drop, length_numberFrom, length_numberFrom] at held
  have inLog := window.inLog
  have otherInLog := same.inLog
  omega

theorem complete_new (sessionId : List UInt8) (passkey : String) :
    Complete (SessionState.new sessionId passkey) := by
  intro streamId stream held
  by_cases isTerminal : streamId = 0
  · simp only [SessionState.new, if_pos isTerminal, Option.some.injEq] at held
    exact ⟨[], held ▸ window_new 0 .terminal⟩
  · simp [SessionState.new, isTerminal] at held

theorem Complete.apply {session : SessionState} (complete : Complete session) {op : SessionOp}
    (keeps : KeepsAll session op) (visible : isAcknowledge op = false) :
    Complete (session.apply op) := by
  intro streamId stream held
  rw [SessionState.streams_apply] at held
  cases op with
  | openStream opened streamType =>
      simp only [SessionOp.onStream] at held
      split at held
      · cases existing : session.streams streamId with
        | none =>
            rw [existing, Option.getD_none, Option.some.injEq] at held
            exact ⟨[], held ▸ window_new opened streamType⟩
        | some found =>
            rw [existing, Option.getD_some, Option.some.injEq] at held
            exact held ▸ complete streamId found existing
      · exact complete streamId stream held
  | closeStream closed =>
      simp only [SessionOp.onStream] at held
      split at held
      · rcases Option.map_eq_some_iff.mp held with ⟨found, existing, closedNow⟩
        rcases complete streamId found existing with ⟨log, window⟩
        exact ⟨log, closedNow ▸ window.congr rfl rfl rfl⟩
      · exact complete streamId stream held
  | send sender payload =>
      simp only [SessionOp.onStream] at held
      split at held
      · rename_i same
        rcases Option.map_eq_some_iff.mp held with ⟨found, existing, recorded⟩
        rcases complete streamId found existing with ⟨log, window⟩
        have fits := keeps found (same ▸ existing)
        exact ⟨log ++ [payload], recorded ▸ window.numberAndRecord_of_fits fits⟩
      · exact complete streamId stream held
  | acknowledge acks => contradiction
  | chunk seq =>
      simp only [SessionOp.onStream] at held
      split at held
      · rcases Option.map_eq_some_iff.mp held with ⟨found, existing, received⟩
        rcases complete streamId found existing with ⟨log, window⟩
        exact ⟨log, received ▸ window.markReceived seq.toNat⟩
      · exact complete streamId stream held

/-! ## Resumes -/

namespace Trimmed

variable {watermarks : WatermarkMap} {trimmed bare : SessionState}

/-- What the bare session replays, the trimmed one replays too. -/
theorem collectReplays (related : Trimmed watermarks trimmed bare) {streamId : Nat}
    {entries : List (Nat × Payload)}
    (replayed : bare.collectReplays watermarks streamId = some entries) :
    ∃ held, trimmed.collectReplays watermarks streamId = some held ∧ entries <:+ held := by
  have streams := related streamId
  simp only [SessionState.collectReplays] at replayed ⊢
  generalize trimmed.streams streamId = left at streams ⊢
  generalize bare.streams streamId = right at streams replayed
  cases streams with
  | none => contradiction
  | @some stream other pair =>
      have suffix := pair.replayFrom
      rw [Option.bind_some] at replayed
      split at replayed
      · contradiction
      · rename_i nonempty
        cases replayed
        have filled : (stream.replayFrom ((watermarks streamId).getD 0)).isEmpty ≠ true := by
          intro empty
          rw [List.isEmpty_iff.mp empty, List.suffix_nil] at suffix
          exact nonempty (List.isEmpty_iff.mpr suffix)
        exact ⟨_, by rw [Option.bind_some, if_neg filled], suffix⟩

/-- Without an eviction both replay the same. -/
theorem collectReplays_eq (related : Trimmed watermarks trimmed bare)
    (complete : Complete bare) :
    trimmed.collectReplays watermarks = bare.collectReplays watermarks := by
  funext streamId
  have streams := related streamId
  have whole := complete streamId
  simp only [SessionState.collectReplays]
  generalize trimmed.streams streamId = left at streams ⊢
  generalize bare.streams streamId = right at streams whole ⊢
  cases streams with
  | none => rfl
  | @some stream other pair =>
      rcases pair with ⟨log, dropped, evicted, trimmedWindow, bareWindow, bounded⟩
      rcases whole other rfl with ⟨sent, untouched⟩
      have none : evicted = 0 := bareWindow.dropped_eq untouched
      have same : max dropped ((watermarks streamId).getD 0) =
          max evicted ((watermarks streamId).getD 0) := by
        omega
      rw [Option.bind_some, Option.bind_some, trimmedWindow.replayFrom, bareWindow.replayFrom,
        same]

end Trimmed

/-- **Trimming by acknowledgements is invisible to a resume.** For any operations
on a session, with acknowledgements anywhere among them that stay at or below
the watermarks of the resume: what the session without them replays, the one
with them replays too, in place at the end of each stream's list; the two replay
the same if the session without them never evicted; acknowledgements between
other operations may be reordered; and trimming by the watermarks themselves
changes nothing. -/
theorem trimming_invisible (sessionId : List UInt8) (passkey : String) (ops : List SessionOp)
    (watermarks : WatermarkMap) (covered : ∀ op ∈ ops, Covered watermarks op) :
    (∃ trimmed bare,
      run SessionState.step (SessionState.new sessionId passkey) ops = some trimmed ∧
      run SessionState.step (SessionState.new sessionId passkey) (purge isAcknowledge ops) =
        some bare ∧
      (∀ streamId entries, bare.collectReplays watermarks streamId = some entries →
        ∃ held, trimmed.collectReplays watermarks streamId = some held ∧ entries <:+ held) ∧
      (Along SessionState.step KeepsAll (SessionState.new sessionId passkey)
          (purge isAcknowledge ops) →
        trimmed.collectReplays watermarks = bare.collectReplays watermarks)) ∧
    (∀ (session : SessionState) (before after : List SessionOp) (maps others : List WatermarkMap),
      maps.Perm others →
        session.afterOps (before ++ maps.map .acknowledge ++ after) =
          session.afterOps (before ++ others.map .acknowledge ++ after)) ∧
    ∀ session : SessionState,
      (session.applyServerAcks watermarks).collectReplays watermarks =
        session.collectReplays watermarks := by
  refine ⟨?_, ?_, fun session => session.collectReplays_applyServerAcks watermarks⟩
  · have executed := SessionState.run_step (SessionState.new sessionId passkey) ops
    have met : Along SessionState.step (fun _ op => Covered watermarks op)
        (SessionState.new sessionId passkey) ops :=
      along_of_forall_mem fun op member _ => covered op member
    obtain ⟨bare, bareRun, related⟩ : ∃ bare,
        run SessionState.step (SessionState.new sessionId passkey) (purge isAcknowledge ops) =
          some bare ∧ Trimmed watermarks _ bare := by
      apply run_purge_related (Trimmed watermarks) _ _ (Trimmed.new sessionId passkey) met executed
      · intro state op next image held met hidden stepped
        cases op with
        | acknowledge acks =>
            cases stepped
            exact held.applyServerAcks met
        | _ => contradiction
      · intro state op next image held met visible stepped
        cases stepped
        exact ⟨image.apply op, rfl, held.apply visible⟩
    refine ⟨_, bare, executed, bareRun, fun _ _ replayed => related.collectReplays replayed, ?_⟩
    intro keeps
    have unhidden : Along SessionState.step (fun _ op => isAcknowledge op = false)
        (SessionState.new sessionId passkey) (purge isAcknowledge ops) := by
      apply along_of_forall_mem
      intro op member _
      simpa using (List.mem_filter.mp member).2
    have complete : Complete bare := by
      apply run_invariant_along _ (complete_new sessionId passkey)
        (along_and.mpr ⟨keeps, unhidden⟩) bareRun
      intro state op next held met stepped
      cases stepped
      exact held.apply met.1 met.2
    exact related.collectReplays_eq complete
  · intro session before after maps others reordered
    rw [SessionState.afterOps_append, SessionState.afterOps_append, SessionState.afterOps_append,
      SessionState.afterOps_append, SessionState.afterOps_acknowledge_perm _ reordered]

/-- Two sends with an acknowledgement between them that also names a stream
nobody opened. -/
theorem unknown_stream_ack_invisible :
    ∃ trimmed bare,
      run SessionState.step (SessionState.new [] "")
          [.send 0 [1], .acknowledge (fun id => if id = 0 then some 1 else some 5), .send 0 [2]] =
        some trimmed ∧
      run SessionState.step (SessionState.new [] "") [.send 0 [1], .send 0 [2]] = some bare ∧
      trimmed.collectReplays (fun id => if id = 0 then some 1 else some 5) =
        bare.collectReplays (fun id => if id = 0 then some 1 else some 5) := by
  have covered : Covered (fun id => if id = 0 then some 1 else some 5)
      (.acknowledge fun id => if id = 0 then some 1 else some 5) := by
    intro streamId ackSeq acknowledged
    simp only at acknowledged ⊢
    rw [acknowledged, Option.getD_some]
  have invisible := trimming_invisible [] ""
    [.send 0 [1], .acknowledge (fun id => if id = 0 then some 1 else some 5), .send 0 [2]]
    (fun id => if id = 0 then some 1 else some 5) (by simpa [Covered] using covered)
  obtain ⟨trimmed, bare, executed, bareRun, -, same⟩ := invisible.1
  refine ⟨trimmed, bare, executed, bareRun, same ⟨?_, ?_, trivial⟩⟩
  · intro stream held
    cases held
    decide
  · intro stream held
    cases held
    decide

end Etr.Session
