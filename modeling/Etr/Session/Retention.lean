import Etr.Library.Transition
import Etr.Session.History
import Mathlib.Data.List.Induction

/-!
Contract: the send history of one stream over any sequence of sends and
acknowledgements.

Owns:
- the two operations as steps, and the same steps with every subtraction from
  the byte counter checked;
- the reason each entry that is no longer held left the history;
- what is held, counted and replayed at the end of any run.

Does not own the session around the stream.
-/

namespace Etr.Session

open Etr.Library

/-- One call on the sending half of a stream. -/
inductive HistoryOp where
  /-- Take `next_out_seq`, increment it and record the payload. -/
  | send (payload : Payload)
  /-- `acknowledge_up_to`. -/
  | acknowledge (ackSeq : Nat)
deriving DecidableEq, Repr

/-- The payloads sent, in order. -/
def sentPayloads (ops : List HistoryOp) : List Payload :=
  ops.filterMap fun op =>
    match op with
    | .send payload => some payload
    | .acknowledge _ => none

namespace StreamState

def apply (stream : StreamState) : HistoryOp → StreamState
  | .send payload => stream.numberAndRecord payload
  | .acknowledge ackSeq => stream.acknowledgeUpTo ackSeq

/-- `evict`, refused when the counter would underflow. -/
def evictChecked : List (Nat × Payload) → Nat → Option (List (Nat × Payload) × Nat)
  | [], bytes => some ([], bytes)
  | entry :: rest, bytes =>
      if maxHistoryBytes < bytes then
        if entry.2.length ≤ bytes then evictChecked rest (bytes - entry.2.length) else none
      else
        some (entry :: rest, bytes)

/-- `trim`, refused when the counter would underflow. -/
def trimChecked (ackSeq : Nat) :
    List (Nat × Payload) → Nat → Option (List (Nat × Payload) × Nat)
  | [], bytes => some ([], bytes)
  | entry :: rest, bytes =>
      if entry.1 ≤ ackSeq then
        if entry.2.length ≤ bytes then trimChecked ackSeq rest (bytes - entry.2.length) else none
      else
        some (entry :: rest, bytes)

/-- `apply` with checked subtractions. -/
def applyChecked (stream : StreamState) : HistoryOp → Option StreamState
  | .send payload =>
      (evictChecked (stream.sendHistory ++ [(stream.nextOutSeq, payload)])
          (stream.historyBytes + payload.length)).map fun kept =>
        { stream with
          nextOutSeq := stream.nextOutSeq + 1
          sendHistory := kept.1
          historyBytes := kept.2 }
  | .acknowledge ackSeq =>
      (trimChecked ackSeq stream.sendHistory stream.historyBytes).map fun kept =>
        { stream with sendHistory := kept.1, historyBytes := kept.2 }

/-- Some entry of the history has this number. -/
def Holds (stream : StreamState) (number : Nat) : Prop :=
  number ∈ stream.sendHistory.map Prod.fst

/-! ## Checked subtractions -/

/-- With an exact byte count no eviction underflows. -/
theorem evictChecked_exact (history : List (Nat × Payload)) :
    evictChecked history (totalBytes history) = some (evict history (totalBytes history)) := by
  induction history with
  | nil => rfl
  | cons entry rest inductionHypothesis =>
      have popped : totalBytes (entry :: rest) - entry.2.length = totalBytes rest := by simp
      have covered : entry.2.length ≤ totalBytes (entry :: rest) := by simp
      by_cases exceeds : maxHistoryBytes < totalBytes (entry :: rest)
      · simp only [evictChecked, evict, if_pos exceeds, if_pos covered, popped,
          inductionHypothesis]
      · simp only [evictChecked, evict, if_neg exceeds]

/-- With an exact byte count no acknowledgement underflows. -/
theorem trimChecked_exact (ackSeq : Nat) (history : List (Nat × Payload)) :
    trimChecked ackSeq history (totalBytes history) =
      some (trim ackSeq history (totalBytes history)) := by
  induction history with
  | nil => rfl
  | cons entry rest inductionHypothesis =>
      have popped : totalBytes (entry :: rest) - entry.2.length = totalBytes rest := by simp
      have covered : entry.2.length ≤ totalBytes (entry :: rest) := by simp
      by_cases acknowledged : entry.1 ≤ ackSeq
      · simp only [trimChecked, trim, if_pos acknowledged, if_pos covered, popped,
          inductionHypothesis]
      · simp only [trimChecked, trim, if_neg acknowledged]

theorem applyChecked_exact {stream : StreamState}
    (exact : stream.historyBytes = totalBytes stream.sendHistory) (op : HistoryOp) :
    stream.applyChecked op = some (stream.apply op) := by
  cases op with
  | send payload =>
      have counted : stream.historyBytes + payload.length =
          totalBytes (stream.sendHistory ++ [(stream.nextOutSeq, payload)]) := by
        rw [totalBytes_append, exact]
        simp
      simp only [applyChecked, apply, numberAndRecord, recordSend, counted, evictChecked_exact,
        Option.map_some]
  | acknowledge ackSeq =>
      simp only [applyChecked, apply, acknowledgeUpTo, exact, trimChecked_exact, Option.map_some]

/-! ## One step -/

/-- The counter never rises through an acknowledgement. -/
theorem trim_bytes_le (ackSeq : Nat) (history : List (Nat × Payload)) (bytes : Nat) :
    (trim ackSeq history bytes).2 ≤ bytes := by
  induction history generalizing bytes with
  | nil => exact Nat.le_refl bytes
  | cons entry rest inductionHypothesis =>
      by_cases covered : entry.1 ≤ ackSeq
      · have later := inductionHypothesis (bytes - entry.2.length)
        rw [trim, if_pos covered]
        omega
      · rw [trim, if_neg covered]

end StreamState

open StreamState

/-- The operation accounts for the loss of the entry `number`: it acknowledges
it, or records a payload with which the entry and all later ones exceed the
cap. -/
def Explains (log : List Payload) (number : Nat) : HistoryOp → Prop
  | .send payload =>
      maxHistoryBytes < totalBytes ((numberFrom 1 (log ++ [payload])).drop (number - 1))
  | .acknowledge ackSeq => number ≤ ackSeq

theorem sentPayloads_append (left right : List HistoryOp) :
    sentPayloads (left ++ right) = sentPayloads left ++ sentPayloads right := by
  simp [sentPayloads]

namespace Window

variable {log : List Payload} {dropped : Nat} {stream : StreamState}

/-- The numbers held are consecutive and end below `next_out_seq`. -/
theorem numbers (window : Window log dropped stream) :
    stream.sendHistory.map Prod.fst =
      List.range' (dropped + 1) (stream.nextOutSeq - (dropped + 1)) := by
  rw [window.history, drop_numberFrom, map_fst_numberFrom, List.length_drop, window.next,
    Nat.add_comm 1 dropped, Nat.add_sub_add_right]

theorem holds_iff (window : Window log dropped stream) (number : Nat) :
    stream.Holds number ↔ dropped < number ∧ number ≤ log.length := by
  have inLog := window.inLog
  rw [Holds, window.numbers, List.mem_range'_1, window.next]
  omega

/-- Every operation keeps the window, and accounts for what it drops. -/
theorem apply (window : Window log dropped stream) (op : HistoryOp) :
    ∃ kept, dropped ≤ kept ∧ Window (log ++ sentPayloads [op]) kept (stream.apply op) ∧
      ∀ number, dropped < number → number ≤ kept → Explains log number op := by
  cases op with
  | send payload =>
      obtain ⟨kept, grown, recorded, least⟩ := window.numberAndRecord payload
      refine ⟨kept, grown, recorded, ?_⟩
      intro number held gone
      -- The loop stops at the first suffix that fits.
      apply Nat.lt_of_not_le
      intro fits
      have stopped := least (number - 1) (by omega) fits
      omega
  | acknowledge ackSeq =>
      have inLog := window.inLog
      refine ⟨min (max dropped ackSeq) log.length, by omega, ?_, ?_⟩
      · rw [show sentPayloads [.acknowledge ackSeq] = [] from rfl, List.append_nil]
        exact window.acknowledgeUpTo ackSeq
      · intro number held gone
        show number ≤ ackSeq
        omega

theorem historyBytes_apply_le (window : Window log dropped stream)
    (bounded : stream.historyBytes ≤ maxHistoryBytes) (op : HistoryOp) :
    (stream.apply op).historyBytes ≤ maxHistoryBytes := by
  cases op with
  | send payload => exact historyBytes_numberAndRecord_le window.bytes payload
  | acknowledge ackSeq =>
      exact Nat.le_trans (trim_bytes_le ackSeq stream.sendHistory stream.historyBytes) bounded

end Window

/-! ## Whole runs -/

section Runs

variable (streamId : Nat) (streamType : StreamType)

/-- The stream after the operations. -/
def afterOps (ops : List HistoryOp) : StreamState :=
  ops.foldl StreamState.apply (StreamState.new streamId streamType)

theorem afterOps_append_singleton (ops : List HistoryOp) (op : HistoryOp) :
    afterOps streamId streamType (ops ++ [op]) =
      (afterOps streamId streamType ops).apply op := by
  simp [afterOps]

/-- The operation at which an entry left: it was held or being recorded, it is
not held afterwards, and the operation accounts for that. -/
structure LeftAt (before : List HistoryOp) (op : HistoryOp) (number : Nat) : Prop where
  present : (afterOps streamId streamType before).Holds number ∨
    ∃ payload, op = .send payload ∧ number = (afterOps streamId streamType before).nextOutSeq
  absent : ¬ (afterOps streamId streamType (before ++ [op])).Holds number
  explained : Explains (sentPayloads before) number op

theorem window_afterOps (ops : List HistoryOp) :
    (∃ dropped, Window (sentPayloads ops) dropped (afterOps streamId streamType ops)) ∧
      (afterOps streamId streamType ops).historyBytes ≤ maxHistoryBytes := by
  induction ops using List.reverseRecOn with
  | nil => exact ⟨⟨0, window_new streamId streamType⟩, Nat.zero_le _⟩
  | append_singleton ops op inductionHypothesis =>
      obtain ⟨⟨dropped, window⟩, bounded⟩ := inductionHypothesis
      obtain ⟨kept, -, next, -⟩ := window.apply op
      rw [afterOps_append_singleton, sentPayloads_append]
      exact ⟨⟨kept, next⟩, window.historyBytes_apply_le bounded op⟩

/-- No run ever underflows the byte counter. -/
theorem run_applyChecked (ops : List HistoryOp) :
    run applyChecked (StreamState.new streamId streamType) ops =
      some (afterOps streamId streamType ops) := by
  induction ops using List.reverseRecOn with
  | nil => rfl
  | append_singleton ops op inductionHypothesis =>
      obtain ⟨⟨dropped, window⟩, -⟩ := window_afterOps streamId streamType ops
      have stepped := applyChecked_exact window.bytes op
      rw [← afterOps_append_singleton] at stepped
      exact run_append_eq_some.mpr
        ⟨_, inductionHypothesis, run_cons_eq_some.mpr ⟨_, stepped, run_nil⟩⟩

/-- An entry that was sent and is not held left at some operation. -/
theorem exists_leftAt (ops : List HistoryOp) {number : Nat} (positive : 1 ≤ number)
    (sent : number ≤ (sentPayloads ops).length)
    (missing : ¬ (afterOps streamId streamType ops).Holds number) :
    ∃ before op after, ops = before ++ op :: after ∧
      LeftAt streamId streamType before op number := by
  induction ops using List.reverseRecOn with
  | nil =>
      have impossible : number ≤ 0 := sent
      omega
  | append_singleton ops op inductionHypothesis =>
      obtain ⟨⟨dropped, window⟩, -⟩ := window_afterOps streamId streamType ops
      obtain ⟨kept, grown, next, explained⟩ := window.apply op
      have lost := missing
      rw [afterOps_append_singleton, next.holds_iff, ← sentPayloads_append] at lost
      have earlierSends : number ≤ (sentPayloads ops).length ∨
          ∃ payload, op = .send payload ∧ number = (sentPayloads ops).length + 1 := by
        rw [sentPayloads_append, List.length_append] at sent
        cases op with
        | send payload =>
            have one : (sentPayloads [.send payload]).length = 1 := rfl
            rw [one] at sent
            rcases Nat.lt_or_eq_of_le sent with earlier | now
            · exact Or.inl (by omega)
            · exact Or.inr ⟨payload, rfl, now⟩
        | acknowledge ackSeq => exact Or.inl sent
      by_cases held : (afterOps streamId streamType ops).Holds number
      · have bounds := (window.holds_iff number).mp held
        exact ⟨ops, op, [], rfl, Or.inl held, missing, explained number bounds.1 (by omega)⟩
      · rcases earlierSends with earlier | ⟨payload, isSend, now⟩
        · obtain ⟨before, operation, after, split, left⟩ := inductionHypothesis earlier held
          exact ⟨before, operation, after ++ [op], by simp [split], left⟩
        · have inLog := window.inLog
          refine ⟨ops, op, [], rfl, Or.inr ⟨payload, isSend, ?_⟩, missing,
            explained number (by omega) (by omega)⟩
          rw [now, window.next]

/-- **The replay history is the right suffix of what was sent, after any sends
and acknowledgements in any order.** The history is the numbered log of sends
without a front part, its bytes are counted exactly, never underflow and stay
under the cap; every entry that is missing left at an acknowledgement that
covers it, or at a recording with which it and all later entries exceeded the
cap; and a replay is what is held above the watermark, in order. -/
theorem history_is_right_suffix (ops : List HistoryOp) :
    run applyChecked (StreamState.new streamId streamType) ops =
        some (afterOps streamId streamType ops) ∧
      (afterOps streamId streamType ops).historyBytes ≤ maxHistoryBytes ∧
      (∀ number, 1 ≤ number → number ≤ (sentPayloads ops).length →
        ¬ (afterOps streamId streamType ops).Holds number →
          ∃ before op after, ops = before ++ op :: after ∧
            LeftAt streamId streamType before op number) ∧
      ∃ dropped, Window (sentPayloads ops) dropped (afterOps streamId streamType ops) ∧
        (afterOps streamId streamType ops).sendHistory.map Prod.fst =
          List.range' (dropped + 1)
            ((afterOps streamId streamType ops).nextOutSeq - (dropped + 1)) ∧
        ∀ watermark,
          (afterOps streamId streamType ops).replayFrom watermark =
              (numberFrom 1 (sentPayloads ops)).drop (max dropped watermark) ∧
            (∀ entry, entry ∈ (afterOps streamId streamType ops).replayFrom watermark ↔
              entry ∈ (afterOps streamId streamType ops).sendHistory ∧ watermark < entry.1) := by
  obtain ⟨⟨dropped, window⟩, bounded⟩ := window_afterOps streamId streamType ops
  refine ⟨run_applyChecked streamId streamType ops, bounded, ?_, dropped, window,
    window.numbers, ?_⟩
  · intro number positive sent missing
    exact exists_leftAt streamId streamType ops positive sent missing
  · intro watermark
    refine ⟨window.replayFrom watermark, ?_⟩
    intro entry
    simp [replayFrom]

end Runs

end Etr.Session
