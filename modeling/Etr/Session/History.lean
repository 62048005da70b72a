import Etr.Library.Numbering
import Etr.Session.State

/-!
Contract: what a send history is, relative to everything that was sent.

Owns the statement that a stream's history is a suffix of the numbered send
log with a correct byte count (`Window`), and its preservation by recording
and by acknowledgement. `dropped` counts the entries no longer held, whether
acknowledged or evicted.
-/

namespace Etr.Session

open Etr.Library

/-- Sum of the payload lengths of a history. -/
def totalBytes (history : List (Nat × Payload)) : Nat :=
  (history.map fun entry => entry.2.length).sum

@[simp] theorem totalBytes_nil : totalBytes [] = 0 := rfl

@[simp] theorem totalBytes_cons (entry : Nat × Payload) (rest : List (Nat × Payload)) :
    totalBytes (entry :: rest) = entry.2.length + totalBytes rest := by
  simp [totalBytes]

theorem totalBytes_append (left right : List (Nat × Payload)) :
    totalBytes (left ++ right) = totalBytes left + totalBytes right := by
  simp [totalBytes]

theorem totalBytes_drop_le {fewer more : Nat} (ordered : fewer ≤ more)
    (history : List (Nat × Payload)) :
    totalBytes (history.drop more) ≤ totalBytes (history.drop fewer) := by
  have split := List.take_append_drop (more - fewer) (history.drop fewer)
  rw [List.drop_drop, Nat.add_sub_cancel' ordered] at split
  rw [← split, totalBytes_append]
  exact Nat.le_add_left _ _

/-- Numbering adds no bytes. -/
theorem totalBytes_numberFrom (start : Nat) (log : List Payload) :
    totalBytes (numberFrom start log) = (log.map List.length).sum := by
  induction log generalizing start with
  | nil => rfl
  | cons head tail inductionHypothesis => simp [inductionHypothesis]

namespace StreamState

/-- With an exact byte count the eviction loop drops the shortest prefix that
brings the rest under the cap, and the count stays exact. -/
theorem evict_exact (history : List (Nat × Payload)) :
    ∃ count, evict history (totalBytes history) =
        (history.drop count, totalBytes (history.drop count)) ∧
      totalBytes (history.drop count) ≤ maxHistoryBytes ∧
      ∀ other, totalBytes (history.drop other) ≤ maxHistoryBytes → count ≤ other := by
  induction history with
  | nil => exact ⟨0, rfl, Nat.zero_le _, fun other _ => Nat.zero_le other⟩
  | cons entry rest inductionHypothesis =>
      by_cases exceeds : maxHistoryBytes < totalBytes (entry :: rest)
      · obtain ⟨count, evicted, fits, least⟩ := inductionHypothesis
        refine ⟨count + 1, ?_, fits, ?_⟩
        · have popped : totalBytes (entry :: rest) - entry.2.length = totalBytes rest := by
            simp
          simp only [evict, if_pos exceeds, popped, evicted, List.drop_succ_cons]
        · intro other otherFits
          cases other with
          | zero => exact absurd otherFits (Nat.not_le.mpr exceeds)
          | succ other => exact Nat.succ_le_succ (least other otherFits)
      · refine ⟨0, ?_, Nat.not_lt.mp exceeds, fun other _ => Nat.zero_le other⟩
        simp only [evict, if_neg exceeds, List.drop_zero]

/-- Recording leaves the counter under the cap. -/
theorem historyBytes_numberAndRecord_le {stream : StreamState}
    (exact : stream.historyBytes = totalBytes stream.sendHistory) (payload : Payload) :
    (stream.numberAndRecord payload).historyBytes ≤ maxHistoryBytes := by
  have counted : stream.historyBytes + payload.length =
      totalBytes (stream.sendHistory ++ [(stream.nextOutSeq, payload)]) := by
    rw [totalBytes_append, exact]
    simp
  obtain ⟨count, evicted, fits, -⟩ :=
    evict_exact (stream.sendHistory ++ [(stream.nextOutSeq, payload)])
  simp only [numberAndRecord, recordSend, counted, evicted]
  exact fits

/-- With an exact byte count the acknowledgement loop keeps it exact. -/
theorem trim_exact (ackSeq : Nat) (history : List (Nat × Payload)) :
    (trim ackSeq history (totalBytes history)).2 =
      totalBytes (trim ackSeq history (totalBytes history)).1 := by
  induction history with
  | nil => rfl
  | cons entry rest inductionHypothesis =>
      have popped : totalBytes (entry :: rest) - entry.2.length = totalBytes rest := by simp
      by_cases covered : entry.1 ≤ ackSeq
      · simp only [trim, if_pos covered, popped, inductionHypothesis]
      · simp only [trim, if_neg covered]

end StreamState

/-- The stream sent exactly `log`, holds all of it but the first `dropped`
entries, and counts the bytes it holds. -/
structure Window (log : List Payload) (dropped : Nat) (stream : StreamState) : Prop where
  next : stream.nextOutSeq = log.length + 1
  history : stream.sendHistory = (numberFrom 1 log).drop dropped
  bytes : stream.historyBytes = totalBytes stream.sendHistory
  inLog : dropped ≤ log.length

theorem window_new (streamId : Nat) (streamType : StreamType) :
    Window [] 0 (StreamState.new streamId streamType) where
  next := rfl
  history := rfl
  bytes := rfl
  inLog := Nat.le_refl 0

namespace Window

variable {log : List Payload} {dropped : Nat} {stream : StreamState}

/-- Only the sending half of the stream matters. -/
theorem congr {other : StreamState} (window : Window log dropped stream)
    (next : other.nextOutSeq = stream.nextOutSeq)
    (history : other.sendHistory = stream.sendHistory)
    (bytes : other.historyBytes = stream.historyBytes) : Window log dropped other where
  next := next.trans window.next
  history := history.trans window.history
  bytes := by rw [bytes, history, window.bytes]
  inLog := window.inLog

theorem markReceived (window : Window log dropped stream) (seq : Nat) :
    Window log dropped (stream.markReceived seq) :=
  window.congr rfl rfl rfl

/-- Replaying from a watermark yields the numbered log above it, as far as it
is held. -/
theorem replayFrom (window : Window log dropped stream) (watermark : Nat) :
    stream.replayFrom watermark = (numberFrom 1 log).drop (max dropped watermark) := by
  rw [StreamState.replayFrom, window.history, drop_numberFrom, filter_above_numberFrom,
    ← drop_numberFrom, List.drop_drop]
  congr 1
  omega

/-- An acknowledgement drops what it covers and nothing else. -/
theorem acknowledgeUpTo (window : Window log dropped stream) (ackSeq : Nat) :
    Window log (min (max dropped ackSeq) log.length) (stream.acknowledgeUpTo ackSeq) where
  next := window.next
  history := by
    simp only [StreamState.acknowledgeUpTo, StreamState.trim_eq_dropWhile, window.history]
    rw [drop_numberFrom, dropWhile_numberFrom, ← drop_numberFrom, List.drop_drop]
    by_cases inside : max dropped ackSeq ≤ log.length
    · congr 1
      omega
    · rw [List.drop_eq_nil_of_le (by rw [length_numberFrom]; omega),
        List.drop_eq_nil_of_le (by rw [length_numberFrom]; omega)]
  bytes := by
    have exact := StreamState.trim_exact ackSeq stream.sendHistory
    simpa only [StreamState.acknowledgeUpTo, window.bytes] using exact
  inLog := Nat.min_le_right _ _

/-- Recording a payload extends the log. Nothing above `watermark` is evicted
when the entries above it fit under the cap. -/
theorem numberAndRecord (window : Window log dropped stream) (payload : Payload) :
    ∃ kept, dropped ≤ kept ∧ Window (log ++ [payload]) kept (stream.numberAndRecord payload) ∧
      ∀ watermark, dropped ≤ watermark →
        totalBytes ((numberFrom 1 (log ++ [payload])).drop watermark) ≤ maxHistoryBytes →
        kept ≤ watermark := by
  have appended : stream.sendHistory ++ [(stream.nextOutSeq, payload)] =
      (numberFrom 1 (log ++ [payload])).drop dropped := by
    rw [window.history, window.next, numberFrom_append, numberFrom_cons, numberFrom_nil,
      List.drop_append_of_le_length (by rw [length_numberFrom]; exact window.inLog),
      Nat.add_comm 1]
  have counted : stream.historyBytes + payload.length =
      totalBytes ((numberFrom 1 (log ++ [payload])).drop dropped) := by
    rw [← appended, totalBytes_append, window.bytes]
    simp
  obtain ⟨count, evicted, fits, least⟩ :=
    StreamState.evict_exact ((numberFrom 1 (log ++ [payload])).drop dropped)
  rw [List.drop_drop] at evicted fits
  simp only [List.drop_drop] at least
  have recorded : (stream.numberAndRecord payload).sendHistory =
        (numberFrom 1 (log ++ [payload])).drop (dropped + count) ∧
      (stream.numberAndRecord payload).historyBytes =
        totalBytes ((numberFrom 1 (log ++ [payload])).drop (dropped + count)) := by
    simp only [StreamState.numberAndRecord, StreamState.recordSend, appended, counted, evicted,
      and_self]
  have inside : dropped + count ≤ log.length + 1 := by
    -- Popping stops at the empty history, so the count never passes the log.
    have emptied := least (log.length + 1 - dropped) (by
      rw [List.drop_eq_nil_of_le (by simp; omega)]
      exact Nat.zero_le _)
    have := window.inLog
    omega
  refine ⟨dropped + count, Nat.le_add_right _ _, ⟨?_, recorded.1, ?_, ?_⟩, ?_⟩
  · simp [window.next]
  · rw [recorded.1, recorded.2]
  · simpa using inside
  · intro watermark above watermarkFits
    have bound := least (watermark - dropped)
      (by rwa [Nat.add_sub_of_le above])
    omega

end Window

/-- An acknowledgement up to `watermark` drops nothing above it. -/
theorem window_applyServerAcks_le {log : List Payload} {session : SessionState}
    {acks : WatermarkMap} {watermark : Nat} (acknowledged : (acks 0).getD 0 ≤ watermark)
    (window : ∃ dropped, dropped ≤ watermark ∧ Window log dropped session.terminal) :
    ∃ dropped, dropped ≤ watermark ∧
      Window log dropped (session.applyServerAcks acks).terminal := by
  rcases window with ⟨dropped, bounded, held⟩
  cases answer : acks 0 with
  | none =>
      rw [SessionState.terminal_applyServerAcks_of_none session answer]
      exact ⟨dropped, bounded, held⟩
  | some ackSeq =>
      rw [answer, Option.getD_some] at acknowledged
      rw [SessionState.terminal_applyServerAcks_of_some session answer]
      exact ⟨_, by omega, held.acknowledgeUpTo ackSeq⟩

/-- Acknowledgements only shorten the window. -/
theorem window_applyServerAcks {log : List Payload} {session : SessionState}
    (window : ∃ dropped, Window log dropped session.terminal) (acks : WatermarkMap) :
    ∃ dropped, Window log dropped (session.applyServerAcks acks).terminal := by
  obtain ⟨dropped, held⟩ := window
  cases acknowledged : acks 0 with
  | none =>
      exact ⟨dropped, SessionState.terminal_applyServerAcks_of_none session acknowledged ▸ held⟩
  | some ackSeq =>
      rw [SessionState.terminal_applyServerAcks_of_some session acknowledged]
      exact ⟨_, held.acknowledgeUpTo ackSeq⟩

end Etr.Session
