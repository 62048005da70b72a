import Etr.Session.Runs
import Mathlib.Data.List.Induction

/-!
Contract: the receive watermark of stream 0 over the life of a session.

Owns the chunk numbers a receiver has read, what its watermark should report,
and the exact sequences of chunks for which it does. The two PTY readers treat a
chunk alike, so one session stands for either program.

Does not own which numbers a peer sends.
-/

namespace Etr.Session

/-- The chunk numbers read, over all connections. -/
def receivedSeqs (ops : List SessionOp) : List UInt64 :=
  ops.filterMap fun op =>
    match op with
    | .chunk seq => some seq
    | _ => none

/-- Highest of the numbers; 0 if there is none. -/
def highest (seqs : List UInt64) : Nat :=
  seqs.foldl (fun bound seq => max bound seq.toNat) 0

/-- The watermark is the highest number read after every part of a run, it
never falls, and the cursor behind it never overflows. -/
structure WatermarkSound (session : SessionState) (ops : List SessionOp) : Prop where
  reports : ∀ before, before <+: ops →
    (session.afterOps before).lastReceivedMap 0 = some (highest (receivedSeqs before))
  rises : ∀ earlier later, earlier <+: later → later <+: ops →
    ∃ low high, (session.afterOps earlier).lastReceivedMap 0 = some low ∧
      (session.afterOps later).lastReceivedMap 0 = some high ∧ low ≤ high
  fits : ∀ seq ∈ receivedSeqs ops, seq.toNat + 1 < 2 ^ 64

/-! ## Highest number -/

@[simp] theorem highest_nil : highest [] = 0 := rfl

theorem highest_append_singleton (seqs : List UInt64) (seq : UInt64) :
    highest (seqs ++ [seq]) = max (highest seqs) seq.toNat := by
  simp [highest]

theorem highest_le_iff (seqs : List UInt64) (bound : Nat) :
    highest seqs ≤ bound ↔ ∀ seq ∈ seqs, seq.toNat ≤ bound := by
  induction seqs using List.reverseRecOn with
  | nil => simp
  | append_singleton seqs seq inductionHypothesis =>
      rw [highest_append_singleton, Nat.max_le, inductionHypothesis, List.forall_mem_append]
      simp

theorem highest_mono {earlier later : List UInt64} (extended : earlier <+: later) :
    highest earlier ≤ highest later := by
  apply (highest_le_iff earlier _).mpr
  intro seq member
  exact (highest_le_iff later _).mp (Nat.le_refl _) seq (extended.subset member)

/-! ## One operation -/

theorem receivedSeqs_append (left right : List SessionOp) :
    receivedSeqs (left ++ right) = receivedSeqs left ++ receivedSeqs right := by
  simp [receivedSeqs]

theorem lastReceived_congr {stream other : StreamState}
    (same : other.nextInSeq = stream.nextInSeq) : other.lastReceived = stream.lastReceived := by
  unfold StreamState.lastReceived
  rw [same]

/-- A chunk sets the watermark to its own number, unless that is the last. -/
theorem lastReceived_chunk {stream : StreamState} {seq : UInt64}
    (marked : stream.nextInSeq = (seq.toNat + 1) % 2 ^ 64) :
    stream.lastReceived = if seq.toNat + 1 < 2 ^ 64 then some seq.toNat else none := by
  have bounded := seq.toNat_lt
  unfold StreamState.lastReceived
  rw [marked]
  by_cases fits : seq.toNat + 1 < 2 ^ 64
  · rw [if_pos fits, Nat.mod_eq_of_lt fits, if_neg (Nat.succ_ne_zero _), Nat.add_sub_cancel]
  · have last : seq.toNat + 1 = 2 ^ 64 := by omega
    rw [if_neg fits, last, Nat.mod_self, if_pos rfl]

/-- Whether the watermark is right after one more operation. -/
theorem reports_append_iff {session : SessionState} {ops : List SessionOp} {op : SessionOp}
    (before : (session.afterOps ops).lastReceivedMap 0 = some (highest (receivedSeqs ops))) :
    (session.afterOps (ops ++ [op])).lastReceivedMap 0 =
        some (highest (receivedSeqs (ops ++ [op]))) ↔
      ∀ seq, op = .chunk seq →
        highest (receivedSeqs ops) ≤ seq.toNat ∧ seq.toNat + 1 < 2 ^ 64 := by
  have cursor := SessionState.nextInSeq_apply (session.afterOps ops) op
  have after : session.afterOps (ops ++ [op]) = (session.afterOps ops).apply op :=
    SessionState.afterOps_append session ops [op]
  rw [SessionState.lastReceivedMap_zero] at before ⊢
  rw [after, receivedSeqs_append]
  cases op with
  | chunk seq =>
      rw [lastReceived_chunk cursor, show receivedSeqs [.chunk seq] = [seq] from rfl,
        highest_append_singleton]
      simp only [SessionOp.chunk.injEq, forall_eq']
      by_cases fits : seq.toNat + 1 < 2 ^ 64
      · rw [if_pos fits, Option.some.injEq]
        omega
      · rw [if_neg fits]
        simp only [reduceCtorEq, fits, and_false]
  | _ =>
      rw [lastReceived_congr cursor, before]
      simp [receivedSeqs]

/-! ## Whole runs -/

/-- The watermark is right throughout exactly if each number is at least as high
as every earlier one and not the last of the range. -/
theorem reports_iff (sessionId : List UInt8) (passkey : String) (ops : List SessionOp) :
    (∀ before, before <+: ops →
        ((SessionState.new sessionId passkey).afterOps before).lastReceivedMap 0 =
          some (highest (receivedSeqs before))) ↔
      (receivedSeqs ops).Pairwise (· ≤ ·) ∧ ∀ seq ∈ receivedSeqs ops, seq.toNat + 1 < 2 ^ 64 := by
  induction ops using List.reverseRecOn with
  | nil =>
      constructor
      · intro _
        exact ⟨List.Pairwise.nil, fun seq member => absurd member List.not_mem_nil⟩
      · intro _ before initial
        rw [List.prefix_nil.mp initial]
        rfl
  | append_singleton ops op inductionHypothesis =>
      have split : (∀ before, before <+: ops ++ [op] →
            ((SessionState.new sessionId passkey).afterOps before).lastReceivedMap 0 =
              some (highest (receivedSeqs before))) ↔
          (∀ before, before <+: ops →
            ((SessionState.new sessionId passkey).afterOps before).lastReceivedMap 0 =
              some (highest (receivedSeqs before))) ∧
          ∀ seq, op = .chunk seq →
            highest (receivedSeqs ops) ≤ seq.toNat ∧ seq.toNat + 1 < 2 ^ 64 := by
        constructor
        · intro reports
          have earlier := fun before (initial : before <+: ops) =>
            reports before (initial.trans (List.prefix_append ops [op]))
          exact ⟨earlier, (reports_append_iff (earlier ops (List.prefix_refl ops))).mp
            (reports (ops ++ [op]) (List.prefix_refl _))⟩
        · rintro ⟨earlier, last⟩ before initial
          rcases List.prefix_concat_iff.mp initial with whole | part
          · rw [whole]
            exact (reports_append_iff (earlier ops (List.prefix_refl ops))).mpr last
          · exact earlier before part
      rw [split, inductionHypothesis, receivedSeqs_append]
      cases op with
      | chunk seq =>
          rw [show receivedSeqs [.chunk seq] = [seq] from rfl, List.pairwise_append,
            List.forall_mem_append]
          simp only [SessionOp.chunk.injEq, forall_eq', highest_le_iff, List.mem_singleton,
            List.pairwise_singleton, true_and, forall_eq, UInt64.le_iff_toNat_le]
          tauto
      | _ => simp [receivedSeqs]

/-- **The watermark a session reports is the highest chunk number it read,
never falls and never overflows, if and only if each chunk's number is at least
as high as every earlier one and below the last of the range.** -/
theorem watermark_sound_iff (sessionId : List UInt8) (passkey : String)
    (ops : List SessionOp) :
    WatermarkSound (SessionState.new sessionId passkey) ops ↔
      (receivedSeqs ops).Pairwise (· ≤ ·) ∧ ∀ seq ∈ receivedSeqs ops, seq.toNat + 1 < 2 ^ 64 := by
  rw [← reports_iff sessionId passkey]
  constructor
  · intro sound
    exact sound.reports
  · intro reports
    refine ⟨reports, ?_, ((reports_iff sessionId passkey ops).mp reports).2⟩
    intro earlier later extended initial
    refine ⟨_, _, reports earlier (extended.trans initial), reports later initial, ?_⟩
    apply highest_mono
    exact extended.filterMap _

/-- A chunk with a lower number moves the watermark back, and one with the last
number takes the stream out of the map. -/
theorem lower_chunk_moves_watermark_back :
    ¬ WatermarkSound (SessionState.new [] "") [.chunk 2, .chunk 1] ∧
      ((SessionState.new [] "").afterOps [.chunk 2, .chunk 1]).lastReceivedMap 0 = some 1 ∧
      ((SessionState.new [] "").afterOps [.chunk 0xFFFFFFFFFFFFFFFF]).lastReceivedMap 0 = none := by
  have marked : ((SessionState.new [] "").afterOps [.chunk 0xFFFFFFFFFFFFFFFF]).terminal.nextInSeq =
      ((0xFFFFFFFFFFFFFFFF : UInt64).toNat + 1) % 2 ^ 64 :=
    SessionState.nextInSeq_apply (SessionState.new [] "") (.chunk 0xFFFFFFFFFFFFFFFF)
  have back : ((SessionState.new [] "").afterOps [.chunk 2, .chunk 1]).lastReceivedMap 0 =
      some 1 := rfl
  refine ⟨?_, back, ?_⟩
  · intro sound
    have reported := sound.reports [.chunk 2, .chunk 1] (List.prefix_refl _)
    rw [back] at reported
    exact absurd reported (by decide)
  · rw [SessionState.lastReceivedMap_zero, lastReceived_chunk marked]
    exact if_neg (by decide)

end Etr.Session
