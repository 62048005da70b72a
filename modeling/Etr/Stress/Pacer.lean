import Etr.Library.Spacing
import Mathlib.Algebra.Order.Floor.Div
import Mathlib.Algebra.Order.Group.Int

/-!
Contract: the pacing of the load generator in `tools/stress/src/main.rs`.

Owns `advance_deadline` with its clamp and its split of the sleep, the `Pacer`
that calls it, and what any sequence of calls comes to: deadlines a step apart,
a bounded lag, and a bounded rate over every window.

Does not own the scheduler. A wait ends at its deadline, or at once where that
has passed.
-/

namespace Etr.Stress

open Etr.Library

/-! ## Clock values -/

/-- `Duration::MAX`, in nanoseconds. -/
def maxDuration : Nat :=
  2 ^ 64 * 1000000000 - 1

/-- A `Duration`, in nanoseconds. -/
structure Duration where
  nanos : Nat
  bounded : nanos ≤ maxDuration

/-- The points of the monotonic clock: seconds in 64 bits with a sign, and
nanoseconds. -/
def Representable (nanos : Int) : Prop :=
  -(2 ^ 63 * 1000000000) ≤ nanos ∧ nanos < 2 ^ 63 * 1000000000

instance (nanos : Int) : Decidable (Representable nanos) :=
  inferInstanceAs (Decidable (_ ∧ _))

/-- An `Instant`, in nanoseconds. -/
structure Instant where
  nanos : Int
  representable : Representable nanos

def Duration.saturatingMul (duration : Duration) (factor : Nat) : Duration where
  nanos := min (duration.nanos * factor) maxDuration
  bounded := Nat.min_le_right _ _

/-- `-` on durations, which the caller keeps from going below zero. -/
def Duration.sub (duration shorter : Duration) : Duration where
  nanos := duration.nanos - shorter.nanos
  bounded := (Nat.sub_le _ _).trans duration.bounded

/-- `Instant + Duration`; it panics past the last point of the clock. -/
def Instant.add (instant : Instant) (duration : Duration) : Option Instant :=
  if inRange : Representable (instant.nanos + duration.nanos) then
    some ⟨instant.nanos + duration.nanos, inRange⟩
  else
    none

/-- `duration_since`, zero where the other instant is the later one. -/
def Instant.durationSince (instant earlier : Instant) : Duration where
  nanos := (instant.nanos - earlier.nanos).toNat
  bounded := by
    have above := instant.representable.2
    have below := earlier.representable.1
    rw [maxDuration]
    omega

/-- The later of two instants. -/
def Instant.later (first second : Instant) : Instant :=
  if first.nanos < second.nanos then second else first

/-! ## The pacer -/

/-- `SPIN_HORIZON`, 250 microseconds. -/
def spinHorizon : Duration where
  nanos := 250000
  bounded := by decide

def maxLagSteps : Nat := 8

/-- `advance_deadline`: the new deadline, and the part of the wait to be slept. -/
def advanceDeadline (currentDeadline : Instant) (step : Duration) (now : Instant) :
    Option (Instant × Option Duration) :=
  (currentDeadline.add step).map fun target =>
    if target.nanos ≤ now.nanos then
      let maxLag := step.saturatingMul maxLagSteps
      let clamped := if maxLag.nanos < (now.durationSince target).nanos then now else target
      (clamped, none)
    else
      let remaining := target.durationSince now
      let coarseSleep :=
        if spinHorizon.nanos < remaining.nanos then some (remaining.sub spinHorizon) else none
      (target, coarseSleep)

structure Pacer where
  step : Option Duration
  nextDeadline : Instant

/-- `Pacer::new`; no pace is no step. -/
def Pacer.new (paceUs : UInt64) (now : Instant) : Pacer where
  step :=
    if 0 < paceUs.toNat then
      some ⟨paceUs.toNat * 1000, by
        have bounded := paceUs.toNat_lt
        rw [maxDuration]
        omega⟩
    else
      none
  nextDeadline := now

/-- `wait`, called at `now`: the pacer it leaves and when it returns. The sleep
and the spinning behind it end at the deadline, or at once. -/
def Pacer.wait (pacer : Pacer) (now : Instant) : Option (Pacer × Instant) :=
  match pacer.step with
  | none => some (pacer, now)
  | some step =>
      (advanceDeadline pacer.nextDeadline step now).map fun advanced =>
        ({ pacer with nextDeadline := advanced.1 }, now.later advanced.1)

/-- One call of `wait`. -/
structure Wait where
  called : Instant
  deadline : Instant
  returned : Instant

/-- A sequence of calls; a panic ends it. -/
def Pacer.waits (pacer : Pacer) : List Instant → List Wait
  | [] => []
  | now :: rest =>
      match pacer.wait now with
      | none => []
      | some (next, returned) => ⟨now, next.nextDeadline, returned⟩ :: next.waits rest

/-! ## One step -/

/-- What a call makes of the deadline before it. -/
structure Advances (step : Duration) (previous : Instant) (wait : Wait) : Prop where
  /-- The deadline is a step later, or later than that. -/
  apart : StepApart (step.nanos : Int) previous.nanos wait.deadline.nanos
  /-- It has not passed for longer than the lag. -/
  called_le : wait.called.nanos ≤ wait.deadline.nanos + maxLagSteps * step.nanos
  /-- Without an excessive lag it is one step later. -/
  cadence : wait.called.nanos ≤ previous.nanos + step.nanos →
    wait.deadline.nanos = previous.nanos + step.nanos
  /-- The call returns at its deadline, or at once. -/
  returned_eq : wait.returned.nanos = max wait.called.nanos wait.deadline.nanos

theorem Instant.add_eq_some {instant target : Instant} {duration : Duration}
    (added : instant.add duration = some target) :
    target.nanos = instant.nanos + duration.nanos := by
  unfold Instant.add at added
  split at added
  · cases added
    rfl
  · contradiction

theorem Instant.add_eq_none {instant : Instant} {duration : Duration}
    (panicked : instant.add duration = none) :
    ¬Representable (instant.nanos + duration.nanos) := by
  unfold Instant.add at panicked
  split at panicked
  · contradiction
  · rename_i outOfRange
    exact outOfRange

theorem Instant.later_nanos (first second : Instant) :
    (first.later second).nanos = max first.nanos second.nanos := by
  unfold Instant.later
  split
  · rename_i before
    exact (max_eq_right (le_of_lt before)).symm
  · rename_i notBefore
    exact (max_eq_left (not_lt.mp notBefore)).symm

/-- The three branches: on time, slightly late, and clamped. -/
theorem advanceDeadline_cases {current now : Instant} {step : Duration}
    {advanced : Instant × Option Duration}
    (result : advanceDeadline current step now = some advanced) :
    (now.nanos ≤ current.nanos + step.nanos + maxLagSteps * step.nanos ∧
        advanced.1.nanos = current.nanos + step.nanos) ∨
      (current.nanos + step.nanos < now.nanos ∧ advanced.1 = now) := by
  obtain ⟨target, added, rfl⟩ := Option.map_eq_some_iff.mp result
  have due := Instant.add_eq_some added
  by_cases passed : target.nanos ≤ now.nanos
  · simp only [if_pos passed]
    have lag : ((now.durationSince target).nanos : Int) = now.nanos - target.nanos := by
      rw [Instant.durationSince, Int.toNat_of_nonneg (by omega)]
    have allowed : (step.saturatingMul maxLagSteps).nanos ≤ maxLagSteps * step.nanos := by
      rw [Nat.mul_comm]
      exact Nat.min_le_left _ _
    by_cases excessive :
        (step.saturatingMul maxLagSteps).nanos < (now.durationSince target).nanos
    · simp only [if_pos excessive]
      exact Or.inr ⟨by omega, trivial⟩
    · simp only [if_neg excessive]
      refine Or.inl ⟨?_, due⟩
      have bounded : (now.durationSince target).nanos ≤ maxLagSteps * step.nanos :=
        (not_lt.mp excessive).trans allowed
      have cast : ((now.durationSince target).nanos : Int) ≤ maxLagSteps * step.nanos := by
        exact_mod_cast bounded
      omega
  · simp only [if_neg passed]
    refine Or.inl ⟨?_, due⟩
    have room : (0 : Int) ≤ maxLagSteps * step.nanos :=
      Int.mul_nonneg (Int.natCast_nonneg _) (Int.natCast_nonneg _)
    omega

/-- The coarse sleep leaves the horizon to be spun. -/
theorem advanceDeadline_sleep {current now deadline : Instant} {step coarse : Duration}
    (result : advanceDeadline current step now = some (deadline, some coarse)) :
    now.nanos + coarse.nanos + spinHorizon.nanos = deadline.nanos := by
  obtain ⟨target, added, advanced⟩ := Option.map_eq_some_iff.mp result
  by_cases passed : target.nanos ≤ now.nanos
  · simp only [if_pos passed, Prod.mk.injEq, reduceCtorEq, and_false] at advanced
  · simp only [if_neg passed, Prod.mk.injEq] at advanced
    obtain ⟨rfl, slept⟩ := advanced
    split at slept
    · rename_i long
      have length := congrArg Duration.nanos (Option.some.inj slept)
      simp only [Duration.sub, Instant.durationSince] at long length
      omega
    · contradiction

theorem Pacer.wait_eq_some {pacer next : Pacer} {step : Duration} {now returned : Instant}
    (paced : pacer.step = some step) (waited : pacer.wait now = some (next, returned)) :
    next.step = some step ∧
      Advances step pacer.nextDeadline ⟨now, next.nextDeadline, returned⟩ := by
  rw [Pacer.wait, paced] at waited
  obtain ⟨advanced, result, made⟩ := Option.map_eq_some_iff.mp waited
  obtain ⟨rfl, rfl⟩ := Prod.mk.inj made
  have stepNonneg : (0 : Int) ≤ step.nanos := Int.natCast_nonneg _
  have room : (0 : Int) ≤ maxLagSteps * step.nanos :=
    Int.mul_nonneg (Int.natCast_nonneg _) stepNonneg
  refine ⟨rfl, ?_⟩
  rcases advanceDeadline_cases result with ⟨inTime, target⟩ | ⟨late, clamped⟩
  · exact {
      apart := target.symm.le
      called_le := by
        show now.nanos ≤ advanced.1.nanos + maxLagSteps * step.nanos
        omega
      cadence := fun _ => target
      returned_eq := Instant.later_nanos now advanced.1 }
  · exact {
      apart := by
        show pacer.nextDeadline.nanos + step.nanos ≤ advanced.1.nanos
        rw [clamped]
        exact late.le
      called_le := by
        show now.nanos ≤ advanced.1.nanos + maxLagSteps * step.nanos
        rw [clamped]
        omega
      cadence := fun onTime => absurd late (not_lt.mpr onTime)
      returned_eq := Instant.later_nanos now advanced.1 }

theorem Pacer.wait_eq_none {pacer : Pacer} {step : Duration} {now : Instant}
    (paced : pacer.step = some step) (panicked : pacer.wait now = none) :
    ¬Representable (pacer.nextDeadline.nanos + step.nanos) := by
  rw [Pacer.wait, paced] at panicked
  have noTarget := Option.map_eq_none_iff.mp (Option.map_eq_none_iff.mp panicked)
  exact Instant.add_eq_none noTarget

/-! ## Any sequence of calls -/

/-- Each wait advances the deadline of the one before it. -/
def AdvancesFrom (step : Duration) : Instant → List Wait → Prop
  | _, [] => True
  | previous, wait :: rest =>
      Advances step previous wait ∧ AdvancesFrom step wait.deadline rest

/-- No call comes later than a step behind the deadline of the one before it. -/
def NeverLate (step : Duration) : Instant → List Wait → Prop
  | _, [] => True
  | previous, wait :: rest =>
      wait.called.nanos ≤ previous.nanos + step.nanos ∧ NeverLate step wait.deadline rest

/-- The deadlines, with the one in front of the first call. -/
def deadlines (start : Instant) (waits : List Wait) : List Int :=
  start.nanos :: waits.map fun wait => wait.deadline.nanos

/-- The calls that return in a window, from its start to right before its end. -/
def returnsWithin (waits : List Wait) (low high : Int) : List Wait :=
  waits.filter fun wait => low ≤ wait.returned.nanos ∧ wait.returned.nanos < high

/-- What a sequence of calls is paced to. -/
structure Paced (step : Duration) (start : Instant) (calls : List Instant)
    (waits : List Wait) : Prop where
  /-- Every call returns, or the clock has no point for the next deadline. -/
  complete : waits.map Wait.called = calls ∨
    ∃ deadline ∈ deadlines start waits, ¬Representable (deadline + step.nanos)
  /-- Successive deadlines are at least a step apart. -/
  spaced : (deadlines start waits).IsChain (StepApart (step.nanos : Int))
  /-- A call returns at the later of its time and its deadline. -/
  returned_eq : ∀ wait ∈ waits, wait.returned.nanos = max wait.called.nanos wait.deadline.nanos
  /-- That is at most so many steps behind its deadline. -/
  lag : ∀ wait ∈ waits, wait.deadline.nanos ≤ wait.returned.nanos ∧
    wait.returned.nanos ≤ wait.deadline.nanos + maxLagSteps * step.nanos
  /-- A window has no more returns than its steps, and those that lagged. -/
  rate : ∀ (low : Int) (length : Nat),
    (returnsWithin waits low (low + length)).length ≤ length ⌈/⌉ step.nanos + maxLagSteps
  /-- A caller that is never late keeps the cadence. -/
  cadence : NeverLate step start waits →
    (deadlines start waits).IsChain fun (earlier later : Int) => later = earlier + step.nanos

theorem Pacer.waits_advance {pacer : Pacer} {step : Duration} (paced : pacer.step = some step)
    (calls : List Instant) : AdvancesFrom step pacer.nextDeadline (pacer.waits calls) := by
  induction calls generalizing pacer with
  | nil => trivial
  | cons now rest inductionHypothesis =>
      rw [Pacer.waits]
      cases waited : pacer.wait now with
      | none => trivial
      | some result =>
          have stepped := Pacer.wait_eq_some paced waited
          exact ⟨stepped.2, inductionHypothesis stepped.1⟩

/-- A sequence is cut short only where the clock has no point for a deadline. -/
theorem Pacer.waits_complete {pacer : Pacer} {step : Duration} (paced : pacer.step = some step)
    (calls : List Instant) :
    (pacer.waits calls).map Wait.called = calls ∨
      ∃ deadline ∈ deadlines pacer.nextDeadline (pacer.waits calls),
        ¬Representable (deadline + step.nanos) := by
  induction calls generalizing pacer with
  | nil => exact Or.inl rfl
  | cons now rest inductionHypothesis =>
      rw [Pacer.waits]
      cases waited : pacer.wait now with
      | none => exact Or.inr ⟨_, List.mem_cons_self, Pacer.wait_eq_none paced waited⟩
      | some result =>
          have stepped := Pacer.wait_eq_some paced waited
          rcases inductionHypothesis stepped.1 with complete | ⟨deadline, member, panicked⟩
          · exact Or.inl (congrArg (now :: ·) complete)
          · exact Or.inr ⟨deadline, List.mem_cons_of_mem _ member, panicked⟩

section Sequences

variable {step : Duration} {start : Instant} {waits : List Wait}

theorem AdvancesFrom.spaced (advances : AdvancesFrom step start waits) :
    (deadlines start waits).IsChain (StepApart (step.nanos : Int)) := by
  induction waits generalizing start with
  | nil => exact List.isChain_singleton _
  | cons wait rest inductionHypothesis =>
      exact List.isChain_cons_cons.mpr ⟨advances.1.apart, inductionHypothesis advances.2⟩

theorem AdvancesFrom.cadence (advances : AdvancesFrom step start waits)
    (onTime : NeverLate step start waits) :
    (deadlines start waits).IsChain fun (earlier later : Int) => later = earlier + step.nanos := by
  induction waits generalizing start with
  | nil => exact List.isChain_singleton _
  | cons wait rest inductionHypothesis =>
      have exactly := advances.1.cadence onTime.1
      exact List.isChain_cons_cons.mpr ⟨exactly, inductionHypothesis advances.2 onTime.2⟩

/-- Each wait advances some deadline. -/
theorem AdvancesFrom.exists_previous (advances : AdvancesFrom step start waits) {wait : Wait}
    (member : wait ∈ waits) : ∃ previous, Advances step previous wait := by
  induction waits generalizing start with
  | nil => contradiction
  | cons first rest inductionHypothesis =>
      rcases List.mem_cons.mp member with rfl | later
      · exact ⟨start, advances.1⟩
      · exact inductionHypothesis advances.2 later

theorem Advances.lag {previous : Instant} {wait : Wait} (advances : Advances step previous wait) :
    wait.deadline.nanos ≤ wait.returned.nanos ∧
      wait.returned.nanos ≤ wait.deadline.nanos + maxLagSteps * step.nanos := by
  have room : (0 : Int) ≤ maxLagSteps * step.nanos :=
    Int.mul_nonneg (Int.natCast_nonneg _) (Int.natCast_nonneg _)
  rw [advances.returned_eq]
  exact ⟨le_max_right _ _, max_le advances.called_le (by omega)⟩

/-- A window of any length is covered by its steps. -/
theorem window_le_steps (positive : 0 < step.nanos) (low : Int) (length : Nat) :
    low + length ≤ low + (length ⌈/⌉ step.nanos) • (step.nanos : Int) := by
  have covered : length ≤ step.nanos • (length ⌈/⌉ step.nanos) := le_smul_ceilDiv positive
  rw [smul_eq_mul, Nat.mul_comm] at covered
  have cast : (length : Int) ≤ (length ⌈/⌉ step.nanos : Nat) * step.nanos := by
    exact_mod_cast covered
  rw [nsmul_eq_mul]
  omega

theorem AdvancesFrom.rate (advances : AdvancesFrom step start waits) (positive : 0 < step.nanos)
    (low : Int) (length : Nat) :
    (returnsWithin waits low (low + length)).length ≤ length ⌈/⌉ step.nanos + maxLagSteps := by
  have spaced := (List.isChain_cons.mp advances.spaced).2
  apply length_filter_le_of_lag (Int.natCast_nonneg _) spaced
  · intro wait member
    obtain ⟨previous, advanced⟩ := advances.exists_previous member
    rw [nsmul_eq_mul]
    exact advanced.lag
  · exact window_le_steps positive low length

end Sequences

/-- **Whenever it is called, the pacer keeps its deadlines a step apart and its
rate in every window.** -/
theorem waits_paced (step : Duration) (positive : 0 < step.nanos) (start : Instant)
    (calls : List Instant) :
    Paced step start calls (Pacer.waits ⟨some step, start⟩ calls) := by
  have paced : (Pacer.mk (some step) start).step = some step := rfl
  have advances : AdvancesFrom step start (Pacer.waits ⟨some step, start⟩ calls) :=
    Pacer.waits_advance paced calls
  exact {
    complete := Pacer.waits_complete paced calls
    spaced := advances.spaced
    returned_eq := by
      intro wait member
      obtain ⟨previous, advanced⟩ := advances.exists_previous member
      exact advanced.returned_eq
    lag := by
      intro wait member
      obtain ⟨previous, advanced⟩ := advances.exists_previous member
      exact advanced.lag
    rate := advances.rate positive
    cadence := advances.cadence }

/-- A stall of ten milliseconds at a pace of 50 microseconds: the deadline is set
anew once, and the calls behind it keep the cadence. -/
theorem stalledCaller_paced :
    deadlines ⟨0, by decide⟩ (Pacer.waits ⟨some ⟨50000, by decide⟩, ⟨0, by decide⟩⟩
        [⟨10000000, by decide⟩, ⟨10000000, by decide⟩, ⟨10150000, by decide⟩]) =
      [0, 10000000, 10050000, 10100000] ∧
    Paced ⟨50000, by decide⟩ ⟨0, by decide⟩
      [⟨10000000, by decide⟩, ⟨10000000, by decide⟩, ⟨10150000, by decide⟩]
      (Pacer.waits ⟨some ⟨50000, by decide⟩, ⟨0, by decide⟩⟩
        [⟨10000000, by decide⟩, ⟨10000000, by decide⟩, ⟨10150000, by decide⟩]) :=
  ⟨by decide, waits_paced _ (by decide) _ _⟩

end Etr.Stress
