import Mathlib.Algebra.Order.Group.Defs
import Mathlib.Algebra.Order.Monoid.NatCast
import Mathlib.Data.List.Chain

/-!
Contract: sequences whose neighbours are at least one step apart.

Owns that such a sequence has at most `count` members in a window of `count`
steps, and what is left of that bound when each member is put off by a bounded
number of steps.

Does not own what the members are. They are taken from any ordered group.
-/

namespace Etr.Library

universe u v

variable {α : Type u} [AddCommGroup α] [LinearOrder α] [IsOrderedAddMonoid α]

/-- The next member comes a step later at the earliest. -/
def StepApart (step : α) (earlier later : α) : Prop :=
  earlier + step ≤ later

/-- Neighbours that are a step apart put all members a step apart. -/
theorem pairwise_of_isChain {step : α} (positive : 0 ≤ step) {members : List α}
    (spaced : members.IsChain (StepApart step)) : members.Pairwise (StepApart step) := by
  have transitive : ∀ {first second third : α}, StepApart step first second →
      StepApart step second third → StepApart step first third := by
    intro first second third near far
    calc first + step ≤ second := near
      _ ≤ second + step := le_add_of_nonneg_right positive
      _ ≤ third := far
  have chained : Trans (StepApart step) (StepApart step) (StepApart step) := ⟨transitive⟩
  exact spaced.pairwise

/-- A window of `count` steps has no room for more than `count` members. -/
theorem length_le_of_window {step : α} {members : List α}
    (apart : members.Pairwise (StepApart step)) {low : α} {count : Nat}
    (inside : ∀ member ∈ members, low ≤ member ∧ member < low + count • step) :
    members.length ≤ count := by
  induction members generalizing low count with
  | nil => exact Nat.zero_le count
  | cons first rest inductionHypothesis =>
      have firstInside := inside first List.mem_cons_self
      have parts := List.pairwise_cons.mp apart
      cases count with
      | zero =>
          rw [zero_nsmul, add_zero] at firstInside
          exact absurd firstInside.2 (not_lt.mpr firstInside.1)
      | succ count =>
          -- the rest lies in the window that starts one step later
          have later : ∀ member ∈ rest,
              low + step ≤ member ∧ member < low + step + count • step := by
            intro member isMember
            have bounded := (inside member (List.mem_cons_of_mem first isMember)).2
            rw [succ_nsmul', ← add_assoc] at bounded
            exact ⟨(add_le_add_left firstInside.1 step).trans (parts.1 member isMember), bounded⟩
          rw [List.length_cons]
          exact Nat.succ_le_succ (inductionHypothesis parts.2 later)

/-- **Members that are a step apart, each put off by at most `lag` steps, come at
most `count + lag` times in a window of `count` steps.** -/
theorem length_filter_le_of_lag {Item : Type v} {step : α} (positive : 0 ≤ step)
    {due shown : Item → α} {lag : Nat} {items : List Item}
    (spaced : (items.map due).IsChain (StepApart step))
    (lagging : ∀ item ∈ items, due item ≤ shown item ∧ shown item ≤ due item + lag • step)
    {low high : α} {count : Nat} (covered : high ≤ low + count • step) :
    (items.filter fun item => low ≤ shown item ∧ shown item < high).length ≤ count + lag := by
  have apart := List.pairwise_map.mp (pairwise_of_isChain positive spaced)
  have kept : ((items.filter fun item => low ≤ shown item ∧ shown item < high).map due).Pairwise
      (StepApart step) := List.pairwise_map.mpr (apart.filter _)
  have inside : ∀ member ∈
      (items.filter fun item => low ≤ shown item ∧ shown item < high).map due,
      low - lag • step ≤ member ∧ member < low - lag • step + (count + lag) • step := by
    intro member isMember
    obtain ⟨item, found, rfl⟩ := List.mem_map.mp isMember
    obtain ⟨isItem, shownInside⟩ := List.mem_filter.mp found
    rw [decide_eq_true_eq] at shownInside
    have bounds := lagging item isItem
    constructor
    · rw [sub_le_iff_le_add]
      exact shownInside.1.trans bounds.2
    · calc due item ≤ shown item := bounds.1
        _ < high := shownInside.2
        _ ≤ low + count • step := covered
        _ = low - lag • step + (count + lag) • step := by
          rw [add_nsmul, add_comm (count • step), ← add_assoc, sub_add_cancel]
  have bounded := length_le_of_window kept inside
  rw [List.length_map] at bounded
  exact bounded

end Etr.Library
