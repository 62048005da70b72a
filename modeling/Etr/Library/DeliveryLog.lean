import Mathlib.Data.List.Infix
import Etr.Library.Transition

/-!
Contract: the purpose of an ordered reliable transport, as an abstract machine.

Owns the log whose delivered part is a prefix of what was offered, and its two
moves. The prefix property is a field, so no sequence of moves can lose,
duplicate or reorder an item.
-/

namespace Etr.Library

universe u

/-- What was handed in and what was handed out, oldest first. -/
structure DeliveryLog (α : Type u) where
  offered : List α
  delivered : List α
  inOrder : delivered <+: offered

namespace DeliveryLog

variable {α : Type u}

/-- Nothing was offered yet. -/
def empty : DeliveryLog α := ⟨[], [], List.nil_prefix⟩

/-- `offer` hands one item in, `deliver` hands the oldest undelivered one out. -/
inductive Move (α : Type u) where
  | offer (item : α)
  | deliver
deriving DecidableEq, Repr

private theorem prefix_append_next {offered delivered : List α} {item : α}
    (inOrder : delivered <+: offered) (oldest : offered[delivered.length]? = some item) :
    delivered ++ [item] <+: offered := by
  obtain ⟨rest, rfl⟩ := inOrder
  rw [List.getElem?_append_right (Nat.le_refl _), Nat.sub_self] at oldest
  cases rest with
  | nil => simp at oldest
  | cons head tail =>
      simp only [List.getElem?_cons_zero, Option.some.injEq] at oldest
      subst oldest
      exact ⟨tail, by simp⟩

/-- Make one move; nothing can be delivered while nothing is outstanding. -/
def step (log : DeliveryLog α) : Move α → Option (DeliveryLog α)
  | .offer item =>
      some ⟨log.offered ++ [item], log.delivered,
        log.inOrder.trans (List.prefix_append log.offered [item])⟩
  | .deliver =>
      match oldest : log.offered[log.delivered.length]? with
      | some item =>
          some ⟨log.offered, log.delivered ++ [item], prefix_append_next log.inOrder oldest⟩
      | none => none

/-- Delivering an item is possible when it extends the delivered prefix. -/
theorem step_deliver_of_prefix {log : DeliveryLog α} {item : α}
    (extended : log.delivered ++ [item] <+: log.offered) :
    ∃ next, log.step .deliver = some next ∧ next.offered = log.offered ∧
      next.delivered = log.delivered ++ [item] := by
  have oldest : log.offered[log.delivered.length]? = some item := by
    obtain ⟨rest, whole⟩ := extended
    rw [← whole]
    simp
  refine ⟨⟨log.offered, log.delivered ++ [item], extended⟩, ?_, rfl, rfl⟩
  simp only [step]
  split
  · rename_i found located
    rw [oldest, Option.some.injEq] at located
    subst located
    rfl
  · rename_i located
    rw [oldest] at located
    contradiction

/-- Handing in a list, oldest first. -/
theorem run_offer (log : DeliveryLog α) (items : List α) :
    ∃ next, run step log (items.map Move.offer) = some next ∧
      next.offered = log.offered ++ items ∧ next.delivered = log.delivered := by
  induction items generalizing log with
  | nil => exact ⟨log, rfl, (List.append_nil _).symm, rfl⟩
  | cons item rest inductionHypothesis =>
      rcases inductionHypothesis ⟨log.offered ++ [item], log.delivered,
        log.inOrder.trans (List.prefix_append log.offered [item])⟩ with
        ⟨next, executed, offered, delivered⟩
      refine ⟨next, run_cons_eq_some.mpr ⟨_, rfl, executed⟩, ?_, delivered⟩
      rw [offered, List.append_assoc, List.singleton_append]

end DeliveryLog

end Etr.Library
