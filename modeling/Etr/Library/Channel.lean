/-!
Contract: bounded first-in first-out channels.

Owns a queue that carries its capacity bound as a field, the refusing send,
the receive, and the effect of offering items to a channel nobody drains. A
blocking send is the refusing send taken only when it succeeds.
-/

namespace Etr.Library

universe u

/-- A queue of at most `capacity` items, oldest first. -/
structure Channel (α : Type u) (capacity : Nat) where
  items : List α
  bounded : items.length ≤ capacity
deriving DecidableEq, Repr

namespace Channel

variable {α : Type u} {capacity : Nat}

/-- The channel nothing was sent on yet. -/
def empty : Channel α capacity := ⟨[], Nat.zero_le capacity⟩

@[simp] theorem items_empty : (empty : Channel α capacity).items = [] := rfl

/-- Append one item, or refuse when the channel is full. -/
def trySend (channel : Channel α capacity) (item : α) : Option (Channel α capacity) :=
  if room : channel.items.length < capacity then
    some ⟨channel.items ++ [item], by
      rw [List.length_append]
      exact room⟩
  else
    none

/-- Take the oldest item. -/
def recv (channel : Channel α capacity) : Option (α × Channel α capacity) :=
  match channel with
  | ⟨[], _⟩ => none
  | ⟨item :: rest, bounded⟩ => some (item, ⟨rest, Nat.le_of_succ_le bounded⟩)

/-- Offer one item, losing it when the channel is full. -/
def offer (channel : Channel α capacity) (item : α) : Channel α capacity :=
  (channel.trySend item).getD channel

variable {channel next : Channel α capacity} {item : α}

theorem eq_of_items_eq (same : channel.items = next.items) : channel = next := by
  cases channel
  cases next
  simpa using same

theorem trySend_eq_some :
    channel.trySend item = some next ↔
      channel.items.length < capacity ∧ next.items = channel.items ++ [item] := by
  unfold trySend
  by_cases room : channel.items.length < capacity
  · rw [dif_pos room, Option.some.injEq]
    constructor
    · rintro rfl
      exact ⟨room, rfl⟩
    · rintro ⟨-, appended⟩
      exact eq_of_items_eq appended.symm
  · simp [room]

theorem trySend_eq_none : channel.trySend item = none ↔ capacity ≤ channel.items.length := by
  unfold trySend
  by_cases room : channel.items.length < capacity
  · simp [room]
  · simp only [dif_neg room, true_iff]
    omega

theorem recv_eq_some :
    channel.recv = some (item, next) ↔ channel.items = item :: next.items := by
  obtain ⟨items, bounded⟩ := channel
  cases items with
  | nil => simp [recv]
  | cons head tail =>
      simp only [recv, Option.some.injEq, Prod.mk.injEq, List.cons.injEq]
      constructor
      · rintro ⟨rfl, rfl⟩
        exact ⟨rfl, rfl⟩
      · rintro ⟨rfl, rfl⟩
        exact ⟨rfl, rfl⟩

theorem recv_eq_none : channel.recv = none ↔ channel.items = [] := by
  obtain ⟨items, bounded⟩ := channel
  cases items <;> simp [recv]

/-- One offer keeps the longest prefix that fits. -/
theorem items_offer : (channel.offer item).items = (channel.items ++ [item]).take capacity := by
  unfold offer
  cases sent : channel.trySend item with
  | none =>
      have full := trySend_eq_none.mp sent
      have exact := Nat.le_antisymm channel.bounded full
      rw [Option.getD_none, List.take_append_of_le_length (Nat.le_of_eq exact.symm),
        List.take_of_length_le channel.bounded]
  | some next =>
      obtain ⟨room, appended⟩ := trySend_eq_some.mp sent
      have fits := next.bounded
      rw [appended] at fits
      rw [Option.getD_some, appended, List.take_of_length_le fits]

/-- A channel that kept the longest fitting prefix of what it was offered still
does after one more offer. -/
theorem items_offer_of_take {offered : List α} (kept : channel.items = offered.take capacity) :
    (channel.offer item).items = (offered ++ [item]).take capacity := by
  rw [items_offer, kept]
  by_cases room : offered.length < capacity
  · rw [List.take_of_length_le (Nat.le_of_lt room)]
  · have full : capacity ≤ offered.length := Nat.not_lt.mp room
    have exact : (offered.take capacity).length = capacity := by
      rw [List.length_take, Nat.min_eq_left full]
    rw [List.take_append_of_le_length (Nat.le_of_eq exact.symm),
      List.take_append_of_le_length full, List.take_take, Nat.min_self]

end Channel

end Etr.Library
