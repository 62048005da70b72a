/-!
Contract: a byte pipe that carries frames.

Owns the laws of a writer and a polling reader of frames, and the relation
under which the unread bytes of a pipe stand for a queue of items, possibly
with the front of one more frame behind them that its writer gave up.

Does not own any particular framing, nor who reads and who writes.
-/

namespace Etr.Library

universe u v

/-- A writer of frames, and a reader that takes one frame from the front of the
bytes that are there. -/
structure Frames (Item : Type u) where
  write : Item → List UInt8
  poll : List UInt8 → Option (Item × List UInt8)
  /-- The items whose frames the reader accepts. -/
  Fits : Item → Prop
  poll_nil : poll [] = none
  poll_write : ∀ item, Fits item → ∀ rest, poll (write item ++ rest) = some (item, rest)
  poll_cut : ∀ item, Fits item → ∀ count < (write item).length,
    poll ((write item).take count) = none

namespace Frames

variable {Item : Type u} (frames : Frames Item)

/-- Bytes a writer left when a write failed: the front of a frame, or nothing. -/
def Torn (bytes : List UInt8) : Prop :=
  bytes = [] ∨ ∃ item count, frames.Fits item ∧ count < (frames.write item).length ∧
    bytes = (frames.write item).take count

/-- The unread bytes are the frames of these items, and `torn` behind them. -/
structure Holds (bytes : List UInt8) (items : List Item) (torn : List UInt8) : Prop where
  content : bytes = items.flatMap frames.write ++ torn
  fits : ∀ item ∈ items, frames.Fits item
  ragged : frames.Torn torn

variable {frames} {bytes rest torn : List UInt8} {items : List Item} {item : Item}

theorem holds_nil : frames.Holds [] [] [] where
  content := rfl
  fits := List.forall_mem_nil _
  ragged := Or.inl rfl

/-- A frame is written whole. -/
theorem Holds.push (holds : frames.Holds bytes items []) (fits : frames.Fits item) :
    frames.Holds (bytes ++ frames.write item) (items ++ [item]) [] where
  content := by
    rw [holds.content, List.append_nil, List.append_nil, List.flatMap_append,
      List.flatMap_singleton]
  fits := by
    intro other member
    rcases List.mem_append.mp member with queued | new
    · exact holds.fits other queued
    · rw [List.mem_singleton.mp new]
      exact fits
  ragged := Or.inl rfl

/-- A write fails in the middle of a frame. -/
theorem Holds.tear (holds : frames.Holds bytes items []) (fits : frames.Fits item) {count : Nat}
    (short : count < (frames.write item).length) :
    frames.Holds (bytes ++ (frames.write item).take count) items
      ((frames.write item).take count) where
  content := by rw [holds.content, List.append_nil]
  fits := holds.fits
  ragged := Or.inr ⟨item, count, fits, short, rfl⟩

/-- Nothing is read from what a failed write left. -/
theorem poll_torn (ragged : frames.Torn torn) : frames.poll torn = none := by
  rcases ragged with rfl | ⟨item, count, fits, short, rfl⟩
  · exact frames.poll_nil
  · exact frames.poll_cut item fits count short

/-- What is read from the front of a frame and more is the item of the frame. -/
theorem poll_front {other : Item} {tail : List UInt8} (fits : frames.Fits item)
    (front : bytes <+: frames.write item ++ tail)
    (polled : frames.poll bytes = some (other, rest)) :
    other = item ∧ bytes = frames.write item ++ rest := by
  by_cases short : bytes.length < (frames.write item).length
  · have cut : bytes = (frames.write item).take bytes.length := by
      rw [List.prefix_iff_eq_take.mp front, List.length_take, List.length_append,
        Nat.min_eq_left (by omega), List.take_append_of_le_length (Nat.le_of_lt short)]
    rw [cut, frames.poll_cut item fits _ short] at polled
    contradiction
  · obtain ⟨more, rfl⟩ : frames.write item <+: bytes :=
      List.prefix_of_prefix_length_le (List.prefix_append _ _) front (Nat.le_of_not_lt short)
    rw [frames.poll_write item fits] at polled
    cases polled
    exact ⟨rfl, rfl⟩

/-- What is read is the oldest item. -/
theorem Holds.pull (holds : frames.Holds bytes items torn)
    (polled : frames.poll bytes = some (item, rest)) :
    ∃ others, items = item :: others ∧ frames.Holds rest others torn := by
  cases items with
  | nil =>
      have nothing := poll_torn holds.ragged
      rw [holds.content, List.flatMap_nil, List.nil_append, nothing] at polled
      contradiction
  | cons first others =>
      obtain ⟨firstFits, othersFit⟩ := List.forall_mem_cons.mp holds.fits
      rw [holds.content, List.flatMap_cons, List.append_assoc,
        frames.poll_write first firstFits] at polled
      cases polled
      exact ⟨others, rfl, rfl, othersFit, holds.ragged⟩

/-- A queued item can be read. -/
theorem Holds.poll_cons {others : List Item} (holds : frames.Holds bytes (item :: others) torn) :
    frames.poll bytes = some (item, others.flatMap frames.write ++ torn) := by
  rw [holds.content, List.flatMap_cons, List.append_assoc]
  exact frames.poll_write item (holds.fits item List.mem_cons_self) _

end Frames

end Etr.Library
