import Mathlib.Data.List.Basic

/-!
Contract: a list that others are inserted into.

Owns the relation between a list, what is inserted anywhere in it and the list
that comes out, up to items that do not count, how such lists are composed, and
what tests on the items say about the three of them.

Does not own what the items are or which of them count.
-/

namespace Etr.Library

variable {Item : Type}

/-- A test that no item passes that does not count. -/
def Blind (ignored : Item → Prop) (test : Item → Bool) : Prop :=
  ∀ item, ignored item → test item = false

/-- `whole` is `kept` in its order with `added` anywhere in it, up to ignored
items. -/
structure Extends (ignored : Item → Prop) (kept added whole : List Item) : Prop where
  sublist : ∀ test, Blind ignored test → (kept.filter test).Sublist (whole.filter test)
  counted : ∀ test, Blind ignored test →
    whole.countP test = kept.countP test + added.countP test

namespace Extends

variable {ignored : Item → Prop}

theorem refl (kept : List Item) : Extends ignored kept [] kept where
  sublist := fun _ _ => List.Sublist.refl _
  counted := fun _ _ => rfl

theorem insert (added : List Item) : Extends ignored [] added added where
  sublist := fun _ _ => List.nil_sublist _
  counted := fun _ _ => (Nat.zero_add _).symm

theorem filter_of_ignored {items : List Item} (every : ∀ item ∈ items, ignored item)
    {test : Item → Bool} (blind : Blind ignored test) : items.filter test = [] := by
  rw [List.filter_eq_nil_iff]
  intro item member
  rw [blind item (every item member)]
  exact Bool.false_ne_true

/-- Items that do not count may come and go. -/
theorem of_ignored {kept whole : List Item} (keptIgnored : ∀ item ∈ kept, ignored item)
    (wholeIgnored : ∀ item ∈ whole, ignored item) : Extends ignored kept [] whole where
  sublist := by
    intro test blind
    rw [filter_of_ignored keptIgnored blind]
    exact List.nil_sublist _
  counted := by
    intro test blind
    rw [List.countP_eq_length_filter, List.countP_eq_length_filter,
      filter_of_ignored keptIgnored blind, filter_of_ignored wholeIgnored blind]
    rfl

theorem append {kept added whole laterKept laterAdded later : List Item}
    (front : Extends ignored kept added whole) (back : Extends ignored laterKept laterAdded later) :
    Extends ignored (kept ++ laterKept) (added ++ laterAdded) (whole ++ later) where
  sublist := by
    intro test blind
    rw [List.filter_append, List.filter_append]
    exact (front.sublist test blind).append (back.sublist test blind)
  counted := by
    intro test blind
    have frontCount := front.counted test blind
    have backCount := back.counted test blind
    simp only [List.countP_append]
    omega

/-- Items at the end that do not count may be left out. -/
theorem append_ignored (kept : List Item) {rest : List Item}
    (every : ∀ item ∈ rest, ignored item) : Extends ignored (kept ++ rest) [] kept := by
  have both := (refl kept).append (of_ignored every (List.forall_mem_nil ignored))
  rw [List.append_nil, List.append_nil] at both
  exact both

/-- The order of what is inserted is left open. -/
theorem of_perm {kept added reordered whole : List Item}
    (extension : Extends ignored kept added whole) (same : added.Perm reordered) :
    Extends ignored kept reordered whole where
  sublist := extension.sublist
  counted := by
    intro test blind
    rw [extension.counted test blind, same.countP_eq]

section Tests

variable {kept added whole : List Item} (extension : Extends ignored kept added whole)
  {test : Item → Bool} (blind : Blind ignored test)

include extension blind

/-- What passes a test stays the same exactly if nothing inserted passes it. -/
theorem filter_eq_iff :
    whole.filter test = kept.filter test ↔ ∀ item ∈ added, test item = false := by
  have counted := extension.counted test blind
  have none : added.countP test = 0 ↔ ∀ item ∈ added, test item = false := by
    simp only [List.countP_eq_zero, Bool.not_eq_true]
  rw [← none]
  rw [List.countP_eq_length_filter, List.countP_eq_length_filter] at counted
  constructor
  · intro same
    rw [same] at counted
    omega
  · intro nothing
    apply Eq.symm
    apply (extension.sublist test blind).eq_of_length
    omega

theorem exists_iff :
    (∃ item ∈ whole, test item = true) ↔
      (∃ item ∈ kept, test item = true) ∨ ∃ item ∈ added, test item = true := by
  have counted := extension.counted test blind
  simp only [← List.countP_pos_iff]
  omega

end Tests

end Extends

end Etr.Library
