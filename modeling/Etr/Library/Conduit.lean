/-!
Contract: what comes out of a path of buffers that may discard what it holds.

Owns the view of such a path as what it was given, has delivered and holds, the
relation between one step and the segment it discards, and when everything
given was delivered.

Does not own any particular buffer.
-/

namespace Etr.Library

universe u

/-- A path of buffers seen from outside; `held` lists what is between its ends,
oldest first. -/
structure Conduit (α : Type u) where
  given : List α
  delivered : List α
  held : List α

namespace Conduit

variable {α : Type u} {conduit before after : Conduit α} {discarded : List α}

/-- What was delivered and is held was given, in that order. -/
def Ordered (conduit : Conduit α) : Prop :=
  (conduit.delivered ++ conduit.held).Sublist conduit.given

/-- Nothing was discarded. -/
def Intact (conduit : Conduit α) : Prop :=
  conduit.delivered ++ conduit.held = conduit.given

/-- One step accepts items at the near end, takes `discarded` out of the path
and keeps the rest in order. -/
def Evolves (before after : Conduit α) (discarded : List α) : Prop :=
  ∃ accepted front back,
    after.given = before.given ++ accepted ∧
      before.delivered ++ before.held ++ accepted = front ++ (discarded ++ back) ∧
      after.delivered ++ after.held = front ++ back

/-- A step that only moves items along the path. -/
theorem evolves_of_same (given : after.given = before.given)
    (moved : after.delivered ++ after.held = before.delivered ++ before.held) :
    before.Evolves after [] := by
  refine ⟨[], before.delivered ++ before.held, [], ?_, ?_, ?_⟩
  · rw [given, List.append_nil]
  · simp
  · simp [moved]

theorem Intact.ordered (intact : conduit.Intact) : conduit.Ordered := by
  rw [Intact] at intact
  simp only [Ordered, intact, List.Sublist.refl]

theorem Ordered.evolves (ordered : before.Ordered) (evolved : before.Evolves after discarded) :
    after.Ordered := by
  rcases evolved with ⟨accepted, front, back, given, split, kept⟩
  have longer := List.Sublist.append_right ordered accepted
  have shorter : (front ++ back).Sublist (front ++ (discarded ++ back)) :=
    (List.sublist_append_right discarded back).append_left front
  rw [split] at longer
  rw [Ordered, kept, given]
  exact shorter.trans longer

/-- A step leaves the path intact exactly if it was intact and the step
discards nothing. -/
theorem intact_evolves_iff (ordered : before.Ordered)
    (evolved : before.Evolves after discarded) :
    after.Intact ↔ before.Intact ∧ discarded = [] := by
  rcases evolved with ⟨accepted, front, back, given, split, kept⟩
  rw [Intact, Intact, kept, given]
  constructor
  · intro same
    have lengths := (List.Sublist.append_right ordered accepted).length_le
    rw [split, ← same, List.length_append, List.length_append, List.length_append] at lengths
    have nothing : discarded = [] := by
      apply List.eq_nil_of_length_eq_zero
      omega
    rw [nothing, List.nil_append, same] at split
    exact ⟨List.append_cancel_right split, nothing⟩
  · rintro ⟨same, nothing⟩
    rw [nothing, List.nil_append, same] at split
    exact split.symm

/-- Nothing was discarded and nothing is held: everything given was
delivered, and conversely. -/
theorem delivered_eq_given_iff (ordered : conduit.Ordered) :
    conduit.delivered = conduit.given ↔ conduit.Intact ∧ conduit.held = [] := by
  constructor
  · intro same
    have lengths := ordered.length_le
    rw [← same, List.length_append] at lengths
    have nothing : conduit.held = [] := by
      apply List.eq_nil_of_length_eq_zero
      omega
    refine ⟨?_, nothing⟩
    rw [Intact, nothing, List.append_nil, same]
  · rintro ⟨intact, nothing⟩
    rw [Intact, nothing, List.append_nil] at intact
    exact intact

end Conduit

end Etr.Library
