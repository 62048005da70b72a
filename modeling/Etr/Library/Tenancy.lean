import Mathlib.Logic.Function.Basic

/-!
Contract: places that go to whoever finds them free.

Owns the accounts that owners keep of the places they hold, that right accounts
are exclusive, and the changes by one owner that spare all the others.

Does not own any particular kind of place.
-/

namespace Etr.Library

universe u v

variable {Place : Type u} {Owner : Type v} {places changed : Place → Option Owner}
  {holds : Owner → List Place} {owner : Owner} {place : Place}

/-- Whoever believes to hold a place holds it. -/
def Tenanted (places : Place → Option Owner) (holds : Owner → List Place) : Prop :=
  ∀ owner, ∀ place ∈ holds owner, places place = some owner

/-- The change takes nothing from anybody but `owner`. -/
def Spares (owner : Owner) (places changed : Place → Option Owner) : Prop :=
  ∀ place other, other ≠ owner → places place = some other → changed place = some other

theorem spares_refl : Spares owner places places :=
  fun _ _ _ taken => taken

section Places

variable [DecidableEq Place]

/-- A free place is taken. -/
theorem spares_take (free : places place = none) (entry : Option Owner) :
    Spares owner places (Function.update places place entry) := by
  intro elsewhere other _ taken
  have different : elsewhere ≠ place := by
    rintro rfl
    rw [free] at taken
    contradiction
  rw [Function.update_of_ne different]
  exact taken

/-- A place of the owner changes hands. -/
theorem spares_release (own : places place = some owner) (entry : Option Owner) :
    Spares owner places (Function.update places place entry) := by
  intro elsewhere other foreign taken
  have different : elsewhere ≠ place := by
    rintro rfl
    exact foreign (Option.some.inj (taken.symm.trans own))
  rw [Function.update_of_ne different]
  exact taken

end Places

namespace Tenanted

theorem exclusive {first second : Owner} (tenanted : Tenanted places holds)
    (firstHolds : place ∈ holds first) (secondHolds : place ∈ holds second) : first = second :=
  Option.some.inj
    ((tenanted first place firstHolds).symm.trans (tenanted second place secondHolds))

/-- One owner acts, sparing the others, and its account is right again. -/
theorem move [DecidableEq Owner] {now : List Place} (tenanted : Tenanted places holds)
    (spares : Spares owner places changed) (right : ∀ place ∈ now, changed place = some owner) :
    Tenanted changed (Function.update holds owner now) := by
  intro other place member
  by_cases same : other = owner
  · subst same
    rw [Function.update_self] at member
    exact right place member
  · rw [Function.update_of_ne same] at member
    exact spares place other same (tenanted other place member)

end Tenanted

end Etr.Library
