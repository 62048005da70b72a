import Etr.Library.Transition

/-!
Contract: runs with part of their actions taken out.

Owns the rule that compares a run with the one in which hidden actions are left
out, through a relation both kinds of action keep, and the unwinding rule: when
hidden actions change nothing that a view of the state shows and the other
actions can be taken in the view alone, a run without its hidden actions is a
run of the view.

Does not own which actions are hidden or what a view shows.
-/

namespace Etr.Library

universe u v

variable {State : Type u} {Action : Type v} {step : State → Action → Option State}
  {ok : State → Action → Prop} {invariant : State → Prop} {view : State → State}
  {hidden : Action → Bool} {state final : State} {actions : List Action}

/-- The actions of a run that are not hidden. -/
def purge (hidden : Action → Bool) (actions : List Action) : List Action :=
  actions.filter fun action => !hidden action

theorem purge_cons_of_hidden {action : Action} (isHidden : hidden action = true) :
    purge hidden (action :: actions) = purge hidden actions := by
  simp [purge, isHidden]

theorem purge_cons_of_visible {action : Action} (isVisible : hidden action = false) :
    purge hidden (action :: actions) = action :: purge hidden actions := by
  simp [purge, isVisible]

/-- A relation that hidden actions keep on the left alone and the others keep
on both sides relates a run to the one without its hidden actions. -/
theorem run_purge_related (related : State → State → Prop) {image : State}
    (hiddenKept : ∀ {state action next image}, related state image → ok state action →
      hidden action = true → step state action = some next → related next image)
    (visibleKept : ∀ {state action next image}, related state image → ok state action →
      hidden action = false → step state action = some next →
        ∃ nextImage, step image action = some nextImage ∧ related next nextImage)
    (start : related state image) (met : Along step ok state actions)
    (executed : run step state actions = some final) :
    ∃ finalImage, run step image (purge hidden actions) = some finalImage ∧
      related final finalImage := by
  induction actions generalizing state image with
  | nil =>
      rw [run_nil, Option.some.injEq] at executed
      exact ⟨image, rfl, executed ▸ start⟩
  | cons action rest inductionHypothesis =>
      obtain ⟨next, stepped, tailRun⟩ := run_cons_eq_some.mp executed
      obtain ⟨headMet, tailMet⟩ := (along_cons_of_step stepped).mp met
      cases isHidden : hidden action with
      | true =>
          rw [purge_cons_of_hidden isHidden]
          apply inductionHypothesis _ tailMet tailRun
          exact hiddenKept start headMet isHidden stepped
      | false =>
          obtain ⟨nextImage, answered, nextRelated⟩ :=
            visibleKept start headMet isHidden stepped
          obtain ⟨finalImage, imageRun, finalRelated⟩ :=
            inductionHypothesis nextRelated tailMet tailRun
          rw [purge_cons_of_visible isHidden]
          exact ⟨finalImage, run_cons_eq_some.mpr ⟨nextImage, answered, imageRun⟩, finalRelated⟩

/-- Unwinding rule. -/
theorem run_purge
    (preserved : ∀ {state action next}, invariant state → ok state action →
      step state action = some next → invariant next)
    (invisible : ∀ {state action next}, invariant state → ok state action →
      hidden action = true → step state action = some next → view next = view state)
    (visible : ∀ {state action next}, invariant state → ok state action →
      hidden action = false → step state action = some next →
        step (view state) action = some (view next))
    (start : invariant state) (met : Along step ok state actions)
    (executed : run step state actions = some final) :
    run step (view state) (purge hidden actions) = some (view final) := by
  have related : ∃ finalImage, run step (view state) (purge hidden actions) = some finalImage ∧
      invariant final ∧ finalImage = view final := by
    apply run_purge_related (fun state image => invariant state ∧ image = view state)
      _ _ ⟨start, rfl⟩ met executed
    · intro state action next image held met isHidden stepped
      have unseen := invisible held.1 met isHidden stepped
      exact ⟨preserved held.1 met stepped, held.2.trans unseen.symm⟩
    · intro state action next image held met isVisible stepped
      have taken := visible held.1 met isVisible stepped
      exact ⟨view next, held.2 ▸ taken, preserved held.1 met stepped, rfl⟩
  obtain ⟨finalImage, imageRun, -, same⟩ := related
  exact same ▸ imageRun

end Etr.Library
