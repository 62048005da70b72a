/-!
Contract: runs of partial, deterministic step functions.

Owns:
- executing a list of actions, where a refused action refuses the whole run;
- conditions on the steps of a run (`Along`) and on its states (`Throughout`);
- the part a component takes in a step of the whole (`TakesTurn`);
- the invariant rule, and the latch rule that lifts a one-step equivalence to
  whole runs;
- forward simulation of one step function by another.

Does not own any particular state machine.
-/

namespace Etr.Library

universe u v

variable {State : Type u} {Action : Type v}

/-- Execute the actions in order. -/
def run (step : State → Action → Option State) : State → List Action → Option State
  | state, [] => some state
  | state, action :: rest =>
      match step state action with
      | some next => run step next rest
      | none => none

/-- Every step of the run meets `ok`, a condition on the state before the step
and the action taken there. -/
def Along (step : State → Action → Option State) (ok : State → Action → Prop) :
    State → List Action → Prop
  | _, [] => True
  | state, action :: rest =>
      ok state action ∧
        match step state action with
        | some next => Along step ok next rest
        | none => True

/-- Every state the run passes through satisfies `holds`. -/
def Throughout (step : State → Action → Option State) (holds : State → Prop) :
    State → List Action → Prop
  | state, [] => holds state
  | state, action :: rest =>
      holds state ∧
        match step state action with
        | some next => Throughout step holds next rest
        | none => True

instance alongDecidable (step : State → Action → Option State) (ok : State → Action → Prop)
    [okDecidable : ∀ state action, Decidable (ok state action)] :
    ∀ (state : State) (actions : List Action), Decidable (Along step ok state actions)
  | _, [] => isTrue trivial
  | state, action :: rest =>
      have _tailDecidable : Decidable (match step state action with
          | some next => Along step ok next rest
          | none => True) :=
        match step state action with
        | some next => alongDecidable step ok next rest
        | none => isTrue trivial
      instDecidableAnd

/-- A component of a larger system in one step of the whole: it takes the step
`turn`, or stays as it is. -/
def TakesTurn (step : State → Action → Option State) (state : State) :
    Option Action → State → Prop
  | none, next => next = state
  | some turn, next => step state turn = some next

section Runs

variable {step : State → Action → Option State} {ok : State → Action → Prop}
  {invariant good holds : State → Prop} {state next final : State} {action : Action}
  {actions : List Action}

@[simp] theorem run_nil : run step state [] = some state := rfl

/-- A completed run of a nonempty list is a first step and a completed rest. -/
theorem run_cons_eq_some :
    run step state (action :: actions) = some final ↔
      ∃ next, step state action = some next ∧ run step next actions = some final := by
  cases stepped : step state action with
  | none => simp [run, stepped]
  | some next => simp [run, stepped]

theorem run_append_eq_some {first second : List Action} :
    run step state (first ++ second) = some final ↔
      ∃ middle, run step state first = some middle ∧ run step middle second = some final := by
  induction first generalizing state with
  | nil => simp
  | cons action rest inductionHypothesis =>
      rw [List.cons_append, run_cons_eq_some]
      constructor
      · rintro ⟨next, stepped, executed⟩
        obtain ⟨middle, prefixRun, suffixRun⟩ := inductionHypothesis.mp executed
        exact ⟨middle, run_cons_eq_some.mpr ⟨next, stepped, prefixRun⟩, suffixRun⟩
      · rintro ⟨middle, executed, suffixRun⟩
        obtain ⟨next, stepped, prefixRun⟩ := run_cons_eq_some.mp executed
        exact ⟨next, stepped, inductionHypothesis.mpr ⟨middle, prefixRun, suffixRun⟩⟩

theorem along_cons_of_step (stepped : step state action = some next) :
    Along step ok state (action :: actions) ↔
      ok state action ∧ Along step ok next actions := by
  simp only [Along, stepped]

theorem throughout_cons_of_step (stepped : step state action = some next) :
    Throughout step holds state (action :: actions) ↔
      holds state ∧ Throughout step holds next actions := by
  simp only [Throughout, stepped]

theorem along_and {left right : State → Action → Prop} :
    Along step (fun state action => left state action ∧ right state action) state actions ↔
      Along step left state actions ∧ Along step right state actions := by
  induction actions generalizing state with
  | nil => simp [Along]
  | cons action rest inductionHypothesis =>
      cases stepped : step state action with
      | none => simp [Along, stepped]
      | some next =>
          simp only [along_cons_of_step stepped, inductionHypothesis]
          exact and_and_and_comm

/-- A condition every step meets holds along every run. -/
theorem along_of_forall (always : ∀ state action, ok state action) :
    Along step ok state actions := by
  induction actions generalizing state with
  | nil => trivial
  | cons action rest inductionHypothesis =>
      refine ⟨always state action, ?_⟩
      cases step state action with
      | none => trivial
      | some next => exact inductionHypothesis

/-- A condition that each of the actions meets in every state. -/
theorem along_of_forall_mem (members : ∀ action ∈ actions, ∀ state, ok state action) :
    Along step ok state actions := by
  induction actions generalizing state with
  | nil => trivial
  | cons action rest inductionHypothesis =>
      have headMembers := List.forall_mem_cons.mp members
      apply And.intro (headMembers.1 state)
      cases step state action with
      | none => trivial
      | some next => exact inductionHypothesis headMembers.2

/-- Invariant rule for runs whose steps all meet a condition. -/
theorem run_invariant_along
    (preserved : ∀ {state action next}, invariant state → ok state action →
      step state action = some next → invariant next)
    (start : invariant state) (met : Along step ok state actions)
    (executed : run step state actions = some final) : invariant final := by
  induction actions generalizing state with
  | nil =>
      rw [run_nil, Option.some.injEq] at executed
      exact executed ▸ start
  | cons action rest inductionHypothesis =>
      obtain ⟨next, stepped, tailRun⟩ := run_cons_eq_some.mp executed
      obtain ⟨headMet, tailMet⟩ := (along_cons_of_step stepped).mp met
      exact inductionHypothesis (preserved start headMet stepped) tailMet tailRun

/-- Invariant rule for every state of a run whose steps all meet a condition. -/
theorem throughout_of_along
    (preserved : ∀ {state action next}, invariant state → ok state action →
      step state action = some next → invariant next)
    (implied : ∀ {state}, invariant state → holds state)
    (start : invariant state) (met : Along step ok state actions) :
    Throughout step holds state actions := by
  induction actions generalizing state with
  | nil => exact implied start
  | cons action rest inductionHypothesis =>
      refine ⟨implied start, ?_⟩
      cases stepped : step state action with
      | none => trivial
      | some next =>
          obtain ⟨headMet, tailMet⟩ := (along_cons_of_step stepped).mp met
          exact inductionHypothesis (preserved start headMet stepped) tailMet

/-- Invariant rule: what every step preserves holds at the end of every run. -/
theorem run_invariant
    (preserved : ∀ {state action next}, invariant state →
      step state action = some next → invariant next)
    (start : invariant state) (executed : run step state actions = some final) :
    invariant final := by
  have unconditional : Along step (fun _ _ => True) state actions :=
    along_of_forall fun _ _ => trivial
  exact run_invariant_along (fun held _ stepped => preserved held stepped) start
    unconditional executed

/-- A component that stays as it is keeps what its own steps keep. -/
theorem TakesTurn.keeps {turn : Option Action} (turned : TakesTurn step state turn next)
    (kept : State → Prop) (held : kept state)
    (keeps : ∀ {action}, turn = some action → step state action = some next → kept next) :
    kept next := by
  cases turn with
  | none =>
      rw [TakesTurn] at turned
      rwa [turned]
  | some action => exact keeps rfl turned

/-- Latch rule under an assumption on the steps. When a step leaves a good
state good exactly if it meets `ok`, and never repairs a bad one, the last
state of a run is good exactly if the first was and every step met `ok`. -/
theorem run_latch_along {assumed : State → Action → Prop}
    (preserved : ∀ {state action next}, invariant state → assumed state action →
      step state action = some next → invariant next)
    (latch : ∀ {state action next}, invariant state → assumed state action →
      step state action = some next → (good next ↔ good state ∧ ok state action))
    (start : invariant state) (assumption : Along step assumed state actions)
    (executed : run step state actions = some final) :
    good final ↔ good state ∧ Along step ok state actions := by
  induction actions generalizing state with
  | nil =>
      rw [run_nil, Option.some.injEq] at executed
      simp [Along, executed]
  | cons action rest inductionHypothesis =>
      obtain ⟨next, stepped, tailRun⟩ := run_cons_eq_some.mp executed
      obtain ⟨headAssumed, tailAssumed⟩ := (along_cons_of_step stepped).mp assumption
      rw [along_cons_of_step stepped,
        inductionHypothesis (preserved start headAssumed stepped) tailAssumed tailRun,
        latch start headAssumed stepped, and_assoc]

/-- Latch rule. -/
theorem run_latch
    (preserved : ∀ {state action next}, invariant state →
      step state action = some next → invariant next)
    (latch : ∀ {state action next}, invariant state → step state action = some next →
      (good next ↔ good state ∧ ok state action))
    (start : invariant state) (executed : run step state actions = some final) :
    good final ↔ good state ∧ Along step ok state actions := by
  have unconditional : Along step (fun _ _ => True) state actions :=
    along_of_forall fun _ _ => trivial
  exact run_latch_along (fun held _ stepped => preserved held stepped)
    (fun held _ stepped => latch held stepped) start unconditional executed

/-- A property holds in every state of a run exactly if every step meets the
condition under which one step keeps it, where all steps meet an assumption. -/
theorem throughout_iff_along_under {assumed : State → Action → Prop}
    (preserved : ∀ {state action next}, invariant state → assumed state action →
      step state action = some next → invariant next)
    (keeps : ∀ {state action next}, invariant state → assumed state action → holds state →
      step state action = some next → (holds next ↔ ok state action))
    (start : invariant state) (initially : holds state)
    (assumption : Along step assumed state actions)
    (executed : run step state actions = some final) :
    Throughout step holds state actions ↔ Along step ok state actions := by
  induction actions generalizing state with
  | nil => simp [Throughout, Along, initially]
  | cons action rest inductionHypothesis =>
      obtain ⟨next, stepped, tailRun⟩ := run_cons_eq_some.mp executed
      obtain ⟨headAssumed, tailAssumed⟩ := (along_cons_of_step stepped).mp assumption
      have nextInvariant := preserved start headAssumed stepped
      rw [throughout_cons_of_step stepped, along_cons_of_step stepped]
      constructor
      · rintro ⟨-, tailHolds⟩
        have nextHolds : holds next := by
          cases rest with
          | nil => exact tailHolds
          | cons _ _ => exact tailHolds.1
        exact ⟨(keeps start headAssumed initially stepped).mp nextHolds,
          (inductionHypothesis nextInvariant nextHolds tailAssumed tailRun).mp tailHolds⟩
      · rintro ⟨headMet, tailMet⟩
        have nextHolds := (keeps start headAssumed initially stepped).mpr headMet
        exact ⟨initially,
          (inductionHypothesis nextInvariant nextHolds tailAssumed tailRun).mpr tailMet⟩

/-- A property holds in every state of a run exactly if every step meets the
condition under which one step keeps it. -/
theorem throughout_iff_along
    (preserved : ∀ {state action next}, invariant state →
      step state action = some next → invariant next)
    (keeps : ∀ {state action next}, invariant state → holds state →
      step state action = some next → (holds next ↔ ok state action))
    (start : invariant state) (initially : holds state)
    (executed : run step state actions = some final) :
    Throughout step holds state actions ↔ Along step ok state actions := by
  have unconditional : Along step (fun _ _ => True) state actions :=
    along_of_forall fun _ _ => trivial
  exact throughout_iff_along_under (fun held _ stepped => preserved held stepped)
    (fun held _ holding stepped => keeps held holding stepped) start initially unconditional
    executed

/-- Actions that only run down a measure can be taken until none of them is
enabled. -/
theorem exists_quiescent {allowed : Action → Prop} {measure : State → Nat}
    (decreases : ∀ {state action next}, allowed action → step state action = some next →
      measure next < measure state) (state : State) :
    ∃ actions final, (∀ action ∈ actions, allowed action) ∧
      run step state actions = some final ∧
      ∀ action, allowed action → step final action = none := by
  induction bound : measure state using Nat.strongRecOn generalizing state with
  | ind size inductionHypothesis =>
      by_cases enabled : ∃ action next, allowed action ∧ step state action = some next
      · rcases enabled with ⟨action, next, permitted, stepped⟩
        have smaller : measure next < size := bound ▸ decreases permitted stepped
        rcases inductionHypothesis (measure next) smaller next rfl with
          ⟨actions, final, members, executed, rest⟩
        refine ⟨action :: actions, final, ?_, ?_, rest⟩
        · exact List.forall_mem_cons.mpr ⟨permitted, members⟩
        · exact run_cons_eq_some.mpr ⟨next, stepped, executed⟩
      · refine ⟨[], state, fun _ member => absurd member List.not_mem_nil, run_nil, ?_⟩
        intro action permitted
        cases stepped : step state action with
        | none => rfl
        | some next => exact absurd ⟨action, next, permitted, stepped⟩ enabled

end Runs

/-! ## Forward simulation -/

/-- `abstractStep` simulates `step`: related states stay related when each
concrete step that meets `ok` is answered by the abstract actions of `answer`. -/
structure Simulation {Abstract : Type u} {Move : Type v}
    (step : State → Action → Option State) (ok : State → Action → Prop)
    (abstractStep : Abstract → Move → Option Abstract) where
  related : State → Abstract → Prop
  answer : State → Action → List Move
  answers : ∀ {state action next image}, related state image → ok state action →
    step state action = some next →
      ∃ nextImage, run abstractStep image (answer state action) = some nextImage ∧
        related next nextImage

/-- A simulated run is answered by a run of the abstract machine. -/
theorem Simulation.run_answered {Abstract : Type u} {Move : Type v}
    {step : State → Action → Option State} {ok : State → Action → Prop}
    {abstractStep : Abstract → Move → Option Abstract}
    (simulation : Simulation step ok abstractStep)
    {state final : State} {image : Abstract} {actions : List Action}
    (start : simulation.related state image) (met : Along step ok state actions)
    (executed : run step state actions = some final) :
    ∃ moves finalImage, run abstractStep image moves = some finalImage ∧
      simulation.related final finalImage := by
  induction actions generalizing state image with
  | nil =>
      rw [run_nil, Option.some.injEq] at executed
      exact ⟨[], image, run_nil, executed ▸ start⟩
  | cons action rest inductionHypothesis =>
      obtain ⟨next, stepped, tailRun⟩ := run_cons_eq_some.mp executed
      obtain ⟨headMet, tailMet⟩ := (along_cons_of_step stepped).mp met
      obtain ⟨nextImage, answered, nextRelated⟩ := simulation.answers start headMet stepped
      obtain ⟨moves, finalImage, movesRun, finalRelated⟩ :=
        inductionHypothesis nextRelated tailMet tailRun
      exact ⟨simulation.answer state action ++ moves, finalImage,
        run_append_eq_some.mpr ⟨nextImage, answered, movesRun⟩, finalRelated⟩

end Etr.Library
