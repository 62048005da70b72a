import Mathlib.Logic.Function.Basic
import Etr.Library.Transition

/-!
Contract: tasks that are spawned beside a shared state.

Owns the interleaving of any number of equal tasks with the moves of what they
share, the rule that lifts an invariant of one task to all of them, and what a
part gets to by allowed actions alone, within the whole.

Does not own any particular task.
-/

namespace Etr.Library

universe u

/-! ## Going on by allowed actions -/

section GoesOn

universe v

variable {State : Type u} {Action : Type v}

/-- Allowed actions alone lead from one state to the other. -/
def GoesOn (step : State → Action → Option State) (allowed : Action → Prop)
    (state next : State) : Prop :=
  ∃ actions, (∀ action ∈ actions, allowed action) ∧ run step state actions = some next

namespace GoesOn

variable {step : State → Action → Option State} {allowed : Action → Prop}
  {state middle next : State}

theorem refl (state : State) : GoesOn step allowed state state :=
  ⟨[], List.forall_mem_nil _, rfl⟩

theorem of_step {action : Action} (permitted : allowed action)
    (stepped : step state action = some next) : GoesOn step allowed state next :=
  ⟨[action], List.forall_mem_singleton.mpr permitted, run_cons_eq_some.mpr ⟨next, stepped, rfl⟩⟩

theorem trans (first : GoesOn step allowed state middle)
    (second : GoesOn step allowed middle next) : GoesOn step allowed state next := by
  obtain ⟨front, frontAllowed, frontRun⟩ := first
  obtain ⟨back, backAllowed, backRun⟩ := second
  refine ⟨front ++ back, ?_, run_append_eq_some.mpr ⟨middle, frontRun, backRun⟩⟩
  intro action member
  rcases List.mem_append.mp member with early | late
  · exact frontAllowed action early
  · exact backAllowed action late

/-- A part of a larger state takes its steps there. -/
theorem map {Whole : Type u} {Turn : Type v} {turn : Whole → Turn → Option Whole}
    {turnAllowed : Turn → Prop} (goes : GoesOn step allowed state next) (embed : State → Whole)
    (lift : Action → Turn) (permits : ∀ action, allowed action → turnAllowed (lift action))
    (turns : ∀ {state action next}, step state action = some next →
      turn (embed state) (lift action) = some (embed next)) :
    GoesOn turn turnAllowed (embed state) (embed next) := by
  obtain ⟨actions, permitted, executed⟩ := goes
  refine ⟨actions.map lift, ?_, ?_⟩
  · intro taken member
    obtain ⟨action, original, rfl⟩ := List.mem_map.mp member
    exact permits action (permitted action original)
  · clear permitted
    induction actions generalizing state with
    | nil =>
        rw [run_nil, Option.some.injEq] at executed
        rw [List.map_nil, run_nil, executed]
    | cons action rest inductionHypothesis =>
        obtain ⟨middle, stepped, tailRun⟩ := run_cons_eq_some.mp executed
        rw [List.map_cons, run_cons_eq_some]
        exact ⟨embed middle, turns stepped, inductionHypothesis tailRun⟩

end GoesOn

end GoesOn

/-! ## Tasks beside a shared state -/

/-- What one task does, with the shared state before its eyes, and how the
shared state moves. -/
structure TaskProgram (Shared Task Move Act : Type u) where
  move : Shared → Move → Option Shared
  spawned : Task
  act : Shared → Task → Act → Option Task

/-- A shared state and the tasks beside it, by their numbers. -/
structure Crew (Shared Task : Type u) where
  shared : Shared
  task : Nat → Option Task

inductive CrewAction (Move Act : Type u) where
  | move (move : Move)
  | spawn (index : Nat)
  | act (index : Nat) (act : Act)

namespace Crew

variable {Shared Task Move Act : Type u} (program : TaskProgram Shared Task Move Act)
  (crew : Crew Shared Task)

def alone (shared : Shared) : Crew Shared Task :=
  ⟨shared, fun _ => none⟩

/-- The crew with another task at a number. -/
def put (index : Nat) (task : Task) : Crew Shared Task :=
  { crew with task := Function.update crew.task index (some task) }

def step : CrewAction Move Act → Option (Crew Shared Task)
  | .move move => (program.move crew.shared move).map fun shared => { crew with shared := shared }
  | .spawn index =>
      match crew.task index with
      | none => some (crew.put index program.spawned)
      | some _ => none
  | .act index act =>
      (crew.task index).bind fun task => (program.act crew.shared task act).map (crew.put index)

section Put

variable {index other : Nat} {task : Task}

@[simp] theorem task_put_self : (crew.put index task).task index = some task :=
  Function.update_self ..

theorem task_put_other (different : other ≠ index) :
    (crew.put index task).task other = crew.task other :=
  Function.update_of_ne different ..

theorem put_put (again : Task) : (crew.put index task).put index again = crew.put index again := by
  simp only [put, Function.update_idem]

theorem put_self (here : crew.task index = some task) : crew.put index task = crew := by
  rw [put, ← here, Function.update_eq_self]

end Put

variable {program crew} {next : Crew Shared Task} {index : Nat}

theorem move_eq_some {move : Move} : crew.step program (.move move) = some next ↔
    ∃ shared, program.move crew.shared move = some shared ∧
      next = { crew with shared := shared } := by
  simp [step, @eq_comm _ next]

theorem spawn_eq_some : crew.step program (.spawn index) = some next ↔
    crew.task index = none ∧ next = crew.put index program.spawned := by
  cases here : crew.task index with
  | none => simp [step, here, @eq_comm _ next]
  | some task => simp [step, here]

theorem act_eq_some {act : Act} : crew.step program (.act index act) = some next ↔
    ∃ task moved, crew.task index = some task ∧ program.act crew.shared task act = some moved ∧
      next = crew.put index moved := by
  simp only [step, Option.bind_eq_some_iff, Option.map_eq_some_iff]
  constructor
  · rintro ⟨task, here, moved, acted, rfl⟩
    exact ⟨task, moved, here, acted, rfl⟩
  · rintro ⟨task, moved, here, acted, rfl⟩
    exact ⟨task, here, moved, acted, rfl⟩

/-! ## Invariants of one task -/

/-- The condition on the moves of the shared state and on the steps of the task
at one number; the other tasks are free. -/
def Minding (movesOk : Shared → Move → Prop) (index : Nat) (actOk : Act → Prop)
    (crew : Crew Shared Task) : CrewAction Move Act → Prop
  | .move move => movesOk crew.shared move
  | .spawn _ => True
  | .act other act => other = index → actOk act

/-- The shared state is sound, and so is the task at one number, if there is one. -/
structure Sound (sharedHolds : Shared → Prop) (holds : Task → Prop) (index : Nat)
    (crew : Crew Shared Task) : Prop where
  shared : sharedHolds crew.shared
  task : ∀ task, crew.task index = some task → holds task

/-- What the shared state and the steps of a task keep, the crew keeps. -/
theorem Sound.step {sharedHolds : Shared → Prop} {holds : Task → Prop}
    {movesOk : Shared → Move → Prop} {actOk : Act → Prop} {action : CrewAction Move Act}
    (moves : ∀ {shared move moved}, sharedHolds shared → movesOk shared move →
      program.move shared move = some moved → sharedHolds moved)
    (spawned : holds program.spawned)
    (acts : ∀ {shared task act moved}, sharedHolds shared → holds task → actOk act →
      program.act shared task act = some moved → holds moved)
    (sound : crew.Sound sharedHolds holds index) (met : Minding movesOk index actOk crew action)
    (stepped : crew.step program action = some next) : next.Sound sharedHolds holds index := by
  cases action with
  | move move =>
      obtain ⟨shared, moved, rfl⟩ := move_eq_some.mp stepped
      exact ⟨moves sound.shared met moved, sound.task⟩
  | spawn other =>
      obtain ⟨free, rfl⟩ := spawn_eq_some.mp stepped
      refine ⟨sound.shared, fun task here => ?_⟩
      by_cases same : index = other
      · subst same
        rw [task_put_self] at here
        cases here
        exact spawned
      · rw [task_put_other _ same] at here
        exact sound.task task here
  | act other act =>
      obtain ⟨before, moved, found, acted, rfl⟩ := act_eq_some.mp stepped
      refine ⟨sound.shared, fun task here => ?_⟩
      by_cases same : index = other
      · subst same
        rw [task_put_self] at here
        cases here
        exact acts sound.shared (sound.task before found) (met rfl) acted
      · rw [task_put_other _ same] at here
        exact sound.task task here

/-! ## A task alone -/

/-- What a task gets to while nobody else moves, the crew gets to. -/
theorem goesOn_act {task moved : Task} {allowed : Act → Prop}
    (here : crew.task index = some task)
    (goes : GoesOn (program.act crew.shared) allowed task moved) :
    GoesOn (step program) (fun action => ∃ act, action = .act index act ∧ allowed act) crew
      (crew.put index moved) := by
  have turns : ∀ {task act moved}, program.act crew.shared task act = some moved →
      (crew.put index task).step program (.act index act) = some (crew.put index moved) := by
    intro task act moved acted
    rw [act_eq_some]
    exact ⟨task, moved, task_put_self crew, acted, (put_put crew moved).symm⟩
  have lifted : GoesOn (step program) (fun action => ∃ act, action = .act index act ∧ allowed act)
      (crew.put index task) (crew.put index moved) :=
    goes.map (crew.put index) (CrewAction.act index) (fun act permitted => ⟨act, rfl, permitted⟩)
      turns
  rwa [put_self crew here] at lifted

end Crew

end Etr.Library
