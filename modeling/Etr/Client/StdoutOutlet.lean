import Etr.Client.StdoutRelay
import Mathlib.Data.List.Perm.Subperm

/-!
Contract: what the client holds of the PTY output, and what stdout shows of it.

Owns the chunks and payloads a state holds, what each step does to them, that no
payload is shown more often than it was passed on, and the order on stdout.

Does not own the watermark.
-/

namespace Etr.Client.StdoutState

open Etr.Library Etr.Session

variable {state next : StdoutState}

/-! ## What a state holds -/

/-- The chunk read from the stream and not yet marked. -/
def inRead (state : StdoutState) : List Chunk :=
  match state.receiver with
  | .locking chunk => [chunk]
  | _ => []

/-- The chunk marked and not yet handed to the stdout queue. -/
def inForward (state : StdoutState) : List Chunk :=
  match state.receiver with
  | .forwarding chunk => [chunk]
  | _ => []

/-- Handed to the stdout task and not yet written, oldest first. -/
def unwritten (state : StdoutState) : List Payload :=
  state.writer.buffer ++ state.stdoutTx.items

theorem flushed_iff : state.Flushed ↔ state.unwritten = [] := by
  rw [Flushed, unwritten, List.append_eq_nil_iff, and_comm]

/-- On stdout or with the stdout task, in order. -/
def outlet (state : StdoutState) : List Payload := state.stdout ++ state.unwritten

/-- Chunks read from the stream, up to the stdout queue. -/
def held (state : StdoutState) : List Chunk :=
  state.passedOn ++ (state.inForward ++ state.inRead)

/-- A stdout task that has written everything leaves nothing behind. -/
theorem nil_of_mem_unfinished {task : List Payload}
    (flushed : state.Flushed) (member : task ∈ state.unfinished) : task = [] := by
  unfold unfinished at member
  split at member
  · cases member
  · rename_i buffer writing
    rw [List.mem_singleton.mp member, flushed.1, List.append_nil]
    have empty := flushed.2
    rwa [writing] at empty

/-! ## What a step does to it -/

/-- Only stdout tasks write to stdout. -/
theorem stdout_of_step {action : StdoutAction}
    (notWrite : action ≠ .writeStdout) (noOther : ∀ index, action ≠ .writeLingering index)
    (stepped : state.step action = some next) : next.stdout = state.stdout := by
  cases action with
  | writeStdout => exact absurd rfl notWrite
  | writeLingering index => exact absurd rfl (noOther index)
  | takeStdout =>
      rcases takeStdout_eq_some.mp stepped with ⟨payload, rest, -, rfl⟩
      rfl
  | flushed =>
      rcases flushed_eq_some.mp stepped with ⟨-, rfl⟩
      rfl
  | spawn =>
      rcases spawn_eq_some.mp stepped with ⟨-, rfl⟩
      rfl
  | read chunk =>
      rcases read_eq_some.mp stepped with ⟨-, -, rfl⟩
      rfl
  | mark =>
      rcases mark_eq_some.mp stepped with ⟨chunk, -, rfl⟩
      rfl
  | forward =>
      rcases forward_eq_some.mp stepped with ⟨chunk, -, ⟨sent, -, rfl⟩ | ⟨-, rfl⟩⟩
      · rfl
      · rfl
  | abort =>
      rcases abort_cases stepped with ⟨-, rfl⟩
      rfl
  | acknowledge acks =>
      cases stepped
      rfl
  | recordInput data =>
      cases stepped
      rfl

/-- A chunk that the client holds was held before, or was just read. -/
theorem held_of_step {action : StdoutAction} (stepped : state.step action = some next)
    {chunk : Chunk} (member : chunk ∈ next.held) :
    chunk ∈ state.held ∨ action = .read chunk := by
  cases action with
  | spawn =>
      rcases spawn_eq_some.mp stepped with ⟨absent, rfl⟩
      left
      simpa [held, inForward, inRead, absent] using member
  | read taken =>
      rcases read_eq_some.mp stepped with ⟨reading, -, rfl⟩
      simp only [held, inForward, inRead, reading, List.mem_append, List.mem_singleton] at member ⊢
      rcases member with passed | handing | rfl
      · exact Or.inl (Or.inl passed)
      · cases handing
      · exact Or.inr rfl
  | mark =>
      rcases mark_eq_some.mp stepped with ⟨taken, locking, rfl⟩
      left
      simpa [held, inForward, inRead, locking] using member
  | forward =>
      rcases forward_eq_some.mp stepped with ⟨taken, handing, ⟨sent, -, rfl⟩ | ⟨-, rfl⟩⟩
      · left
        simpa [held, inForward, inRead, handing] using member
      · left
        simp only [held, inForward, inRead, handing, List.append_nil] at member ⊢
        exact List.mem_append_left _ member
  | takeStdout =>
      rcases takeStdout_eq_some.mp stepped with ⟨payload, rest, -, rfl⟩
      exact Or.inl member
  | writeStdout =>
      rcases writeStdout_eq_some.mp stepped with ⟨payload, rest, -, rfl⟩
      exact Or.inl member
  | flushed =>
      rcases flushed_eq_some.mp stepped with ⟨-, rfl⟩
      exact Or.inl member
  | abort =>
      rcases abort_cases stepped with ⟨-, rfl⟩
      left
      simp only [held, inForward, inRead, List.append_nil] at member
      exact List.mem_append_left _ member
  | writeLingering index =>
      rcases writeLingering_eq_some.mp stepped with ⟨payload, rest, -, rfl⟩
      exact Or.inl member
  | acknowledge acks =>
      cases stepped
      exact Or.inl member
  | recordInput data =>
      cases stepped
      exact Or.inl member

/-- As long as the connection stays up and the queue has room, the client keeps
every chunk, and takes in the one it reads. -/
theorem held_subset_of_step {action : StdoutAction} (stays : action ≠ .abort)
    (room : state.FindsRoom action) (stepped : state.step action = some next) :
    state.held ⊆ next.held ∧ ∀ chunk, action = .read chunk → chunk ∈ next.held := by
  cases action with
  | abort => exact absurd rfl stays
  | spawn =>
      rcases spawn_eq_some.mp stepped with ⟨absent, rfl⟩
      refine ⟨fun chunk member => ?_, nofun⟩
      simpa [held, inForward, inRead, absent] using member
  | read taken =>
      rcases read_eq_some.mp stepped with ⟨reading, -, rfl⟩
      constructor
      · intro chunk member
        simp only [held, inForward, inRead, reading, List.append_nil] at member ⊢
        exact List.mem_append_left _ member
      · rintro chunk same
        cases same
        simp [held, inForward, inRead]
  | mark =>
      rcases mark_eq_some.mp stepped with ⟨taken, locking, rfl⟩
      refine ⟨fun chunk member => ?_, nofun⟩
      simpa [held, inForward, inRead, locking] using member
  | forward =>
      rcases forward_eq_some.mp stepped with ⟨taken, handing, ⟨sent, -, rfl⟩ | ⟨refused, -⟩⟩
      · refine ⟨fun chunk member => ?_, nofun⟩
        simpa [held, inForward, inRead, handing] using member
      · exact absurd room (Nat.not_lt.mpr (Channel.trySend_eq_none.mp refused))
  | takeStdout =>
      rcases takeStdout_eq_some.mp stepped with ⟨payload, rest, -, rfl⟩
      exact ⟨fun _ member => member, nofun⟩
  | writeStdout =>
      rcases writeStdout_eq_some.mp stepped with ⟨payload, rest, -, rfl⟩
      exact ⟨fun _ member => member, nofun⟩
  | flushed =>
      rcases flushed_eq_some.mp stepped with ⟨-, rfl⟩
      exact ⟨fun _ member => member, nofun⟩
  | writeLingering index =>
      rcases writeLingering_eq_some.mp stepped with ⟨payload, rest, -, rfl⟩
      exact ⟨fun _ member => member, nofun⟩
  | acknowledge acks =>
      cases stepped
      exact ⟨fun _ member => member, nofun⟩
  | recordInput data =>
      cases stepped
      exact ⟨fun _ member => member, nofun⟩

/-- What a step can do to the payloads behind the hand-over: nothing that shows,
take in a chunk that is passed on, lose what is unwritten or leave it to an
aborted task, or let such a task write. -/
theorem outlet_of_step {action : StdoutAction} (stepped : state.step action = some next) :
    (next.outlet = state.outlet ∧ next.lingering = state.lingering ∧
        next.passedOn = state.passedOn) ∨
      (∃ chunk, next.outlet = state.outlet ++ [chunk.2] ∧ next.lingering = state.lingering ∧
        next.passedOn = state.passedOn ++ [chunk]) ∨
      (next.outlet = state.stdout ∧ next.passedOn = state.passedOn ∧
        ((state.receiver = .absent ∧ next.lingering = state.lingering) ∨
          (action = .abort ∧ next.lingering = state.lingering ++ state.unfinished))) ∨
      (∃ index payload rest, action = .writeLingering index ∧
        state.lingering[index]? = some (payload :: rest) ∧
        next.lingering = state.lingering.set index rest ∧
        next.outlet = state.stdout ++ payload :: state.unwritten ∧
        next.passedOn = state.passedOn) := by
  cases action with
  | spawn =>
      rcases spawn_eq_some.mp stepped with ⟨absent, rfl⟩
      exact Or.inr (Or.inr (Or.inl ⟨List.append_nil _, rfl, Or.inl ⟨absent, rfl⟩⟩))
  | read chunk =>
      rcases read_eq_some.mp stepped with ⟨-, -, rfl⟩
      exact Or.inl ⟨rfl, rfl, rfl⟩
  | mark =>
      rcases mark_eq_some.mp stepped with ⟨chunk, -, rfl⟩
      exact Or.inl ⟨rfl, rfl, rfl⟩
  | forward =>
      rcases forward_eq_some.mp stepped with ⟨chunk, -, ⟨sent, accepted, rfl⟩ | ⟨-, rfl⟩⟩
      · refine Or.inr (Or.inl ⟨chunk, ?_, rfl, rfl⟩)
        simp only [outlet, unwritten, (Channel.trySend_eq_some.mp accepted).2, List.append_assoc]
      · exact Or.inl ⟨rfl, rfl, rfl⟩
  | takeStdout =>
      rcases takeStdout_eq_some.mp stepped with ⟨payload, rest, oldest, rfl⟩
      refine Or.inl ⟨?_, rfl, rfl⟩
      simp [outlet, unwritten, StdoutWriter.buffer, oldest]
  | writeStdout =>
      rcases writeStdout_eq_some.mp stepped with ⟨payload, rest, writing, rfl⟩
      refine Or.inl ⟨?_, rfl, rfl⟩
      simp [outlet, unwritten, StdoutWriter.buffer, writing]
  | flushed =>
      rcases flushed_eq_some.mp stepped with ⟨writing, rfl⟩
      refine Or.inl ⟨?_, rfl, rfl⟩
      simp [outlet, unwritten, StdoutWriter.buffer, writing]
  | abort =>
      rcases abort_cases stepped with ⟨-, rfl⟩
      exact Or.inr (Or.inr (Or.inl ⟨List.append_nil _, rfl, Or.inr ⟨rfl, rfl⟩⟩))
  | writeLingering index =>
      rcases writeLingering_eq_some.mp stepped with ⟨payload, rest, running, rfl⟩
      refine Or.inr (Or.inr (Or.inr ⟨index, payload, rest, rfl, running, rfl, ?_, rfl⟩))
      exact List.append_assoc state.stdout [payload] _
  | acknowledge acks =>
      cases stepped
      exact Or.inl ⟨rfl, rfl, rfl⟩
  | recordInput data =>
      cases stepped
      exact Or.inl ⟨rfl, rfl, rfl⟩

/-- What a task leaves behind is at most what it had not written. -/
theorem flatten_unfinished_sublist (state : StdoutState) :
    state.unfinished.flatten.Sublist state.unwritten := by
  unfold unfinished unwritten
  cases state.writer with
  | waiting => exact List.nil_sublist _
  | writing buffer =>
      rw [List.flatten_singleton]
      exact List.Sublist.refl _

/-! ## No payload twice -/

/-- What is shown, or will be, was passed on at least as often. -/
def Once (state : StdoutState) : Prop :=
  (state.outlet ++ state.lingering.flatten).Subperm (state.passedOn.map Prod.snd)

/-- Taking the head off one of several queues. -/
theorem perm_flatten_set {tasks : List (List Payload)} {index : Nat} {payload : Payload}
    {rest : List Payload} (found : tasks[index]? = some (payload :: rest)) :
    tasks.flatten.Perm (payload :: (tasks.set index rest).flatten) := by
  induction tasks generalizing index with
  | nil => cases found
  | cons task tasks inductionHypothesis =>
      cases index with
      | zero =>
          cases found
          exact List.Perm.refl _
      | succ index =>
          have moved := (inductionHypothesis found).append_left task
          exact moved.trans List.perm_middle

theorem Once.step {action : StdoutAction} (once : state.Once)
    (stepped : state.step action = some next) : next.Once := by
  rcases outlet_of_step stepped with ⟨outlet, lingering, passed⟩ |
    ⟨chunk, outlet, lingering, passed⟩ | ⟨outlet, passed, lingering⟩ |
    ⟨index, payload, rest, -, running, lingering, outlet, passed⟩
  · rw [Once, outlet, lingering, passed]
    exact once
  · rw [Once, outlet, lingering, passed, List.map_append]
    have moved : (state.outlet ++ [chunk.2] ++ state.lingering.flatten).Perm
        (state.outlet ++ state.lingering.flatten ++ [chunk.2]) := by
      simp only [List.append_assoc]
      exact List.perm_append_comm.append_left state.outlet
    exact moved.subperm.trans (once.append (List.Subperm.refl _))
  · rw [Once, outlet, passed]
    have fewer : next.lingering.flatten.Subperm
        (state.unwritten ++ state.lingering.flatten) := by
      rcases lingering with ⟨-, same⟩ | ⟨-, left⟩
      · rw [same]
        exact (List.sublist_append_right _ _).subperm
      · rw [left, List.flatten_append]
        have kept := (flatten_unfinished_sublist state).append_left state.lingering.flatten
        exact kept.subperm.trans List.perm_append_comm.subperm
    have whole := (List.subperm_append_left state.stdout).mpr fewer
    rw [← List.append_assoc] at whole
    exact whole.trans once
  · rw [Once, outlet, lingering, passed]
    have moved : (state.stdout ++ payload :: state.unwritten ++
        (state.lingering.set index rest).flatten).Perm
          (state.outlet ++ state.lingering.flatten) := by
      have taken := (perm_flatten_set running).append_left state.outlet
      refine List.Perm.trans ?_ taken.symm
      simp only [StdoutState.outlet, List.append_assoc, List.cons_append]
      exact (List.perm_middle.symm).append_left state.stdout
    exact moved.subperm.trans once

/-- The payloads on stdout alone. -/
theorem Once.stdout (once : state.Once) :
    state.stdout.Subperm (state.passedOn.map Prod.snd) := by
  have part : state.stdout.Sublist (state.outlet ++ state.lingering.flatten) := by
    rw [outlet, List.append_assoc]
    exact List.sublist_append_left _ _
  exact part.subperm.trans once

/-! ## The order on stdout -/

/-- What the stdout task has written or is to write was passed on in that order,
and no other task has anything left to write. -/
structure InOrder (state : StdoutState) : Prop where
  outlet : state.outlet.Sublist (state.passedOn.map Prod.snd)
  quiet : ∀ task ∈ state.lingering, task = []

theorem InOrder.step {action : StdoutAction} (inOrder : state.InOrder)
    (clean : action = .abort → ∀ task ∈ state.unfinished, task = [])
    (stepped : state.step action = some next) : next.InOrder := by
  rcases outlet_of_step stepped with ⟨outlet, lingering, passed⟩ |
    ⟨chunk, outlet, lingering, passed⟩ | ⟨outlet, passed, lingering⟩ |
    ⟨index, payload, rest, -, running, -, -, -⟩
  · constructor
    · rw [outlet, passed]
      exact inOrder.outlet
    · rw [lingering]
      exact inOrder.quiet
  · constructor
    · rw [outlet, passed, List.map_append]
      exact inOrder.outlet.append (List.Sublist.refl _)
    · rw [lingering]
      exact inOrder.quiet
  · constructor
    · rw [outlet, passed]
      exact (List.sublist_append_left _ _).trans inOrder.outlet
    · intro task member
      rcases lingering with ⟨-, same⟩ | ⟨aborted, left⟩
      · rw [same] at member
        exact inOrder.quiet task member
      · rw [left] at member
        rcases List.mem_append.mp member with earlier | latest
        · exact inOrder.quiet task earlier
        · exact clean aborted task latest
  · cases inOrder.quiet _ (List.mem_of_getElem? running)

theorem InOrder.stdout (inOrder : state.InOrder) :
    state.stdout.Sublist (state.passedOn.map Prod.snd) :=
  (List.sublist_append_left _ _).trans inOrder.outlet

/-! ## A connection that stays up -/

/-- Everything that was passed on is on stdout or with the stdout task. -/
structure Passing (state : StdoutState) : Prop where
  outlet : state.outlet = state.passedOn.map Prod.snd
  quiet : state.lingering = []
  idle : state.receiver = .absent → state.unwritten = []

/-- Without a receive task there is nothing for the stdout task. -/
theorem Passing.idle_step {action : StdoutAction} (passing : state.Passing)
    (stays : action ≠ .abort) (stepped : state.step action = some next) :
    next.receiver = .absent → next.unwritten = [] := by
  cases action with
  | abort => exact absurd rfl stays
  | spawn =>
      rcases spawn_eq_some.mp stepped with ⟨-, rfl⟩
      nofun
  | read chunk =>
      rcases read_eq_some.mp stepped with ⟨-, -, rfl⟩
      nofun
  | mark =>
      rcases mark_eq_some.mp stepped with ⟨chunk, -, rfl⟩
      nofun
  | forward =>
      rcases forward_eq_some.mp stepped with ⟨chunk, -, ⟨sent, -, rfl⟩ | ⟨-, rfl⟩⟩
      · nofun
      · nofun
  | takeStdout =>
      rcases takeStdout_eq_some.mp stepped with ⟨payload, rest, oldest, rfl⟩
      intro absent
      have nothing := (List.append_eq_nil_iff.mp (passing.idle absent)).2
      rw [oldest] at nothing
      cases nothing
  | writeStdout =>
      rcases writeStdout_eq_some.mp stepped with ⟨payload, rest, writing, rfl⟩
      intro absent
      have nothing := (List.append_eq_nil_iff.mp (passing.idle absent)).1
      rw [writing] at nothing
      cases nothing
  | flushed =>
      rcases flushed_eq_some.mp stepped with ⟨writing, rfl⟩
      intro absent
      exact (List.append_eq_nil_iff.mp (passing.idle absent)).2
  | writeLingering index =>
      rcases writeLingering_eq_some.mp stepped with ⟨payload, rest, -, rfl⟩
      exact passing.idle
  | acknowledge acks =>
      cases stepped
      exact passing.idle
  | recordInput data =>
      cases stepped
      exact passing.idle

theorem Passing.step {action : StdoutAction} (passing : state.Passing)
    (stays : action ≠ .abort) (stepped : state.step action = some next) : next.Passing := by
  have idle := passing.idle_step stays stepped
  rcases outlet_of_step stepped with ⟨outlet, lingering, passed⟩ |
    ⟨chunk, outlet, lingering, passed⟩ | ⟨outlet, passed, ⟨absent, lingering⟩ | ⟨aborted, -⟩⟩ |
    ⟨index, payload, rest, -, running, -, -, -⟩
  · refine ⟨?_, lingering.trans passing.quiet, idle⟩
    rw [outlet, passed, passing.outlet]
  · refine ⟨?_, lingering.trans passing.quiet, idle⟩
    rw [outlet, passed, passing.outlet, List.map_append]
    rfl
  · refine ⟨?_, lingering.trans passing.quiet, idle⟩
    have whole := passing.outlet
    rw [StdoutState.outlet, passing.idle absent, List.append_nil] at whole
    rw [outlet, passed, whole]
  · exact absurd aborted stays
  · rw [passing.quiet] at running
    cases running

/-- Once the stdout task has written everything, stdout shows all that was passed
on. -/
theorem Passing.stdout (passing : state.Passing) (flushed : state.Flushed) :
    state.stdout = state.passedOn.map Prod.snd := by
  have whole := passing.outlet
  rwa [StdoutState.outlet, flushed_iff.mp flushed, List.append_nil] at whole

end Etr.Client.StdoutState

