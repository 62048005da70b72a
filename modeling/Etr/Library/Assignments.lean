import Mathlib.Logic.Function.Basic

/-!
Contract: assignments made one after the other.

Owns what a list of assignments leaves at a key (the last one's value), how it
is put together from parts of the list, and which entries may be left out.

Does not own where the assignments come from.
-/

namespace Etr.Library

universe u v w

variable {Key : Type u} {Value : Type v} [DecidableEq Key]

/-- What the assignments leave at a key. -/
def assigned (pairs : List (Key × Value)) (key : Key) : Option Value :=
  pairs.reverse.lookup key

/-- Make the assignments, in order. -/
def assign (values : Key → Option Value) (pairs : List (Key × Value)) : Key → Option Value :=
  pairs.foldl (fun values pair => Function.update values pair.1 (some pair.2)) values

section Laws

variable {pairs front back : List (Key × Value)} {key : Key} {value : Value}

theorem assigned_append (front back : List (Key × Value)) :
    assigned (front ++ back) key = (assigned back key).or (assigned front key) := by
  rw [assigned, List.reverse_append, List.lookup_append]
  rfl

theorem assigned_singleton (pair : Key × Value) :
    assigned [pair] key = if key = pair.1 then some pair.2 else none := by
  obtain ⟨first, value⟩ := pair
  by_cases same : key = first
  · simp [assigned, same]
  · have other : (key == first) = false := beq_eq_false_iff_ne.mpr same
    simp [assigned, same, List.lookup_cons, other]

/-- A key reads as the last assignment says, or as before. -/
theorem assign_apply (values : Key → Option Value) :
    assign values pairs key = (assigned pairs key).or (values key) := by
  induction pairs generalizing values with
  | nil => rfl
  | cons pair rest inductionHypothesis =>
      have tail : assign values (pair :: rest) key =
          assign (Function.update values pair.1 (some pair.2)) rest key := rfl
      have split : assigned (pair :: rest) key = (assigned rest key).or (assigned [pair] key) :=
        assigned_append [pair] rest
      rw [tail, inductionHypothesis, split, assigned_singleton, Option.or_assoc]
      congr 1
      by_cases same : key = pair.1
      · rw [same, Function.update_self, if_pos rfl]
        rfl
      · rw [Function.update_of_ne same, if_neg same]
        rfl

theorem assigned_eq_none (absent : ∀ pair ∈ pairs, pair.1 ≠ key) : assigned pairs key = none := by
  induction pairs with
  | nil => rfl
  | cons pair rest inductionHypothesis =>
      have parts := List.forall_mem_cons.mp absent
      have split : assigned (pair :: rest) key = (assigned rest key).or (assigned [pair] key) :=
        assigned_append [pair] rest
      rw [split, inductionHypothesis parts.2, assigned_singleton, if_neg (Ne.symm parts.1)]
      rfl

theorem not_mem_of_assigned_eq_none (none : assigned pairs key = none) :
    (key, value) ∉ pairs := by
  intro member
  obtain ⟨before, after, rfl⟩ := List.append_of_mem member
  have split : before ++ (key, value) :: after = (before ++ [(key, value)]) ++ after := by simp
  rw [split, assigned_append, assigned_append, assigned_singleton, if_pos rfl] at none
  simp at none

end Laws

section Entries

variable {Entry : Type w} {pair? : Entry → Option (Key × Value)} {entries : List Entry} {key : Key}

/-- Entries about other keys may be left out. -/
theorem assigned_filter {keep : Entry → Bool}
    (kept : ∀ entry ∈ entries, ∀ value, pair? entry = some (key, value) → keep entry = true) :
    assigned ((entries.filter keep).filterMap pair?) key =
      assigned (entries.filterMap pair?) key := by
  induction entries with
  | nil => rfl
  | cons entry rest inductionHypothesis =>
      have parts := List.forall_mem_cons.mp kept
      have tail := inductionHypothesis parts.2
      have head : entry :: rest = [entry] ++ rest := rfl
      rw [head, List.filter_append, List.filterMap_append, List.filterMap_append,
        assigned_append, assigned_append, tail]
      congr 1
      cases keeps : keep entry with
      | true => simp [keeps]
      | false =>
          rw [List.filter_cons_of_neg (by simp [keeps])]
          symm
          apply assigned_eq_none
          intro pair member
          obtain ⟨other, single, given⟩ := List.mem_filterMap.mp member
          rw [List.mem_singleton.mp single] at given
          rintro rfl
          rw [parts.1 pair.2 given] at keeps
          contradiction

/-- One entry for each key of a list, where it has a value. -/
theorem assigned_tabulated (value? : Key → Option Value) (keys : List Key) :
    assigned (keys.filterMap fun key => (value? key).map fun value => (key, value)) key =
      if key ∈ keys then value? key else none := by
  induction keys with
  | nil => rfl
  | cons first rest inductionHypothesis =>
      have head : first :: rest = [first] ++ rest := rfl
      rw [head, List.filterMap_append, assigned_append, inductionHypothesis]
      cases found : value? first with
      | none =>
          by_cases same : key = first
          · simp [found, same, assigned]
          · simp [found, same, assigned]
      | some value =>
          by_cases same : key = first
          · subst same
            by_cases later : key ∈ rest
            · simp [found, later]
            · simp [found, later, assigned]
          · simp [found, same, assigned_singleton]

end Entries

end Etr.Library
