import Mathlib.Data.List.Nodup

/-!
Contract: lists whose entries carry consecutive sequence numbers.

Owns numbering a list from a start, its behaviour under append, take and drop,
and the fact that selecting entries above a watermark is dropping a prefix.
-/

namespace Etr.Library

universe u

variable {α : Type u}

/-- Number the elements consecutively, the first one with `start`. -/
def numberFrom (start : Nat) : List α → List (Nat × α)
  | [] => []
  | head :: tail => (start, head) :: numberFrom (start + 1) tail

@[simp] theorem numberFrom_nil (start : Nat) :
    numberFrom start ([] : List α) = [] := rfl

@[simp] theorem numberFrom_cons (start : Nat) (head : α) (tail : List α) :
    numberFrom start (head :: tail) = (start, head) :: numberFrom (start + 1) tail := rfl

@[simp] theorem length_numberFrom (start : Nat) (values : List α) :
    (numberFrom start values).length = values.length := by
  induction values generalizing start with
  | nil => rfl
  | cons head tail inductionHypothesis => simp [inductionHypothesis]

theorem numberFrom_append (start : Nat) (left right : List α) :
    numberFrom start (left ++ right) =
      numberFrom start left ++ numberFrom (start + left.length) right := by
  induction left generalizing start with
  | nil => simp
  | cons head tail inductionHypothesis =>
      simp only [List.cons_append, numberFrom_cons, inductionHypothesis, List.length_cons]
      congr 3
      omega

/-- A longer list keeps the numbers of a shorter one. -/
theorem numberFrom_grows (start : Nat) {shorter longer : List α} (grown : shorter <+: longer) :
    numberFrom start shorter <+: numberFrom start longer := by
  rcases grown with ⟨rest, rfl⟩
  rw [numberFrom_append]
  exact List.prefix_append _ _

@[simp] theorem map_snd_numberFrom (start : Nat) (values : List α) :
    (numberFrom start values).map Prod.snd = values := by
  induction values generalizing start with
  | nil => rfl
  | cons head tail inductionHypothesis => simp [inductionHypothesis]

@[simp] theorem map_fst_numberFrom (start : Nat) (values : List α) :
    (numberFrom start values).map Prod.fst = List.range' start values.length := by
  induction values generalizing start with
  | nil => rfl
  | cons head tail inductionHypothesis =>
      simp [inductionHypothesis, List.range'_succ]

theorem nodup_numberFrom (start : Nat) (values : List α) : (numberFrom start values).Nodup := by
  apply List.Nodup.of_map Prod.fst
  rw [map_fst_numberFrom]
  exact List.nodup_range'

theorem drop_numberFrom (count start : Nat) (values : List α) :
    (numberFrom start values).drop count = numberFrom (start + count) (values.drop count) := by
  induction values generalizing start count with
  | nil => simp
  | cons head tail inductionHypothesis =>
      cases count with
      | zero => rfl
      | succ count =>
          simp only [numberFrom_cons, List.drop_succ_cons, inductionHypothesis]
          congr 1
          omega

/-- The entry behind a dropped prefix carries the next number. -/
theorem drop_numberFrom_eq_cons {count start : Nat} {values : List α} {entry : Nat × α}
    {rest : List (Nat × α)} (split : (numberFrom start values).drop count = entry :: rest) :
    entry.1 = start + count ∧ count < values.length ∧
      (numberFrom start values).take (count + 1) =
        (numberFrom start values).take count ++ [entry] ∧
      (numberFrom start values).drop (count + 1) = rest := by
  have inside : count < (numberFrom start values).length := by
    apply Nat.lt_of_not_le
    intro short
    rw [List.drop_eq_nil_of_le short] at split
    contradiction
  rw [List.drop_eq_getElem_cons inside, List.cons.injEq] at split
  rcases split with ⟨located, tail⟩
  have numbered := congrArg (fun numbers => numbers[count]?) (map_fst_numberFrom start values)
  refine ⟨?_, by simpa using inside, ?_, tail⟩
  · simp only [List.getElem?_map, List.getElem?_eq_getElem inside, located,
      Option.map_some] at numbered
    rw [length_numberFrom] at inside
    rw [List.getElem?_range' inside, Option.some.injEq] at numbered
    omega
  · rw [← located, ← List.take_succ_eq_append_getElem inside]

/-- Every number lies in the consecutive range the list occupies. -/
theorem bounds_of_mem_numberFrom {start : Nat} {values : List α} {entry : Nat × α}
    (member : entry ∈ numberFrom start values) :
    start ≤ entry.1 ∧ entry.1 < start + values.length := by
  have numbered : entry.1 ∈ (numberFrom start values).map Prod.fst :=
    List.mem_map_of_mem member
  rw [map_fst_numberFrom, List.mem_range'_1] at numbered
  exact numbered

/-- Selecting the entries above a watermark drops the numbered prefix. -/
theorem filter_above_numberFrom (watermark start : Nat) (values : List α) :
    (numberFrom start values).filter (fun entry => decide (watermark < entry.1)) =
      (numberFrom start values).drop (watermark + 1 - start) := by
  induction values generalizing start with
  | nil => simp
  | cons head tail inductionHypothesis =>
      by_cases above : watermark < start
      · have allAbove : ∀ entry ∈ numberFrom start (head :: tail),
            decide (watermark < entry.1) = true := by
          intro entry member
          have bounds := bounds_of_mem_numberFrom member
          exact decide_eq_true (by omega)
        rw [List.filter_eq_self.mpr allAbove, show watermark + 1 - start = 0 by omega,
          List.drop_zero]
      · have skipped : watermark + 1 - start = watermark + 1 - (start + 1) + 1 := by omega
        simp only [numberFrom_cons, List.filter_cons, above, decide_false,
          Bool.false_eq_true, if_false, inductionHypothesis, skipped, List.drop_succ_cons]

/-- Popping numbered entries while they are at most a watermark drops the same
prefix. -/
theorem dropWhile_numberFrom (watermark start : Nat) (values : List α) :
    (numberFrom start values).dropWhile (fun entry => decide (entry.1 ≤ watermark)) =
      (numberFrom start values).drop (watermark + 1 - start) := by
  induction values generalizing start with
  | nil => simp
  | cons head tail inductionHypothesis =>
      by_cases covered : start ≤ watermark
      · have skipped : watermark + 1 - start = watermark + 1 - (start + 1) + 1 := by omega
        simp only [numberFrom_cons, List.dropWhile_cons, covered, decide_true, if_true,
          inductionHypothesis, skipped, List.drop_succ_cons]
      · have kept : watermark + 1 - start = 0 := by omega
        simp [covered, kept]

end Etr.Library
