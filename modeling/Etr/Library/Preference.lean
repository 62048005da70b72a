import Mathlib.Data.List.Basic

/-!
Contract: candidates with a preference among them.

Owns the stable reordering that puts preferred items first, what a search finds
in it, and the loop that tries one item after another.

Does not own what the items are or when one is preferred.
-/

namespace Etr.Library

variable {Item Found Error : Type}

/-- The preferred items first, each group in its old order. -/
def preferring (preferred : Item → Bool) (items : List Item) : List Item :=
  items.filter preferred ++ items.filter fun item => !preferred item

section Preferring

variable {preferred keep : Item → Bool} (items : List Item)

theorem preferring_perm : (preferring preferred items).Perm items :=
  List.filter_append_perm preferred items

theorem mem_preferring {item : Item} : item ∈ preferring preferred items ↔ item ∈ items :=
  (preferring_perm items).mem_iff

/-- The order among items that are all preferred stays. -/
theorem filter_preferring_of_preferred (within : ∀ item, keep item = true → preferred item = true) :
    (preferring preferred items).filter keep = items.filter keep := by
  have first : ∀ item, (keep item && preferred item) = keep item := by
    intro item
    cases kept : keep item with
    | false => rfl
    | true => exact within item kept
  have rest : ∀ item, (keep item && !preferred item) = false := by
    intro item
    cases kept : keep item with
    | false => rfl
    | true => simp [within item kept]
  rw [preferring, List.filter_append, List.filter_filter, List.filter_filter]
  simp only [first, rest, List.filter_false, List.append_nil]

/-- The order among items none of which is preferred stays. -/
theorem filter_preferring_of_others (without : ∀ item, keep item = true → preferred item = false) :
    (preferring preferred items).filter keep = items.filter keep := by
  have first : ∀ item, (keep item && preferred item) = false := by
    intro item
    cases kept : keep item with
    | false => rfl
    | true => exact without item kept
  have rest : ∀ item, (keep item && !preferred item) = keep item := by
    intro item
    cases kept : keep item with
    | false => rfl
    | true => simp [without item kept]
  rw [preferring, List.filter_append, List.filter_filter, List.filter_filter]
  simp only [first, rest, List.filter_false, List.nil_append]

/-- A search looks among the preferred items before it looks among the others. -/
theorem find?_preferring (wanted : Item → Bool) :
    (preferring preferred items).find? wanted =
      (items.find? fun item => preferred item && wanted item).or
        (items.find? fun item => !preferred item && wanted item) := by
  rw [preferring, List.find?_append, List.find?_filter, List.find?_filter]
  simp only [Bool.decide_and, Bool.decide_eq_true]

theorem head?_preferring :
    (preferring preferred items).head? =
      (items.find? preferred).or (items.find? fun item => !preferred item) := by
  rw [preferring, List.head?_append, List.head?_filter, List.head?_filter]

end Preferring

/-- Behind a search that fails for the wanted items of one kind, a search for the
other kind is a search for any. -/
theorem or_find?_not (preferred wanted : Item → Bool) (items : List Item) :
    (items.find? fun item => preferred item && wanted item).or
        (items.find? fun item => !preferred item && wanted item) =
      (items.find? fun item => preferred item && wanted item).or (items.find? wanted) := by
  cases found : items.find? fun item => preferred item && wanted item with
  | some item => rfl
  | none =>
      have absent := List.find?_eq_none.mp found
      rw [Option.none_or, Option.none_or, ← List.head?_filter, ← List.head?_filter]
      apply congrArg List.head?
      apply List.filter_congr
      intro item member
      have other := absent item member
      cases isPreferred : preferred item with
      | false => simp
      | true =>
          rw [isPreferred, Bool.true_and, Bool.not_eq_true] at other
          simp [other]

/-- Try the items in order; behind the last one, the last error stands. -/
def tryEach (attempt : Item → Except Error Found) (lastError : Error) :
    List Item → Except Error Found
  | [] => .error lastError
  | item :: rest =>
      match attempt item with
      | .ok found => .ok found
      | .error error => tryEach attempt error rest

section TryEach

variable {attempt : Item → Except Error Found}

/-- The loop succeeds on the first item that does. -/
theorem tryEach_eq_ok_iff {items : List Item} {lastError : Error} {found : Found} :
    tryEach attempt lastError items = .ok found ↔
      ∃ before item after, items = before ++ item :: after ∧
        (∀ earlier ∈ before, ∃ error, attempt earlier = .error error) ∧
          attempt item = .ok found := by
  induction items generalizing lastError with
  | nil => simp [tryEach]
  | cons first rest inductionHypothesis =>
      rw [tryEach]
      cases tried : attempt first with
      | ok other =>
          constructor
          · intro same
            cases same
            exact ⟨[], first, rest, rfl, List.forall_mem_nil _, tried⟩
          · rintro ⟨before, item, after, split, failed, succeeded⟩
            cases before with
            | nil =>
                cases split
                rw [succeeded] at tried
                rw [tried]
            | cons earlier before =>
                cases split
                obtain ⟨error, refused⟩ := failed first List.mem_cons_self
                rw [refused] at tried
                contradiction
      | error error =>
          show tryEach attempt error rest = .ok found ↔ _
          rw [inductionHypothesis]
          constructor
          · rintro ⟨before, item, after, rfl, failed, succeeded⟩
            exact ⟨first :: before, item, after, rfl,
              List.forall_mem_cons.mpr ⟨⟨error, tried⟩, failed⟩, succeeded⟩
          · rintro ⟨before, item, after, split, failed, succeeded⟩
            cases before with
            | nil =>
                cases split
                rw [succeeded] at tried
                contradiction
            | cons earlier before =>
                cases split
                exact ⟨before, item, after, rfl, (List.forall_mem_cons.mp failed).2, succeeded⟩

/-- The loop succeeds whenever some item does. -/
theorem exists_tryEach_eq_ok_iff {items : List Item} {lastError : Error} :
    (∃ found, tryEach attempt lastError items = .ok found) ↔
      ∃ item ∈ items, ∃ found, attempt item = .ok found := by
  induction items generalizing lastError with
  | nil => simp [tryEach]
  | cons first rest inductionHypothesis =>
      rw [tryEach]
      cases tried : attempt first with
      | ok found => exact iff_of_true ⟨found, rfl⟩ ⟨first, List.mem_cons_self, found, tried⟩
      | error error =>
          have refused : ¬ ∃ found, attempt first = .ok found := by simp [tried]
          rw [List.exists_mem_cons_iff, or_iff_right refused]
          exact inductionHypothesis

end TryEach

end Etr.Library
