import Mathlib.Data.List.MinMax
import Mathlib.Data.List.Nodup

/-!
Contract: bounded tables of keyed items that age.

Owns:
- idle expiry: the items seen recently enough are retained;
- room for one more item: at capacity one of the items seen the longest ago is
  evicted, and the caller chooses which;
- what each of the two leaves, and why it removed what it removed.

Does not own how items are inserted or refreshed.
-/

namespace Etr.Library

universe u v

/-- What a table reads of its items, and its limits. -/
structure AgingTable (Key : Type u) (Item : Type v) where
  key : Item → Key
  last : Item → Nat
  idle : Nat
  capacity : Nat
  hasRoom : 0 < capacity

namespace AgingTable

variable {Key : Type u} {Item : Type v} (table : AgingTable Key Item)

/-! ## Idle expiry -/

/-- The items seen less than `idle` ago. -/
def retain (now : Nat) (items : List Item) : List Item :=
  items.filter fun item => now - table.last item < table.idle

section Retain

variable {table} {items : List Item} {item : Item} {now : Nat}

theorem retain_sublist : (table.retain now items).Sublist items :=
  List.filter_sublist

theorem mem_retain : item ∈ table.retain now items ↔
    item ∈ items ∧ now - table.last item < table.idle := by
  simp [retain]

/-- Items with the same key are the same. -/
theorem eq_of_key_eq {left right : Item} (distinct : (items.map table.key).Nodup)
    (leftMember : left ∈ items) (rightMember : right ∈ items)
    (same : table.key left = table.key right) : left = right :=
  List.inj_on_of_nodup_map distinct leftMember rightMember same

end Retain

/-! ## Lookup and eviction -/

variable [DecidableEq Key]

/-- The item under a key. -/
def lookup (key : Key) (items : List Item) : Option Item :=
  items.find? fun item => table.key item = key

/-- No item was seen before `item`. -/
def IsOldest (items : List Item) (item : Item) : Prop :=
  ∀ other ∈ items, table.last item ≤ table.last other

omit [DecidableEq Key] in
instance (items : List Item) (item : Item) : Decidable (table.IsOldest items item) :=
  inferInstanceAs (Decidable (∀ other ∈ items, _))

/-- Room for one more item. At capacity the item under `victim` goes, which must
be an oldest one. -/
def makeRoom (victim : Key) (items : List Item) : Option (List Item) :=
  if table.capacity ≤ items.length then
    if ∃ item ∈ items, table.key item = victim ∧ table.IsOldest items item then
      some (items.filter fun item => table.key item ≠ victim)
    else
      none
  else
    some items

variable {table} {items room : List Item} {item : Item} {key victim : Key}

theorem lookup_eq_none : table.lookup key items = none ↔ ∀ item ∈ items, table.key item ≠ key := by
  simp [lookup]

theorem of_lookup_eq_some (found : table.lookup key items = some item) :
    item ∈ items ∧ table.key item = key :=
  ⟨List.mem_of_find?_eq_some found, by simpa using List.find?_some found⟩

theorem makeRoom_sublist (made : table.makeRoom victim items = some room) : room.Sublist items := by
  unfold makeRoom at made
  split at made
  · split at made
    · cases made
      exact List.filter_sublist
    · contradiction
  · cases made
    exact List.Sublist.refl items

/-- There is room for one more. -/
theorem length_lt_of_makeRoom (bounded : items.length ≤ table.capacity)
    (made : table.makeRoom victim items = some room) : room.length < table.capacity := by
  unfold makeRoom at made
  split at made
  · split at made
    · rename_i oldest
      cases made
      rcases oldest with ⟨item, member, chosen, -⟩
      apply Nat.lt_of_lt_of_le _ bounded
      apply List.length_filter_lt_length_iff_exists.mpr
      exact ⟨item, member, by simp [chosen]⟩
    · contradiction
  · rename_i below
    cases made
    omega

/-- What had to go was an oldest item of a full table. -/
theorem mem_or_oldest_of_makeRoom (distinct : (items.map table.key).Nodup)
    (made : table.makeRoom victim items = some room) (member : item ∈ items) :
    item ∈ room ∨
      table.key item = victim ∧ table.capacity ≤ items.length ∧ table.IsOldest items item := by
  unfold makeRoom at made
  split at made
  · rename_i full
    split at made
    · rename_i oldest
      cases made
      rcases oldest with ⟨evicted, evictedMember, chosen, least⟩
      by_cases other : table.key item = victim
      · have same := eq_of_key_eq distinct member evictedMember (other.trans chosen.symm)
        exact Or.inr ⟨other, full, same ▸ least⟩
      · exact Or.inl (List.mem_filter.mpr ⟨member, by simpa using other⟩)
    · contradiction
  · cases made
    exact Or.inl member

/-- Some choice of the item to evict always makes room. -/
theorem exists_makeRoom (table : AgingTable Key Item) [Inhabited Key] (items : List Item) :
    ∃ victim room, table.makeRoom victim items = some room := by
  by_cases full : table.capacity ≤ items.length
  · cases oldest : items.argmin table.last with
    | none =>
        have positive := table.hasRoom
        rw [List.argmin_eq_none.mp oldest, List.length_nil] at full
        omega
    | some item =>
        have chosen : ∃ other ∈ items,
            table.key other = table.key item ∧ table.IsOldest items other :=
          ⟨item, List.argmin_mem oldest, rfl,
            fun other member => List.le_of_mem_argmin member oldest⟩
        exact ⟨table.key item, items.filter fun other => table.key other ≠ table.key item,
          by rw [makeRoom, if_pos full, if_pos chosen]⟩
  · exact ⟨default, items, if_neg full⟩

end AgingTable

end Etr.Library
