import WindowRelay.Window.Id

/-!
Contract: finite tables keyed by window ids.

Owns:
- look-up, insertion, erasure and change of one entry;
- one law per operation, stated through look-up.

A table lists each key once. The order of the entries carries no meaning, and no operation of
this library depends on it.
-/

namespace WindowRelay

universe u v

/-- A finite table from window ids to values. -/
structure Table (α : Type u) where
  entries : List (WindowId × α) := []
  distinct : (entries.map Prod.fst).Nodup := by exact List.nodup_nil

namespace Table

variable {α : Type u} {β : Type v}

instance [DecidableEq α] : DecidableEq (Table α) := fun left right =>
  if same : left.entries = right.entries then
    isTrue (by cases left; cases right; cases same; rfl)
  else isFalse fun equal => same (congrArg entries equal)

def empty : Table α := {}

instance : EmptyCollection (Table α) := ⟨empty⟩
instance : Inhabited (Table α) := ⟨empty⟩

def keys (table : Table α) : List WindowId :=
  table.entries.map Prod.fst

def size (table : Table α) : Nat :=
  table.entries.length

/-- The value of the first entry with this key. -/
def lookup : List (WindowId × α) → WindowId → Option α
  | [], _ => none
  | (entryKey, value) :: rest, key => if key = entryKey then some value else lookup rest key

def get? (table : Table α) (key : WindowId) : Option α :=
  lookup table.entries key

def contains (table : Table α) (key : WindowId) : Bool :=
  (table.get? key).isSome

def erase (table : Table α) (key : WindowId) : Table α where
  entries := table.entries.filter fun entry => entry.1 != key
  distinct := table.distinct.sublist (List.filter_sublist.map _)

private theorem not_mem_keys_erase (table : Table α) (key : WindowId) :
    key ∉ (table.erase key).entries.map Prod.fst := by
  simp [erase]

def insert (table : Table α) (key : WindowId) (value : α) : Table α where
  entries := (key, value) :: (table.erase key).entries
  distinct := by
    rw [List.map_cons, List.nodup_cons]
    exact ⟨not_mem_keys_erase table key, (table.erase key).distinct⟩

private theorem keys_mapEntries (entries : List (WindowId × α)) (change : WindowId → α → β) :
    (entries.map fun entry => (entry.1, change entry.1 entry.2)).map Prod.fst =
      entries.map Prod.fst := by
  simp [Function.comp_def]

/-- Change every value, knowing its key. -/
def mapWithKey (change : WindowId → α → β) (table : Table α) : Table β where
  entries := table.entries.map fun entry => (entry.1, change entry.1 entry.2)
  distinct := by
    rw [keys_mapEntries]
    exact table.distinct

/-- Change the value of one key, if it has one. -/
def modify (table : Table α) (key : WindowId) (change : α → α) : Table α :=
  table.mapWithKey fun other value => if other = key then change value else value

/-! ## Look-up laws -/

private theorem lookup_filter_ne (entries : List (WindowId × α)) (key other : WindowId) :
    lookup (entries.filter fun entry => entry.1 != key) other =
      if other = key then none else lookup entries other := by
  induction entries with
  | nil => simp [lookup]
  | cons head tail inductionHypothesis =>
      obtain ⟨headKey, headValue⟩ := head
      by_cases removed : headKey = key
      · subst removed
        simp only [List.filter_cons, bne_self_eq_false, Bool.false_eq_true, if_false,
          inductionHypothesis, lookup]
        split <;> simp_all
      · simp only [List.filter_cons, bne_iff_ne, ne_eq, removed, not_false_eq_true, if_true,
          inductionHypothesis, lookup]
        split <;> simp_all

private theorem lookup_mapEntries (entries : List (WindowId × α)) (change : WindowId → α → β)
    (key : WindowId) :
    lookup (entries.map fun entry => (entry.1, change entry.1 entry.2)) key =
      (lookup entries key).map (change key) := by
  induction entries with
  | nil => rfl
  | cons head tail inductionHypothesis =>
      obtain ⟨headKey, headValue⟩ := head
      simp only [List.map_cons, lookup, inductionHypothesis]
      split <;> simp_all

theorem get?_erase (table : Table α) (key other : WindowId) :
    (table.erase key).get? other = if other = key then none else table.get? other :=
  lookup_filter_ne table.entries key other

theorem get?_insert (table : Table α) (key other : WindowId) (value : α) :
    (table.insert key value).get? other = if other = key then some value else table.get? other := by
  have erased := get?_erase table key other
  simp only [get?] at erased
  simp only [insert, get?, lookup, erased]
  split <;> rfl

theorem get?_mapWithKey (table : Table α) (change : WindowId → α → β) (key : WindowId) :
    (table.mapWithKey change).get? key = (table.get? key).map (change key) :=
  lookup_mapEntries table.entries change key

theorem get?_modify (table : Table α) (key other : WindowId) (change : α → α) :
    (table.modify key change).get? other =
      if other = key then (table.get? other).map change else table.get? other := by
  unfold modify
  rw [get?_mapWithKey]
  by_cases same : other = key
  · simp [same]
  · simp [same]

private theorem exists_lookup_iff (entries : List (WindowId × α)) (key : WindowId) :
    key ∈ entries.map Prod.fst ↔ ∃ value, lookup entries key = some value := by
  induction entries with
  | nil => simp [lookup]
  | cons head tail inductionHypothesis =>
      obtain ⟨headKey, headValue⟩ := head
      by_cases same : key = headKey
      · simp [lookup, same]
      · simp only [List.map_cons, List.mem_cons, same, false_or, inductionHypothesis, lookup,
          if_false]

private theorem lookup_of_mem {entries : List (WindowId × α)}
    (distinct : (entries.map Prod.fst).Nodup) {key : WindowId} {value : α}
    (member : (key, value) ∈ entries) : lookup entries key = some value := by
  induction entries with
  | nil => cases member
  | cons head tail inductionHypothesis =>
      obtain ⟨notLater, restDistinct⟩ := List.nodup_cons.mp distinct
      rcases List.mem_cons.mp member with isHead | inTail
      · simp [lookup, ← isHead]
      · have different : key ≠ head.1 := fun same =>
          notLater (List.mem_map.mpr ⟨(key, value), inTail, same⟩)
        rw [lookup, if_neg different, inductionHypothesis restDistinct inTail]

theorem get?_of_mem (table : Table α) {key : WindowId} {value : α}
    (member : (key, value) ∈ table.entries) : table.get? key = some value :=
  lookup_of_mem table.distinct member

theorem eq_of_entries {first second : Table α} (same : first.entries = second.entries) :
    first = second := by
  cases first
  cases second
  cases same
  rfl

/-- A change of one key is what it does to the value of this key. -/
theorem modify_congr (table : Table α) (key : WindowId) {first second : α → α}
    (agree : ∀ value, table.get? key = some value → first value = second value) :
    table.modify key first = table.modify key second := by
  apply eq_of_entries
  refine List.map_congr_left fun entry member => ?_
  dsimp only
  split
  · next isKey => rw [agree entry.2 (table.get?_of_mem (isKey ▸ member))]
  · rfl

/-- A change that leaves the value of its key as it is changes nothing. -/
theorem modify_eq_self (table : Table α) (key : WindowId) {change : α → α}
    (keeps : ∀ value, table.get? key = some value → change value = value) :
    table.modify key change = table := by
  rw [table.modify_congr key keeps]
  apply eq_of_entries
  simp [modify, mapWithKey]

theorem modify_modify (table : Table α) (key : WindowId) (first second : α → α) :
    (table.modify key first).modify key second =
      table.modify key fun value => second (first value) := by
  apply eq_of_entries
  simp only [modify, mapWithKey, List.map_map]
  apply List.map_congr_left
  intro entry _
  by_cases same : entry.1 = key <;> simp [same]

theorem mem_keys_iff (table : Table α) (key : WindowId) :
    key ∈ table.keys ↔ ∃ value, table.get? key = some value :=
  exists_lookup_iff table.entries key

theorem length_keys (table : Table α) : table.keys.length = table.size := by
  simp [keys, size]

end Table

end WindowRelay
