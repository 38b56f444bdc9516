import Mathlib.Data.List.Sort
import Mathlib.Data.String.Basic
import NetInventory.SortedMap

/-! Lookups determine a sorted map: its entries, its keys and its size are read off them. Unions
and folds of insertions are described by their lookups.
-/

namespace NetInventory.SortedMap

variable {β γ : Type}

-----------------------------------------------------------------------------------------
-- Entries and keys
-----------------------------------------------------------------------------------------

private theorem lookup_cons_eq (head : String × β) (rest : List (String × β)) (key : String)
    : (head :: rest).lookup key = if key = head.1 then some head.2 else rest.lookup key := by
  rw [List.lookup_cons]
  by_cases same : key = head.1
  · simp [same]
  · simp [beq_false_of_ne same, same]

/-- A later entry of an ordered list does not share the key of the head. -/
private theorem lookup_rest_of_sorted {head : String × β} {rest : List (String × β)}
    (sorted : (head :: rest).Pairwise (fun a b => a.1 < b.1))
    : rest.lookup head.1 = none := by
  rw [List.lookup_eq_none_iff]
  intro entry member
  have later := (List.pairwise_cons.mp sorted).1 entry member
  simpa using later.ne

/-- A lookup finds exactly the entries, by induction on the ordered list. -/
theorem get?_eq_some_iff {map : SortedMap β} {key : String} {value : β}
    : map.get? key = some value ↔ (key, value) ∈ map.entries := by
  obtain ⟨entries, sorted⟩ := map
  simp only [get?]
  induction entries with
  | nil => simp
  | cons head rest ih =>
      have absent := lookup_rest_of_sorted sorted
      have below := ih (List.pairwise_cons.mp sorted).2
      rw [lookup_cons_eq, List.mem_cons, ← below]
      by_cases same : key = head.1
      · subst key
        simp [absent, Prod.ext_iff, eq_comm]
      · simp [same, Prod.ext_iff]

/-- Lookups determine a map. Witness: an ordered list is determined by its members. -/
theorem ext_get? {left right : SortedMap β} (same : ∀ key, left.get? key = right.get? key)
    : left = right := by
  have irreflexive : Std.Irrefl (fun a b : String × β => a.1 < b.1) :=
    ⟨fun entry => lt_irrefl entry.1⟩
  have antisymmetric : Std.Antisymm (fun a b : String × β => a.1 < b.1) :=
    ⟨fun _ _ below above => (lt_asymm below above).elim⟩
  have entries : left.entries = right.entries := by
    refine left.sorted.eq_of_mem_iff right.sorted fun entry => ?_
    rw [← get?_eq_some_iff, ← get?_eq_some_iff, same]
  cases left
  cases right
  congr

/-- The keys are those that a lookup finds a value for. -/
theorem mem_keys_iff {map : SortedMap β} {key : String}
    : key ∈ map.keys ↔ ∃ value, map.get? key = some value := by
  simp only [keys, List.mem_map, get?_eq_some_iff]
  constructor
  · rintro ⟨⟨_, value⟩, member, rfl⟩
    exact ⟨value, member⟩
  · rintro ⟨value, member⟩
    exact ⟨(key, value), member, rfl⟩

theorem keys_sorted (map : SortedMap β) : map.keys.Pairwise (· < ·) :=
  List.pairwise_map.mpr map.sorted

/-- The keys of some of the entries are distinct. -/
theorem keys_filter_nodup (map : SortedMap β) (chosen : String × β → Bool)
    : ((map.toList.filter chosen).map (·.1)).Nodup := by
  have distinct : map.keys.Nodup := map.keys_sorted.imp fun before => before.ne
  exact distinct.sublist (List.filter_sublist.map _)

theorem mem_keys_insert {map : SortedMap β} {key key' : String} {value : β}
    : key' ∈ (map.insert key value).keys ↔ key' = key ∨ key' ∈ map.keys := by
  simp only [mem_keys_iff, get?_insert]
  by_cases same : key' = key <;> simp [same]

theorem eq_empty_of_isEmpty {map : SortedMap β} (none : map.isEmpty = true) : empty = map := by
  obtain ⟨entries, sorted⟩ := map
  obtain rfl : entries = [] := List.isEmpty_iff.mp none
  rfl

-----------------------------------------------------------------------------------------
-- Values, unions and folds
-----------------------------------------------------------------------------------------

/-- A function on keys and values acts on every lookup, by induction on the entries. -/
@[simp, grind =] theorem get?_mapEntries (f : String → β → γ) (map : SortedMap β) (key : String)
    : (map.mapEntries f).get? key = (map.get? key).map (f key) := by
  obtain ⟨entries, sorted⟩ := map
  simp only [get?, mapEntries]
  clear sorted
  induction entries with
  | nil => rfl
  | cons head rest ih =>
      simp only [List.map_cons, lookup_cons_eq, ih]
      split
      next same => rw [same, Option.map_some]
      next => rfl

@[simp, grind =] theorem get?_mapValues (f : β → γ) (map : SortedMap β) (key : String)
    : (map.mapValues f).get? key = (map.get? key).map f :=
  map.get?_mapEntries (fun _ => f) key

theorem mapValues_insert (f : β → γ) (map : SortedMap β) (key : String) (value : β)
    : (map.insert key value).mapValues f = (map.mapValues f).insert key (f value) := by
  refine ext_get? fun key' => ?_
  simp only [get?_mapValues, get?_insert]
  split <;> rfl

/-- Storing what is there already changes nothing. -/
theorem insert_of_get? {map : SortedMap β} {key : String} {value : β}
    (found : map.get? key = some value)
    : map.insert key value = map := by
  refine ext_get? fun key' => ?_
  rw [get?_insert]
  split
  next same => rw [same, found]
  next => rfl

/-- Inserting the entries of an ordered list one after the other puts them over the old ones, by
induction on the list: no later entry shares the key of the head.
-/
private theorem get?_foldl_insert_entries {entries : List (String × β)}
    (sorted : entries.Pairwise (fun a b => a.1 < b.1)) (map : SortedMap β) (key : String)
    : (entries.foldl (fun map entry => map.insert entry.1 entry.2) map).get? key
      = (entries.lookup key).or (map.get? key) := by
  induction entries generalizing map with
  | nil => simp
  | cons head rest ih =>
      have absent := lookup_rest_of_sorted sorted
      rw [List.foldl_cons, ih (List.pairwise_cons.mp sorted).2, get?_insert, lookup_cons_eq]
      by_cases same : key = head.1
      · subst key
        simp [absent]
      · simp [same]

/-- A union holds what the right map holds, and else what the left one does. -/
@[simp, grind =] theorem get?_union (left right : SortedMap β) (key : String)
    : (left.union right).get? key = (right.get? key).or (left.get? key) :=
  get?_foldl_insert_entries right.sorted left key

theorem empty_union (map : SortedMap β) : empty.union map = map :=
  ext_get? fun key => by simp

/-- A map is made again from its entries. -/
theorem ofList_toList (map : SortedMap β) : ofList map.toList = map :=
  map.empty_union

/-- Entries that are inserted one after the other stand among the old ones and those inserted, by
induction on the latter.
-/
private theorem mem_foldl_insert {entries : List (String × β)} {map : SortedMap β}
    {entry : String × β}
    (among
      : entry ∈ (entries.foldl (fun map entry => map.insert entry.1 entry.2) map).entries)
    : entry ∈ map.entries ∨ entry ∈ entries := by
  induction entries generalizing map with
  | nil => exact .inl among
  | cons head rest ih =>
      rcases ih among with before | later
      · rcases mem_insertEntry before with rfl | old
        · exact .inr List.mem_cons_self
        · exact .inl old
      · exact .inr (List.mem_cons_of_mem _ later)

theorem mem_of_mem_ofList {entries : List (String × β)} {entry : String × β}
    (among : entry ∈ (ofList entries).toList)
    : entry ∈ entries :=
  (mem_foldl_insert among).resolve_left List.not_mem_nil

theorem union_self (map : SortedMap β) : map.union map = map :=
  ext_get? fun key => by simp

theorem union_assoc (first second third : SortedMap β)
    : (first.union second).union third = first.union (second.union third) :=
  ext_get? fun key => by simp only [get?_union, Option.or_assoc]

theorem mem_keys_union {left right : SortedMap β} {key : String}
    : key ∈ (left.union right).keys ↔ key ∈ left.keys ∨ key ∈ right.keys := by
  simp only [mem_keys_iff, get?_union]
  cases found : right.get? key <;> simp

@[simp] theorem keys_mapValues (f : β → γ) (map : SortedMap β)
    : (map.mapValues f).keys = map.keys := by
  simp [keys, mapValues, mapEntries]

/-- Storing one value under several keys gives it to exactly those keys, by induction on them. -/
theorem get?_foldl_insert_keys (keys : List String) (value : β) (map : SortedMap β)
    (key : String)
    : (keys.foldl (fun map key => map.insert key value) map).get? key
      = if key ∈ keys then some value else map.get? key := by
  induction keys generalizing map with
  | nil => simp
  | cons head rest ih =>
      rw [List.foldl_cons, ih, get?_insert]
      by_cases later : key ∈ rest
      · simp [later]
      · simp [later]

-----------------------------------------------------------------------------------------
-- Sizes
-----------------------------------------------------------------------------------------

/-- Putting an entry at its place adds one unless the key is present, by induction on the ordered
list.
-/
private theorem length_insertEntry (key : String) (value : β) {entries : List (String × β)}
    (sorted : entries.Pairwise (fun a b => a.1 < b.1))
    : (insertEntry key value entries).length
      = if (entries.lookup key).isSome then entries.length else entries.length + 1 := by
  induction entries with
  | nil => simp [insertEntry]
  | cons head rest ih =>
      have below := ih (List.pairwise_cons.mp sorted).2
      rw [insertEntry, lookup_cons_eq]
      split
      next smaller =>
        -- The key is smaller than every key of the list.
        have absent : rest.lookup key = none := by
          rw [List.lookup_eq_none_iff]
          intro entry member
          have later := (List.pairwise_cons.mp sorted).1 entry member
          simpa using (smaller.trans later).ne
        simp [smaller.ne, absent]
      next notSmaller =>
        split
        next greater =>
          rw [if_neg greater.ne', List.length_cons, below]
          split <;> rfl
        next notGreater =>
          have same : key = head.1 := le_antisymm (not_lt.mp notGreater) (not_lt.mp notSmaller)
          simp [same]

@[simp] theorem size_mapValues (f : β → γ) (map : SortedMap β)
    : (map.mapValues f).size = map.size := by
  simp [size, mapValues, mapEntries]

/-- An insertion adds an entry unless the key is present. -/
theorem size_insert (map : SortedMap β) (key : String) (value : β)
    : (map.insert key value).size
      = if (map.get? key).isSome then map.size else map.size + 1 :=
  length_insertEntry key value map.sorted

/-- Erasing a key that is present removes one entry, by induction on the ordered list. -/
theorem size_erase {map : SortedMap β} {key : String} {value : β}
    (found : map.get? key = some value)
    : (map.erase key).size + 1 = map.size := by
  obtain ⟨entries, sorted⟩ := map
  simp only [size, erase, get?] at found ⊢
  induction entries with
  | nil => simp at found
  | cons head rest ih =>
      by_cases same : key = head.1
      · subst key
        have kept : rest.filter (fun entry => decide (entry.1 ≠ head.1)) = rest := by
          rw [List.filter_eq_self]
          intro entry member
          have later := (List.pairwise_cons.mp sorted).1 entry member
          simpa using later.ne'
        rw [List.filter_cons_of_neg (by simp), kept, List.length_cons]
      · rw [lookup_cons_eq, if_neg same] at found
        have below := ih (List.pairwise_cons.mp sorted).2 found
        rw [List.filter_cons_of_pos (by simpa using Ne.symm same), List.length_cons, below,
          List.length_cons]

-----------------------------------------------------------------------------------------
-- One entry and the others
-----------------------------------------------------------------------------------------

theorem entries_nodup (map : SortedMap β) : map.entries.Nodup :=
  map.sorted.imp fun before same => before.ne (congrArg Prod.fst same)

/-- After an insertion there are the new entry and the old ones of other keys. Witness: entries
are distinct, and lookups tell which there are.
-/
theorem entries_insert_perm (map : SortedMap β) (key : String) (value : β)
    : (map.insert key value).entries.Perm ((key, value) :: (map.erase key).entries) := by
  have fresh : (key, value) ∉ (map.erase key).entries := by
    rw [← get?_eq_some_iff, get?_erase, if_pos rfl]
    exact nofun
  refine (List.perm_ext_iff_of_nodup (map.insert key value).entries_nodup
    (List.nodup_cons.mpr ⟨fresh, (map.erase key).entries_nodup⟩)).mpr ?_
  rintro ⟨other, found⟩
  rw [List.mem_cons, ← get?_eq_some_iff, ← get?_eq_some_iff, get?_insert, get?_erase]
  by_cases same : other = key
  · simp [same, eq_comm]
  · simp [same]

theorem values_insert_perm (map : SortedMap β) (key : String) (value : β)
    : (map.insert key value).values.Perm (value :: (map.erase key).values) :=
  (map.entries_insert_perm key value).map Prod.snd

theorem erase_of_absent {map : SortedMap β} {key : String} (absent : map.get? key = none)
    : map.erase key = map := by
  refine ext_get? fun key' => ?_
  rw [get?_erase]
  split
  next same => rw [same, absent]
  next => rfl

@[simp] theorem values_mapValues (f : β → γ) (map : SortedMap β)
    : (map.mapValues f).values = map.values.map f := by
  simp [values, mapValues, mapEntries]

theorem values_perm_of_get? {map : SortedMap β} {key : String} {value : β}
    (found : map.get? key = some value)
    : map.values.Perm (value :: (map.erase key).values) := by
  have stored := map.values_insert_perm key value
  rwa [insert_of_get? found] at stored

end NetInventory.SortedMap
