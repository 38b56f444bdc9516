/-! Maps from names to values, kept as a list in strictly increasing key order. The order is
part of the type, so two maps that answer every lookup alike are equal, and a listing is
always in key order.
-/

namespace NetInventory

/-- A map from names to values whose entries stand in strictly increasing key order. -/
structure SortedMap (β : Type) where
  entries : List (String × β)
  sorted : entries.Pairwise (fun a b => a.1 < b.1)
deriving DecidableEq

namespace SortedMap

variable {β γ : Type}

/-- Puts an entry at its place in an ordered list, replacing an entry of the same key. -/
def insertEntry (key : String) (value : β) : List (String × β) → List (String × β)
  | [] => [(key, value)]
  | entry :: rest =>
    if key < entry.1 then
      (key, value) :: entry :: rest
    else if entry.1 < key then
      entry :: insertEntry key value rest
    else
      (key, value) :: rest

/-- An entry of the new list is the new one or an old one, by induction on the list. -/
theorem mem_insertEntry {key : String} {value : β} {entry : String × β}
    {entries : List (String × β)} (h : entry ∈ insertEntry key value entries)
    : entry = (key, value) ∨ entry ∈ entries := by
  induction entries with
  | nil => simpa [insertEntry] using h
  | cons head rest ih => grind [insertEntry]

/-- Putting an entry at its place keeps the order, by induction on the list. -/
theorem insertEntry_sorted (key : String) (value : β) {entries : List (String × β)}
    (h : entries.Pairwise (fun a b => a.1 < b.1))
    : (insertEntry key value entries).Pairwise (fun a b => a.1 < b.1) := by
  induction entries with
  | nil => simp [insertEntry]
  | cons head rest ih =>
    obtain ⟨headFirst, restSorted⟩ := List.pairwise_cons.mp h
    rw [insertEntry]
    split
    · refine List.pairwise_cons.mpr ⟨?_, h⟩
      intro entry member
      rcases List.mem_cons.mp member with rfl | later
      · assumption
      · exact String.lt_trans ‹_› (headFirst entry later)
    · split
      · refine List.pairwise_cons.mpr ⟨?_, ih restSorted⟩
        intro entry member
        rcases mem_insertEntry member with rfl | later
        · assumption
        · exact headFirst entry later
      · refine List.pairwise_cons.mpr ⟨?_, restSorted⟩
        intro entry later
        have same : key = head.1 := by grind
        exact same ▸ headFirst entry later

/-- The map without entries. -/
def empty : SortedMap β :=
  ⟨[], .nil⟩

instance : Inhabited (SortedMap β) :=
  ⟨empty⟩

/-- The value stored under a key. -/
def get? (map : SortedMap β) (key : String) : Option β :=
  map.entries.lookup key

/-- Whether a key is present. -/
def contains (map : SortedMap β) (key : String) : Bool :=
  (map.get? key).isSome

/-- Stores a value under a key, replacing what was there. -/
def insert (map : SortedMap β) (key : String) (value : β) : SortedMap β :=
  ⟨insertEntry key value map.entries, insertEntry_sorted key value map.sorted⟩

/-- Removes a key. -/
def erase (map : SortedMap β) (key : String) : SortedMap β :=
  ⟨map.entries.filter (fun entry => entry.1 ≠ key), map.sorted.filter _⟩

/-- The entries in key order. -/
def toList (map : SortedMap β) : List (String × β) :=
  map.entries

/-- The keys in increasing order. -/
def keys (map : SortedMap β) : List String :=
  map.entries.map (·.1)

/-- The values in the order of their keys. -/
def values (map : SortedMap β) : List β :=
  map.entries.map (·.2)

/-- Builds a map from entries in any order; of two entries with one key the later counts. -/
def ofList (entries : List (String × β)) : SortedMap β :=
  entries.foldl (fun map entry => map.insert entry.1 entry.2) empty

/-- The map holding one entry. -/
def singleton (key : String) (value : β) : SortedMap β :=
  ⟨[(key, value)], List.pairwise_singleton _ _⟩

/-- All entries of both maps; under a key that both hold, the right one counts. -/
def union (left right : SortedMap β) : SortedMap β :=
  right.entries.foldl (fun map entry => map.insert entry.1 entry.2) left

/-- Applies a function to every key and its value, and puts the result in the place of the value. -/
def mapEntries (f : String → β → γ) (map : SortedMap β) : SortedMap γ :=
  ⟨map.entries.map (fun entry => (entry.1, f entry.1 entry.2)),
    List.pairwise_map.mpr map.sorted⟩

/-- Applies a function to every value and keeps the keys. -/
def mapValues (f : β → γ) (map : SortedMap β) : SortedMap γ :=
  map.mapEntries fun _ => f

/-- The number of entries. -/
def size (map : SortedMap β) : Nat :=
  map.entries.length

/-- Whether there is no entry. -/
def isEmpty (map : SortedMap β) : Bool :=
  map.entries.isEmpty

/-- Looking a key up after an insertion finds the new value under its key and the old ones
elsewhere, by induction on the list.
-/
@[grind =] theorem get?_insert (map : SortedMap β) (key key' : String) (value : β)
    : (map.insert key value).get? key' = if key' = key then some value else map.get? key' := by
  obtain ⟨entries, sorted⟩ := map
  simp only [get?, insert]
  clear sorted
  induction entries with
  | nil => grind [insertEntry]
  | cons head rest ih => grind [insertEntry]

/-- Looking a key up after an erasure finds nothing under that key and the old values
elsewhere, by induction on the list.
-/
@[grind =] theorem get?_erase (map : SortedMap β) (key key' : String)
    : (map.erase key).get? key' = if key' = key then none else map.get? key' := by
  obtain ⟨entries, sorted⟩ := map
  simp only [get?, erase]
  clear sorted
  induction entries with
  | nil => grind
  | cons head rest ih => grind

@[simp, grind =] theorem get?_empty (key : String) : (empty : SortedMap β).get? key = none :=
  rfl

end SortedMap

end NetInventory
