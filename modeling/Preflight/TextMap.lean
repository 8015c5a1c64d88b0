/-!
# Finite maps keyed by text

Environment variables, process groups, machine metadata and volume queues are all maps from
text to a value.  `TextMap` keeps its entries in strictly increasing key order, and the order is
part of the type: two maps with the same entries are equal, and listing the keys needs no sort.
Text is ordered by code point.

The law that clients use is `TextMap.get?_insert`; everything else the map does is a fold of
`insert` or a walk over `entries`.
-/

namespace Preflight

/-! ## Sorted association lists -/

/-- Keys strictly increasing. -/
def KeysSorted {α : Type} (entries : List (String × α)) : Prop :=
  entries.Pairwise fun a b => a.1 < b.1

/-- Put `value` under `key` in a sorted association list, replacing what was there. -/
def insertEntry {α : Type} (key : String) (value : α) :
    List (String × α) → List (String × α)
  | [] => [(key, value)]
  | (k, v) :: rest =>
    if key < k then (key, value) :: (k, v) :: rest
    else if key = k then (key, value) :: rest
    else (k, v) :: insertEntry key value rest

theorem mem_insertEntry {α : Type} {key : String} {value : α} {entries : List (String × α)}
    {e : String × α} (h : e ∈ insertEntry key value entries) :
    e = (key, value) ∨ e ∈ entries := by
  induction entries with
  | nil => simpa [insertEntry] using h
  | cons head rest ih =>
    obtain ⟨k, v⟩ := head
    simp only [insertEntry] at h
    split at h
    · simpa using h
    · split at h
      · rcases List.mem_cons.1 h with h | h
        · exact .inl h
        · exact .inr (List.mem_cons_of_mem _ h)
      · rcases List.mem_cons.1 h with h | h
        · exact .inr (h ▸ List.mem_cons_self)
        · rcases ih h with h | h
          · exact .inl h
          · exact .inr (List.mem_cons_of_mem _ h)

/-- Insertion keeps the keys strictly increasing. -/
theorem keysSorted_insertEntry {α : Type} (key : String) (value : α)
    {entries : List (String × α)} (h : KeysSorted entries) :
    KeysSorted (insertEntry key value entries) := by
  induction entries with
  | nil => simp [insertEntry, KeysSorted]
  | cons head rest ih =>
    obtain ⟨k, v⟩ := head
    obtain ⟨hhead, hrest⟩ := List.pairwise_cons.1 h
    simp only [insertEntry]
    split
    · rename_i hlt
      refine List.pairwise_cons.2 ⟨fun e he => ?_, h⟩
      rcases List.mem_cons.1 he with rfl | he
      · exact hlt
      · exact String.lt_trans hlt (hhead e he)
    · rename_i hlt
      split
      · rename_i heq
        exact List.pairwise_cons.2 ⟨fun e he => heq ▸ hhead e he, hrest⟩
      · rename_i hne
        refine List.pairwise_cons.2 ⟨fun e he => ?_, ih hrest⟩
        rcases mem_insertEntry he with rfl | he
        · exact Std.lt_of_le_of_ne (String.not_lt.1 hlt) (Ne.symm hne)
        · exact hhead e he

/-- Looking up after an insertion finds the new value at its key and the old ones elsewhere. -/
theorem lookup_insertEntry {α : Type} (key k : String) (value : α)
    (entries : List (String × α)) :
    (insertEntry key value entries).lookup k =
      if k = key then some value else entries.lookup k := by
  have miss : ∀ {a b : String}, a ≠ b → (a == b) = false := fun h => by simpa using h
  induction entries with
  | nil =>
    by_cases h : k = key
    · simp [insertEntry, h]
    · simp [insertEntry, List.lookup_cons, h, miss h]
  | cons head rest ih =>
    obtain ⟨k', v⟩ := head
    simp only [insertEntry]
    split
    · by_cases h : k = key
      · simp [h]
      · simp [List.lookup_cons, h, miss h]
    · split
      · rename_i heq
        subst heq
        by_cases h : k = key
        · simp [h]
        · simp [List.lookup_cons, h, miss h]
      · rename_i hne
        by_cases h : k = k'
        · subst h
          simp [Ne.symm hne]
        · simp [List.lookup_cons, miss h, ih]

/-! ## Maps -/

/-- A finite map from text to `α`, its entries in strictly increasing key order. -/
structure TextMap (α : Type) where
  /-- The key and value pairs, in key order. -/
  entries : List (String × α)
  /-- Keys are strictly increasing, so no key occurs twice. -/
  sorted : KeysSorted entries

namespace TextMap

variable {α β : Type}

@[ext] theorem ext {m n : TextMap α} (h : m.entries = n.entries) : m = n := by
  cases m
  cases n
  cases h
  rfl

instance [DecidableEq α] : DecidableEq (TextMap α) := fun m n =>
  decidable_of_iff (m.entries = n.entries) ⟨ext, fun h => h ▸ rfl⟩

instance [Repr α] : Repr (TextMap α) := ⟨fun m => reprPrec m.entries⟩

/-- The map without entries. -/
def empty : TextMap α := ⟨[], List.Pairwise.nil⟩

instance : EmptyCollection (TextMap α) := ⟨empty⟩

instance : Inhabited (TextMap α) := ⟨empty⟩

/-- Set the value of a key. -/
def insert (m : TextMap α) (key : String) (value : α) : TextMap α :=
  ⟨insertEntry key value m.entries, keysSorted_insertEntry key value m.sorted⟩

/-- The value of a key. -/
def get? (m : TextMap α) (key : String) : Option α := m.entries.lookup key

/-- Whether a key has a value. -/
def contains (m : TextMap α) (key : String) : Bool := (m.get? key).isSome

/-- The keys, in increasing order. -/
def keys (m : TextMap α) : List String := m.entries.map (·.1)

/-- Whether the map has no entries. -/
def isEmpty (m : TextMap α) : Bool := m.entries.isEmpty

/-- Set the values of several keys in turn; of two entries with one key the later one wins. -/
def insertAll (m : TextMap α) (entries : List (String × α)) : TextMap α :=
  entries.foldl (fun acc e => acc.insert e.1 e.2) m

/-- The map of a list of entries; of two entries with one key the later one wins. -/
def ofList (entries : List (String × α)) : TextMap α := empty.insertAll entries

@[simp] theorem get?_empty (key : String) : (empty : TextMap α).get? key = none := rfl

/-- Setting a key changes that key and no other. -/
theorem get?_insert (m : TextMap α) (key k : String) (value : α) :
    (m.insert key value).get? k = if k = key then some value else m.get? k :=
  lookup_insertEntry key k value m.entries

/-! ## Maps of lists -/

/-- The list stored under a key, empty when there is none. -/
def listAt (m : TextMap (List β)) (key : String) : List β := (m.get? key).getD []

/-- Append one element to the list stored under a key. -/
def push (m : TextMap (List β)) (key : String) (x : β) : TextMap (List β) :=
  m.insert key (m.listAt key ++ [x])

/-- Appending shows at the key and nowhere else. -/
theorem listAt_push (m : TextMap (List β)) (key k : String) (x : β) :
    (m.push key x).listAt k = if k = key then m.listAt key ++ [x] else m.listAt k := by
  simp only [listAt, push, get?_insert]
  split <;> rfl

/-- Sort elements into lists by a text label, keeping their order within each list. -/
def groupBy (label : β → String) (xs : List β) : TextMap (List β) :=
  xs.foldl (fun acc x => acc.push (label x) x) empty

end TextMap

end Preflight
