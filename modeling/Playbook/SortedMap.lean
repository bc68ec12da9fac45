/-!
# Maps in key order

A map from strings, kept as its entries in ascending key order, so that walking it is walking a
list and two maps with the same lookups are equal. The list operations look a key up by equality
and never rely on the order, so the laws of `lookup` hold for any list of entries.
-/

namespace Playbook

namespace Entries

variable {α β : Type}

/-- The value at `key` becomes `value`; a new key is put before the first greater one. -/
def insert (key : String) (value : α) : List (String × α) → List (String × α)
  | [] => [(key, value)]
  | entry :: rest =>
    if key < entry.1 then (key, value) :: entry :: rest
    else if key = entry.1 then (key, value) :: rest
    else entry :: insert key value rest

def lookup (key : String) : List (String × α) → Option α
  | [] => none
  | entry :: rest => if key = entry.1 then some entry.2 else lookup key rest

def erase (key : String) (entries : List (String × α)) : List (String × α) :=
  entries.filter (·.1 ≠ key)

/-- Later entries win. -/
def ofList (entries : List (String × α)) : List (String × α) :=
  entries.foldl (fun map entry ↦ insert entry.1 entry.2 map) []

def Sorted (entries : List (String × α)) : Prop :=
  entries.Pairwise (·.1 < ·.1)

theorem mem_insert {key : String} {value : α} {entry : String × α} :
    {entries : List (String × α)} →
      entry ∈ insert key value entries → entry = (key, value) ∨ entry ∈ entries
  | [], h => by simpa [insert] using h
  | head :: rest, h => by
    unfold insert at h
    split at h
    · simpa using h
    · split at h
      · rcases List.mem_cons.1 h with h | h
        · exact .inl h
        · exact .inr (List.mem_cons_of_mem _ h)
      · rcases List.mem_cons.1 h with h | h
        · exact .inr (h ▸ List.mem_cons_self ..)
        · exact (mem_insert h).imp_right (List.mem_cons_of_mem _)

theorem insert_sorted {key : String} {value : α} :
    {entries : List (String × α)} → Sorted entries → Sorted (insert key value entries)
  | [], _ => by simp [insert, Sorted]
  | head :: rest, h => by
    have ⟨first, more⟩ := List.pairwise_cons.1 h
    unfold insert
    split
    · rename_i less
      refine List.pairwise_cons.2 ⟨fun entry member ↦ ?_, h⟩
      rcases List.mem_cons.1 member with same | later
      · exact same ▸ less
      · exact String.lt_trans less (first entry later)
    · split
      · rename_i same
        exact List.pairwise_cons.2 ⟨fun entry member ↦ same ▸ first entry member, more⟩
      · rename_i notLess different
        refine List.pairwise_cons.2 ⟨fun entry member ↦ ?_, insert_sorted more⟩
        rcases mem_insert member with new | old
        · subst new
          exact Std.lt_of_le_of_ne (String.not_lt.1 notLess) (Ne.symm different)
        · exact first entry old

theorem erase_sorted {key : String} {entries : List (String × α)} (h : Sorted entries) :
    Sorted (erase key entries) :=
  h.filter _

@[simp] theorem lookup_insert_self {key : String} {value : α} :
    (entries : List (String × α)) → lookup key (insert key value entries) = some value
  | [] => by simp [insert, lookup]
  | head :: rest => by
    unfold insert
    split
    · simp [lookup]
    · split
      · simp [lookup]
      · simp_all [lookup, lookup_insert_self rest]

theorem lookup_insert_ne {key other : String} {value : α} (h : other ≠ key) :
    (entries : List (String × α)) → lookup other (insert key value entries) = lookup other entries
  | [] => by simp [insert, lookup, h]
  | head :: rest => by
    unfold insert
    split
    · simp [lookup, h]
    · split
      · rename_i same
        simp [lookup, ← same, h]
      · simp [lookup, lookup_insert_ne h rest]

end Entries

/-- A map from strings to `α`, as its entries in ascending key order. -/
structure SortedMap (α : Type) where
  entries : List (String × α)
  sorted : Entries.Sorted entries

namespace SortedMap

variable {α : Type}

@[ext] theorem ext {first second : SortedMap α} (h : first.entries = second.entries) :
    first = second := by
  cases first; cases second; cases h; rfl

instance [DecidableEq α] : DecidableEq (SortedMap α) := fun first second ↦
  decidable_of_iff (first.entries = second.entries) ⟨ext, congrArg entries⟩

def empty : SortedMap α := ⟨[], .nil⟩

instance : EmptyCollection (SortedMap α) := ⟨empty⟩
instance : Inhabited (SortedMap α) := ⟨empty⟩

def insert (map : SortedMap α) (key : String) (value : α) : SortedMap α :=
  ⟨Entries.insert key value map.entries, Entries.insert_sorted map.sorted⟩

def erase (map : SortedMap α) (key : String) : SortedMap α :=
  ⟨Entries.erase key map.entries, Entries.erase_sorted map.sorted⟩

def get? (map : SortedMap α) (key : String) : Option α :=
  Entries.lookup key map.entries

def contains (map : SortedMap α) (key : String) : Bool :=
  (map.get? key).isSome

def size (map : SortedMap α) : Nat :=
  map.entries.length

def keys (map : SortedMap α) : List String :=
  map.entries.map (·.1)

/-- `map` with the given entries put in one after another. -/
def insertMany (map : SortedMap α) (entries : List (String × α)) : SortedMap α :=
  entries.foldl (fun map entry ↦ map.insert entry.1 entry.2) map

def ofList (entries : List (String × α)) : SortedMap α :=
  empty.insertMany entries

end SortedMap

end Playbook
