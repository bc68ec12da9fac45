import Mathlib.Data.List.Sort
import Playbook.SortedMap

/-!
# Maps over each other

A map is known by its lookups, because its entries stand in key order. When entries are put over a
map the last of them with a key decides, and what no entry names stays as it was; so putting two
maps over a third one after the other is putting them over it at once.
-/

namespace Playbook

namespace Entries

variable {α β : Type}

instance (entries : List (String × α)) : Decidable (Sorted entries) :=
  inferInstanceAs (Decidable (entries.Pairwise (·.1 < ·.1)))

theorem lookup_append (key : String) (first second : List (String × α)) :
    lookup key (first ++ second) = (lookup key first).or (lookup key second) := by
  induction first with
  | nil => rfl
  | cons entry rest ih =>
    rw [List.cons_append, lookup, lookup, ih]
    split <;> rfl

theorem lookup_map (key : String) (f : α → β) (entries : List (String × α)) :
    lookup key (entries.map fun entry ↦ (entry.1, f entry.2)) = (lookup key entries).map f := by
  induction entries with
  | nil => rfl
  | cons entry rest ih =>
    rw [List.map_cons, lookup, lookup, ih]
    split <;> rfl

theorem lookup_eq_none {key : String} {entries : List (String × α)}
    (h : ∀ entry ∈ entries, key ≠ entry.1) : lookup key entries = none := by
  induction entries with
  | nil => rfl
  | cons entry rest ih =>
    rw [lookup, if_neg (h entry List.mem_cons_self)]
    exact ih fun later hmem ↦ h later (List.mem_cons_of_mem _ hmem)

theorem Sorted.lookup_eq_some {key : String} {value : α} {entries : List (String × α)}
    (h : Sorted entries) : lookup key entries = some value ↔ (key, value) ∈ entries := by
  induction entries with
  | nil => simp [lookup]
  | cons entry rest ih =>
    obtain ⟨hfirst, hrest⟩ := List.pairwise_cons.mp h
    rw [lookup, List.mem_cons]
    split
    · next hkey =>
      have hlater : (key, value) ∉ rest := fun hmem ↦
        String.lt_irrefl key (hkey ▸ hfirst (key, value) hmem)
      rw [or_iff_left hlater, Option.some.injEq]
      constructor
      · rintro rfl
        rw [hkey]
      · rintro rfl
        rfl
    · next hkey =>
      have hhead : (key, value) ≠ entry := fun heq ↦ hkey (congrArg Prod.fst heq)
      rw [ih hrest, or_iff_right hhead]

theorem lookup_erase (key other : String) (entries : List (String × α)) :
    lookup other (erase key entries) = if other = key then none else lookup other entries := by
  induction entries with
  | nil => simp [erase, lookup]
  | cons entry rest ih =>
    by_cases hentry : entry.1 = key
    · have hskip : erase key (entry :: rest) = erase key rest := by
        simp [erase, hentry]
      rw [hskip, ih, lookup, hentry]
      split <;> rfl
    · have hkeep : erase key (entry :: rest) = entry :: erase key rest := by
        simp [erase, hentry]
      rw [hkeep, lookup, lookup, ih]
      by_cases hother : other = key
      · simp [hother, Ne.symm hentry]
      · simp only [hother, if_false]

/-- No key stands twice, so it does not matter from which end it is looked for. -/
theorem Sorted.lookup_reverse {entries : List (String × α)} (h : Sorted entries) (key : String) :
    lookup key entries.reverse = lookup key entries := by
  induction entries with
  | nil => rfl
  | cons entry rest ih =>
    obtain ⟨hfirst, hrest⟩ := List.pairwise_cons.mp h
    rw [List.reverse_cons, lookup_append, ih hrest]
    simp only [lookup]
    split
    · next hkey =>
      have hlater : lookup key rest = none := by
        refine lookup_eq_none fun later hmem heq ↦ String.lt_irrefl key ?_
        have hlt := hfirst later hmem
        rwa [← hkey, ← heq] at hlt
      rw [hlater]
      rfl
    · exact Option.or_none

/-- A key that comes after all others is put at the end. -/
theorem insert_last {key : String} (value : α) {entries : List (String × α)}
    (h : ∀ entry ∈ entries, entry.1 < key) :
    insert key value entries = entries ++ [(key, value)] := by
  induction entries with
  | nil => rfl
  | cons entry rest ih =>
    have hlt : entry.1 < key := h entry List.mem_cons_self
    have hne : key ≠ entry.1 := fun heq ↦ String.lt_irrefl key (heq ▸ hlt)
    rw [insert, if_neg (String.lt_asymm hlt), if_neg hne,
      ih fun later hmem ↦ h later (List.mem_cons_of_mem _ hmem), List.cons_append]

theorem Sorted.insert_middle {key : String} {value : α} {front back : List (String × α)}
    (h : Sorted (front ++ (key, value) :: back)) :
    insert key value front = front ++ [(key, value)] := by
  apply insert_last
  intro entry hmem
  exact (List.pairwise_append.mp h).2.2 entry hmem (key, value) List.mem_cons_self

end Entries

namespace SortedMap

variable {α : Type}

theorem ext_get? {first second : SortedMap α} (h : ∀ key, first.get? key = second.get? key) :
    first = second := by
  have : Std.Irrefl fun a b : String × α ↦ a.1 < b.1 := ⟨fun a ↦ String.lt_irrefl a.1⟩
  have : Std.Antisymm fun a b : String × α ↦ a.1 < b.1 :=
    ⟨fun a b hab hba ↦ absurd hab (String.lt_asymm hba)⟩
  refine ext (first.sorted.eq_of_mem_iff second.sorted fun entry ↦ ?_)
  rw [← first.sorted.lookup_eq_some, ← second.sorted.lookup_eq_some]
  exact (h entry.1).congr_left

theorem get?_insert (map : SortedMap α) (key other : String) (value : α) :
    (map.insert key value).get? other = if other = key then some value else map.get? other := by
  split
  · next h =>
    subst h
    exact Entries.lookup_insert_self map.entries
  · next h => exact Entries.lookup_insert_ne h map.entries

theorem get?_erase (map : SortedMap α) (key other : String) :
    (map.erase key).get? other = if other = key then none else map.get? other :=
  Entries.lookup_erase key other map.entries

theorem get?_insertMany (map : SortedMap α) (entries : List (String × α)) (key : String) :
    (map.insertMany entries).get? key =
      (Entries.lookup key entries.reverse).or (map.get? key) := by
  induction entries generalizing map with
  | nil => rfl
  | cons entry rest ih =>
    have hstep : map.insertMany (entry :: rest) =
        (map.insert entry.1 entry.2).insertMany rest := rfl
    rw [hstep, ih, get?_insert, List.reverse_cons, Entries.lookup_append, Option.or_assoc]
    refine congrArg _ ?_
    rw [Entries.lookup, Entries.lookup]
    split <;> rfl

/-- A map put over another decides wherever it has a value. -/
theorem get?_insertMany_entries (map other : SortedMap α) (key : String) :
    (map.insertMany other.entries).get? key = (other.get? key).or (map.get? key) := by
  rw [get?_insertMany, other.sorted.lookup_reverse]
  rfl

theorem insertMany_ofList (map : SortedMap α) (entries : List (String × α)) :
    map.insertMany (ofList entries).entries = map.insertMany entries := by
  refine ext_get? fun key ↦ ?_
  have hempty : (empty : SortedMap α).get? key = none := rfl
  rw [get?_insertMany_entries, get?_insertMany, ofList, get?_insertMany, hempty, Option.or_none]

/-- Putting the entries of a map into an empty one gives the map back. -/
theorem ofList_entries (map : SortedMap α) : ofList map.entries = map := by
  refine ext_get? fun key ↦ ?_
  have hempty : (empty : SortedMap α).get? key = none := rfl
  rw [ofList, get?_insertMany_entries, hempty, Option.or_none]

/-- The map with other values under the same keys. -/
def mapValues {β : Type} (f : α → β) (map : SortedMap α) : SortedMap β where
  entries := map.entries.map fun entry ↦ (entry.1, f entry.2)
  sorted := by
    rw [Entries.Sorted, List.pairwise_map]
    exact map.sorted

end SortedMap

end Playbook
