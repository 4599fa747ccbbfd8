/-!
# Lists in the order of their keys

The maps of this library are association lists in ascending order of their keys, so that what is
shown does not hang on the order of insertion. `insert` keeps that order and replaces the entry of
a key that is present; the entry that `find?` answers is the first of its key. Their two laws
(`find?_insert_self`, `find?_insert_of_ne`) hold for every list, in order or not.
-/

namespace TurnScript

/-- A finite map from texts, as the list of its entries. -/
abbrev Keyed (α : Type) := List (String × α)

namespace Keyed

variable {α : Type}

/-- The map with `a` at `key`, put in front of the first entry of a larger key. -/
def insert (key : String) (a : α) : Keyed α → Keyed α
  | [] => [(key, a)]
  | (k, b) :: rest =>
    if k < key then (k, b) :: insert key a rest
    else if k = key then (key, a) :: rest
    else (key, a) :: (k, b) :: rest

/-- What the map holds at `key`. -/
def find? (key : String) : Keyed α → Option α
  | [] => none
  | (k, a) :: rest => if k = key then some a else find? key rest

/-- The map of the given entries; of two entries with one key the later counts. -/
def ofEntries (entries : List (String × α)) : Keyed α :=
  entries.foldl (fun m e => insert e.1 e.2 m) []

/-- The keys of a map, in its order. -/
def keys (m : Keyed α) : List String := m.map Prod.fst

theorem find?_insert_self (key : String) (a : α) (m : Keyed α) :
    find? key (insert key a m) = some a := by
  induction m with
  | nil => simp [insert, find?]
  | cons e rest ih =>
    obtain ⟨k, b⟩ := e
    by_cases hlt : k < key
    · have hne : k ≠ key := fun h => String.lt_irrefl key (h ▸ hlt)
      simp [insert, find?, hlt, hne, ih]
    · by_cases heq : k = key <;> simp [insert, find?, hlt, heq]

theorem find?_insert_of_ne {key other : String} (h : other ≠ key) (a : α) (m : Keyed α) :
    find? other (insert key a m) = find? other m := by
  induction m with
  | nil => simp [insert, find?, h.symm]
  | cons e rest ih =>
    obtain ⟨k, b⟩ := e
    by_cases hlt : k < key
    · simp [insert, find?, hlt, ih]
    · by_cases heq : k = key
      · subst heq
        simp [insert, find?, h.symm]
      · simp [insert, find?, hlt, heq, h.symm]

end Keyed

end TurnScript
