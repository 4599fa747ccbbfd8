import Mathlib.Data.List.Nodup
import TurnScript.Keyed

/-!
# Maps in the order of their keys

Insertion keeps the keys in ascending order, each once (`sorted_insert`), and adds no other key than
its own (`mem_keys_insert_iff`). So the map of any entries has exactly their keys, in ascending
order, and the map of entries that are in order is the list of them (`ofEntries_eq_self`).
Insertions at two keys can be made in either order (`insert_comm`), and of two at one key the later
counts. So where no key occurs twice, the order of the entries does not matter (`ofEntries_perm`),
and the map holds every one of them (`find?_ofEntries_iff`).

`replace` is the change of a map at a key that is present. In a map in order it is what insertion
does there (`insert_eq_replace`).
-/

namespace TurnScript.Keyed

variable {α : Type}

/-- The keys ascend, so each occurs once. -/
def Sorted (m : Keyed α) : Prop := (keys m).Pairwise (· < ·)

theorem Sorted.nodup {m : Keyed α} (h : Sorted m) : (keys m).Nodup := by
  refine List.Pairwise.imp ?_ h
  rintro key _ hlt rfl
  exact String.lt_irrefl key hlt

/-- Whether a map is in order is told by its keys. -/
theorem sorted_map_iff {β : Type} {f : α → β} {m : Keyed α} :
    Sorted (m.map fun e => (e.1, f e.2)) ↔ Sorted m := by
  rw [Sorted, keys, List.map_map]
  rfl

theorem mem_keys_insert_iff {key other : String} {a : α} {m : Keyed α} :
    other ∈ keys (insert key a m) ↔ other = key ∨ other ∈ keys m := by
  induction m with
  | nil => simp [insert, keys]
  | cons e rest ih =>
    obtain ⟨k, b⟩ := e
    simp only [keys] at ih ⊢
    by_cases hlt : k < key
    · simp [insert, hlt, ih, or_left_comm]
    · by_cases heq : k = key
      · simp [insert, heq]
      · simp [insert, hlt, heq]

theorem sorted_insert {m : Keyed α} (h : Sorted m) (key : String) (a : α) :
    Sorted (insert key a m) := by
  induction m with
  | nil => exact List.pairwise_singleton _ key
  | cons e rest ih =>
    obtain ⟨k, b⟩ := e
    obtain ⟨hless, hrest⟩ := List.pairwise_cons.1 h
    by_cases hlt : k < key
    · rw [insert, if_pos hlt]
      refine List.pairwise_cons.2 ⟨fun other hother => ?_, ih hrest⟩
      rcases mem_keys_insert_iff.1 hother with rfl | hother
      · exact hlt
      · exact hless other hother
    · by_cases heq : k = key
      · rw [insert, if_neg hlt, if_pos heq]
        exact List.pairwise_cons.2 ⟨fun other hother => heq ▸ hless other hother, hrest⟩
      · -- the new key is less than the first one, and so than every other
        have hkey : key < k :=
          String.not_le.1 fun hle => heq (String.le_antisymm hle (String.not_lt.1 hlt))
        rw [insert, if_neg hlt, if_neg heq]
        refine List.pairwise_cons.2 ⟨fun other hother => ?_, h⟩
        rcases List.mem_cons.1 hother with rfl | hother
        · exact hkey
        · exact String.lt_trans hkey (hless other hother)

theorem sorted_ofEntries (entries : List (String × α)) : Sorted (ofEntries entries) := by
  suffices h : ∀ m : Keyed α, Sorted m →
      Sorted (entries.foldl (fun m e => insert e.1 e.2 m) m) from h [] List.Pairwise.nil
  induction entries with
  | nil => exact fun _ hm => hm
  | cons e rest ih => exact fun m hm => ih _ (sorted_insert hm e.1 e.2)

theorem mem_keys_ofEntries_iff {key : String} {entries : List (String × α)} :
    key ∈ keys (ofEntries entries) ↔ key ∈ entries.map Prod.fst := by
  suffices h : ∀ m : Keyed α, key ∈ keys (entries.foldl (fun m e => insert e.1 e.2 m) m) ↔
      key ∈ entries.map Prod.fst ∨ key ∈ keys m by
    simpa [keys, ofEntries] using h []
  induction entries with
  | nil => simp
  | cons e rest ih =>
    intro m
    rw [List.foldl_cons, ih, mem_keys_insert_iff, List.map_cons, List.mem_cons, or_assoc,
      or_left_comm]

theorem mem_of_find? {key : String} {a : α} {m : Keyed α} (h : find? key m = some a) :
    (key, a) ∈ m := by
  induction m with
  | nil => simp [find?] at h
  | cons e rest ih =>
    obtain ⟨k, b⟩ := e
    by_cases heq : k = key
    · rw [find?, if_pos heq] at h
      cases h
      exact heq ▸ List.mem_cons_self
    · rw [find?, if_neg heq] at h
      exact List.mem_cons_of_mem _ (ih h)

theorem find?_map {β : Type} (f : α → β) (key : String) (m : Keyed α) :
    find? key (m.map fun e => (e.1, f e.2)) = (find? key m).map f := by
  induction m with
  | nil => rfl
  | cons e rest ih =>
    by_cases heq : e.1 = key
    · simp [find?, heq]
    · simp [find?, heq, ih]

/-- An insertion looks at the keys only. -/
theorem insert_map {β : Type} (f : α → β) (key : String) (a : α) (m : Keyed α) :
    insert key (f a) (m.map fun e => (e.1, f e.2)) =
      (insert key a m).map fun e => (e.1, f e.2) := by
  induction m with
  | nil => rfl
  | cons e rest ih =>
    by_cases hlt : e.1 < key
    · simp [insert, hlt, ih]
    · by_cases heq : e.1 = key <;> simp [insert, hlt, heq]

/-- Of two lists of entries the first one counts. -/
theorem find?_append (key : String) (m m' : Keyed α) :
    find? key (m ++ m') = (find? key m).or (find? key m') := by
  induction m with
  | nil => rfl
  | cons e rest ih =>
    obtain ⟨k, a⟩ := e
    by_cases heq : k = key
    · simp [find?, heq]
    · simp [find?, heq, ih]

theorem mem_of_mem_insert {key : String} {a : α} {m : Keyed α} {e : String × α}
    (h : e ∈ insert key a m) : e = (key, a) ∨ e ∈ m := by
  induction m with
  | nil => exact .inl (List.mem_singleton.1 h)
  | cons first rest ih =>
    obtain ⟨k, b⟩ := first
    rw [insert] at h
    split at h
    · rcases List.mem_cons.1 h with rfl | h
      · exact .inr List.mem_cons_self
      · exact (ih h).imp_right (List.mem_cons_of_mem _)
    · split at h
      · exact (List.mem_cons.1 h).imp_right (List.mem_cons_of_mem _)
      · exact List.mem_cons.1 h

/-- The map of some entries holds no other ones. -/
theorem mem_of_mem_ofEntries {entries : List (String × α)} {e : String × α}
    (h : e ∈ ofEntries entries) : e ∈ entries := by
  suffices hm : ∀ m : Keyed α, e ∈ entries.foldl (fun m e => insert e.1 e.2 m) m →
      e ∈ entries ∨ e ∈ m from (hm [] h).resolve_right List.not_mem_nil
  clear h
  induction entries with
  | nil => exact fun _ hm => .inr hm
  | cons first rest ih =>
    intro m hm
    rcases ih _ hm with hrest | hinsert
    · exact .inl (List.mem_cons_of_mem _ hrest)
    · rcases mem_of_mem_insert hinsert with rfl | hm
      · exact .inl List.mem_cons_self
      · exact .inr hm

/-- A key that is larger than all others comes last. -/
theorem insert_of_lt {key : String} {m : Keyed α} (h : ∀ k ∈ keys m, k < key) (a : α) :
    insert key a m = m ++ [(key, a)] := by
  induction m with
  | nil => rfl
  | cons e rest ih =>
    rw [insert, if_pos (h e.1 List.mem_cons_self), List.cons_append,
      ih fun k hk => h k (List.mem_cons_of_mem _ hk)]

/-- Entries that are in order are the map of them. -/
theorem ofEntries_eq_self {entries : Keyed α} (h : Sorted entries) :
    ofEntries entries = entries := by
  suffices hm : ∀ m : Keyed α, Sorted (m ++ entries) →
      entries.foldl (fun m e => insert e.1 e.2 m) m = m ++ entries from hm [] h
  clear h
  induction entries with
  | nil => exact fun m _ => (List.append_nil m).symm
  | cons e rest ih =>
    intro m hm
    have hlast : ∀ k ∈ keys m, k < e.1 := by
      rw [Sorted, keys, List.map_append] at hm
      exact fun k hk => (List.pairwise_append.1 hm).2.2 k hk e.1 List.mem_cons_self
    rw [List.foldl_cons, insert_of_lt hlast, ih _ (by simpa using hm), List.append_assoc,
      List.singleton_append]

/-! ## Two insertions -/

/-- Of two insertions at one key the later counts. -/
theorem insert_insert_self (key : String) (a b : α) (m : Keyed α) :
    insert key a (insert key b m) = insert key a m := by
  induction m with
  | nil => simp [insert]
  | cons e rest ih =>
    obtain ⟨k, c⟩ := e
    by_cases hlt : k < key
    · simp [insert, hlt, ih]
    · by_cases heq : k = key <;> simp [insert, hlt, heq]

theorem insert_comm_of_lt {key other : String} (h : key < other) (a b : α) (m : Keyed α) :
    insert key a (insert other b m) = insert other b (insert key a m) := by
  have hnot : ¬ other < key := String.lt_asymm h
  have hne : other ≠ key := fun heq => hnot (heq ▸ h)
  induction m with
  | nil => simp [insert, h, hnot, hne]
  | cons e rest ih =>
    obtain ⟨k, c⟩ := e
    by_cases hk : k < key
    · simp [insert, hk, String.lt_trans hk h, ih]
    · by_cases heq : k = key
      · subst heq
        simp [insert, h]
      · -- the lesser key comes to the front, wherever the greater one goes
        by_cases hother : k < other
        · simp [insert, hk, heq, h, hother]
        · by_cases heq' : k = other
          · subst heq'
            simp [insert, hk, h, heq]
          · simp [insert, hk, heq, h, hother, heq', hnot, hne]

/-- Insertions at two keys can be made in either order. -/
theorem insert_comm {key other : String} (h : key ≠ other) (a b : α) (m : Keyed α) :
    insert key a (insert other b m) = insert other b (insert key a m) := by
  by_cases hlt : key < other
  · exact insert_comm_of_lt hlt a b m
  · have hless : other < key :=
      String.not_le.1 fun hle => h (String.le_antisymm hle (String.not_lt.1 hlt))
    exact (insert_comm_of_lt hless b a m).symm

/-! ## Entries with different keys -/

theorem exists_find?_iff {key : String} {m : Keyed α} :
    (∃ a, find? key m = some a) ↔ key ∈ keys m := by
  induction m with
  | nil => simp [find?, keys]
  | cons e rest ih =>
    obtain ⟨k, a⟩ := e
    by_cases heq : k = key
    · simp [find?, keys, heq]
    · simpa [find?, keys, heq, Ne.symm heq] using ih

variable {entries others : List (String × α)}

/-- Of entries with different keys, the map holds every one. -/
theorem find?_ofEntries_iff (h : (entries.map Prod.fst).Nodup) {key : String} {a : α} :
    find? key (ofEntries entries) = some a ↔ (key, a) ∈ entries := by
  refine ⟨fun hfind => mem_of_mem_ofEntries (mem_of_find? hfind), fun hmem => ?_⟩
  have hkey : key ∈ keys (ofEntries entries) :=
    mem_keys_ofEntries_iff.2 (List.mem_map.2 ⟨(key, a), hmem, rfl⟩)
  obtain ⟨b, hfind⟩ := exists_find?_iff.2 hkey
  have heq : (key, b) = (key, a) :=
    List.inj_on_of_nodup_map h (mem_of_mem_ofEntries (mem_of_find? hfind)) hmem rfl
  rw [hfind, (Prod.mk.inj heq).2]

theorem length_ofEntries (h : (entries.map Prod.fst).Nodup) :
    (ofEntries entries).length = entries.length := by
  have hperm : (keys (ofEntries entries)).Perm (entries.map Prod.fst) :=
    (List.perm_ext_iff_of_nodup (sorted_ofEntries entries).nodup h).2 fun _ =>
      mem_keys_ofEntries_iff
  simpa [keys] using hperm.length_eq

/-- Entries with different keys make one map in every order. -/
theorem ofEntries_perm (h : (entries.map Prod.fst).Nodup) (hperm : entries.Perm others) :
    ofEntries entries = ofEntries others := by
  refine hperm.foldl_eq' (fun e he f hf m => ?_) []
  by_cases hkey : e.1 = f.1
  · rw [List.inj_on_of_nodup_map h he hf hkey]
  · exact insert_comm (Ne.symm hkey) f.2 e.2 m

/-! ## Changes in place -/

/-- The map with `a` instead of what it holds at `key`. -/
def replace (key : String) (a : α) : Keyed α → Keyed α
  | [] => []
  | (k, b) :: rest => if k = key then (key, a) :: rest else (k, b) :: replace key a rest

theorem replace_eq_self {key : String} {a : α} {m : Keyed α} (h : find? key m = some a) :
    replace key a m = m := by
  induction m with
  | nil => rfl
  | cons e rest ih =>
    obtain ⟨k, b⟩ := e
    by_cases heq : k = key
    · rw [find?, if_pos heq] at h
      rw [replace, if_pos heq, ← Option.some.inj h, heq]
    · rw [find?, if_neg heq] at h
      rw [replace, if_neg heq, ih h]

/-- What was just inserted is replaced. -/
theorem replace_insert (key : String) (a b : α) (m : Keyed α) :
    replace key a (insert key b m) = insert key a m := by
  induction m with
  | nil => simp [insert, replace]
  | cons e rest ih =>
    obtain ⟨k, c⟩ := e
    by_cases hlt : k < key
    · have hne : k ≠ key := fun h => String.lt_irrefl key (h ▸ hlt)
      simp [insert, replace, hlt, hne, ih]
    · by_cases heq : k = key <;> simp [insert, replace, hlt, heq]

/-- Where the map is in order and holds something, insertion changes it in place. -/
theorem insert_eq_replace {key : String} {b : α} {m : Keyed α} (hm : Sorted m)
    (h : find? key m = some b) (a : α) : insert key a m = replace key a m := by
  induction m with
  | nil => cases h
  | cons e rest ih =>
    obtain ⟨k, c⟩ := e
    obtain ⟨hless, hrest⟩ := List.pairwise_cons.1 hm
    by_cases heq : k = key
    · have hlt : ¬ k < key := fun hlt => String.lt_irrefl key (heq ▸ hlt)
      rw [insert, if_neg hlt, if_pos heq, replace, if_pos heq]
    · rw [find?, if_neg heq] at h
      have hlt : k < key := hless key (List.mem_map_of_mem (mem_of_find? h))
      rw [insert, if_pos hlt, replace, if_neg heq, ih hrest h]

end TurnScript.Keyed
