import TurnScript.Store

/-!
# Writes and reads of the store

A write is seen only where it was made: what is read at a path of which the written one is no part,
and which is no part of it either, is the same before and after (`get_of_set`), whether it is a
value or an error.
-/

namespace TurnScript

/-- One of the two paths leads along the other. What is no path leads nowhere. -/
def Path.Overlaps (path other : String) : Prop :=
  ∃ segments ∈ segments? path, ∃ others ∈ segments? other,
    segments <+: others ∨ others <+: segments

instance (path other : String) : Decidable (Path.Overlaps path other) :=
  inferInstanceAs (Decidable (∃ segments ∈ Path.segments? path, ∃ others ∈ Path.segments? other, _))

namespace Store

variable {store store' : Store} {m m' : Keyed Value} {v : Value} {segment path other : String}
  {behind others : List String}

theorem descend_nil_map (h : others ≠ []) : descend others (.map []) = none := by
  obtain ⟨next, further, rfl⟩ := List.exists_cons_of_ne_nil h
  rfl

/-- Where neither list of segments begins with the other, a write changes nothing. -/
theorem descend_of_put (h : put segment behind v m = .ok m')
    (hwritten : ¬ segment :: behind <+: others) (hread : ¬ others <+: segment :: behind) :
    descend others (.map m') = descend others (.map m) := by
  induction behind generalizing segment m m' others with
  | nil =>
    cases others with
    | nil => exact absurd List.nil_prefix hread
    | cons first rest =>
      have hne : first ≠ segment := by
        rintro rfl
        exact hwritten (List.prefix_append [first] rest)
      cases h
      rw [descend, descend, Keyed.find?_insert_of_ne hne]
  | cons next further ih =>
    cases others with
    | nil => exact absurd List.nil_prefix hread
    | cons first rest =>
      rw [put] at h
      split at h
      case h_2 => cases h
      case h_1 inner hinner =>
      cases hput : put next further v inner with
      | error conflict => simp [hput] at h
      | ok inner' =>
        obtain rfl : Keyed.insert segment (.map inner') m = m' := by simpa [hput] using h
        rw [descend, descend]
        by_cases hfirst : first = segment
        · subst hfirst
          -- both go through the inner map, which is empty if it was made by the write
          rw [List.prefix_cons_inj] at hwritten hread
          rw [Keyed.find?_insert_self, Option.bind_some, ih hput hwritten hread]
          cases hfind : Keyed.find? first m with
          | none =>
            obtain rfl : [] = inner := by simpa [hfind] using hinner
            exact descend_nil_map fun hnil => hread (hnil ▸ List.nil_prefix)
          | some found =>
            obtain rfl : found = .map inner := by simpa [hfind] using hinner
            rfl
        · rw [Keyed.find?_insert_of_ne hfirst]

/-- What a write that succeeds did. -/
theorem exists_put_of_set (h : store.set path v = .ok store') :
    ∃ segment behind root, Path.segments? path = some (segment :: behind) ∧
      put segment behind v store.root = .ok root ∧ store' = { root } := by
  rw [set] at h
  split at h
  · cases h
  · cases h
  · next segment behind hpath =>
    cases hput : put segment behind v store.root with
    | error conflict => simp [hput] at h
    | ok root =>
      simp only [hput, Except.ok.injEq] at h
      exact ⟨segment, behind, root, hpath, hput, h.symm⟩

/-- A write changes nothing at the paths that do not overlap with its own. -/
theorem get_of_set (h : store.set path v = .ok store') (hother : ¬ Path.Overlaps path other) :
    store'.get other = store.get other := by
  obtain ⟨segment, behind, root, hpath, hput, rfl⟩ := exists_put_of_set h
  rw [get, get]
  cases hothers : Path.segments? other with
  | none => rfl
  | some others =>
    have hnot (hor : segment :: behind <+: others ∨ others <+: segment :: behind) : False :=
      hother ⟨_, hpath, _, hothers, hor⟩
    rw [Option.bind_some, Option.bind_some,
      descend_of_put hput (fun hwritten => hnot (.inl hwritten)) fun hread => hnot (.inr hread)]

end Store

end TurnScript
