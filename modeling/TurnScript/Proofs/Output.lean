import TurnScript.Output

/-!
# Texts of entries

The text of some entries is empty only if there are none (`displayAll_eq_empty_iff`). So entries may
be put together in groups, whose texts are joined: without the texts that are empty, the text of all
of them is the same (`intercalate_filter_displayAll`).
-/

namespace TurnScript.Output

variable {entries : List Entry} {groups : List (List Entry)}

theorem displayAll_append {front back : List Entry} (hfront : front ≠ []) (hback : back ≠ []) :
    displayAll (front ++ back) = displayAll front ++ "\n" ++ displayAll back := by
  simp only [displayAll, List.map_append]
  exact String.intercalate_append_of_ne_nil (by simpa using hfront) (by simpa using hback)

theorem displayAll_eq_empty_iff : displayAll entries = "" ↔ entries = [] := by
  have hdisplay (e : Entry) : e.display ≠ "" := by
    simp [Entry.display]
  constructor
  · intro h
    rcases entries with _ | ⟨e, _ | ⟨e', rest⟩⟩
    · rfl
    · exact absurd (String.intercalate_singleton.symm.trans h) (hdisplay e)
    · -- between two entries there is a line feed
      rw [← List.singleton_append, displayAll_append (by simp) (by simp)] at h
      simp at h
  · rintro rfl
    rfl

/-- Groups of which none is empty. -/
theorem intercalate_displayAll (h : ∀ group ∈ groups, group ≠ []) :
    "\n".intercalate (groups.map displayAll) = displayAll groups.flatten := by
  induction groups with
  | nil => rfl
  | cons group rest ih =>
    have hgroup := h group List.mem_cons_self
    have hrest := ih fun g hg => h g (List.mem_cons_of_mem _ hg)
    by_cases hnil : rest = []
    · rw [hnil, List.map_singleton, String.intercalate_singleton, List.flatten_singleton]
    · have hflatten : rest.flatten ≠ [] := by
        obtain ⟨g, hg⟩ := List.exists_mem_of_ne_nil rest hnil
        exact fun h' => h g (List.mem_cons_of_mem _ hg) (List.flatten_eq_nil_iff.1 h' g hg)
      rw [List.map_cons, String.intercalate_cons_of_ne_nil (by simpa using hnil), hrest,
        List.flatten_cons, displayAll_append hgroup hflatten]

theorem intercalate_filter_displayAll (groups : List (List Entry)) :
    "\n".intercalate ((groups.map displayAll).filter (!·.isEmpty)) = displayAll groups.flatten := by
  have hempty (group : List Entry) : (!(displayAll group).isEmpty) = !group.isEmpty := by
    rw [Bool.eq_iff_iff]
    simp [displayAll_eq_empty_iff]
  have hfilter : (groups.map displayAll).filter (!·.isEmpty) =
      (groups.filter (!·.isEmpty)).map displayAll := by
    rw [List.filter_map]
    exact congrArg _ (List.filter_congr fun group _ => hempty group)
  have hne : ∀ group ∈ groups.filter (!·.isEmpty), group ≠ [] :=
    fun group hgroup => by simpa using (List.mem_filter.1 hgroup).2
  rw [hfilter, intercalate_displayAll hne, List.flatten_filter_not_isEmpty]

end TurnScript.Output
