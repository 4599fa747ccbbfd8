import TurnScript.Store.Path

/-!
# Paths and their pieces

A text and its pieces determine each other: the pieces are put together to the text again
(`ofSegments_pieces`), and any texts without dots are the pieces of the text with which they are
written (`pieces_ofSegments`). So what is said about the segments of paths can be said about paths.
-/

namespace TurnScript.Path

/-! ## Pieces of characters -/

section

variable {c : Char} {cs piece : List Char}

theorem piecesOf_cons (c : Char) (cs : List Char) :
    piecesOf (c :: cs) = putInFront c (piecesOf cs) := rfl

/-- A dot ends a piece. -/
theorem piecesOf_dot (cs : List Char) : piecesOf ('.' :: cs) = [] :: piecesOf cs := rfl

/-- Any other character belongs to the first piece. -/
theorem putInFront_of_ne (hc : c ≠ '.') (first : List Char) (rest : List (List Char)) :
    putInFront c (first :: rest) = (c :: first) :: rest := by
  simp [putInFront, hc]

theorem exists_piecesOf_cons (hc : c ≠ '.') (cs : List Char) :
    ∃ first rest, piecesOf cs = first :: rest ∧ piecesOf (c :: cs) = (c :: first) :: rest := by
  obtain ⟨first, rest, h⟩ := List.exists_cons_of_ne_nil (piecesOf_ne_nil cs)
  exact ⟨first, rest, h, by rw [piecesOf_cons, h, putInFront_of_ne hc]⟩

theorem dot_not_mem_of_mem_piecesOf (h : piece ∈ piecesOf cs) : '.' ∉ piece := by
  induction cs generalizing piece with
  | nil =>
    obtain rfl : piece = [] := by simpa [piecesOf] using h
    exact List.not_mem_nil
  | cons c cs ih =>
    by_cases hc : c = '.'
    · subst hc
      rw [piecesOf_dot] at h
      rcases List.mem_cons.1 h with rfl | h
      · exact List.not_mem_nil
      · exact ih h
    · obtain ⟨first, rest, hcs, hpieces⟩ := exists_piecesOf_cons hc cs
      rw [hcs] at ih
      rw [hpieces] at h
      rcases List.mem_cons.1 h with rfl | h
      · exact List.not_mem_cons_of_ne_of_not_mem (Ne.symm hc) (ih List.mem_cons_self)
      · exact ih (List.mem_cons_of_mem _ h)

/-- With dots between them, the pieces are the text. -/
theorem intercalate_piecesOf (cs : List Char) : ['.'].intercalate (piecesOf cs) = cs := by
  induction cs with
  | nil => rfl
  | cons c cs ih =>
    by_cases hc : c = '.'
    · subst hc
      obtain ⟨first, rest, h⟩ := List.exists_cons_of_ne_nil (piecesOf_ne_nil cs)
      rw [h] at ih
      rw [piecesOf_dot, h, List.intercalate_cons_cons, ih]
      rfl
    · obtain ⟨first, rest, hcs, hpieces⟩ := exists_piecesOf_cons hc cs
      rw [hcs] at ih
      rw [hpieces]
      cases rest <;> simpa [List.intercalate] using ih

theorem piecesOf_of_not_mem (h : '.' ∉ piece) : piecesOf piece = [piece] := by
  induction piece with
  | nil => rfl
  | cons c cs ih =>
    rw [List.mem_cons, not_or] at h
    rw [piecesOf_cons, ih h.2, putInFront_of_ne (Ne.symm h.1)]

theorem piecesOf_append_dot (h : '.' ∉ piece) (cs : List Char) :
    piecesOf (piece ++ '.' :: cs) = piece :: piecesOf cs := by
  induction piece with
  | nil => rfl
  | cons c piece ih =>
    rw [List.mem_cons, not_or] at h
    rw [List.cons_append, piecesOf_cons, ih h.2, putInFront_of_ne (Ne.symm h.1)]

/-- Parts without dots are the pieces of what they make with dots between them. -/
theorem piecesOf_intercalate {parts : List (List Char)} (hne : parts ≠ [])
    (h : ∀ part ∈ parts, '.' ∉ part) : piecesOf (['.'].intercalate parts) = parts := by
  induction parts with
  | nil => exact absurd rfl hne
  | cons first rest ih =>
    cases rest with
    | nil => simpa using piecesOf_of_not_mem (h first List.mem_cons_self)
    | cons next rest =>
      rw [List.intercalate_cons_cons, List.append_assoc, List.singleton_append,
        piecesOf_append_dot (h first List.mem_cons_self),
        ih (List.cons_ne_nil _ _) fun part hpart => h part (List.mem_cons_of_mem _ hpart)]

end

/-! ## Pieces of texts -/

variable {path other piece : String} {segments : List String}

theorem pieces_ne_nil (text : String) : pieces text ≠ [] := by
  simp [pieces, piecesOf_ne_nil]

theorem dot_not_mem_of_mem_pieces {text : String} (h : piece ∈ pieces text) :
    '.' ∉ piece.toList := by
  obtain ⟨cs, hcs, rfl⟩ := List.mem_map.1 h
  rw [String.toList_ofList]
  exact dot_not_mem_of_mem_piecesOf hcs

/-- A text is written with its pieces. -/
theorem ofSegments_pieces (text : String) : ofSegments (pieces text) = text := by
  rw [← String.toList_inj, ofSegments, String.toList_intercalate, pieces, List.map_map]
  simpa [Function.comp_def] using intercalate_piecesOf text.toList

/-- Texts without dots are the pieces of the text that is written with them. -/
theorem pieces_ofSegments (hne : segments ≠ []) (h : ∀ segment ∈ segments, '.' ∉ segment.toList) :
    pieces (ofSegments segments) = segments := by
  have hpieces : piecesOf (['.'].intercalate (segments.map String.toList)) =
      segments.map String.toList := by
    refine piecesOf_intercalate (by simpa using hne) fun part hpart => ?_
    obtain ⟨segment, hsegment, rfl⟩ := List.mem_map.1 hpart
    exact h segment hsegment
  have hdot : (".".toList : List Char) = ['.'] := rfl
  rw [pieces, ofSegments, String.toList_intercalate, hdot, hpieces, List.map_map]
  simp [Function.comp_def]

theorem pieces_inj : pieces path = pieces other ↔ path = other :=
  ⟨fun h => by rw [← ofSegments_pieces path, h, ofSegments_pieces], fun h => h ▸ rfl⟩

/-- Some pieces of a text are the pieces of the text that is written with them. -/
theorem pieces_ofSegments_of_subset (hne : segments ≠ []) (h : segments ⊆ pieces path) :
    pieces (ofSegments segments) = segments :=
  pieces_ofSegments hne fun _ hsegment => dot_not_mem_of_mem_pieces (h hsegment)

/-! ## Paths -/

/-- A text is a path if none of its pieces is empty. -/
def IsPath (text : String) : Prop := "" ∉ pieces text

instance (text : String) : Decidable (IsPath text) :=
  inferInstanceAs (Decidable ("" ∉ pieces text))

/-- The path `above` leads to a place on the way of `path`: its segments are the first ones of
    `path`, and not all of them. -/
def Above (above path : String) : Prop := pieces above <+: pieces path ∧ above ≠ path

instance (above path : String) : Decidable (Above above path) :=
  inferInstanceAs (Decidable (_ ∧ _))

/-- The segments of a path are its pieces, and what is no path has none. -/
theorem segments?_eq (path : String) :
    segments? path = if IsPath path then some (pieces path) else none := by
  have hany : (pieces path).any String.isEmpty = true ↔ ¬ IsPath path := by
    simp [IsPath, String.isEmpty_iff]
  by_cases h : IsPath path
  · rw [segments?, if_pos h, if_neg fun hempty => hany.1 hempty h]
  · rw [segments?, if_neg h, if_pos (hany.2 h)]

theorem segments?_eq_some_iff :
    segments? path = some segments ↔ IsPath path ∧ pieces path = segments := by
  rw [segments?_eq]
  split <;> simp [*]

theorem segments?_of_isPath (h : IsPath path) : segments? path = some (pieces path) := by
  rw [segments?_eq, if_pos h]

theorem segments?_of_not_isPath (h : ¬ IsPath path) : segments? path = none := by
  rw [segments?_eq, if_neg h]

/-- A text whose pieces are pieces of a path is a path. -/
theorem IsPath.of_subset (hpath : IsPath path) (h : pieces other ⊆ pieces path) : IsPath other :=
  fun hempty => hpath (h hempty)

/-- The paths above a path are written with its first segments. -/
theorem above_ofSegments {front behind : List String} (hfront : front ≠ []) (hbehind : behind ≠ [])
    (h : pieces path = front ++ behind) : Above (ofSegments front) path := by
  have hpieces : pieces (ofSegments front) = front :=
    pieces_ofSegments_of_subset hfront (h ▸ List.subset_append_left front behind)
  refine ⟨⟨behind, by rw [hpieces, h]⟩, fun heq => ?_⟩
  rw [heq, h] at hpieces
  exact hbehind (List.append_right_eq_self.1 hpieces)

/-- A path above another one is followed by at least one more segment. -/
theorem Above.exists_append (h : Above other path) :
    ∃ behind, behind ≠ [] ∧ pieces path = pieces other ++ behind := by
  obtain ⟨⟨behind, hbehind⟩, hne⟩ := h
  refine ⟨behind, ?_, hbehind.symm⟩
  rintro rfl
  rw [List.append_nil] at hbehind
  exact hne (pieces_inj.1 hbehind)

/-- What is above a path is above every path below it. -/
theorem Above.trans_prefix {above : String} (h : Above above path)
    (hbelow : pieces path <+: pieces other) : Above above other := by
  refine ⟨h.1.trans hbelow, ?_⟩
  rintro rfl
  exact h.2 (pieces_inj.1 (h.1.eq_of_length_le hbelow.length_le))

end TurnScript.Path
