import TurnScript.ParseError

/-!
# Errors that point into a text

An error points between the characters before its offset and those behind (`ParseError.PointsInto`)
if what was found at fault stands there and the context shows the surroundings. These are the window
that begins twenty characters before the place and is a hundred characters long, or reaches to the
end of the text (`ParseError.Surroundings`). Every error that is reported at the byte length of a
front part of a text, with what stands behind it, points behind that part (`pointsInto_inSource`).
-/

namespace TurnScript

open Text

/-- The byte length of a front part of a text, counted in characters again. -/
theorem Text.charsBefore?_byteLength (before after : List Char) :
    charsBefore? (byteLength before) (before ++ after) = some before.length := by
  induction before with
  | nil =>
    rw [byteLength, charsBefore?]
    rfl
  | cons c before ih =>
    -- a character takes a byte at least
    obtain ⟨n, hn⟩ : ∃ n, byteLength (c :: before) = n + 1 :=
      Nat.exists_eq_succ_of_ne_zero (Nat.ne_of_gt (Nat.add_pos_left c.utf8Size_pos _))
    have hle : c.utf8Size ≤ n + 1 := hn ▸ Nat.le_add_right _ _
    have hrest : n + 1 - c.utf8Size = byteLength before := by
      rw [← hn, byteLength, Nat.add_sub_cancel_left]
    rw [hn, List.cons_append, charsBefore?, if_pos hle, hrest, ih]
    rfl

namespace ParseError

variable {before after left window right : List Char}

/-- The text is cut into a window around the place between `before` and `after`, and what is left
    and right of it. -/
structure Surroundings (before after left window right : List Char) : Prop where
  text_eq : before ++ after = left ++ window ++ right
  length_left : left.length = before.length - 20
  length_window_le : window.length ≤ 100
  length_window_eq : right ≠ [] → window.length = 100
  /-- The character at the place is in the window. -/
  head?_mem_window : ∀ c ∈ after.head?, window[before.length - left.length]? = some c

/-- The mark for a part of the text, if there is something in it. -/
def mark (omitted : List Char) : List Char := if omitted = [] then [] else "[...]".toList

/-- A window in one line, with its line feeds written as escapes and without its carriage
    returns. -/
def inLine (window : List Char) : List Char :=
  window.flatMap fun c => if c = '\n' then ['\\', 'n'] else if c = '\r' then [] else [c]

/-- The error points between `before` and `after`, and shows the surroundings of this place. -/
structure PointsInto (source : String) (before after : List Char) (e : ParseError) : Prop where
  source_eq : source.toList = before ++ after
  offset_eq : e.offset = byteLength before
  offset_le : e.offset ≤ source.utf8ByteSize
  found_isPrefix : ∀ found, e.found = some found → found.toList <+: after
  context_eq : ∃ left window right, Surroundings before after left window right ∧
    e.context = some (String.ofList (mark left ++ inLine window ++ mark right))
  context_line : ∀ context, e.context = some context →
    '\n' ∉ context.toList ∧ '\r' ∉ context.toList

/-! ## Contexts -/

/-- Every text is cut into the surroundings of a place. -/
theorem exists_surroundings (before after : List Char) :
    ∃ left window right, Surroundings before after left window right := by
  have hstart : before.length - 20 ≤ before.length := Nat.sub_le _ _
  have hleft : ((before ++ after).take (before.length - 20)).length = before.length - 20 := by
    rw [List.length_take, List.length_append]
    omega
  refine ⟨(before ++ after).take (before.length - 20),
    ((before ++ after).drop (before.length - 20)).take 100,
    ((before ++ after).drop (before.length - 20)).drop 100, ?_, hleft, List.length_take_le _ _,
    fun hright => ?_, fun c hc => ?_⟩
  · rw [List.append_assoc, List.take_append_drop, List.take_append_drop]
  · have hlonger := List.length_pos_iff.2 hright
    rw [List.length_drop] at hlonger
    rw [List.length_take]
    omega
  · obtain ⟨rest, rfl⟩ := List.head?_eq_some_iff.1 hc
    rw [hleft, List.getElem?_take_of_lt (by omega), List.getElem?_drop, Nat.add_sub_cancel' hstart,
      List.getElem?_append_right (Nat.le_refl _), Nat.sub_self, List.getElem?_cons_zero]

theorem visible_eq (c : Char) :
    visible c = if c = '\n' then ['\\', 'n'] else if c = '\r' then [] else [c] := by
  unfold visible
  split
  · rfl
  · rfl
  · next hnewline hreturn => rw [if_neg hnewline, if_neg hreturn]

theorem ite_ellipsis_eq_mark {p : Prop} [Decidable p] {omitted : List Char}
    (hp : p ↔ omitted ≠ []) : (if p then ellipsis else []) = mark omitted := by
  by_cases homitted : omitted = []
  · rw [mark, if_pos homitted, if_neg fun h => hp.1 h homitted]
  · rw [mark, if_neg homitted, if_pos (hp.2 homitted)]
    rfl

/-- The context of a place is the window around it. -/
theorem contextAt_eq (h : Surroundings before after left window right) :
    contextAt before.length (before ++ after) = mark left ++ inLine window ++ mark right := by
  have hdrop : (before ++ after).drop (before.length - 20) = window ++ right := by
    rw [h.text_eq, List.append_assoc, List.drop_left' h.length_left]
  have hwindow : (window ++ right).take 100 = window := by
    by_cases hright : right = []
    · rw [hright, List.append_nil, List.take_of_length_le h.length_window_le]
    · exact List.take_left' (h.length_window_eq hright)
  have hfront : 0 < before.length - 20 ↔ left ≠ [] := by rw [← h.length_left, List.length_pos_iff]
  have hback : before.length - 20 + window.length < (before ++ after).length ↔ right ≠ [] := by
    rw [h.text_eq, List.length_append, List.length_append, h.length_left,
      Nat.lt_add_right_iff_pos, List.length_pos_iff]
  have hline : window.flatMap visible = inLine window :=
    congrArg window.flatMap (funext visible_eq)
  have hcontext : contextAt before.length (before ++ after) =
      (if 0 < before.length - 20 then ellipsis else []) ++
        (((before ++ after).drop (before.length - 20)).take 100).flatMap visible ++
        (if before.length - 20 + (((before ++ after).drop (before.length - 20)).take 100).length <
          (before ++ after).length then ellipsis else []) := rfl
  rw [hcontext, hdrop, hwindow, ite_ellipsis_eq_mark hfront, ite_ellipsis_eq_mark hback, hline]

/-- No character that ends a line is left in a context. -/
theorem not_mem_context {c : Char} (hc : c = '\n' ∨ c = '\r') :
    c ∉ mark left ++ inLine window ++ mark right := by
  have hmark (omitted : List Char) : c ∉ mark omitted := by
    rw [mark]
    rcases hc with rfl | rfl <;> split <;> decide
  have hline : c ∉ inLine window := by
    rw [inLine, List.mem_flatMap]
    rintro ⟨d, -, hd⟩
    split at hd
    · rcases hc with rfl | rfl <;> exact absurd hd (by decide)
    · next hnewline =>
      split at hd
      · exact List.not_mem_nil hd
      · next hreturn =>
        obtain rfl := List.mem_singleton.1 hd
        exact hc.elim hnewline hreturn
  simp only [List.mem_append, not_or]
  exact ⟨⟨hmark left, hline⟩, hmark right⟩

/-- An error that is reported behind `before`, with what stands there, points there. -/
theorem pointsInto_inSource {source : String} (hsource : source.toList = before ++ after)
    (kind : Kind) (message : String) {found : Option String}
    (hfound : ∀ piece, found = some piece → piece.toList <+: after) :
    PointsInto source before after (inSource kind message source (byteLength before) found) := by
  obtain ⟨left, window, right, h⟩ := exists_surroundings before after
  have hcontext : (inSource kind message source (byteLength before) found).context =
      some (String.ofList (mark left ++ inLine window ++ mark right)) := by
    simp only [inSource, hsource, charsBefore?_byteLength, Option.getD_some, contextAt_eq h]
  refine ⟨hsource, rfl, ?_, hfound, ⟨left, window, right, h, hcontext⟩, fun context hshown => ?_⟩
  · rw [← byteLength_toList, hsource, byteLength_append]
    exact Nat.le_add_right _ _
  · obtain rfl := Option.some.inj (hcontext.symm.trans hshown)
    rw [String.toList_ofList]
    exact ⟨not_mem_context (.inl rfl), not_mem_context (.inr rfl)⟩

end ParseError

end TurnScript
