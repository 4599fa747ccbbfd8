import TurnScript.Text.Position

/-!
# Byte positions and characters

An offset is a character boundary if some characters in front fill exactly its bytes
(`IsBoundary`); every other offset in a text lies inside a character (`isBoundary_or_inside`). The
line and column of an offset lead back to it, or to the byte before it (`offsetOf_lineColumn`): a
column counts bytes, so this need not be a boundary even if the offset is one.
-/

namespace TurnScript.Text

variable {before after cs : List Char} {c : Char} {offset line column n : Nat}

/-! ## Boundaries -/

/-- Whole characters of the text end at the offset. -/
def IsBoundary (offset : Nat) (cs : List Char) : Prop :=
  ∃ before after, cs = before ++ after ∧ byteLength before = offset

theorem isBoundary_byteLength (before after : List Char) :
    IsBoundary (byteLength before) (before ++ after) :=
  ⟨before, after, rfl, rfl⟩

theorem isBoundary_zero (cs : List Char) : IsBoundary 0 cs := ⟨[], cs, rfl, rfl⟩

/-- A boundary of a text is one behind another text in front, too. -/
theorem IsBoundary.append (h : IsBoundary offset cs) (before : List Char) :
    IsBoundary (byteLength before + offset) (before ++ cs) := by
  obtain ⟨front, after, rfl, rfl⟩ := h
  rw [← byteLength_append, ← List.append_assoc]
  exact isBoundary_byteLength _ _

theorem byteLength_concat (before : List Char) (c : Char) :
    byteLength (before ++ [c]) = byteLength before + c.utf8Size := by
  rw [byteLength_append, byteLength, byteLength, Nat.add_zero]

/-- Every character takes a byte at least. -/
theorem length_le_byteLength (cs : List Char) : cs.length ≤ byteLength cs := by
  induction cs with
  | nil => exact Nat.le_refl 0
  | cons c cs ih =>
    rw [List.length_cons, byteLength, Nat.add_comm]
    exact Nat.add_le_add c.utf8Size_pos ih

/-- An offset that is no boundary lies inside a character. -/
theorem isBoundary_or_inside (h : offset ≤ byteLength cs) :
    IsBoundary offset cs ∨ ∃ before c after, cs = before ++ c :: after ∧
      byteLength before < offset ∧ offset < byteLength before + c.utf8Size := by
  induction cs generalizing offset with
  | nil => exact .inl ((Nat.le_zero.1 h) ▸ isBoundary_zero [])
  | cons c cs ih =>
    rw [byteLength] at h
    rcases Nat.eq_zero_or_pos offset with rfl | hpos
    · exact .inl (isBoundary_zero _)
    · by_cases hlt : offset < c.utf8Size
      · exact .inr ⟨[], c, cs, rfl, hpos, by simpa [byteLength] using hlt⟩
      · obtain ⟨rest, rfl⟩ := Nat.exists_eq_add_of_le (Nat.not_lt.1 hlt)
        rcases ih (Nat.le_of_add_le_add_left h) with hrest | ⟨before, d, after, rfl, hbefore, hd⟩
        · exact .inl (by simpa [byteLength] using hrest.append [c])
        · refine .inr ⟨c :: before, d, after, rfl, ?_, ?_⟩ <;>
            rw [byteLength] <;> omega

/-- No boundary lies inside a character. -/
theorem not_isBoundary_inside (hbefore : byteLength before < offset)
    (hafter : offset < byteLength before + c.utf8Size) :
    ¬ IsBoundary offset (before ++ c :: after) := by
  rintro ⟨front, back, heq, rfl⟩
  rcases List.append_eq_append_iff.1 heq with ⟨more, rfl, hmore⟩ | ⟨more, rfl, -⟩
  · -- the characters in front would hold the one around the offset
    cases more with
    | nil =>
      rw [List.append_nil] at hbefore
      exact Nat.lt_irrefl _ hbefore
    | cons d more =>
      obtain ⟨rfl, -⟩ := List.cons.inj hmore
      rw [byteLength_append, byteLength] at hafter
      omega
  · rw [byteLength_append] at hbefore
    omega

/-- An offset is only counted in characters at a boundary. -/
theorem isBoundary_of_charsBefore? (h : charsBefore? offset cs = some n) :
    IsBoundary offset cs := by
  fun_induction charsBefore? offset cs generalizing n with
  | case1 cs => exact isBoundary_zero cs
  | case2 => cases h
  | case3 offset c cs hle ih =>
    obtain ⟨m, hm, -⟩ := Option.map_eq_some_iff.1 h
    have hrest := (ih hm).append [c]
    rwa [byteLength, byteLength, Nat.add_zero, Nat.add_sub_cancel' hle] at hrest
  | case4 => cases h

/-! ## Lines and columns -/

/-- A line feed takes one byte. -/
theorem bytesInLines_succ_newLine (lines : Nat) (cs : List Char) :
    bytesInLines (lines + 1) ('\n' :: cs) = bytesInLines lines cs + 1 := by
  rw [bytesInLines, if_pos rfl, Nat.add_comm]
  rfl

theorem bytesInLines_succ_cons (hc : c ≠ '\n') (lines : Nat) (cs : List Char) :
    bytesInLines (lines + 1) (c :: cs) = bytesInLines (lines + 1) cs + c.utf8Size := by
  rw [bytesInLines, if_neg hc, Nat.add_comm]

/-- The bytes of the lines before, with those of the column, are the ones that were passed. -/
theorem bytesInLines_lineColumnFrom {position : Nat × Nat} (h : offset ≤ byteLength cs)
    (hposition : lineColumnFrom line column offset cs = position) :
    line ≤ position.1 ∧ bytesInLines (position.1 - line) cs + position.2 =
      offset + if position.1 = line then column else 0 := by
  fun_induction lineColumnFrom line column offset cs with
  | case1 line column cs =>
    subst hposition
    simp [bytesInLines]
  | case2 => exact absurd h (Nat.not_succ_le_zero _)
  | case3 line column offset cs ih =>
    -- the next line begins behind the line feed
    have hrest : offset ≤ byteLength cs := by
      rw [byteLength, show '\n'.utf8Size = 1 from rfl] at h
      omega
    obtain ⟨hle, heq⟩ := ih hrest hposition
    obtain ⟨lines, hlines⟩ : ∃ lines, position.1 - line = lines + 1 :=
      Nat.exists_eq_succ_of_ne_zero (by omega)
    have hfewer : position.1 - (line + 1) = lines := by omega
    rw [hfewer, ite_self] at heq
    rw [hlines, bytesInLines_succ_newLine, if_neg (by omega)]
    exact ⟨by omega, by omega⟩
  | case4 line column offset c cs hc hsize ih =>
    have hrest : offset + 1 - c.utf8Size ≤ byteLength cs := by
      rw [byteLength] at h
      omega
    obtain ⟨hle, heq⟩ := ih hrest hposition
    refine ⟨hle, ?_⟩
    cases hlines : position.1 - line with
    | zero =>
      have hsame : position.1 = line := by omega
      rw [hlines, bytesInLines, if_pos hsame] at heq
      rw [bytesInLines, if_pos hsame]
      omega
    | succ lines =>
      have hlater : position.1 ≠ line := by omega
      rw [hlines, if_neg hlater] at heq
      rw [bytesInLines_succ_cons hc, if_neg hlater]
      omega
  | case5 line column offset c cs hc hsize =>
    subst hposition
    simp [bytesInLines]
    omega

/-- A line and column lead back to their offset if the column is zero, and otherwise to the byte
    before it. -/
theorem offsetOf_lineColumn {position : Nat × Nat} (h : offset ≤ byteLength cs)
    (hposition : lineColumn offset cs = position) :
    offsetOf position.1 position.2 cs = if position.2 = 0 then offset else offset - 1 := by
  obtain ⟨-, heq⟩ := bytesInLines_lineColumnFrom h hposition
  rw [ite_self, Nat.add_zero] at heq
  rw [offsetOf]
  split <;> omega

/-- The column is zero at the beginning and behind a line feed. -/
theorem eq_newLine_of_lineColumnFrom {line' : Nat} (h : offset ≤ byteLength cs)
    (hposition : lineColumnFrom line column offset cs = (line', 0)) :
    (offset = 0 ∧ column = 0) ∨
      ∃ before after, cs = before ++ '\n' :: after ∧ byteLength before + 1 = offset := by
  fun_induction lineColumnFrom line column offset cs with
  | case1 => exact .inl ⟨rfl, (Prod.mk.inj hposition).2⟩
  | case2 => exact absurd h (Nat.not_succ_le_zero _)
  | case3 line column offset cs ih =>
    have hrest : offset ≤ byteLength cs := by
      rw [byteLength, show '\n'.utf8Size = 1 from rfl] at h
      omega
    rcases ih hrest hposition with ⟨rfl, -⟩ | ⟨before, after, rfl, rfl⟩
    · exact .inr ⟨[], cs, rfl, rfl⟩
    · exact .inr ⟨'\n' :: before, after, rfl, congrArg (· + 1) (Nat.add_comm _ _)⟩
  | case4 line column offset c cs hc hsize ih =>
    have hrest : offset + 1 - c.utf8Size ≤ byteLength cs := by
      rw [byteLength] at h
      omega
    rcases ih hrest hposition with ⟨-, hzero⟩ | ⟨before, after, rfl, hbefore⟩
    · exact absurd hzero (Nat.ne_of_gt (Nat.add_pos_right _ c.utf8Size_pos))
    · refine .inr ⟨c :: before, after, rfl, ?_⟩
      rw [byteLength]
      omega
  | case5 => cases hposition

/-- Where a line and column lead back to is a boundary if the byte before their offset begins at
    one. -/
theorem isBoundary_offsetOf_iff {position : Nat × Nat} (h : offset ≤ byteLength cs)
    (hposition : lineColumn offset cs = position) :
    IsBoundary (offsetOf position.1 position.2 cs) cs ↔ IsBoundary (offset - 1) cs := by
  obtain ⟨line', column'⟩ := position
  rw [offsetOf_lineColumn h hposition]
  by_cases hcolumn : column' = 0
  · -- both ends of a line feed are boundaries
    subst hcolumn
    rw [if_pos rfl]
    rcases eq_newLine_of_lineColumnFrom h hposition with ⟨rfl, -⟩ | ⟨before, after, rfl, rfl⟩
    · rfl
    · have hend := isBoundary_byteLength (before ++ ['\n']) after
      rw [byteLength_append, List.append_assoc] at hend
      exact iff_of_true hend (isBoundary_byteLength before ('\n' :: after))
  · rw [if_neg hcolumn]

end TurnScript.Text
