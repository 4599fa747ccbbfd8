import TurnScript.Proofs.Text.Position

/-!
# Lines and columns, counted in bytes

Where a text is read byte by byte, the line is one more than the number of line feeds that were
read, and the column is the number of bytes since the last of them (`lineBehind`, `columnBehind`).
The position of an offset is found along the characters instead. It is the same one
(`lineColumn_eq`), even inside a character, since no byte of another character is a line feed.

* `offsetOf_inverts_position`: the line and column that were counted up to an offset lead back to
  it, or to the byte before it if the line was begun. No line and column leads out of the text;
* `offsetOf_eq`: where any line and column lead to, be they those of an offset or not.
-/

namespace TurnScript.Text

variable {cs : List Char} {c : Char} {offset : Nat}

/-! ## The bytes of a text -/

/-- The bytes of the characters in UTF-8. -/
def utf8 (cs : List Char) : List UInt8 := cs.flatMap String.utf8EncodeChar

/-- The bytes of a text. -/
def bytes (text : String) : List UInt8 := text.toUTF8.data.toList

theorem utf8_toList (text : String) : utf8 text.toList = bytes text := by
  have hbytes : text.toUTF8 = (utf8 text.toList).toByteArray := by
    rw [String.toUTF8_eq_toByteArray, ← String.ofList_toList (s := text),
      String.toByteArray_ofList, String.ofList_toList]
    rfl
  rw [bytes, hbytes, List.toList_data_toByteArray]

theorem utf8_cons (c : Char) (cs : List Char) :
    utf8 (c :: cs) = String.utf8EncodeChar c ++ utf8 cs := rfl

theorem length_utf8 (cs : List Char) : (utf8 cs).length = byteLength cs := by
  induction cs with
  | nil => rfl
  | cons c cs ih => rw [utf8_cons, List.length_append, String.length_utf8EncodeChar, ih, byteLength]

/-- A byte of a character is the code of the character, or 128 at least. -/
theorem toNat_of_mem_utf8EncodeChar {b : UInt8} (h : b ∈ String.utf8EncodeChar c) :
    b.toNat = c.toNat ∨ 128 ≤ b.toNat := by
  have hval : c.val.toNat = c.toNat := rfl
  simp only [String.utf8EncodeChar, hval] at h
  split at h
  · obtain rfl := List.mem_singleton.1 h
    rw [UInt8.toNat_ofNat']
    omega
  · -- every byte of a longer encoding has the highest bit set
    refine .inr ?_
    split at h
    · simp only [List.mem_cons, List.not_mem_nil, or_false] at h
      rcases h with rfl | rfl <;> rw [UInt8.toNat_ofNat'] <;> omega
    · split at h
      · simp only [List.mem_cons, List.not_mem_nil, or_false] at h
        rcases h with rfl | rfl | rfl <;> rw [UInt8.toNat_ofNat'] <;> omega
      · simp only [List.mem_cons, List.not_mem_nil, or_false] at h
        rcases h with rfl | rfl | rfl | rfl <;> rw [UInt8.toNat_ofNat'] <;> omega

/-- The byte of a line feed. -/
def lineFeed : UInt8 := 0x0A

theorem utf8EncodeChar_newLine : String.utf8EncodeChar '\n' = [lineFeed] := rfl

/-- No other character has the byte of a line feed. -/
theorem lineFeed_not_mem (hc : c ≠ '\n') : lineFeed ∉ String.utf8EncodeChar c := by
  intro h
  rcases toNat_of_mem_utf8EncodeChar h with hcode | hhigh
  · exact hc (Char.toNat_inj.1 hcode.symm)
  · exact absurd hhigh (by decide)

/-! ## Counting lines and columns -/

/-- The line that is reached when these bytes are passed. -/
def lineBehind (passed : List UInt8) : Nat := passed.count lineFeed + 1

/-- The number of bytes that are passed since the last line feed, or from the beginning on. -/
def columnBehind (passed : List UInt8) : Nat := (passed.reverse.takeWhile (· ≠ lineFeed)).length

variable {passed more : List UInt8}

theorem lineBehind_lineFeed : lineBehind (passed ++ [lineFeed]) = lineBehind passed + 1 := by
  simp [lineBehind]

theorem columnBehind_lineFeed : columnBehind (passed ++ [lineFeed]) = 0 := by
  simp [columnBehind]

theorem lineBehind_append (h : lineFeed ∉ more) :
    lineBehind (passed ++ more) = lineBehind passed := by
  rw [lineBehind, List.count_append, List.count_eq_zero.2 h, Nat.add_zero, lineBehind]

theorem columnBehind_append (h : lineFeed ∉ more) :
    columnBehind (passed ++ more) = columnBehind passed + more.length := by
  have hmore : ∀ b ∈ more.reverse, decide (b ≠ lineFeed) = true := fun b hb =>
    decide_eq_true fun heq => h (heq ▸ List.mem_reverse.1 hb)
  rw [columnBehind, List.reverse_append, List.takeWhile_append_of_pos hmore, List.length_append,
    List.length_reverse, Nat.add_comm, columnBehind]

/-- From the line and column behind some bytes, those behind more bytes are reached. -/
theorem lineColumnFrom_behind {line column : Nat} (hline : line = lineBehind passed)
    (hcolumn : column = columnBehind passed) (h : offset ≤ byteLength cs) :
    lineColumnFrom line column offset cs =
      (lineBehind (passed ++ (utf8 cs).take offset),
        columnBehind (passed ++ (utf8 cs).take offset)) := by
  fun_induction lineColumnFrom line column offset cs generalizing passed with
  | case1 line column cs => rw [List.take_zero, List.append_nil, hline, hcolumn]
  | case2 => exact absurd h (Nat.not_succ_le_zero _)
  | case3 line column offset cs ih =>
    have hrest : offset ≤ byteLength cs := by
      rw [byteLength, show '\n'.utf8Size = 1 from rfl] at h
      omega
    rw [utf8_cons, utf8EncodeChar_newLine, List.singleton_append, List.take_succ_cons,
      List.append_cons]
    exact ih (by rw [hline, lineBehind_lineFeed]) columnBehind_lineFeed.symm hrest
  | case4 line column offset c cs hc hsize ih =>
    have hrest : offset + 1 - c.utf8Size ≤ byteLength cs := by
      rw [byteLength] at h
      omega
    have hfirst : (String.utf8EncodeChar c).length ≤ offset + 1 := by
      rwa [String.length_utf8EncodeChar]
    rw [utf8_cons, List.take_append, List.take_of_length_le hfirst, String.length_utf8EncodeChar,
      ← List.append_assoc]
    refine ih ?_ ?_ hrest
    · rw [lineBehind_append (lineFeed_not_mem hc), hline]
    · rw [columnBehind_append (lineFeed_not_mem hc), String.length_utf8EncodeChar, hcolumn]
  | case5 line column offset c cs hc hsize =>
    -- the offset lies inside the character, and its first bytes are passed
    have hpassed : (utf8 (c :: cs)).take (offset + 1) =
        (String.utf8EncodeChar c).take (offset + 1) := by
      rw [utf8_cons, List.take_append_of_le_length]
      rw [String.length_utf8EncodeChar]
      omega
    have hfeed : lineFeed ∉ (String.utf8EncodeChar c).take (offset + 1) := fun hmem =>
      lineFeed_not_mem hc (List.mem_of_mem_take hmem)
    have hlength : ((String.utf8EncodeChar c).take (offset + 1)).length = offset + 1 := by
      rw [List.length_take, String.length_utf8EncodeChar]
      omega
    rw [hpassed, lineBehind_append hfeed, columnBehind_append hfeed, hlength, hline, hcolumn]

/-- The position of an offset is counted on the bytes before it. -/
theorem lineColumn_eq (h : offset ≤ byteLength cs) :
    lineColumn offset cs =
      (lineBehind ((utf8 cs).take offset), columnBehind ((utf8 cs).take offset)) :=
  lineColumnFrom_behind (show 1 = lineBehind [] from rfl) rfl h

/-! ## Back to the offset -/

/-- The lines of a text, each with the line feed that ends it. -/
def endedLines : List Char → List (List Char)
  | [] => []
  | c :: cs =>
    if c = '\n' then [c] :: endedLines cs
    else
      match endedLines cs with
      | [] => [[c]]
      | line :: rest => (c :: line) :: rest

theorem bytesInLines_eq (lines : Nat) (cs : List Char) :
    bytesInLines lines cs = byteLength ((endedLines cs).take lines).flatten := by
  induction cs generalizing lines with
  | nil => cases lines <;> rfl
  | cons c cs ih =>
    cases lines with
    | zero => rfl
    | succ lines =>
      by_cases hc : c = '\n'
      · subst hc
        rw [bytesInLines_succ_newLine, ih, Nat.add_comm]
        rfl
      · rw [bytesInLines_succ_cons hc, endedLines, if_neg hc, ih, Nat.add_comm]
        cases endedLines cs with
        | nil => simp [byteLength]
        | cons line rest => rfl

/-- A line and column lead behind the lines before and the bytes of the column but the last one, or
    to the end of the text if it is shorter. -/
theorem offsetOf_eq (line column : Nat) (text : String) :
    offsetOf line column text.toList =
      min (byteLength ((endedLines text.toList).take (line - 1)).flatten + (column - 1))
        (bytes text).length := by
  rw [offsetOf, bytesInLines_eq, ← utf8_toList, length_utf8]

/-- The line and column that were counted up to a byte position lead back to it if the column is
    zero, and otherwise to the byte before it. Whatever the line and column, they do not lead out of
    the text. -/
theorem offsetOf_inverts_position (text : String) :
    (∀ p ≤ (bytes text).length,
      let line := lineBehind ((bytes text).take p)
      let column := columnBehind ((bytes text).take p)
      offsetOf line column text.toList = if column = 0 then p else p - 1) ∧
    ∀ line column, offsetOf line column text.toList ≤ (bytes text).length := by
  rw [← utf8_toList, length_utf8]
  exact ⟨fun p hp => offsetOf_lineColumn hp (lineColumn_eq hp), fun line column =>
    offsetOf_le line column _⟩

/-- The byte inside the accented letter is led back to its beginning, the line behind the line feed
    to itself, and the end of the text to its last byte. -/
theorem offsetOf_inverts_position_accented :
    (bytes "é\nab").length = 5 ∧ offsetOf 1 1 "é\nab".toList = 0 ∧
      offsetOf 2 0 "é\nab".toList = 3 ∧ offsetOf 2 2 "é\nab".toList = 4 ∧
      offsetOf 2 9 "é\nab".toList ≤ 5 := by
  have hbytes : bytes "é\nab" = [0xC3, 0xA9, 0x0A, 0x61, 0x62] := by decide
  obtain ⟨hinverts, hwithin⟩ := offsetOf_inverts_position "é\nab"
  rw [hbytes] at hinverts hwithin ⊢
  exact ⟨rfl, hinverts 1 (by decide), hinverts 3 (by decide), hinverts 5 (by decide), hwithin 2 9⟩

end TurnScript.Text
