import TurnScript.Json.Writer
import TurnScript.Proofs.Json.Conversion

/-!
# The two layouts of JSON

The writers of JSON in one line and over several lines differ only in the blanks that they put
between the parts of a value (`Layout`). So there is one writer of characters, `Layout.write`, that
takes the layout, and both are cases of it (`toList_compact`, `toList_prettyAt`).
-/

namespace TurnScript.Json

/-- A character that may stand between the parts of a JSON text. -/
def Blank (c : Char) : Prop := c = ' ' ∨ c = '\n' ∨ c = '\t' ∨ c = '\r'

instance : DecidablePred Blank := fun c =>
  inferInstanceAs (Decidable (c = ' ' ∨ c = '\n' ∨ c = '\t' ∨ c = '\r'))

/-- Which blanks stand between the parts of a value. -/
structure Layout where
  /-- What stands in front of a part between brackets, and of the bracket behind them, on the given
      level. -/
  newLine : Nat → List Char
  /-- What stands between the colon and the value of an entry. -/
  gap : List Char
  blank_newLine : ∀ level, ∀ c ∈ newLine level, Blank c
  blank_gap : ∀ c ∈ gap, Blank c

namespace Layout

/-- No blanks at all. -/
def compact : Layout where
  newLine _ := []
  gap := []
  blank_newLine _ _ hc := absurd hc List.not_mem_nil
  blank_gap _ hc := absurd hc List.not_mem_nil

/-- A line for every part, indented by two spaces for each level. -/
def pretty : Layout where
  newLine level := '\n' :: List.replicate (2 * level) ' '
  gap := [' ']
  blank_newLine level c hc := by
    rcases List.mem_cons.1 hc with rfl | hc
    · exact .inr (.inl rfl)
    · exact .inl (List.eq_of_mem_replicate hc)
  blank_gap c hc := .inl (List.mem_singleton.1 hc)

variable (layout : Layout) (level : Nat)

/-- Parts with a comma and a new line between them. -/
def separate (parts : List (List Char)) : List Char :=
  (',' :: layout.newLine level).intercalate parts

/-- Parts between brackets; nothing between the brackets if there are none. -/
def enclose (opening closing : Char) (parts : List (List Char)) : List Char :=
  if parts.isEmpty then [opening, closing]
  else
    opening :: (layout.newLine (level + 1) ++ layout.separate (level + 1) parts ++
      layout.newLine level ++ [closing])

mutual

/-- A value in a layout, on the given level. -/
def write (level : Nat) : Json → List Char
  | .null => ['n', 'u', 'l', 'l']
  | .bool b => if b then ['t', 'r', 'u', 'e'] else ['f', 'a', 'l', 's', 'e']
  | .number n => n.text.toList
  | .string s => (stringLiteral s).toList
  | .array items => layout.enclose level '[' ']' (writeItems (level + 1) items)
  | .object entries => layout.enclose level '\x7b' '\x7d' (writeEntries (level + 1) entries)

/-- The items of an array. -/
def writeItems (level : Nat) : List Json → List (List Char)
  | [] => []
  | j :: rest => write level j :: writeItems level rest

/-- The entries of an object. -/
def writeEntries (level : Nat) : List (String × Json) → List (List Char)
  | [] => []
  | (k, j) :: rest =>
    ((stringLiteral k).toList ++ ':' :: layout.gap ++ write level j) :: writeEntries level rest

end

theorem separate_singleton (part : List Char) : layout.separate level [part] = part :=
  List.intercalate_singleton

theorem separate_cons_cons (part next : List Char) (parts : List (List Char)) (rest : List Char) :
    layout.separate level (part :: next :: parts) ++ rest =
      part ++ ',' :: (layout.newLine level ++ (layout.separate level (next :: parts) ++ rest)) := by
  simp [separate, List.intercalate_cons_cons]

theorem enclose_nil (opening closing : Char) :
    layout.enclose level opening closing [] = [opening, closing] := rfl

/-- Behind the opening bracket stand the parts, if there are any, and the closing bracket. -/
theorem enclose_append {parts : List (List Char)} (hne : parts ≠ []) (opening closing : Char)
    (rest : List Char) :
    layout.enclose level opening closing parts ++ rest =
      opening :: (layout.newLine (level + 1) ++ (layout.separate (level + 1) parts ++
        (layout.newLine level ++ closing :: rest))) := by
  simp [enclose, hne]

/-- An entry of an object. -/
def writeEntry (entry : String × Json) : List Char :=
  (stringLiteral entry.1).toList ++ ':' :: layout.gap ++ layout.write level entry.2

/-- Behind the quoted key stand a colon and the value. -/
theorem writeEntry_append (key : String) (j : Json) (rest : List Char) :
    layout.writeEntry level (key, j) ++ rest =
      '"' :: (key.toList.flatMap escapeChar ++
        '"' :: ':' :: (layout.gap ++ (layout.write level j ++ rest))) := by
  simp [writeEntry, stringLiteral]

theorem writeItems_eq_map (items : List Json) :
    layout.writeItems level items = items.map (layout.write level) := by
  induction items with
  | nil => rfl
  | cons item rest ih => rw [writeItems, ih, List.map_cons]

theorem writeEntries_eq_map (entries : List (String × Json)) :
    layout.writeEntries level entries = entries.map (layout.writeEntry level) := by
  induction entries with
  | nil => rfl
  | cons entry rest ih =>
    rw [writeEntries, ih, List.map_cons]
    rfl

end Layout

/-! ## In one line -/

theorem compactItems_eq_map (items : List Json) : compactItems items = items.map compact := by
  induction items with
  | nil => rfl
  | cons item rest ih => rw [compactItems, ih, List.map_cons]

theorem compactEntries_eq_map (entries : List (String × Json)) :
    compactEntries entries =
      entries.map fun entry => stringLiteral entry.1 ++ ":" ++ entry.2.compact := by
  induction entries with
  | nil => rfl
  | cons entry rest ih => rw [compactEntries, ih, List.map_cons]

/-- Without blanks, brackets need not be kept together. -/
theorem Layout.enclose_compact (level : Nat) (opening closing : Char) (parts : List (List Char)) :
    Layout.compact.enclose level opening closing parts =
      opening :: ([','].intercalate parts ++ [closing]) := by
  rw [enclose]
  split
  · next h =>
    rw [List.isEmpty_iff.1 h]
    rfl
  · simp [Layout.compact, separate]

/-- A value in one line is written without blanks. -/
theorem toList_compact (level : Nat) (j : Json) :
    j.compact.toList = Layout.compact.write level j := by
  induction j generalizing level with
  | null | number n | string s => rfl
  | bool b => cases b <;> rfl
  | array items ih =>
    have hitems : (items.map compact).map String.toList =
        items.map (Layout.compact.write (level + 1)) := by
      rw [List.map_map]
      exact List.map_congr_left fun item hitem => ih item hitem (level + 1)
    rw [Layout.write, Layout.writeItems_eq_map, Layout.enclose_compact, ← hitems, compact,
      compactItems_eq_map]
    simp [String.toList_intercalate]
  | object entries ih =>
    have hentries : (entries.map fun entry =>
          stringLiteral entry.1 ++ ":" ++ entry.2.compact).map String.toList =
        entries.map (Layout.compact.writeEntry (level + 1)) := by
      rw [List.map_map]
      refine List.map_congr_left fun entry hentry => ?_
      simp [Layout.writeEntry, Layout.compact, ih entry hentry (level + 1)]
    rw [Layout.write, Layout.writeEntries_eq_map, Layout.enclose_compact, ← hentries, compact,
      compactEntries_eq_map]
    simp [String.toList_intercalate]

/-! ## Over several lines -/

theorem prettyItems_eq_map (level : Nat) (items : List Json) :
    prettyItems level items = items.map (prettyAt level) := by
  induction items with
  | nil => rfl
  | cons item rest ih => rw [prettyItems, ih, List.map_cons]

theorem prettyEntries_eq_map (level : Nat) (entries : List (String × Json)) :
    prettyEntries level entries =
      entries.map fun entry => stringLiteral entry.1 ++ ": " ++ prettyAt level entry.2 := by
  induction entries with
  | nil => rfl
  | cons entry rest ih => rw [prettyEntries, ih, List.map_cons]

/-- Lines between brackets are parts between brackets. -/
theorem toList_block (level : Nat) (opening closing : Char) (lines : List String) :
    (block level (String.singleton opening) (String.singleton closing) lines).toList =
      Layout.pretty.enclose level opening closing (lines.map String.toList) := by
  have hnewLine : ∀ level, (newLine level).toList = Layout.pretty.newLine level := by
    simp [newLine, Layout.pretty]
  rw [block, Layout.enclose, List.isEmpty_map]
  split
  · simp
  · simp [String.toList_intercalate, hnewLine, Layout.separate]

/-- A value over several lines is written with a line for every part. -/
theorem toList_prettyAt (level : Nat) (j : Json) :
    (prettyAt level j).toList = Layout.pretty.write level j := by
  induction j generalizing level with
  | null | number n | string s => simp [prettyAt, Layout.write]
  | bool b => cases b <;> simp [prettyAt, Layout.write]
  | array items ih =>
    have hitems : (items.map (prettyAt (level + 1))).map String.toList =
        items.map (Layout.pretty.write (level + 1)) := by
      rw [List.map_map]
      exact List.map_congr_left fun item hitem => ih item hitem (level + 1)
    rw [Layout.write, Layout.writeItems_eq_map, ← hitems, ← toList_block, prettyAt,
      prettyItems_eq_map]
    rfl
  | object entries ih =>
    have hentries : (entries.map fun entry =>
          stringLiteral entry.1 ++ ": " ++ prettyAt (level + 1) entry.2).map String.toList =
        entries.map (Layout.pretty.writeEntry (level + 1)) := by
      rw [List.map_map]
      refine List.map_congr_left fun entry hentry => ?_
      simp [Layout.writeEntry, Layout.pretty, ih entry hentry (level + 1)]
    rw [Layout.write, Layout.writeEntries_eq_map, ← hentries, ← toList_block, prettyAt,
      prettyEntries_eq_map]
    rfl

end TurnScript.Json
