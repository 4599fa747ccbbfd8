import TurnScript.Json.Reader
import TurnScript.Proofs.Json.Layout
import TurnScript.Proofs.Json.Scalar

/-!
# Reading JSON that was written

What a value is written as is read as that value, in every layout, if its lists and maps nest on no
more levels than brackets can be opened on; otherwise it is refused (`readsBack_of_ordered`). Both
are shown at once along the value (`ReadsIff`): for a list item by item, and for a map entry by
entry, with any text behind that does not continue a number.
-/

namespace TurnScript

/-! ## Nesting -/

namespace Value

mutual

/-- On how many levels the lists and maps of a value nest. -/
def nesting : Value → Nat
  | .absent | .bool _ | .number _ | .text _ => 0
  | .list items => nestingIn items + 1
  | .map entries => nestingInEntries entries + 1

/-- The deepest nesting among several values. -/
def nestingIn : List Value → Nat
  | [] => 0
  | v :: vs => max (nesting v) (nestingIn vs)

/-- The deepest nesting among the values of several entries. -/
def nestingInEntries : List (String × Value) → Nat
  | [] => 0
  | (_, v) :: rest => max (nesting v) (nestingInEntries rest)

end

variable {n : Nat}

/-- A list takes one level. -/
theorem nesting_list_le_iff {items : List Value} :
    (list items).nesting ≤ n ↔ 0 < n ∧ ∀ item ∈ items, item.nesting ≤ n - 1 := by
  rw [nesting]
  induction items with
  | nil => simp [nestingIn, Nat.succ_le_iff]
  | cons item rest ih =>
    rw [List.forall_mem_cons, and_left_comm, ← ih, nestingIn]
    omega

/-- A map takes one level. -/
theorem nesting_map_le_iff {entries : List (String × Value)} :
    (map entries).nesting ≤ n ↔ 0 < n ∧ ∀ entry ∈ entries, entry.2.nesting ≤ n - 1 := by
  rw [nesting]
  induction entries with
  | nil => simp [nestingInEntries, Nat.succ_le_iff]
  | cons entry rest ih =>
    rw [List.forall_mem_cons, and_left_comm, ← ih, nestingInEntries]
    omega

/-- An empty list or map takes a level but holds nothing on it. -/
theorem height_le_nesting (v : Value) : v.height ≤ v.nesting := by
  induction v with
  | absent | bool | number | text => exact Nat.zero_le _
  | list items ih =>
    obtain ⟨hpos, hitems⟩ := nesting_list_le_iff.1 (Nat.le_refl (list items).nesting)
    have hlt : 0 + (list items).height < (list items).nesting + 1 :=
      add_height_list_lt_iff.2 ⟨Nat.succ_pos _, fun item hitem => by
        have hle := Nat.le_trans (ih item hitem) (hitems item hitem)
        omega⟩
    omega
  | map entries ih =>
    obtain ⟨hpos, hentries⟩ := nesting_map_le_iff.1 (Nat.le_refl (map entries).nesting)
    have hlt : 0 + (map entries).height < (map entries).nesting + 1 :=
      add_height_map_lt_iff.2 ⟨Nat.succ_pos _, fun entry hentry => by
        have hle := Nat.le_trans (ih entry hentry) (hentries entry hentry)
        omega⟩
    omega

end Value

namespace Json.Reader

variable {α β : Type} {p q : List Char → Prop} {P Q : Prop} {cs left rest blanks : List Char}
  {a : α} {b : β} {c closing : Char} {levels level : Nat}

/-! ## Blanks and separators -/

theorem skipBlanks_append (h : ∀ c ∈ blanks, Blank c) (cs : List Char) :
    skipBlanks (blanks ++ cs) = skipBlanks cs :=
  List.dropWhile_append_of_pos fun c hc => by simpa [Blank, or_assoc] using h c hc

theorem skipBlanks_cons (h : ¬ Blank c) (cs : List Char) : skipBlanks (c :: cs) = c :: cs :=
  List.dropWhile_cons_of_neg (by simpa [Blank, or_assoc] using h)

/-- What stands behind blanks is found. -/
theorem skipBlanks_append_cons (hblanks : ∀ c ∈ blanks, Blank c) (hc : ¬ Blank c)
    (cs : List Char) : skipBlanks (blanks ++ c :: cs) = c :: cs := by
  rw [skipBlanks_append hblanks, skipBlanks_cons hc]

theorem ends_append (hblanks : ∀ c ∈ blanks, Blank c) (h : Ends rest) : Ends (blanks ++ rest) := by
  cases blanks with
  | nil => exact h
  | cons c more =>
    rcases hblanks c List.mem_cons_self with rfl | rfl | rfl | rfl <;> exact Ends.cons (by decide)

theorem next?_eq (h : skipBlanks cs = c :: rest) :
    next? cs = some (c, ⟨rest, length_lt_of_skipBlanks h⟩) := by
  unfold next?
  split
  · next hnil => rw [hnil] at h; cases h
  · next hcons => rw [hcons] at h; cases h; rfl

/-- Behind the last part stands the closing bracket. -/
theorem reads_separator_closing (h : skipBlanks cs = closing :: rest) (atEnd missing : Cause) :
    Reads (separator closing atEnd missing cs) false rest := by
  rw [separator, next?_eq h]
  exact ⟨_, if_pos rfl⟩

/-- Behind every other part stands a comma, and then the next one. -/
theorem reads_separator_comma (hclosing : ',' ≠ closing) (hblanks : ∀ c ∈ blanks, Blank c)
    (hblank : ¬ Blank c) (hc : c ≠ closing) (atEnd missing : Cause) (rest : List Char) :
    Reads (separator closing atEnd missing (',' :: (blanks ++ c :: rest))) true (c :: rest) := by
  have hcomma := skipBlanks_cons (c := ',') (by decide) (blanks ++ c :: rest)
  have hnext := skipBlanks_append_cons hblanks hblank rest
  rw [separator, next?_eq hcomma]
  simp only [if_neg hclosing, next?_eq hnext, if_neg hc]
  exact ⟨_, rfl⟩

/-- Behind a key stands a colon. -/
theorem reads_colon (rest : List Char) : Reads (colon (':' :: rest)) () rest := by
  have hcolon : skipBlanks (':' :: rest) = ':' :: rest := skipBlanks_cons (by decide) rest
  rw [colon, next?_eq hcolon]
  exact ⟨_, rfl⟩

/-! ## Reading under a condition -/

/-- What `m` reads is `a`, and it leaves `rest` behind, if `P` holds; otherwise it finds a fault. -/
def ReadsIff (P : Prop) (m : Except Fault (α × Subtype p)) (a : α) (rest : List Char) : Prop :=
  (P → Reads m a rest) ∧ (¬ P → ∃ fault, m = .error fault)

theorem Reads.iff {m : Except Fault (α × Subtype p)} (h : Reads m a rest) (hP : P) :
    ReadsIff P m a rest :=
  ⟨fun _ => h, fun hnot => absurd hP hnot⟩

theorem ReadsIff.congr {m : Except Fault (α × Subtype p)} (h : ReadsIff P m a rest)
    (hPQ : P ↔ Q) : ReadsIff Q m a rest :=
  ⟨fun hQ => h.1 (hPQ.2 hQ), fun hQ => h.2 fun hP => hQ (hPQ.1 hP)⟩

/-- One part is read after the other, each under its condition. -/
theorem ReadsIff.bind {m : Except Fault (α × Subtype p)}
    {f : α × Subtype p → Except Fault (β × Subtype q)} (hm : ReadsIff P m a left)
    (hf : ∀ h, ReadsIff Q (f (a, ⟨left, h⟩)) b rest) : ReadsIff (P ∧ Q) (m >>= f) b rest := by
  refine ⟨fun ⟨hP, hQ⟩ => (hm.1 hP).bind fun h => (hf h).1 hQ, fun hPQ => ?_⟩
  by_cases hP : P
  · obtain ⟨h, rfl⟩ := hm.1 hP
    exact (hf h).2 fun hQ => hPQ ⟨hP, hQ⟩
  · obtain ⟨fault, rfl⟩ := hm.2 hP
    exact ⟨fault, rfl⟩

/-- What is read for certain, and then a part under its condition. -/
theorem Reads.bind_iff {m : Except Fault (α × Subtype p)}
    {f : α × Subtype p → Except Fault (β × Subtype q)} (hm : Reads m a left)
    (hf : ∀ h, ReadsIff Q (f (a, ⟨left, h⟩)) b rest) : ReadsIff Q (m >>= f) b rest := by
  obtain ⟨h, rfl⟩ := hm
  exact hf h

/-- What is read under a condition, and then a part for certain. -/
theorem ReadsIff.bind_reads {m : Except Fault (α × Subtype p)}
    {f : α × Subtype p → Except Fault (β × Subtype q)} (hm : ReadsIff P m a left)
    (hf : ∀ h, Reads (f (a, ⟨left, h⟩)) b rest) : ReadsIff P (m >>= f) b rest :=
  (hm.bind fun h => (hf h).iff trivial).congr (and_iff_left trivial)

/-! ## Brackets -/

/-- An array is read if one more bracket can be open and its items can be read. -/
theorem readsIff_value_array {inner : List Char} {items : List Json}
    (hcs : skipBlanks cs = '[' :: inner) (h : ReadsIff P (array (levels - 1) inner) items rest) :
    ReadsIff (1 < levels ∧ P) (value levels cs) (.array items) rest := by
  rw [value, next?_eq hcs]
  by_cases hlevels : 1 < levels
  · simp only [if_neg (Nat.not_le.2 hlevels), decide_true, Bool.true_or, if_true]
    refine ReadsIff.congr (h.bind_reads fun _ => ?_) (and_iff_right hlevels).symm
    exact ⟨_, rfl⟩
  · simp only [if_pos (Nat.not_lt.1 hlevels)]
    exact ⟨fun hP => absurd hP.1 hlevels, fun _ => ⟨_, rfl⟩⟩

/-- An object is read if one more bracket can be open and its entries can be read. -/
theorem readsIff_value_object {inner : List Char} {entries : List (String × Json)}
    (hcs : skipBlanks cs = '\x7b' :: inner)
    (h : ReadsIff P (object (levels - 1) inner) entries rest) :
    ReadsIff (1 < levels ∧ P) (value levels cs) (.object (Keyed.ofEntries entries)) rest := by
  rw [value, next?_eq hcs]
  by_cases hlevels : 1 < levels
  · simp only [if_neg (Nat.not_le.2 hlevels), Char.reduceEq, decide_true, Bool.or_true, if_true,
      if_false]
    refine ReadsIff.congr (h.bind_reads fun _ => ?_) (and_iff_right hlevels).symm
    exact ⟨_, rfl⟩
  · simp only [if_pos (Nat.not_lt.1 hlevels)]
    exact ⟨fun hP => absurd hP.1 hlevels, fun _ => ⟨_, rfl⟩⟩

/-- Behind an opening bracket stands the closing one at once, or items. -/
theorem reads_array_nil (hcs : skipBlanks cs = ']' :: rest) : Reads (array levels cs) [] rest := by
  rw [array, next?_eq hcs]
  exact ⟨_, if_pos rfl⟩

theorem array_eq_items (hcs : skipBlanks cs = c :: rest) (hc : c ≠ ']') :
    array levels cs = items levels cs := by
  rw [array, next?_eq hcs]
  exact if_neg hc

/-- Behind an opening brace stands the closing one at once, or entries. -/
theorem reads_object_nil (hcs : skipBlanks cs = '\x7d' :: rest) :
    Reads (object levels cs) [] rest := by
  rw [object, next?_eq hcs]
  exact ⟨_, if_pos rfl⟩

theorem readsIff_object_entries {inner : List Char} {es : List (String × Json)}
    (hcs : skipBlanks cs = c :: inner) (hc : c ≠ '\x7d')
    (h : ReadsIff P (entries levels (c :: inner)) es rest) :
    ReadsIff P (object levels cs) es rest := by
  rw [object, next?_eq hcs]
  simp only [if_neg hc]
  refine ⟨fun hP => ?_, fun hP => ?_⟩
  · obtain ⟨hlength, heq⟩ := h.1 hP
    rw [heq]
    exact ⟨_, rfl⟩
  · obtain ⟨fault, heq⟩ := h.2 hP
    rw [heq]
    exact ⟨fault, rfl⟩

/-- What begins with another character is a scalar. -/
theorem reads_value_scalar {inner : List Char} {j : Json} (hcs : skipBlanks cs = c :: inner)
    (hc : c ≠ '[' ∧ c ≠ '\x7b') (h : Reads (scalar c inner) j rest) :
    Reads (value levels cs) j rest := by
  rw [value, next?_eq hcs]
  simp only [hc.1, hc.2]
  exact h.bind fun _ => ⟨_, rfl⟩

/-! ## How texts begin -/

variable {layout : Layout} {close : List Char}

/-- The text begins neither with a blank nor with a closing bracket. -/
def Begins (cs : List Char) : Prop :=
  ∃ c rest, cs = c :: rest ∧ ¬ Blank c ∧ c ≠ ']' ∧ c ≠ '\x7d'

theorem Begins.append (h : Begins cs) (rest : List Char) : Begins (cs ++ rest) := by
  obtain ⟨c, cs, rfl, hc⟩ := h
  exact ⟨c, cs ++ rest, rfl, hc⟩

theorem Begins.separate {part : List Char} (h : Begins part) (parts : List (List Char))
    (rest : List Char) : Begins (layout.separate level (part :: parts) ++ rest) := by
  cases parts with
  | nil =>
    rw [Layout.separate_singleton]
    exact h.append rest
  | cons next parts =>
    rw [Layout.separate_cons_cons]
    exact h.append _

theorem begins_writeEntry (layout : Layout) (level : Nat) (key : String) (j : Json) :
    Begins (layout.writeEntry level (key, j)) := by
  have htext := layout.writeEntry_append level key j []
  rw [List.append_nil] at htext
  exact ⟨'"', _, htext, by decide⟩

/-- A digit or a minus sign is neither a blank nor a bracket. -/
theorem not_blank_of_isDigit_or_minus (hc : c.isDigit ∨ c = '-') :
    ¬ Blank c ∧ c ≠ '[' ∧ c ≠ '\x7b' ∧ c ≠ ']' ∧ c ≠ '\x7d' := by
  rcases hc with hc | rfl
  · refine ⟨?_, ?_, ?_, ?_, ?_⟩
    · rintro (rfl | rfl | rfl | rfl) <;> cases hc
    all_goals
      rintro rfl
      cases hc
  · decide

/-- The text of a number begins with a digit or a minus sign. -/
theorem exists_toText_eq_cons (n : Int64) : ∃ c ds, (Integer.toText n).toList = c :: ds ∧
    ¬ Blank c ∧ c ≠ '[' ∧ c ≠ '\x7b' ∧ c ≠ ']' ∧ c ≠ '\x7d' := by
  obtain ⟨c, ds, h⟩ := List.exists_cons_of_ne_nil (Integer.toList_toText_ne_nil n)
  have hc := Integer.isDigit_or_eq_minus_of_mem_toText (h ▸ List.mem_cons_self)
  exact ⟨c, ds, h, not_blank_of_isDigit_or_minus hc⟩

/-- Brackets begin with the opening one. -/
theorem begins_enclose {opening : Char}
    (hopening : ¬ Blank opening ∧ opening ≠ ']' ∧ opening ≠ '\x7d')
    (parts : List (List Char)) : Begins (layout.enclose level opening closing parts) := by
  cases parts with
  | nil => exact ⟨opening, _, layout.enclose_nil level opening closing, hopening⟩
  | cons part parts =>
    have htext := layout.enclose_append level (List.cons_ne_nil part parts) opening closing []
    rw [List.append_nil] at htext
    exact ⟨opening, _, htext, hopening⟩

/-- No value begins with a blank or a closing bracket. -/
theorem begins_write (layout : Layout) (level : Nat) (v : Value) :
    Begins (layout.write level v.toJson) := by
  cases v with
  | absent => exact ⟨'n', _, rfl, by decide⟩
  | bool b =>
    cases b
    · exact ⟨'f', _, rfl, by decide⟩
    · exact ⟨'t', _, rfl, by decide⟩
  | number n =>
    obtain ⟨c, ds, h, hblank, -, -, hc⟩ := exists_toText_eq_cons n
    exact ⟨c, ds, h, hblank, hc⟩
  | text s => exact ⟨'"', _, String.toList_ofList, by decide⟩
  | list items => exact begins_enclose (by decide) _
  | map entries => exact begins_enclose (by decide) _

/-! ## Items and entries -/

/-- With any blanks in front, and whatever follows that does not continue a number, the value is
    read from what it is written as, if it nests on no more levels than brackets can be opened
    on. -/
def ReadsBack (layout : Layout) (level levels : Nat) (v : Value) : Prop :=
  ∀ blanks rest, (∀ c ∈ blanks, Blank c) → Ends rest →
    ReadsIff (v.nesting ≤ levels - 1)
      (value levels (blanks ++ (layout.write level v.toJson ++ rest))) v.toJson rest

/-- The items of an array are read one by one. -/
theorem readsIff_items (hclose : skipBlanks close = ']' :: rest) (hends : Ends close)
    {vs : List Value} (hne : vs ≠ []) (hvs : ∀ v ∈ vs, ReadsBack layout level levels v)
    (hblanks : ∀ c ∈ blanks, Blank c) :
    ReadsIff (∀ v ∈ vs, v.nesting ≤ levels - 1)
      (items levels (blanks ++ (layout.separate level
        (vs.map fun v => layout.write level v.toJson) ++ close)))
      (vs.map Value.toJson) rest := by
  induction vs generalizing blanks with
  | nil => exact absurd rfl hne
  | cons v more ih =>
    obtain ⟨hv, hmore⟩ := List.forall_mem_cons.1 hvs
    cases more with
    | nil =>
      rw [List.map_cons, List.map_nil, Layout.separate_singleton, items]
      refine ReadsIff.congr ((hv blanks close hblanks hends).bind_reads fun _ => ?_) (by simp)
      exact (reads_separator_closing hclose _ _).bind fun _ => ⟨_, rfl⟩
    | cons w more =>
      -- the next item begins at once for the reader, behind the comma and the blanks
      obtain ⟨c, tail, htail, hblank, hne, -⟩ := (begins_write layout level w).separate
        (more.map fun v => layout.write level v.toJson) close
      have hnext := ih (List.cons_ne_nil w more) hmore (List.forall_mem_nil Blank)
      rw [List.nil_append, List.map_cons, htail] at hnext
      rw [List.map_cons, List.map_cons, Layout.separate_cons_cons, htail, items,
        List.forall_mem_cons]
      refine (hv blanks _ hblanks (Ends.cons (by decide))).bind fun _ => ?_
      refine (reads_separator_comma (by decide) (layout.blank_newLine level) hblank hne _ _
        _).bind_iff fun _ => ?_
      exact hnext.bind_reads fun _ => ⟨_, rfl⟩

/-- The entries of an object are read one by one. -/
theorem readsIff_entries (hclose : skipBlanks close = '\x7d' :: rest) (hends : Ends close)
    {es : List (String × Value)} (hne : es ≠ [])
    (hes : ∀ e ∈ es, ReadsBack layout level levels e.2) :
    ReadsIff (∀ e ∈ es, e.2.nesting ≤ levels - 1)
      (entries levels (layout.separate level
        (es.map fun e => layout.writeEntry level (e.1, e.2.toJson)) ++ close))
      (es.map fun e => (e.1, e.2.toJson)) rest := by
  induction es with
  | nil => exact absurd rfl hne
  | cons e more ih =>
    obtain ⟨he, hmore⟩ := List.forall_mem_cons.1 hes
    cases more with
    | nil =>
      rw [List.map_cons, List.map_nil, Layout.separate_singleton, Layout.writeEntry_append, entries]
      refine (reads_string e.1 _).bind_iff fun _ => ?_
      refine (reads_colon _).bind_iff fun _ => ?_
      refine ReadsIff.congr ((he layout.gap close layout.blank_gap hends).bind_reads fun _ => ?_)
        (by simp)
      exact (reads_separator_closing hclose _ _).bind fun _ => ⟨_, rfl⟩
    | cons next more =>
      -- the next key begins at once for the reader, behind the comma and the blanks
      obtain ⟨c, tail, htail, hblank, -, hne⟩ :=
        (begins_writeEntry layout level next.1 next.2.toJson).separate
          (more.map fun e => layout.writeEntry level (e.1, e.2.toJson)) close
      have hnext := ih (List.cons_ne_nil next more) hmore
      rw [List.map_cons, htail] at hnext
      rw [List.map_cons, List.map_cons, Layout.separate_cons_cons, htail, Layout.writeEntry_append,
        entries, List.forall_mem_cons]
      refine (reads_string e.1 _).bind_iff fun _ => ?_
      refine (reads_colon _).bind_iff fun _ => ?_
      refine (he layout.gap _ layout.blank_gap (Ends.cons (by decide))).bind fun _ => ?_
      refine (reads_separator_comma (by decide) (layout.blank_newLine level) hblank hne _ _
        _).bind_iff fun _ => ?_
      exact hnext.bind_reads fun _ => ⟨_, rfl⟩

/-- An array that is not empty is read behind its bracket. -/
theorem readsIff_array {vs : List Value} (hne : vs ≠ [])
    (hvs : ∀ v ∈ vs, ReadsBack layout (level + 1) levels v) (rest : List Char) :
    ReadsIff (∀ v ∈ vs, v.nesting ≤ levels - 1)
      (array levels (layout.newLine (level + 1) ++ (layout.separate (level + 1)
        (vs.map fun v => layout.write (level + 1) v.toJson) ++
          (layout.newLine level ++ ']' :: rest))))
      (vs.map Value.toJson) rest := by
  obtain ⟨v, more, rfl⟩ := List.exists_cons_of_ne_nil hne
  obtain ⟨c, tail, htail, hblank, hc, -⟩ := (begins_write layout (level + 1) v).separate
    (more.map fun v => layout.write (level + 1) v.toJson) (layout.newLine level ++ ']' :: rest)
  have hnext : skipBlanks (layout.newLine (level + 1) ++ (layout.separate (level + 1)
      ((v :: more).map fun v => layout.write (level + 1) v.toJson) ++
        (layout.newLine level ++ ']' :: rest))) = c :: tail := by
    rw [List.map_cons, htail, skipBlanks_append_cons (layout.blank_newLine (level + 1)) hblank]
  rw [array_eq_items hnext hc]
  exact readsIff_items (skipBlanks_append_cons (layout.blank_newLine level) (by decide) rest)
    (ends_append (layout.blank_newLine level) (Ends.cons (by decide))) hne hvs
    (layout.blank_newLine (level + 1))

/-- An object that is not empty is read behind its brace. -/
theorem readsIff_object {es : List (String × Value)} (hne : es ≠ [])
    (hes : ∀ e ∈ es, ReadsBack layout (level + 1) levels e.2) (rest : List Char) :
    ReadsIff (∀ e ∈ es, e.2.nesting ≤ levels - 1)
      (object levels (layout.newLine (level + 1) ++ (layout.separate (level + 1)
        (es.map fun e => layout.writeEntry (level + 1) (e.1, e.2.toJson)) ++
          (layout.newLine level ++ '\x7d' :: rest))))
      (es.map fun e => (e.1, e.2.toJson)) rest := by
  obtain ⟨e, more, rfl⟩ := List.exists_cons_of_ne_nil hne
  obtain ⟨c, tail, htail, hblank, -, hc⟩ :=
    (begins_writeEntry layout (level + 1) e.1 e.2.toJson).separate
      (more.map fun e => layout.writeEntry (level + 1) (e.1, e.2.toJson))
      (layout.newLine level ++ '\x7d' :: rest)
  have hnext : skipBlanks (layout.newLine (level + 1) ++ (layout.separate (level + 1)
      ((e :: more).map fun e => layout.writeEntry (level + 1) (e.1, e.2.toJson)) ++
        (layout.newLine level ++ '\x7d' :: rest))) = c :: tail := by
    rw [List.map_cons, htail, skipBlanks_append_cons (layout.blank_newLine (level + 1)) hblank]
  refine readsIff_object_entries hnext hc ?_
  rw [← htail]
  exact readsIff_entries (skipBlanks_append_cons (layout.blank_newLine level) (by decide) rest)
    (ends_append (layout.blank_newLine level) (Ends.cons (by decide))) hne hes

/-! ## Values -/

/-- What is not in brackets is read for certain. -/
theorem readsBack_scalar {v : Value} {ds : List Char} (hnesting : v.nesting = 0)
    (hwrite : layout.write level v.toJson = c :: ds) (hc : ¬ Blank c ∧ c ≠ '[' ∧ c ≠ '\x7b')
    (h : ∀ rest, Ends rest → Reads (scalar c (ds ++ rest)) v.toJson rest) :
    ReadsBack layout level levels v := by
  intro blanks rest hblanks hends
  rw [hwrite, List.cons_append]
  exact (reads_value_scalar (skipBlanks_append_cons hblanks hc.1 _) hc.2 (h rest hends)).iff
    (hnesting ▸ Nat.zero_le _)

theorem readsBack_absent : ReadsBack layout level levels .absent :=
  readsBack_scalar rfl rfl (by decide) fun rest _ => reads_word .null ['u', 'l', 'l'] rest

theorem readsBack_bool (b : Bool) : ReadsBack layout level levels (.bool b) := by
  cases b
  · exact readsBack_scalar rfl rfl (by decide) fun rest _ =>
      reads_word (.bool false) ['a', 'l', 's', 'e'] rest
  · exact readsBack_scalar rfl rfl (by decide) fun rest _ =>
      reads_word (.bool true) ['r', 'u', 'e'] rest

theorem readsBack_number (n : Int64) : ReadsBack layout level levels (.number n) := by
  obtain ⟨c, ds, h, hblank, hlist, hmap, -⟩ := exists_toText_eq_cons n
  exact readsBack_scalar rfl h ⟨hblank, hlist, hmap⟩ fun rest hends =>
    reads_scalar_toText n hends h

theorem readsBack_text (s : String) : ReadsBack layout level levels (.text s) := by
  have hwrite : layout.write level (Value.text s).toJson =
      '"' :: (s.toList.flatMap escapeChar ++ ['"']) := String.toList_ofList
  refine readsBack_scalar rfl hwrite (by decide) fun rest _ => ?_
  rw [List.append_assoc]
  exact reads_scalar_string s rest

theorem readsBack_list {vs : List Value}
    (hvs : ∀ v ∈ vs, ReadsBack layout (level + 1) (levels - 1) v) :
    ReadsBack layout level levels (.list vs) := by
  intro blanks rest hblanks hends
  have hfits : 1 < levels ∧ (∀ v ∈ vs, v.nesting ≤ levels - 1 - 1) ↔
      (Value.list vs).nesting ≤ levels - 1 := by
    rw [Value.nesting_list_le_iff, Nat.sub_pos_iff_lt]
  refine ReadsIff.congr ?_ hfits
  rw [Value.toJson, Value.toJsonAll_eq_map, Layout.write, Layout.writeItems_eq_map, List.map_map]
  by_cases hne : vs = []
  · -- in an empty array the closing bracket follows at once
    subst hne
    have hclose : skipBlanks (']' :: rest) = ']' :: rest := skipBlanks_cons (by decide) rest
    exact readsIff_value_array (skipBlanks_append_cons hblanks (by decide) (']' :: rest))
      ((reads_array_nil hclose).iff (List.forall_mem_nil _))
  · rw [layout.enclose_append level (by simpa using hne)]
    exact readsIff_value_array (skipBlanks_append_cons hblanks (by decide) _)
      (readsIff_array hne hvs rest)

theorem readsBack_map {es : Keyed Value} (hsorted : Keyed.Sorted es)
    (hes : ∀ e ∈ es, ReadsBack layout (level + 1) (levels - 1) e.2) :
    ReadsBack layout level levels (.map es) := by
  intro blanks rest hblanks hends
  have hfits : 1 < levels ∧ (∀ e ∈ es, e.2.nesting ≤ levels - 1 - 1) ↔
      (Value.map es).nesting ≤ levels - 1 := by
    rw [Value.nesting_map_le_iff, Nat.sub_pos_iff_lt]
  refine ReadsIff.congr ?_ hfits
  rw [Value.toJson, Value.toJsonEntries_eq_map, Layout.write, Layout.writeEntries_eq_map,
    List.map_map]
  -- the reader puts the entries in order, where they are already
  have hself : Keyed.ofEntries (es.map fun e => (e.1, e.2.toJson)) =
      es.map fun e => (e.1, e.2.toJson) :=
    Keyed.ofEntries_eq_self (Keyed.sorted_map_iff.2 hsorted)
  rw [← hself]
  by_cases hne : es = []
  · subst hne
    have hclose : skipBlanks ('\x7d' :: rest) = '\x7d' :: rest := skipBlanks_cons (by decide) rest
    exact readsIff_value_object (skipBlanks_append_cons hblanks (by decide) ('\x7d' :: rest))
      ((reads_object_nil hclose).iff (List.forall_mem_nil _))
  · rw [layout.enclose_append level (by simpa using hne)]
    exact readsIff_value_object (skipBlanks_append_cons hblanks (by decide) _)
      (readsIff_object hne hes rest)

/-- Every value whose maps are in order is read from what it is written as. -/
theorem readsBack_of_ordered {v : Value} (hv : v.Ordered) (layout : Layout) (level levels : Nat) :
    ReadsBack layout level levels v := by
  induction v generalizing level levels with
  | absent => exact readsBack_absent
  | bool b => exact readsBack_bool b
  | number n => exact readsBack_number n
  | text s => exact readsBack_text s
  | list items ih =>
    cases hv with
    | list hitems => exact readsBack_list fun item hitem => ih item hitem (hitems item hitem) _ _
  | map entries ih =>
    cases hv with
    | map hsorted hentries =>
      exact readsBack_map hsorted fun entry hentry => ih entry hentry (hentries entry hentry) _ _

end Json.Reader

end TurnScript
