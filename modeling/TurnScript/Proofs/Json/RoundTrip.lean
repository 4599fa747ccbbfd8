import TurnScript.Proofs.Json.Reader

/-!
# From values to JSON text and back

A value is read from its JSON text, in one line or over several, if its lists and maps nest on at
most 127 levels; otherwise the reader refuses the text (`parseJson_inverts_writing`). The limit of
the conversion is never met by what the reader lets through, since that nests on at most 127 levels
as well (`yields_regular`). So these are all values that any text is read as
(`exists_parseJson_eq_ok_iff`).
-/

namespace TurnScript

namespace Json

/-- The brackets of the JSON value nest on at most `n` levels, and the keys of its objects
    ascend. -/
inductive Regular : Nat → Json → Prop
  | null {n : Nat} : Regular n .null
  | bool {n : Nat} (b : Bool) : Regular n (.bool b)
  | number {n : Nat} (m : Number) : Regular n (.number m)
  | string {n : Nat} (s : String) : Regular n (.string s)
  | array {n : Nat} {items : List Json} : 0 < n → (∀ item ∈ items, Regular (n - 1) item) →
    Regular n (.array items)
  | object {n : Nat} {entries : List (String × Json)} : 0 < n → Keyed.Sorted entries →
    (∀ entry ∈ entries, Regular (n - 1) entry.2) → Regular n (.object entries)

namespace Reader

/-! ## What can be read -/

variable {α β : Type} {p q : List Char → Prop} {P : α → Prop} {Q : β → Prop}

/-- Whatever `m` reads has the property. -/
def Yields (P : α → Prop) (m : Except Fault (α × Subtype p)) : Prop :=
  ∀ a left, m = .ok (a, left) → P a

theorem Yields.error (fault : Fault) : Yields (p := p) P (.error fault) := nofun

theorem Yields.ok {a : α} (h : P a) (left : Subtype p) : Yields P (.ok (a, left)) := by
  rintro _ _ ⟨⟩
  exact h

theorem Yields.bind {m : Except Fault (α × Subtype p)}
    {f : α × Subtype p → Except Fault (β × Subtype q)} (hm : Yields P m)
    (hf : ∀ a left, P a → Yields Q (f (a, left))) : Yields Q (m >>= f) := by
  cases m with
  | error fault => exact .error fault
  | ok result => exact hf result.1 result.2 (hm _ _ rfl)

theorem Yields.map {m : Except Fault (α × Subtype p)} {f : α → β} (hm : Yields P m)
    (h : ∀ a, P a → Q (f a)) : Yields Q (m.map fun (a, left) => (f a, left)) := by
  cases m with
  | error fault => exact .error fault
  | ok result => exact .ok (h result.1 (hm _ _ rfl)) result.2

theorem yields_true (m : Except Fault (α × Subtype p)) : Yields (fun _ => True) m :=
  fun _ _ _ => trivial

/-- A word stands for one value. -/
theorem yields_word {P : Json → Prop} {j : Json} (h : P j) (letters cs : List Char) :
    Yields P (word j letters cs) := by
  induction letters generalizing cs with
  | nil => exact .ok h _
  | cons letter letters ih =>
    cases cs with
    | nil => exact .error _
    | cons c cs =>
      rw [word]
      split
      · exact (ih cs).bind fun j _ hj => .ok hj _
      · exact .error _

/-- A scalar has no brackets. -/
theorem yields_scalar (n : Nat) (c : Char) (cs : List Char) :
    Yields (Regular n) (scalar c cs) := by
  unfold scalar
  split
  · exact yields_word .null _ _
  · exact yields_word (.bool true) _ _
  · exact yields_word (.bool false) _ _
  · exact (yields_true _).map fun s _ => .string s
  · exact (yields_true _).map fun n _ => .number n
  · split
    · exact (yields_true _).map fun n _ => .number n
    · exact .error _

/-- What is read nests on no more levels than brackets can be opened on, and its objects are in
    order. -/
theorem yields_regular :
    (∀ levels cs, Yields (Regular (levels - 1)) (value levels cs)) ∧
      (∀ levels cs, Yields (fun es => ∀ e ∈ es, Regular (levels - 1) e.2) (object levels cs)) ∧
      (∀ levels cs, Yields (fun es => ∀ e ∈ es, Regular (levels - 1) e.2) (entries levels cs)) ∧
      (∀ levels cs, Yields (fun js => ∀ j ∈ js, Regular (levels - 1) j) (array levels cs)) ∧
      ∀ levels cs, Yields (fun js => ∀ j ∈ js, Regular (levels - 1) j) (items levels cs) := by
  apply value.mutual_induct
    (fun levels cs => Yields (Regular (levels - 1)) (value levels cs))
    (fun levels cs => Yields (fun es => ∀ e ∈ es, Regular (levels - 1) e.2) (object levels cs))
    (fun levels cs => Yields (fun es => ∀ e ∈ es, Regular (levels - 1) e.2) (entries levels cs))
    (fun levels cs => Yields (fun js => ∀ j ∈ js, Regular (levels - 1) j) (array levels cs))
    (fun levels cs => Yields (fun js => ∀ j ∈ js, Regular (levels - 1) j) (items levels cs))
  -- a value: the end of the text, a bracket too many, an array, an object or a scalar
  · intro levels cs hnext
    rw [value, hnext]
    exact .error _
  · intro levels cs c rest h hnext hbracket hlevels
    rw [value, hnext]
    dsimp only
    rw [if_pos hbracket, if_pos hlevels]
    exact .error _
  · intro levels cs rest h hlevels hnext hbracket ih
    rw [value, hnext]
    dsimp only
    rw [if_pos hbracket, if_neg hlevels]
    exact ih.bind fun js _ hjs => .ok (.array (by omega) hjs) _
  · intro levels cs c rest h hnext hbracket hlevels hc ih
    rw [value, hnext]
    dsimp only
    rw [if_pos hbracket, if_neg hlevels, if_neg hc]
    exact ih.bind fun es _ hes =>
      .ok (.object (by omega) (Keyed.sorted_ofEntries es) fun e he =>
        hes e (Keyed.mem_of_mem_ofEntries he)) _
  · intro levels cs c rest h hnext hbracket
    rw [value, hnext]
    dsimp only
    rw [if_neg hbracket]
    exact (yields_scalar _ c rest).bind fun j _ hj => .ok hj _
  -- an object: the end of the text, its brace or entries
  · intro levels cs hnext
    rw [object, hnext]
    exact .error _
  · intro levels cs rest h hnext
    rw [object, hnext]
    exact .ok (List.forall_mem_nil _) _
  · intro levels cs c rest h hnext hc ih
    rw [object, hnext]
    dsimp only
    rw [if_neg hc]
    cases hentries : entries levels (c :: rest) with
    | error fault => exact .error fault
    | ok result => exact .ok (ih _ _ hentries) _
  -- entries: a key, or something else
  · intro levels rest hvalue hmore
    rw [entries]
    refine (yields_true _).bind fun key behindKey _ => ?_
    refine (yields_true _).bind fun _ behindColon _ => ?_
    refine (hvalue _ behindKey.2 _ behindColon.2).bind fun j behind hj => ?_
    refine (yields_true _).bind fun more left _ => ?_
    cases more with
    | false => exact .ok (by simpa using hj) _
    | true =>
      refine (hmore _ behindKey.2 _ behindColon.2 _ behind.2 _ left.2).bind fun es _ hes => ?_
      have hall : ∀ e ∈ (key, j) :: es, Regular (levels - 1) (Prod.snd e) :=
        (List.forall_mem_cons (p := fun e => Regular (levels - 1) (Prod.snd e))).2 ⟨hj, hes⟩
      exact .ok hall _
  · intro levels other hother
    rw [entries.eq_2 _ _ hother]
    exact .error _
  -- an array: the end of the text, its bracket or items
  · intro levels cs hnext
    rw [array, hnext]
    exact .error _
  · intro levels cs rest h hnext
    rw [array, hnext]
    exact .ok (List.forall_mem_nil _) _
  · intro levels cs c rest h hnext hc ih
    rw [array, hnext]
    dsimp only
    rw [if_neg hc]
    exact ih
  -- one item or more
  · intro levels cs hvalue hmore
    rw [items]
    refine hvalue.bind fun j behind hj => ?_
    refine (yields_true _).bind fun more left _ => ?_
    cases more with
    | false => exact .ok (List.forall_mem_singleton.2 hj) _
    | true =>
      refine (hmore _ behind.2 _ left.2).bind fun js _ hjs => ?_
      exact .ok (List.forall_mem_cons.2 ⟨hj, hjs⟩) _

/-- A whole text is read if a value is, and only blanks are left. -/
theorem document_eq_ok_iff {cs : List Char} {j : Json} :
    document cs = .ok j ↔ ∃ rest, Reads (value maxLevels cs) j rest ∧ skipBlanks rest = [] := by
  rw [document]
  constructor
  · intro h
    cases hvalue : value maxLevels cs with
    | error fault =>
      rw [hvalue] at h
      cases h
    | ok result =>
      obtain ⟨j', rest, hrest⟩ := result
      rw [hvalue] at h
      cases hblanks : skipBlanks rest with
      | nil =>
        simp only [bind, Except.bind, hblanks] at h
        cases h
        exact ⟨rest, ⟨hrest, rfl⟩, hblanks⟩
      | cons c more =>
        simp only [bind, Except.bind, hblanks] at h
        cases h
  · rintro ⟨rest, ⟨hrest, hvalue⟩, hblanks⟩
    rw [hvalue]
    simp only [bind, Except.bind, hblanks]
    rfl

/-- A whole text is refused if no value can be read in front. -/
theorem document_eq_error {cs : List Char} {fault : Fault}
    (h : value maxLevels cs = .error fault) : document cs = .error fault := by
  rw [document, h]
  rfl

/-- What a whole text is read as nests on at most 127 levels. -/
theorem regular_of_document {cs : List Char} {j : Json} (h : document cs = .ok j) :
    j.Regular 127 := by
  obtain ⟨rest, ⟨hrest, hvalue⟩, -⟩ := document_eq_ok_iff.1 h
  exact yields_regular.1 maxLevels cs _ _ hvalue

end Reader

end Json

namespace Value

variable {depth n : Nat} {j : Json} {e : ParseError}

/-- What nests on few levels is not too deep to be converted. -/
theorem kind_of_regular (hj : j.Regular n) (hdepth : depth + n < maxJsonDepth)
    (h : ofJsonAt depth j = .error e) : e.kind = .unsupported := by
  have hlt : depth < maxJsonDepth := Nat.lt_of_le_of_lt (Nat.le_add_right depth n) hdepth
  induction j generalizing depth n with
  | null | bool b | string s =>
    rw [ofJsonAt, if_neg (Nat.not_le.2 hlt)] at h
    cases h
  | number m =>
    rw [ofJsonAt, if_neg (Nat.not_le.2 hlt)] at h
    exact kind_of_ofJsonNumber_error h
  | array items ih =>
    cases hj with
    | array hpos hitems =>
      obtain ⟨item, hitem, he⟩ := exists_of_ofJsonAt_array_error hlt h
      exact ih item hitem (hitems item hitem) (by omega) he (by omega)
  | object entries ih =>
    cases hj with
    | object hpos _ hentries =>
      obtain ⟨entry, hentry, he⟩ := exists_of_ofJsonAt_object_error hlt h
      exact ih entry hentry (hentries entry hentry) (by omega) he (by omega)

/-- A fault in the text is a syntax error, and of what can be read only numbers are refused. -/
theorem kind_of_parseJson_error {source : String} (h : parseJson source = .error e) :
    e.kind = .invalidSyntax ∨ e.kind = .unsupported := by
  rw [parseJson] at h
  cases hdocument : Json.Reader.document source.toList with
  | error fault =>
    rw [hdocument] at h
    cases h
    exact .inl rfl
  | ok j =>
    rw [hdocument] at h
    exact .inr (kind_of_regular (Json.Reader.regular_of_document hdocument) (by decide) h)

/-! ## Round trip -/

/-- What an ordered value is written as in some layout is read back, or refused. -/
theorem parseJson_write {v : Value} (hv : v.Ordered) (layout : Json.Layout) (level : Nat)
    {source : String} (hsource : source.toList = layout.write level v.toJson) :
    (v.nesting ≤ 127 → parseJson source = .ok v) ∧
      (128 ≤ v.nesting → ∃ e, parseJson source = .error e ∧ e.kind = .invalidSyntax) := by
  have hread := Json.Reader.readsBack_of_ordered hv layout level Json.Reader.maxLevels [] [] nofun
    Json.Reader.Ends.nil
  rw [List.nil_append, List.append_nil, ← hsource] at hread
  constructor
  · intro hnesting
    have hdocument : Json.Reader.document source.toList = .ok v.toJson :=
      Json.Reader.document_eq_ok_iff.2 ⟨[], hread.1 hnesting, rfl⟩
    have hheight : 0 + v.height < maxJsonDepth := by
      have hle := height_le_nesting v
      rw [maxJsonDepth]
      omega
    rw [parseJson, hdocument]
    exact (ofJsonAt_toJson 0 v).trans (if_pos hheight)
  · intro hnesting
    obtain ⟨fault, hfault⟩ := hread.2 (by rw [Json.Reader.maxLevels]; omega)
    rw [parseJson, Json.Reader.document_eq_error hfault]
    exact ⟨_, rfl, rfl⟩

/-- The JSON of a value is regular if the value's maps are in order and it does not nest too
    deeply. -/
theorem regular_toJson_iff {v : Value} :
    v.toJson.Regular n ↔ v.Ordered ∧ v.nesting ≤ n := by
  induction v generalizing n with
  | absent => exact ⟨fun _ => ⟨.absent, Nat.zero_le n⟩, fun _ => .null⟩
  | bool b => exact ⟨fun _ => ⟨.bool b, Nat.zero_le n⟩, fun _ => .bool b⟩
  | number i => exact ⟨fun _ => ⟨.number i, Nat.zero_le n⟩, fun _ => .number _⟩
  | text s => exact ⟨fun _ => ⟨.text s, Nat.zero_le n⟩, fun _ => .string s⟩
  | list items ih =>
    rw [toJson, toJsonAll_eq_map, nesting_list_le_iff]
    constructor
    · intro h
      cases h with
      | array hpos hitems =>
        have hall : ∀ item ∈ items, item.Ordered ∧ item.nesting ≤ n - 1 := fun item hitem =>
          (ih item hitem).1 (hitems _ (List.mem_map_of_mem hitem))
        exact ⟨.list fun item hitem => (hall item hitem).1, hpos,
          fun item hitem => (hall item hitem).2⟩
    · rintro ⟨hordered, hpos, hnesting⟩
      cases hordered with
      | list hitems =>
        refine .array hpos (List.forall_mem_map.2 fun item hitem => ?_)
        exact (ih item hitem).2 ⟨hitems item hitem, hnesting item hitem⟩
  | map entries ih =>
    rw [toJson, toJsonEntries_eq_map, nesting_map_le_iff]
    constructor
    · intro h
      cases h with
      | object hpos hsorted hentries =>
        have hall : ∀ entry ∈ entries, entry.2.Ordered ∧ entry.2.nesting ≤ n - 1 :=
          fun entry hentry => (ih entry hentry).1 (hentries _ (List.mem_map_of_mem hentry))
        exact ⟨.map (Keyed.sorted_map_iff.1 hsorted) fun entry hentry => (hall entry hentry).1,
          hpos, fun entry hentry => (hall entry hentry).2⟩
    · rintro ⟨hordered, hpos, hnesting⟩
      cases hordered with
      | map hsorted hentries =>
        refine .object hpos (Keyed.sorted_map_iff.2 hsorted)
          (List.forall_mem_map.2 fun entry hentry => ?_)
        exact (ih entry hentry).2 ⟨hentries entry hentry, hnesting entry hentry⟩

/-- The values that can be read from some text are the ones whose maps are in order and that nest on
    at most 127 levels. -/
theorem exists_parseJson_eq_ok_iff {v : Value} :
    (∃ source, parseJson source = .ok v) ↔ v.Ordered ∧ v.nesting ≤ 127 := by
  constructor
  · rintro ⟨source, h⟩
    rw [parseJson] at h
    cases hdocument : Json.Reader.document source.toList with
    | error fault =>
      rw [hdocument] at h
      cases h
    | ok j =>
      rw [hdocument] at h
      have hregular := Json.Reader.regular_of_document hdocument
      rwa [← toJson_of_ofJsonAt h, regular_toJson_iff] at hregular
  · rintro ⟨hv, hnesting⟩
    exact ⟨v.toJson.compact,
      (parseJson_write hv .compact 0 (Json.toList_compact 0 v.toJson)).1 hnesting⟩

/-- A value, with its maps in order, is read from its JSON text, in one line or over several, if its
    lists and maps nest on at most 127 levels, and otherwise the text is refused as a syntax error.
    No text is refused for being nested too deeply to be converted. -/
theorem parseJson_inverts_writing :
    (∀ v : Value, v.Ordered →
      (v.nesting ≤ 127 →
        parseJson v.toJson.compact = .ok v ∧ parseJson v.toJson.pretty = .ok v) ∧
      (128 ≤ v.nesting →
        (∃ e, parseJson v.toJson.compact = .error e ∧ e.kind = .invalidSyntax) ∧
        ∃ e, parseJson v.toJson.pretty = .error e ∧ e.kind = .invalidSyntax)) ∧
      ∀ source e, parseJson source = .error e → e.kind ≠ .tooDeeplyNested := by
  refine ⟨fun v hv => ?_, fun source e h => ?_⟩
  · obtain ⟨hcompact, hcompact'⟩ := parseJson_write hv .compact 0 (Json.toList_compact 0 v.toJson)
    obtain ⟨hpretty, hpretty'⟩ := parseJson_write hv .pretty 0 (Json.toList_prettyAt 0 v.toJson)
    exact ⟨fun h => ⟨hcompact h, hpretty h⟩, fun h => ⟨hcompact' h, hpretty' h⟩⟩
  · rcases kind_of_parseJson_error h with hkind | hkind <;> rw [hkind] <;> decide

/-- A map with a key that has to be escaped, the least number and what is empty. -/
def everyKind : Value :=
  .map [("", .list [.absent, .bool true, .map []]),
    ("\"\\\x01é\n", .number (-9223372036854775808)), ("ü", .text "\t")]

theorem ordered_everyKind : everyKind.Ordered := by
  refine .map (by unfold Keyed.Sorted; decide) fun entry hentry => ?_
  simp only [List.mem_cons, List.not_mem_nil, or_false] at hentry
  rcases hentry with rfl | rfl | rfl
  · refine .list fun item hitem => ?_
    simp only [List.mem_cons, List.not_mem_nil, or_false] at hitem
    rcases hitem with rfl | rfl | rfl
    · exact .absent
    · exact .bool true
    · exact ordered_empty
  · exact .number _
  · exact .text "\t"

theorem ordered_nested (n : Nat) : (nested n).Ordered := by
  induction n with
  | zero => exact .list nofun
  | succ n ih => exact .list fun item hitem => List.mem_singleton.1 hitem ▸ ih

theorem nesting_nested (n : Nat) : (nested n).nesting = n + 1 := by
  induction n with
  | zero => rfl
  | succ n ih => rw [nested, nesting, nestingIn, nestingIn, ih, Nat.max_zero]

/-- On both sides of the limit: one list more, and the text is refused. -/
theorem parseJson_inverts_writing_nested :
    (parseJson everyKind.toJson.compact = .ok everyKind ∧
      parseJson everyKind.toJson.pretty = .ok everyKind) ∧
      (parseJson (nested 126).toJson.compact = .ok (nested 126) ∧
        parseJson (nested 126).toJson.pretty = .ok (nested 126)) ∧
      (∃ e, parseJson (nested 127).toJson.pretty = .error e ∧ e.kind = .invalidSyntax) ∧
      ∃ e, parseJson (nested 127).toJson.compact = .error e ∧ e.kind ≠ .tooDeeplyNested := by
  obtain ⟨⟨e, he, -⟩, hpretty⟩ :=
    (parseJson_inverts_writing.1 (nested 127) (ordered_nested 127)).2
      (Nat.le_of_eq (nesting_nested 127).symm)
  exact ⟨(parseJson_inverts_writing.1 everyKind ordered_everyKind).1 (by decide),
    (parseJson_inverts_writing.1 (nested 126) (ordered_nested 126)).1
      (Nat.le_of_eq (nesting_nested 126)),
    hpretty, e, he, parseJson_inverts_writing.2 _ _ he⟩

end Value

end TurnScript
