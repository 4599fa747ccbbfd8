import TurnScript.Proofs.Json.RoundTrip
import TurnScript.Proofs.Json.Stopping
import TurnScript.Proofs.ParseError

/-!
# Where faults in JSON are

A fault is reported at the byte before the place where it was noticed. Where this is behind a
character of several bytes, the byte lies inside this character (`Fault.Splits`): at the end of the
text inside a string, or at the fourth byte of an escape. Then the error points into the character,
and its context is that of the beginning of the text. All other errors point into the text
(`json_errors_point_into_source`).
-/

namespace TurnScript

open Text

namespace Json

variable {text rest before unread : List Char} {cause : Cause} {fault : Fault} {ahead : Nat}

/-- The byte before the place of the fault is not the first of its character. -/
inductive Fault.Splits (text : List Char) : Fault → Prop
  /-- The text ends inside a string, with a character of several bytes. -/
  | endInString {before : List Char} {c : Char} : text = before ++ [c] → 1 < c.utf8Size →
    Splits text ⟨.endInString, [], 0⟩
  /-- The fourth of the bytes of an escape is inside a character. -/
  | badEscape {before lead : List Char} {c : Char} {after : List Char} :
    text = before ++ '\\' :: 'u' :: (lead ++ c :: after) → byteLength lead < 3 →
    3 < byteLength lead + c.utf8Size → Splits text ⟨.badEscape, lead ++ c :: after, 4⟩

/-! ## Positions -/

/-- The position of a fault is behind what was read and the bytes that were looked at. -/
theorem position_append (h : ahead ≤ byteLength unread) (cause : Cause) :
    Fault.position (before ++ unread) ⟨cause, unread, ahead⟩ = byteLength before + ahead := by
  simp only [Fault.position, byteLength_append]
  omega

theorem position_end (text : List Char) (cause : Cause) (ahead : Nat) :
    Fault.position text ⟨cause, [], ahead⟩ = byteLength text := by
  simp only [Fault.position, byteLength]
  omega

/-- The byte before the rest is a character of its own, if there is one. -/
theorem Follows.isBoundary (h : Follows text rest) :
    IsBoundary (byteLength text - byteLength rest - 1) text := by
  obtain ⟨before, rfl, hlast⟩ := h
  rw [byteLength_append, Nat.add_sub_cancel]
  rcases List.eq_nil_or_concat before with rfl | ⟨front, c, rfl⟩
  · exact isBoundary_zero rest
  · rw [List.concat_eq_append] at hlast ⊢
    have hc : c.utf8Size = 1 := hlast c (by simp)
    rw [byteLength_concat, hc, Nat.add_sub_cancel, List.append_assoc]
    exact isBoundary_byteLength front ([c] ++ rest)

theorem Fault.Splits.ahead_ne_one (h : fault.Splits text) : fault.ahead ≠ 1 := by
  cases h <;> simp

/-- Behind a character of one byte, no character is split. -/
theorem Follows.not_splits (h : Follows text rest) : ¬ Fault.Splits text ⟨cause, rest, 0⟩ := by
  obtain ⟨before, htext, hlast⟩ := h
  intro hsplits
  cases hsplits with
  | @endInString front c heq hc =>
    rw [List.append_nil] at htext
    have hone : c.utf8Size = 1 := hlast c (by rw [← htext, heq]; simp)
    omega

/-- A text whose last character takes several bytes ends with it. -/
theorem exists_of_not_follows_nil (h : ¬ Follows text []) :
    ∃ before c, text = before ++ [c] ∧ 1 < c.utf8Size := by
  rcases List.eq_nil_or_concat text with rfl | ⟨before, c, rfl⟩
  · exact absurd (.refl []) h
  · rw [List.concat_eq_append] at h ⊢
    have hc : c.utf8Size ≠ 1 := fun hc =>
      h (follows_of_cons_isSuffix (List.suffix_append before [c]) hc)
    have hpos := c.utf8Size_pos
    exact ⟨before, c, rfl, by omega⟩

/-- The byte before the fault is the first of a character unless the fault splits this character. -/
theorem Fault.LiesIn.isBoundary_iff (h : fault.LiesIn text) :
    IsBoundary (fault.position text - 1) text ↔ ¬ fault.Splits text := by
  cases h with
  | @here cause c after hsuffix =>
    obtain ⟨before, rfl⟩ := hsuffix
    have hahead : 1 ≤ byteLength (c :: after) :=
      Nat.le_trans c.utf8Size_pos (Nat.le_add_right _ _)
    rw [position_append hahead, Nat.add_sub_cancel]
    exact iff_of_true (isBoundary_byteLength before (c :: after)) fun h => h.ahead_ne_one rfl
  | @behind cause rest hfollows =>
    have hboundary := hfollows.isBoundary
    have hsplits : ¬ Fault.Splits text ⟨cause, rest, 0⟩ := hfollows.not_splits
    obtain ⟨before, rfl⟩ := hfollows.isSuffix
    rw [byteLength_append, Nat.add_sub_cancel] at hboundary
    rw [position_append (Nat.zero_le _)]
    exact iff_of_true hboundary hsplits
  | atEnd hfollows =>
    rw [position_end]
    exact iff_of_true hfollows.isBoundary fun h => h.ahead_ne_one rfl
  | endInString =>
    rw [position_end]
    by_cases hfollows : Follows text []
    · exact iff_of_true hfollows.isBoundary hfollows.not_splits
    · obtain ⟨before, c, rfl, hc⟩ := exists_of_not_follows_nil hfollows
      rw [byteLength_concat]
      exact iff_of_false (not_isBoundary_inside (by omega) (by omega))
        (not_not_intro (.endInString rfl hc))
  | @badEscape after hsuffix hlength =>
    obtain ⟨before, rfl⟩ := hsuffix
    have htext : before ++ '\\' :: 'u' :: after = before ++ ['\\', 'u'] ++ after := by simp
    have hposition : Fault.position (before ++ '\\' :: 'u' :: after) ⟨.badEscape, after, 4⟩ =
        byteLength (before ++ ['\\', 'u']) + 4 := by
      rw [htext, position_append hlength]
    rw [hposition, Nat.add_sub_assoc (by decide)]
    rcases isBoundary_or_inside (Nat.le_of_succ_le hlength) with hboundary |
      ⟨lead, c, more, rfl, hlead, hc⟩
    · refine iff_of_true (htext ▸ hboundary.append _) fun hsplits => ?_
      cases hsplits with
      | badEscape _ hlead hc => exact not_isBoundary_inside hlead hc hboundary
    · refine iff_of_false ?_ (not_not_intro (.badEscape rfl hlead hc))
      have hinside : before ++ '\\' :: 'u' :: (lead ++ c :: more) =
          before ++ ['\\', 'u'] ++ lead ++ c :: more := by simp
      have hlength' := byteLength_append (before ++ ['\\', 'u']) lead
      rw [hinside]
      exact not_isBoundary_inside (by omega) (by omega)

/-- The offset of a fault is a boundary unless the fault splits a character. -/
theorem Fault.LiesIn.isBoundary_offset_iff (h : fault.LiesIn text) :
    IsBoundary (fault.offset text) text ↔ ¬ fault.Splits text := by
  have hposition : fault.position text ≤ byteLength text := Nat.min_le_right _ _
  exact (isBoundary_offsetOf_iff hposition rfl).trans h.isBoundary_iff

end Json

/-! ## Errors -/

namespace ParseError

variable {source : String} {offset : Nat}

/-- At an offset that is no boundary, the context of the beginning is shown. -/
theorem pointsInto_inSource_of_not_isBoundary (h : ¬ IsBoundary offset source.toList) (kind : Kind)
    (message : String) :
    PointsInto source [] source.toList
      { inSource kind message source offset none with offset := 0 } := by
  have hnone : charsBefore? offset source.toList = none := by
    cases hchars : charsBefore? offset source.toList with
    | none => rfl
    | some n => exact absurd (isBoundary_of_charsBefore? hchars) h
  have hbeginning : { inSource kind message source offset none with offset := 0 } =
      inSource kind message source 0 none := by
    simp only [inSource, hnone, charsBefore?]
    rfl
  rw [hbeginning]
  refine pointsInto_inSource (List.nil_append _).symm kind message ?_
  rintro _ ⟨⟩

end ParseError

namespace Value

open Json.Reader (document)

variable {source : String} {e : ParseError}

/-- A syntax error is a fault that the reader found. -/
theorem exists_fault_of_parseJson_error (h : parseJson source = .error e)
    (hkind : e.kind = .invalidSyntax) :
    ∃ fault, document source.toList = .error fault ∧ e = jsonFault source fault := by
  rw [parseJson] at h
  cases hdocument : document source.toList with
  | error fault =>
    rw [hdocument] at h
    cases h
    exact ⟨fault, rfl, rfl⟩
  | ok j =>
    rw [hdocument] at h
    have hunsupported := kind_of_regular (Json.Reader.regular_of_document hdocument) (by decide) h
    rw [hkind] at hunsupported
    cases hunsupported

/-- A syntax error in a JSON text never points beyond its end. It points into the text, and its
    context shows the surroundings of the place, unless its fault splits a character: then its
    offset lies inside this character, and its context shows the beginning of the text. -/
theorem json_errors_point_into_source (h : parseJson source = .error e)
    (hkind : e.kind = .invalidSyntax) :
    e.offset ≤ source.utf8ByteSize ∧ ∃ fault, document source.toList = .error fault ∧
      (¬ fault.Splits source.toList → ∃ before after, e.PointsInto source before after) ∧
      (fault.Splits source.toList → ¬ IsBoundary e.offset source.toList ∧
        ParseError.PointsInto source [] source.toList { e with offset := 0 }) := by
  obtain ⟨fault, hfault, rfl⟩ := exists_fault_of_parseJson_error h hkind
  have hboundary := (Json.Reader.liesIn_of_document hfault).isBoundary_offset_iff
  refine ⟨?_, fault, hfault, fun hsplits => ?_, fun hsplits => ?_⟩
  · rw [← byteLength_toList]
    exact offsetOf_le _ _ _
  · obtain ⟨before, after, hsource, hoffset⟩ := hboundary.2 hsplits
    refine ⟨before, after, ?_⟩
    rw [jsonFault, ← hoffset]
    exact ParseError.pointsInto_inSource hsource _ _ nofun
  · have hnot : ¬ IsBoundary (fault.offset source.toList) source.toList := fun hboundary' =>
      hboundary.1 hboundary' hsplits
    exact ⟨hnot, ParseError.pointsInto_inSource_of_not_isBoundary hnot _ _⟩

/-- A word that ends too soon, behind a character of two bytes. -/
theorem json_errors_point_into_source_word :
    let source := "\x7b\n  \"é\": tru\x7d"
    let e : ParseError := {
      kind := .invalidSyntax
      message := "Invalid JSON: expected ident at line 2 column 12"
      offset := 13
      context := some "\x7b\\n  \"é\": tru\x7d" }
    parseJson source = .error e ∧ ∃ before after, e.PointsInto source before after := by
  intro source e
  have hchars : source.toList = ['\x7b', '\n', ' ', ' ', '"', 'é', '"', ':', ' ', 't', 'r', 'u',
      '\x7d'] := by decide
  have hdocument : document source.toList = .error ⟨.badWord, ['\x7d'], 1⟩ := by
    rw [hchars]
    cbv
  have herror : parseJson source = .error e := by
    rw [parseJson, hdocument]
    exact congrArg Except.error (show jsonFault source ⟨.badWord, ['\x7d'], 1⟩ = e by
      decide)
  obtain ⟨-, fault, hfault, hpoints, -⟩ := json_errors_point_into_source herror rfl
  obtain rfl := Except.error.inj (hfault.symm.trans hdocument)
  exact ⟨herror, hpoints fun hsplits => hsplits.ahead_ne_one rfl⟩

/-- A text that ends inside a string, with a character of two bytes. -/
theorem not_isBoundary_unclosed :
    let source := "\"é"
    ∃ e, parseJson source = .error e ∧ e.kind = .invalidSyntax ∧
      ¬ IsBoundary e.offset source.toList := by
  have hchars : "\"é".toList = ['"', 'é'] := by decide
  have hdocument : document "\"é".toList = .error ⟨.endInString, [], 0⟩ := by
    rw [hchars]
    cbv
  have herror : parseJson "\"é" = .error (jsonFault "\"é" ⟨.endInString, [], 0⟩) := by
    rw [parseJson, hdocument]
    rfl
  have hinside : ¬ IsBoundary 2 (['"'] ++ 'é' :: []) :=
    not_isBoundary_inside (by decide) (by decide)
  exact ⟨_, herror, rfl, hinside⟩

end Value

end TurnScript
