import TurnScript.Proofs.Form.Reader
import TurnScript.Proofs.ParseError
import TurnScript.Proofs.Token.Grammar

/-!
# Where faults are

Every token stands in the source at its offset, as it is written (`Token.standsAt_of_scan`), and the
fault of a text that cannot be cut into tokens is where the scanner stops
(`Token.standsAt_of_scan_error`). The reader blames a token, and names it as it is written
(`exists_token_of_readTokens_error`). So the errors of reading point into the source.

* `read_errors_point_into_source`: this for the forms of a text and for a single form.
-/

namespace TurnScript

open Text

/-- There is a place in the text at that byte offset, and what was found stands there. -/
def StandsAt (cs : List Char) (offset : Nat) (found : Option String) : Prop :=
  ∃ before after, cs = before ++ after ∧ byteLength before = offset ∧
    ∀ piece, found = some piece → piece.toList <+: after

namespace Token

variable {comments : Bool} {before cs after rest passed lexeme : List Char} {kind : Kind}
  {t : Token} {tokens : List Token} {fault : SourceFault} {k : ParseError.Kind} {l : LocatedFault}
  {source piece : String}

/-- How a token is written. A quoted text can be written in many ways. -/
def Kind.spelling? : Kind → Option String
  | .opening => some "("
  | .closing => some ")"
  | .word letters => some letters
  | .text _ => none

theorem Lexeme.toList_eq (h : Lexeme after lexeme kind) (hpiece : kind.spelling? = some piece) :
    piece.toList = lexeme := by
  rcases h with _ | _ | _ | _
  · obtain rfl := Option.some.inj hpiece
    rfl
  · obtain rfl := Option.some.inj hpiece
    rfl
  · obtain rfl := Option.some.inj hpiece
    exact String.toList_ofList
  · cases hpiece

/-- The tokens of a text stand where they say. -/
theorem Lexes.standsAt (h : Lexes comments after before cs tokens) (ht : t ∈ tokens) :
    StandsAt (before ++ cs ++ after) t.offset t.kind.spelling? := by
  induction h with
  | nil => exact absurd ht List.not_mem_nil
  | trivia _ _ ih => simpa using ih ht
  | @token before lexeme cs kind tokens hlexeme _ ih =>
    rcases List.mem_cons.1 ht with rfl | ht
    · refine ⟨before, lexeme ++ (cs ++ after), by simp, rfl, fun piece hpiece => ?_⟩
      rw [hlexeme.toList_eq hpiece]
      exact List.prefix_append _ _
    · simpa using ih ht

/-- Where a text is stuck, the fault is found behind the characters that were passed. -/
theorem Stuck.exists_eq_append (h : Stuck comments rest fault k passed) :
    ∃ behind, rest = passed ++ behind ∧
      ∀ piece, fault.found? = some piece → piece.toList <+: behind := by
  rcases h with _ | @⟨c, body, content, cs⟩ | _
  · refine ⟨_, rfl, fun piece hpiece => ?_⟩
    obtain rfl := Option.some.inj hpiece
    exact List.prefix_append [';'] _
  · refine ⟨'\\' :: c :: cs, by simp, fun piece hpiece => ?_⟩
    obtain rfl := Option.some.inj hpiece
    exact List.prefix_append ['\\'] _
  · refine ⟨_, rfl, fun piece hpiece => ?_⟩
    obtain rfl := Option.some.inj hpiece
    exact List.prefix_append ['"'] _

/-- A text is taken apart into its tokens, or up to where it is stuck. -/
theorem scan_cases (comments : Bool) (source : String) :
    (∃ tokens, Lexes comments [] [] source.toList tokens ∧ scan comments source = .ok tokens) ∨
      ∃ front rest fault k passed, source.toList = front ++ rest ∧
        Stuck comments rest fault k passed ∧
        scan comments source = .error ⟨fault, byteLength (front ++ passed)⟩ := by
  obtain ⟨front, rest, tokens, hsource, hlexes, rfl | ⟨fault, k, passed, hstuck⟩⟩ :=
    exists_lexes comments [] source.toList
  · rw [List.append_nil] at hsource
    exact .inl ⟨tokens, hsource ▸ hlexes, (hsource ▸ hlexes).scan⟩
  · refine .inr ⟨front, rest, fault, k, passed, hsource, hstuck, ?_⟩
    have hrun := hlexes.run
    rw [hstuck.run, List.nil_append, ← byteLength_append, ← hsource] at hrun
    exact hrun

theorem standsAt_of_scan (h : scan comments source = .ok tokens) (ht : t ∈ tokens) :
    StandsAt source.toList t.offset t.kind.spelling? := by
  obtain ⟨tokens', hlexes, hscan⟩ | ⟨_, _, _, _, _, _, _, hscan⟩ := scan_cases comments source
  · obtain rfl := Except.ok.inj (hscan.symm.trans h)
    simpa using hlexes.standsAt ht
  · exact nomatch hscan.symm.trans h

theorem standsAt_of_scan_error (h : scan comments source = .error l) :
    StandsAt source.toList l.offset l.fault.found? := by
  obtain ⟨_, _, hscan⟩ | ⟨front, rest, _, _, passed, hsource, hstuck, hscan⟩ :=
    scan_cases comments source
  · exact nomatch hscan.symm.trans h
  · obtain rfl := Except.error.inj (hscan.symm.trans h)
    obtain ⟨behind, rfl, hfound⟩ := hstuck.exists_eq_append
    exact ⟨front ++ passed, behind, by rw [hsource, List.append_assoc], rfl, hfound⟩

end Token

namespace Form

variable {options : ReadOptions} {maxDepth depth : Nat} {opened? : Option Nat}
  {tokens rest : List Token} {forms : List Form} {l : LocatedFault} {source : String}
  {e : ParseError}

/-! ## The reader -/

/-- What is left over stands at the end of the tokens. -/
theorem Reads.isSuffix (h : Reads maxDepth depth opened? tokens forms rest) : rest <:+ tokens := by
  induction h with
  | done => exact List.suffix_rfl
  | closed => exact List.suffix_cons _ _
  | list _ _ _ inner outer => exact (outer.trans inner).trans (List.suffix_cons _ _)
  | text _ ih => exact ih.trans (List.suffix_cons _ _)
  | word _ _ ih => exact ih.trans (List.suffix_cons _ _)

theorem found?_of_ofWord_error {word : String} {fault : SourceFault}
    (h : ofWord word = .error fault) : fault.found? = some word := by
  unfold ofWord at h
  split at h
  · cases h
  · split at h
    · cases h
      rfl
    · split at h
      · cases h
      · cases h
        rfl

/-- The fault is at one of the tokens, and found there is the token as it is written; or it is at
    the parenthesis that the tokens leave open. As in `reads_of_readTokens`, the recursion is on the
    number of tokens. -/
theorem exists_token_of_readTokens_error {depth : Nat} {opened? : Option Nat} {tokens : List Token}
    (h : readTokens maxDepth depth opened? tokens = .error l) :
    (∃ t ∈ tokens, t.offset = l.offset ∧ l.fault.found? = t.kind.spelling?) ∨
      (opened? = some l.offset ∧ l.fault.found? = some "(") := by
  match tokens, opened? with
  | [], none =>
    rw [readTokens_nil_none] at h
    cases h
  | [], some opened =>
    rw [readTokens_nil_some] at h
    cases h
    exact .inr ⟨rfl, rfl⟩
  | ⟨.closing, offset⟩ :: tokens, none =>
    rw [readTokens_closing_none] at h
    cases h
    exact .inl ⟨_, List.mem_cons_self, rfl, rfl⟩
  | ⟨.closing, offset⟩ :: tokens, some opened =>
    rw [readTokens_closing_some] at h
    cases h
  | ⟨.opening, offset⟩ :: tokens, opened? =>
    by_cases hdepth : depth < maxDepth
    · rw [readTokens_opening hdepth] at h
      cases hinner : readTokens maxDepth (depth + 1) (some offset) tokens with
      | error l' =>
        rw [hinner] at h
        cases h
        -- the list that is left open is this one, or stands further on
        obtain ⟨t, ht, hfound⟩ | ⟨hopened, hfound⟩ := exists_token_of_readTokens_error hinner
        · exact .inl ⟨t, List.mem_cons_of_mem _ ht, hfound⟩
        · exact .inl ⟨_, List.mem_cons_self, Option.some.inj hopened, hfound⟩
      | ok inner =>
        obtain ⟨items, behind⟩ := inner
        have hfewer := length_le_of_readTokens hinner
        have houter : readTokens maxDepth depth opened? behind = .error l := by
          rw [hinner] at h
          exact error_of_map_consForm h
        obtain ⟨t, ht, hfound⟩ | hopened := exists_token_of_readTokens_error houter
        · exact .inl ⟨t, List.mem_cons_of_mem _
            ((reads_of_readTokens hinner).isSuffix.subset ht), hfound⟩
        · exact .inr hopened
    · rw [readTokens_opening_of_le (Nat.not_lt.1 hdepth)] at h
      cases h
      exact .inl ⟨_, List.mem_cons_self, rfl, rfl⟩
  | ⟨.text content, offset⟩ :: tokens, opened? =>
    rw [readTokens_text] at h
    refine (exists_token_of_readTokens_error (error_of_map_consForm h)).imp_left ?_
    rintro ⟨t, ht, hfound⟩
    exact ⟨t, List.mem_cons_of_mem _ ht, hfound⟩
  | ⟨.word word, offset⟩ :: tokens, opened? =>
    cases hword : ofWord word with
    | error fault =>
      rw [readTokens_word_error hword] at h
      cases h
      exact .inl ⟨_, List.mem_cons_self, rfl, found?_of_ofWord_error hword⟩
    | ok form =>
      rw [readTokens_word hword] at h
      refine (exists_token_of_readTokens_error (error_of_map_consForm h)).imp_left ?_
      rintro ⟨t, ht, hfound⟩
      exact ⟨t, List.mem_cons_of_mem _ ht, hfound⟩
termination_by tokens.length
decreasing_by
  all_goals
    rw [List.length_cons]
    omega

/-! ## Source texts -/

theorem standsAt_of_scanAll_error (h : scanAll options source = .error l) :
    StandsAt source.toList l.offset l.fault.found? := by
  rw [scanAll_eq] at h
  cases hscan : Token.scan options.comments source with
  | error l' =>
    rw [hscan] at h
    obtain rfl := Except.error.inj h
    exact Token.standsAt_of_scan_error hscan
  | ok tokens =>
    rw [hscan] at h
    cases hread : readTokens options.maxDepth 0 none tokens with
    | error l' =>
      simp only [Except.bind, hread] at h
      obtain rfl := Except.error.inj h
      obtain ⟨t, ht, hoffset, hfound⟩ | ⟨hopened, -⟩ := exists_token_of_readTokens_error hread
      · rw [← hoffset, hfound]
        exact Token.standsAt_of_scan hscan ht
      · cases hopened
    | ok r =>
      simp only [Except.bind, hread] at h
      cases h

/-- A fault that stands where it says is reported as an error that points there. -/
theorem exists_pointsInto_toParseError (h : StandsAt source.toList l.offset l.fault.found?) :
    ∃ before after, (l.toParseError source).PointsInto source before after := by
  obtain ⟨before, after, hsource, hoffset, hfound⟩ := h
  have hpoints := ParseError.pointsInto_inSource hsource l.fault.kind (l.fault.message l.offset)
    hfound
  rw [hoffset] at hpoints
  exact ⟨before, after, hpoints⟩

theorem exists_pointsInto_of_readAll_error (h : readAll options source = .error e) :
    ∃ before after, e.PointsInto source before after := by
  rw [readAll] at h
  cases hscan : scanAll options source with
  | error l =>
    rw [hscan] at h
    obtain rfl := Except.error.inj h
    exact exists_pointsInto_toParseError (standsAt_of_scanAll_error hscan)
  | ok forms =>
    rw [hscan] at h
    cases h

/-- A text of no form is at fault at its end, and a text of several at its beginning. -/
theorem exists_pointsInto_of_readOne_error (h : readOne options source = .error e) :
    ∃ before after, e.PointsInto source before after := by
  rw [readOne] at h
  cases hread : readAll options source with
  | error e' =>
    rw [hread] at h
    obtain rfl := Except.error.inj h
    exact exists_pointsInto_of_readAll_error hread
  | ok forms =>
    rw [hread] at h
    rcases forms with _ | ⟨form, _ | ⟨second, rest⟩⟩
    · obtain rfl := Except.error.inj h
      exact exists_pointsInto_toParseError
        ⟨source.toList, [], (List.append_nil _).symm, byteLength_toList source, nofun⟩
    · cases h
    · obtain rfl := Except.error.inj h
      exact exists_pointsInto_toParseError ⟨[], source.toList, rfl, rfl, nofun⟩

/-- If the forms of a text, or the one form that it should be, cannot be read, the error points into
    the text: its offset is that of a character or of the end, what was found at fault stands there,
    and the context shows the surroundings. -/
theorem read_errors_point_into_source (options : ReadOptions) (source : String) (e : ParseError)
    (h : readAll options source = .error e ∨ readOne options source = .error e) :
    ∃ before after, e.PointsInto source before after :=
  h.elim exists_pointsInto_of_readAll_error exists_pointsInto_of_readOne_error

/-- A number with a letter in it, behind 33 characters that take 38 bytes. -/
theorem read_errors_point_into_source_number :
    let source := "(SAY \"Zwölf Größen, 30 €\")\r\n(SAY 12é)"
    let e : ParseError := {
      kind := .invalidSyntax
      message := "Invalid number literal '12é'"
      offset := 38
      found := some "12é"
      context := some "[...]rößen, 30 €\")\\n(SAY 12é)" }
    readAll {} source = .error e ∧ ∃ before after, e.PointsInto source before after := by
  intro source e
  have herror : readAll {} source = .error e := by decide +kernel
  exact ⟨herror, read_errors_point_into_source {} source e (.inl herror)⟩

end Form

end TurnScript
