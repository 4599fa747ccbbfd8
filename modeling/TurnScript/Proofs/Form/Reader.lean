import TurnScript.Form.Reader

/-!
# The reader, token by token

`readTokens` is what the reader makes of tokens: the forms up to the closing parenthesis of the list
that is open, and the tokens behind it. `readTokens_eq` says what it does with the token in front, and
there is one equation for each kind of token.

`Reads` says, without the reader, which forms stand in front of which tokens, and the reader
succeeds with exactly these (`readTokens_eq_ok_iff`, and for a whole text `readAll_eq_ok_iff`).
-/

namespace TurnScript.Form

/-- The forms in front of the tokens, up to the end of the open list, and the tokens behind. -/
def readTokens (maxDepth depth : Nat) (opened? : Option Nat) (tokens : List Token) :
    Except LocatedFault (List Form × List Token) :=
  (ofTokens maxDepth depth opened? tokens).map fun (forms, rest) => (forms, rest.1)

/-- What is read, with one more form in front. -/
def consForm (form : Form) (r : List Form × List Token) : List Form × List Token :=
  (form :: r.1, r.2)

variable {maxDepth depth offset opened : Nat} {opened? : Option Nat} {tokens rest left : List Token}
  {word content : String} {forms : List Form}

/-! ## Equations -/

/-- What the reader makes of the token in front. -/
theorem readTokens_eq : readTokens maxDepth depth opened? tokens =
    match tokens with
    | [] =>
      match opened? with
      | none => .ok ([], [])
      | some opened => .error ⟨.unclosedList, opened⟩
    | ⟨.closing, offset⟩ :: rest =>
      match opened? with
      | none => .error ⟨.strayClosing, offset⟩
      | some _ => .ok ([], rest)
    | ⟨.opening, offset⟩ :: rest =>
      if depth < maxDepth then
        (readTokens maxDepth (depth + 1) (some offset) rest).bind fun (items, behind) =>
          (readTokens maxDepth depth opened? behind).map (consForm (.list items))
      else .error ⟨.tooDeeplyNested maxDepth, offset⟩
    | ⟨.text content, _⟩ :: rest =>
      (readTokens maxDepth depth opened? rest).map (consForm (.text content))
    | ⟨.word letters, offset⟩ :: rest =>
      match ofWord letters with
      | .error fault => .error ⟨fault, offset⟩
      | .ok form => (readTokens maxDepth depth opened? rest).map (consForm form) := by
  simp only [readTokens]
  rw [ofTokens.eq_def]
  cases tokens with
  | nil => cases opened? <;> rfl
  | cons token rest =>
    obtain ⟨kind, offset⟩ := token
    cases kind with
    | closing => cases opened? <;> rfl
    | text content =>
      dsimp only
      cases ofTokens maxDepth depth opened? rest <;> rfl
    | word letters =>
      dsimp only
      cases ofWord letters with
      | error fault => rfl
      | ok form => cases ofTokens maxDepth depth opened? rest <;> rfl
    | opening =>
      dsimp only
      split
      · cases ofTokens maxDepth (depth + 1) (some offset) rest with
        | error l => rfl
        | ok inner =>
          obtain ⟨items, behind, hle⟩ := inner
          simp only [bind, Except.bind, Except.map]
          cases ofTokens maxDepth depth opened? behind <;> rfl
      · rfl

theorem readTokens_nil_none : readTokens maxDepth depth none [] = .ok ([], []) :=
  readTokens_eq

theorem readTokens_nil_some :
    readTokens maxDepth depth (some opened) [] = .error ⟨.unclosedList, opened⟩ :=
  readTokens_eq

theorem readTokens_closing_none :
    readTokens maxDepth depth none (⟨.closing, offset⟩ :: tokens) =
      .error ⟨.strayClosing, offset⟩ :=
  readTokens_eq

theorem readTokens_closing_some :
    readTokens maxDepth depth (some opened) (⟨.closing, offset⟩ :: tokens) = .ok ([], tokens) :=
  readTokens_eq

/-- A list is read one level down, and the reader goes on behind it. -/
theorem readTokens_opening (h : depth < maxDepth) :
    readTokens maxDepth depth opened? (⟨.opening, offset⟩ :: tokens) =
      (readTokens maxDepth (depth + 1) (some offset) tokens).bind fun (items, behind) =>
        (readTokens maxDepth depth opened? behind).map (consForm (.list items)) :=
  readTokens_eq.trans (if_pos h)

theorem readTokens_opening_of_le (h : maxDepth ≤ depth) :
    readTokens maxDepth depth opened? (⟨.opening, offset⟩ :: tokens) =
      .error ⟨.tooDeeplyNested maxDepth, offset⟩ :=
  readTokens_eq.trans (if_neg (Nat.not_lt.2 h))

theorem readTokens_text :
    readTokens maxDepth depth opened? (⟨.text content, offset⟩ :: tokens) =
      (readTokens maxDepth depth opened? tokens).map (consForm (.text content)) :=
  readTokens_eq

theorem readTokens_word {form : Form} (h : ofWord word = .ok form) :
    readTokens maxDepth depth opened? (⟨.word word, offset⟩ :: tokens) =
      (readTokens maxDepth depth opened? tokens).map (consForm form) :=
  readTokens_eq.trans (by simp only [h])

theorem readTokens_word_error {fault : SourceFault} (h : ofWord word = .error fault) :
    readTokens maxDepth depth opened? (⟨.word word, offset⟩ :: tokens) =
      .error ⟨fault, offset⟩ :=
  readTokens_eq.trans (by simp only [h])

/-- The forms of a source text are those of its tokens. -/
theorem scanAll_eq (options : ReadOptions) (source : String) :
    scanAll options source = (Token.scan options.comments source).bind fun tokens =>
      (readTokens options.maxDepth 0 none tokens).map Prod.fst := by
  rw [scanAll]
  cases Token.scan options.comments source with
  | error l => rfl
  | ok tokens =>
    simp only [bind, Except.bind, readTokens]
    cases ofTokens options.maxDepth 0 none tokens <;> rfl

/-! ## What is read -/

/-- The forms `forms` stand in front of `tokens`, up to the parenthesis that closes the list opened
    at `opened?` or up to the end of the text, and `rest` is behind them; `depth` lists are open. -/
inductive Reads (maxDepth : Nat) :
    (depth : Nat) → (opened? : Option Nat) → (tokens : List Token) → (forms : List Form) →
      (rest : List Token) → Prop
  | done {depth : Nat} : Reads maxDepth depth none [] [] []
  | closed {depth opened offset : Nat} {rest : List Token} :
    Reads maxDepth depth (some opened) (⟨.closing, offset⟩ :: rest) [] rest
  | list {depth offset : Nat} {opened? : Option Nat} {tokens behind rest : List Token}
    {items forms : List Form} : depth < maxDepth →
    Reads maxDepth (depth + 1) (some offset) tokens items behind →
    Reads maxDepth depth opened? behind forms rest →
    Reads maxDepth depth opened? (⟨.opening, offset⟩ :: tokens) (.list items :: forms) rest
  | text {depth offset : Nat} {opened? : Option Nat} {tokens rest : List Token} {content : String}
    {forms : List Form} : Reads maxDepth depth opened? tokens forms rest →
    Reads maxDepth depth opened? (⟨.text content, offset⟩ :: tokens) (.text content :: forms) rest
  | word {depth offset : Nat} {opened? : Option Nat} {tokens rest : List Token} {word : String}
    {form : Form} {forms : List Form} : ofWord word = .ok form →
    Reads maxDepth depth opened? tokens forms rest →
    Reads maxDepth depth opened? (⟨.word word, offset⟩ :: tokens) (form :: forms) rest

/-- What is known of the tokens behind still holds where the proof of it is left out. -/
theorem property_of_map_eq_ok {ε α : Type} {P : List Token → Prop}
    {r : Except ε (α × { rest : List Token // P rest })} {a : α}
    (h : (r.map fun (a, rest) => (a, rest.1)) = .ok (a, rest)) : P rest := by
  cases r with
  | error e => simp [Except.map] at h
  | ok r =>
    obtain ⟨a', rest', hrest⟩ := r
    simp only [Except.map, Except.ok.injEq, Prod.mk.injEq] at h
    exact h.2 ▸ hrest

/-- The tokens behind what was read are no more than there were. -/
theorem length_le_of_readTokens (h : readTokens maxDepth depth opened? tokens = .ok (forms, rest)) :
    rest.length ≤ tokens.length :=
  property_of_map_eq_ok h

theorem map_consForm_eq_ok {form : Form} {r : Except LocatedFault (List Form × List Token)}
    (h : r.map (consForm form) = .ok (forms, rest)) :
    ∃ forms', forms = form :: forms' ∧ r = .ok (forms', rest) := by
  cases r with
  | error l => simp [Except.map] at h
  | ok r =>
    simp only [Except.map, consForm, Except.ok.injEq, Prod.mk.injEq] at h
    exact ⟨r.1, h.1.symm, by rw [← h.2]⟩

theorem error_of_map_consForm {form : Form} {r : Except LocatedFault (List Form × List Token)}
    {l : LocatedFault} (h : r.map (consForm form) = .error l) : r = .error l := by
  cases r with
  | error l' => exact h
  | ok r => exact absurd h nofun

/-- The reader reads what there is. -/
theorem Reads.readTokens_eq (h : Reads maxDepth depth opened? tokens forms rest) :
    readTokens maxDepth depth opened? tokens = .ok (forms, rest) := by
  induction h with
  | done => exact readTokens_nil_none
  | closed => exact readTokens_closing_some
  | list hdepth _ _ inner outer =>
    rw [readTokens_opening hdepth, inner]
    simp [Except.bind, outer, Except.map, consForm]
  | text _ ih => simp [readTokens_text, ih, Except.map, consForm]
  | word hword _ ih => simp [readTokens_word hword, ih, Except.map, consForm]

/-- What the reader reads is there. The tokens behind an inner list are fewer than those that the
    reader was given, so the recursion is on their number. -/
theorem reads_of_readTokens {depth : Nat} {opened? : Option Nat} {tokens rest : List Token}
    {forms : List Form} (h : readTokens maxDepth depth opened? tokens = .ok (forms, rest)) :
    Reads maxDepth depth opened? tokens forms rest := by
  match tokens, opened? with
  | [], none =>
    rw [readTokens_nil_none] at h
    cases h
    exact .done
  | [], some opened => simp [readTokens_nil_some] at h
  | ⟨.closing, offset⟩ :: tokens, none => simp [readTokens_closing_none] at h
  | ⟨.closing, offset⟩ :: tokens, some opened =>
    rw [readTokens_closing_some] at h
    cases h
    exact .closed
  | ⟨.opening, offset⟩ :: tokens, opened? =>
    by_cases hdepth : depth < maxDepth
    · rw [readTokens_opening hdepth] at h
      cases hinner : readTokens maxDepth (depth + 1) (some offset) tokens with
      | error l => simp [hinner, Except.bind] at h
      | ok inner =>
        obtain ⟨items, behind⟩ := inner
        rw [hinner] at h
        obtain ⟨forms', rfl, houter⟩ := map_consForm_eq_ok h
        have hfewer := length_le_of_readTokens hinner
        exact .list hdepth (reads_of_readTokens hinner) (reads_of_readTokens houter)
    · simp [readTokens_opening_of_le (Nat.not_lt.1 hdepth)] at h
  | ⟨.text content, offset⟩ :: tokens, opened? =>
    rw [readTokens_text] at h
    obtain ⟨forms', rfl, hrest⟩ := map_consForm_eq_ok h
    exact .text (reads_of_readTokens hrest)
  | ⟨.word word, offset⟩ :: tokens, opened? =>
    cases hword : ofWord word with
    | error fault => simp [readTokens_word_error hword] at h
    | ok form =>
      rw [readTokens_word hword] at h
      obtain ⟨forms', rfl, hrest⟩ := map_consForm_eq_ok h
      exact .word hword (reads_of_readTokens hrest)
termination_by tokens.length
decreasing_by
  -- the second goal is about what stands behind a list, which `hfewer` bounds
  all_goals
    rw [List.length_cons]
    omega

/-- Reading succeeds with exactly what there is. -/
theorem readTokens_eq_ok_iff :
    readTokens maxDepth depth opened? tokens = .ok (forms, rest) ↔
      Reads maxDepth depth opened? tokens forms rest :=
  ⟨reads_of_readTokens, Reads.readTokens_eq⟩

/-- Behind the forms of a whole text there is nothing. -/
theorem Reads.rest_eq_nil (h : Reads maxDepth depth none tokens forms rest) : rest = [] := by
  generalize hopened : (none : Option Nat) = opened? at h
  induction h with
  | done => rfl
  | closed => simp at hopened
  | list _ _ _ _ outer => exact outer hopened
  | text _ ih => exact ih hopened
  | word _ _ ih => exact ih hopened

theorem readAll_eq_ok_iff_scanAll {options : ReadOptions} {source : String} :
    readAll options source = .ok forms ↔ scanAll options source = .ok forms := by
  rw [readAll]
  cases scanAll options source <;> constructor <;> rintro ⟨⟩ <;> rfl

/-- The forms of a source text are those that its tokens are read as. -/
theorem readAll_eq_ok_iff {options : ReadOptions} {source : String} :
    readAll options source = .ok forms ↔
      ∃ tokens, Token.scan options.comments source = .ok tokens ∧
        Reads options.maxDepth 0 none tokens forms [] := by
  rw [readAll_eq_ok_iff_scanAll, scanAll_eq]
  cases Token.scan options.comments source with
  | error l => simp [Except.bind]
  | ok tokens =>
    simp only [Except.bind, Except.ok.injEq, exists_eq_left', ← readTokens_eq_ok_iff]
    cases hread : readTokens options.maxDepth 0 none tokens with
    | error l => simp [Except.map]
    | ok r =>
      obtain ⟨forms', rest⟩ := r
      have hnil : rest = [] := (readTokens_eq_ok_iff.1 hread).rest_eq_nil
      simp [Except.map, hnil]

end TurnScript.Form
