import TurnScript.Proofs.Form.Reader

/-!
# Reading form by form

Another way to read: a reader for one form, and one for the elements of a list, which calls the
first for each of them (`readForm`, `readItems`). The reader for one form may find that there is no
token where it should begin. Nobody calls it there, so this never happens, and the forms of a text
and the first fault are the same as those of the reader that goes from token to token
(`readForms_eq`).
-/

namespace TurnScript.Form

/-- Why no form was read. -/
inductive ReadFailure
  /-- There is a fault. -/
  | fault (located : LocatedFault)
  /-- There are no tokens where a form was expected. -/
  | noToken

mutual

/-- Reads the form that the tokens begin with, inside of `depth` lists. -/
def readForm (maxDepth depth : Nat) (tokens : List Token) :
    Except ReadFailure (Form × { rest : List Token // rest.length < tokens.length }) :=
  match tokens with
  | [] => .error .noToken
  | ⟨.closing, offset⟩ :: _ => .error (.fault ⟨.strayClosing, offset⟩)
  | ⟨.text content, _⟩ :: rest => .ok (.text content, ⟨rest, Nat.lt_succ_self _⟩)
  | ⟨.word letters, offset⟩ :: rest =>
    match ofWord letters with
    | .error fault => .error (.fault ⟨fault, offset⟩)
    | .ok form => .ok (form, ⟨rest, Nat.lt_succ_self _⟩)
  | ⟨.opening, offset⟩ :: rest =>
    if maxDepth < depth + 1 then .error (.fault ⟨.tooDeeplyNested maxDepth, offset⟩)
    else do
      let (items, ⟨behind, h⟩) ← readItems maxDepth (depth + 1) offset rest
      return (.list items, ⟨behind, Nat.lt_succ_of_le h⟩)
termination_by (tokens.length, 0)

/-- Reads the elements of the list that was opened at `opened`, inside of `depth` lists. -/
def readItems (maxDepth depth opened : Nat) (tokens : List Token) :
    Except ReadFailure (List Form × Rest tokens) :=
  match tokens with
  | [] => .error (.fault ⟨.unclosedList, opened⟩)
  | ⟨.closing, _⟩ :: rest => .ok ([], ⟨rest, Nat.le_succ _⟩)
  | tokens => do
    let (form, ⟨behind, h⟩) ← readForm maxDepth depth tokens
    let (forms, ⟨rest, h'⟩) ← readItems maxDepth depth opened behind
    return (form :: forms, ⟨rest, Nat.le_of_lt (Nat.lt_of_le_of_lt h' h)⟩)
termination_by (tokens.length, 1)

end

/-- Reads forms as long as there are tokens. -/
def readForms (maxDepth : Nat) (tokens : List Token) : Except ReadFailure (List Form) :=
  if tokens = [] then .ok []
  else do
    let (form, ⟨behind, _⟩) ← readForm maxDepth 0 tokens
    let forms ← readForms maxDepth behind
    return form :: forms
termination_by tokens.length

variable {maxDepth depth offset opened : Nat} {opened? : Option Nat} {t : Token}
  {tokens : List Token} {word content : String}

/-! ## Equations -/

/-- The form that the tokens begin with, and the tokens behind it. -/
def firstForm (maxDepth depth : Nat) (tokens : List Token) :
    Except ReadFailure (Form × List Token) :=
  (readForm maxDepth depth tokens).map fun (form, rest) => (form, rest.1)

/-- The elements of a list that is open, and the tokens behind it. -/
def firstItems (maxDepth depth opened : Nat) (tokens : List Token) :
    Except ReadFailure (List Form × List Token) :=
  (readItems maxDepth depth opened tokens).map fun (forms, rest) => (forms, rest.1)

/-- What the reader for one form makes of the token in front. -/
theorem firstForm_eq : firstForm maxDepth depth tokens =
    match tokens with
    | [] => .error .noToken
    | ⟨.closing, offset⟩ :: _ => .error (.fault ⟨.strayClosing, offset⟩)
    | ⟨.text content, _⟩ :: rest => .ok (.text content, rest)
    | ⟨.word letters, offset⟩ :: rest =>
      match ofWord letters with
      | .error fault => .error (.fault ⟨fault, offset⟩)
      | .ok form => .ok (form, rest)
    | ⟨.opening, offset⟩ :: rest =>
      if maxDepth < depth + 1 then .error (.fault ⟨.tooDeeplyNested maxDepth, offset⟩)
      else (firstItems maxDepth (depth + 1) offset rest).map
        fun (items, behind) => (.list items, behind) := by
  rw [firstForm, readForm.eq_def]
  cases tokens with
  | nil => rfl
  | cons token rest =>
    obtain ⟨kind, offset⟩ := token
    cases kind with
    | closing => rfl
    | text content => rfl
    | word letters =>
      dsimp only
      cases ofWord letters <;> rfl
    | opening =>
      dsimp only
      split
      · rfl
      · rw [firstItems]
        cases readItems maxDepth (depth + 1) offset rest <;> rfl

/-- What the reader for the elements of a list makes of the token in front. -/
theorem firstItems_eq : firstItems maxDepth depth opened tokens =
    match tokens with
    | [] => .error (.fault ⟨.unclosedList, opened⟩)
    | ⟨.closing, _⟩ :: rest => .ok ([], rest)
    | tokens => (firstForm maxDepth depth tokens).bind fun (form, behind) =>
        (firstItems maxDepth depth opened behind).map (consForm form) := by
  simp only [firstItems, firstForm]
  rw [readItems.eq_def]
  split
  · rfl
  · rfl
  · cases readForm maxDepth depth _ with
    | error failure => rfl
    | ok first =>
      obtain ⟨form, behind, hfewer⟩ := first
      simp only [bind, Except.bind, Except.map]
      cases readItems maxDepth depth opened behind <;> rfl

theorem firstForm_closing : firstForm maxDepth depth (⟨.closing, offset⟩ :: tokens) =
    .error (.fault ⟨.strayClosing, offset⟩) :=
  firstForm_eq

theorem firstForm_text :
    firstForm maxDepth depth (⟨.text content, offset⟩ :: tokens) = .ok (.text content, tokens) :=
  firstForm_eq

theorem firstForm_word {form : Form} (h : ofWord word = .ok form) :
    firstForm maxDepth depth (⟨.word word, offset⟩ :: tokens) = .ok (form, tokens) :=
  firstForm_eq.trans (by simp only [h])

theorem firstForm_word_error {fault : SourceFault} (h : ofWord word = .error fault) :
    firstForm maxDepth depth (⟨.word word, offset⟩ :: tokens) =
      .error (.fault ⟨fault, offset⟩) :=
  firstForm_eq.trans (by simp only [h])

theorem firstForm_opening_of_le (h : maxDepth ≤ depth) :
    firstForm maxDepth depth (⟨.opening, offset⟩ :: tokens) =
      .error (.fault ⟨.tooDeeplyNested maxDepth, offset⟩) :=
  firstForm_eq.trans (if_pos (Nat.lt_succ_of_le h))

theorem firstForm_opening (h : depth < maxDepth) :
    firstForm maxDepth depth (⟨.opening, offset⟩ :: tokens) =
      (firstItems maxDepth (depth + 1) offset tokens).map
        fun (items, behind) => (.list items, behind) :=
  firstForm_eq.trans (if_neg (by omega))

theorem firstItems_nil :
    firstItems maxDepth depth opened [] = .error (.fault ⟨.unclosedList, opened⟩) :=
  firstItems_eq

theorem firstItems_closing :
    firstItems maxDepth depth opened (⟨.closing, offset⟩ :: tokens) = .ok ([], tokens) :=
  firstItems_eq

theorem firstItems_cons (h : t.kind ≠ .closing) :
    firstItems maxDepth depth opened (t :: tokens) =
      (firstForm maxDepth depth (t :: tokens)).bind fun (form, behind) =>
        (firstItems maxDepth depth opened behind).map (consForm form) := by
  obtain ⟨kind, offset⟩ := t
  cases kind with
  | closing => exact absurd rfl h
  | _ => exact firstItems_eq

theorem length_lt_of_firstForm {form : Form} {behind : List Token}
    (h : firstForm maxDepth depth tokens = .ok (form, behind)) :
    behind.length < tokens.length :=
  property_of_map_eq_ok h

/-! ## The two readers -/

theorem mapError_map {α β : Type} (f : α → β) (r : Except LocatedFault α) :
    (r.map f).mapError ReadFailure.fault = (r.mapError ReadFailure.fault).map f := by
  cases r <;> rfl

/-- Where there is no closing parenthesis, to go on reading is to read one form and then to go on,
    provided that the elements of a list are the same for both readers. -/
theorem readTokens_cons (h : t.kind ≠ .closing)
    (hitems : ∀ depth opened, firstItems maxDepth depth opened tokens =
      (readTokens maxDepth depth (some opened) tokens).mapError .fault) :
    (readTokens maxDepth depth opened? (t :: tokens)).mapError .fault =
      (firstForm maxDepth depth (t :: tokens)).bind fun (form, behind) =>
        ((readTokens maxDepth depth opened? behind).mapError .fault).map (consForm form) := by
  obtain ⟨kind, offset⟩ := t
  cases kind with
  | closing => exact absurd rfl h
  | text content =>
    rw [readTokens_text, firstForm_text, mapError_map]
    rfl
  | word word =>
    cases hword : ofWord word with
    | error fault =>
      rw [readTokens_word_error hword, firstForm_word_error hword]
      rfl
    | ok form =>
      rw [readTokens_word hword, firstForm_word hword, mapError_map]
      rfl
  | opening =>
    by_cases hdepth : depth < maxDepth
    · rw [readTokens_opening hdepth, firstForm_opening hdepth, hitems]
      cases readTokens maxDepth (depth + 1) (some offset) tokens with
      | error l => rfl
      | ok inner => exact mapError_map _ _
    · rw [readTokens_opening_of_le (Nat.not_lt.1 hdepth),
        firstForm_opening_of_le (Nat.not_lt.1 hdepth)]
      rfl

/-- The elements of a list are the same for both readers. -/
theorem firstItems_eq_readTokens {depth opened : Nat} {tokens : List Token} :
    firstItems maxDepth depth opened tokens =
      (readTokens maxDepth depth (some opened) tokens).mapError .fault := by
  match tokens with
  | [] =>
    rw [firstItems_nil, readTokens_nil_some]
    rfl
  | t :: tokens =>
    by_cases h : t.kind = .closing
    · obtain ⟨_, offset⟩ := t
      cases h
      rw [firstItems_closing, readTokens_closing_some]
      rfl
    · rw [firstItems_cons h, readTokens_cons h fun _ _ => firstItems_eq_readTokens]
      cases hfirst : firstForm maxDepth depth (t :: tokens) with
      | error failure => rfl
      | ok first =>
        obtain ⟨form, behind⟩ := first
        have hfewer := length_lt_of_firstForm hfirst
        change (firstItems maxDepth depth opened behind).map (consForm form) = _
        rw [firstItems_eq_readTokens]
        rfl
termination_by tokens.length
decreasing_by
  · exact Nat.lt_succ_self _
  · exact hfewer

/-- The forms of a text are the same for both readers, and so is the first fault. In particular, the
    reader for one form always finds a token to begin with. -/
theorem readForms_eq {tokens : List Token} :
    readForms maxDepth tokens =
      ((readTokens maxDepth 0 none tokens).map Prod.fst).mapError .fault := by
  match tokens with
  | [] =>
    rw [readForms, if_pos rfl, readTokens_nil_none]
    rfl
  | t :: tokens =>
    have hforms : readForms maxDepth (t :: tokens) =
        (firstForm maxDepth 0 (t :: tokens)).bind fun (form, behind) =>
          (readForms maxDepth behind).map (form :: ·) := by
      rw [readForms, if_neg (by simp), firstForm]
      cases readForm maxDepth 0 (t :: tokens) with
      | error failure => rfl
      | ok first =>
        obtain ⟨form, behind, hfewer⟩ := first
        simp only [bind, Except.bind, Except.map]
        cases readForms maxDepth behind <;> rfl
    rw [hforms]
    by_cases h : t.kind = .closing
    · obtain ⟨_, offset⟩ := t
      cases h
      rw [firstForm_closing, readTokens_closing_none]
      rfl
    · rw [mapError_map, readTokens_cons h fun _ _ => firstItems_eq_readTokens]
      cases hfirst : firstForm maxDepth 0 (t :: tokens) with
      | error failure => rfl
      | ok first =>
        obtain ⟨form, behind⟩ := first
        have hfewer := length_lt_of_firstForm hfirst
        change (readForms maxDepth behind).map (form :: ·) = _
        rw [readForms_eq]
        simp only [Except.bind]
        cases readTokens maxDepth 0 none behind <;> rfl
termination_by tokens.length
decreasing_by exact hfewer

end TurnScript.Form
