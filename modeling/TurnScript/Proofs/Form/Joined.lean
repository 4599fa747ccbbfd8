import TurnScript.Proofs.Error
import TurnScript.Proofs.Form.Reader
import TurnScript.Proofs.Token.Joined

/-!
# Reading texts one below the other

What tokens are read as does not hang on their offsets, which are seen in faults only
(`readTokens_shift`), nor on the tokens behind the end of the open list (`Reads.behind`). So behind a
text that can be read, and a line feed, the reader begins anew: its forms are put in front of those
of the text below, and the fault of the text below, if it has one, is reported at its place in the
whole (`scanAll_append_newline`).

* `readAll_joined`: this for the errors as they are reported.
-/

namespace TurnScript.Form

open Text

variable {options : ReadOptions} {maxDepth depth : Nat} {opened? : Option Nat}
  {tokens more rest : List Token} {forms others : List Form} {front back : String}

/-! ## Tokens further on -/

/-- The outcome of reading, with the fault or the tokens behind as many bytes further on. -/
def shiftRead (bytes : Nat) (r : Except LocatedFault (List Form × List Token)) :
    Except LocatedFault (List Form × List Token) :=
  (r.map fun (forms, rest) => (forms, rest.map (Token.shift bytes))).mapError
    (LocatedFault.shift bytes)

theorem shiftRead_map_consForm (bytes : Nat) (form : Form)
    (r : Except LocatedFault (List Form × List Token)) :
    shiftRead bytes (r.map (consForm form)) = (shiftRead bytes r).map (consForm form) := by
  cases r <;> rfl

/-- Tokens further on are read as the same forms, or with the same fault further on. As in
    `reads_of_readTokens`, the recursion is on the number of tokens. -/
theorem readTokens_shift (bytes : Nat) (opened? : Option Nat) {depth : Nat} {tokens : List Token} :
    readTokens maxDepth depth (opened?.map (· + bytes)) (tokens.map (Token.shift bytes)) =
      shiftRead bytes (readTokens maxDepth depth opened? tokens) := by
  match tokens, opened? with
  | [], none =>
    rw [readTokens_nil_none]
    exact readTokens_nil_none
  | [], some opened =>
    rw [readTokens_nil_some]
    exact readTokens_nil_some
  | ⟨.closing, offset⟩ :: tokens, none =>
    rw [readTokens_closing_none]
    exact readTokens_closing_none
  | ⟨.closing, offset⟩ :: tokens, some opened =>
    rw [readTokens_closing_some]
    exact readTokens_closing_some
  | ⟨.opening, offset⟩ :: tokens, opened? =>
    rw [List.map_cons, Token.shift]
    by_cases hdepth : depth < maxDepth
    · have hinner : readTokens maxDepth (depth + 1) (some (offset + bytes))
          (tokens.map (Token.shift bytes)) =
          shiftRead bytes (readTokens maxDepth (depth + 1) (some offset) tokens) :=
        readTokens_shift bytes (some offset)
      rw [readTokens_opening hdepth, readTokens_opening hdepth, hinner]
      cases hread : readTokens maxDepth (depth + 1) (some offset) tokens with
      | error l => rfl
      | ok r =>
        obtain ⟨items, behind⟩ := r
        have hfewer := length_le_of_readTokens hread
        change (readTokens maxDepth depth (opened?.map (· + bytes))
          (behind.map (Token.shift bytes))).map (consForm (.list items)) =
            shiftRead bytes ((readTokens maxDepth depth opened? behind).map (consForm (.list items)))
        rw [readTokens_shift bytes, shiftRead_map_consForm]
    · have hdeep := Nat.not_lt.1 hdepth
      rw [readTokens_opening_of_le hdeep, readTokens_opening_of_le hdeep]
      rfl
  | ⟨.text content, offset⟩ :: tokens, opened? =>
    rw [List.map_cons, Token.shift, readTokens_text, readTokens_text, readTokens_shift,
      shiftRead_map_consForm]
  | ⟨.word word, offset⟩ :: tokens, opened? =>
    rw [List.map_cons, Token.shift]
    cases hword : ofWord word with
    | error fault =>
      rw [readTokens_word_error hword, readTokens_word_error hword]
      rfl
    | ok form =>
      rw [readTokens_word hword, readTokens_word hword, readTokens_shift, shiftRead_map_consForm]
termination_by tokens.length
decreasing_by
  all_goals
    rw [List.length_cons]
    omega

/-! ## Tokens behind -/

/-- Behind the end of a list there may be more tokens. -/
theorem Reads.behind {opened : Nat} (h : Reads maxDepth depth (some opened) tokens forms rest) :
    Reads maxDepth depth (some opened) (tokens ++ more) forms (rest ++ more) := by
  generalize hopened : some opened = opened? at h
  induction h generalizing opened with
  | done => cases hopened
  | closed => exact .closed
  | list hdepth _ _ inner outer => exact .list hdepth (inner rfl) (outer hopened)
  | text _ ih => exact .text (ih hopened)
  | word hword _ ih => exact .word hword (ih hopened)

/-- Where no list is open, reading goes on behind the tokens of some forms. -/
theorem Reads.readTokens_append (h : Reads maxDepth depth none tokens forms rest) :
    readTokens maxDepth depth none (tokens ++ more) =
      (readTokens maxDepth depth none more).map fun r => (forms ++ r.1, r.2) := by
  generalize hopened : (none : Option Nat) = opened? at h
  have hcons (form : Form) (forms : List Form) (r : Except LocatedFault (List Form × List Token)) :
      (r.map fun r => (forms ++ r.1, r.2)).map (consForm form) =
        r.map fun r => (form :: forms ++ r.1, r.2) := by
    cases r <;> rfl
  induction h with
  | done =>
    rw [List.nil_append]
    cases readTokens maxDepth _ none more <;> rfl
  | closed => cases hopened
  | list hdepth inner _ _ outer =>
    subst hopened
    rw [List.cons_append, readTokens_opening hdepth, inner.behind.readTokens_eq]
    simp only [Except.bind]
    rw [outer rfl, hcons]
  | text _ ih =>
    subst hopened
    rw [List.cons_append, readTokens_text, ih rfl, hcons]
  | word hword _ ih =>
    subst hopened
    rw [List.cons_append, readTokens_word hword, ih rfl, hcons]

/-! ## Texts -/

/-- Behind a text that can be read, and a line feed, another text is read as it is alone. -/
theorem scanAll_append_newline (h : readAll options front = .ok forms) (back : String) :
    scanAll options (front ++ "\n" ++ back) =
      ((scanAll options back).map (forms ++ ·)).mapError
        (LocatedFault.shift (front.utf8ByteSize + 1)) := by
  obtain ⟨tokens, hscan, hreads⟩ := readAll_eq_ok_iff.1 h
  rw [scanAll_eq, scanAll_eq, Token.scan_append_newline hscan, byteLength_toList]
  cases Token.scan options.comments back with
  | error l => rfl
  | ok more =>
    -- the forms of the first text are in front, and the tokens of the second one are read further on
    change (readTokens options.maxDepth 0 none (tokens ++ more.map (Token.shift _))).map Prod.fst = _
    have hmore : readTokens options.maxDepth 0 none
        (more.map (Token.shift (front.utf8ByteSize + 1))) =
        shiftRead (front.utf8ByteSize + 1) (readTokens options.maxDepth 0 none more) :=
      readTokens_shift _ none
    rw [hreads.readTokens_append, hmore, Except.bind]
    cases readTokens options.maxDepth 0 none more <;> rfl

/-- Two texts, one below the other, are read as the forms of both. -/
theorem readAll_append_newline (hfront : readAll options front = .ok forms)
    (hback : readAll options back = .ok others) :
    readAll options (front ++ "\n" ++ back) = .ok (forms ++ others) := by
  rw [readAll, scanAll_append_newline hfront, readAll_eq_ok_iff_scanAll.1 hback]
  rfl

/-- Behind a text that can be read, and a line feed, a text is read as its forms, with those of the
    first one in front, or with an error of the same kind and for the same reason, as many bytes
    further on as stand before it. -/
theorem readAll_joined (hfront : readAll options front = .ok forms) (back : String) :
    (∀ others, readAll options back = .ok others →
        readAll options (front ++ "\n" ++ back) = .ok (forms ++ others)) ∧
      ∀ e, readAll options back = .error e →
        ∃ e', readAll options (front ++ "\n" ++ back) = .error e' ∧ e'.kind = e.kind ∧
          e'.found = e.found ∧ e'.offset = e.offset + front.utf8ByteSize + 1 := by
  refine ⟨fun others => readAll_append_newline hfront, fun e hback => ?_⟩
  rw [readAll] at hback ⊢
  rw [scanAll_append_newline hfront]
  cases hscan : scanAll options back with
  | ok others =>
    rw [hscan] at hback
    cases hback
  | error l =>
    rw [hscan] at hback
    cases hback
    exact ⟨_, rfl, rfl, rfl, (Nat.add_assoc _ _ _).symm⟩

/-- Below a text of ten bytes that ends with a comment, the parenthesis that closes nothing is found
    eleven bytes further on. -/
theorem readAll_joined_comment :
    readAll {} "\"é\" ;; ü" = .ok [.text "é"] ∧
      readAll {} ("\"é\" ;; ü" ++ "\n" ++ "(b)") = .ok ([.text "é"] ++ [.list [.symbol "b"]]) ∧
      ∃ e e', readAll {} "(b))" = .error e ∧
        readAll {} ("\"é\" ;; ü" ++ "\n" ++ "(b))") = .error e' ∧ e'.kind = e.kind ∧
        e'.found = e.found ∧ e'.offset = e.offset + 11 := by
  have hfront : readAll {} "\"é\" ;; ü" = .ok [.text "é"] := eq_ok_of_toOption (by decide +kernel)
  have hback : readAll {} "(b)" = .ok [.list [.symbol "b"]] := eq_ok_of_toOption (by decide +kernel)
  obtain ⟨e, he⟩ : ∃ e, readAll {} "(b))" = .error e :=
    exists_eq_error_of_toOption (by decide +kernel)
  obtain ⟨e', he', hkind, hfound, hoffset⟩ := (readAll_joined hfront "(b))").2 e he
  exact ⟨hfront, (readAll_joined hfront "(b)").1 _ hback, e, e', he, he', hkind, hfound, hoffset⟩

end TurnScript.Form
