import TurnScript.Proofs.Form.Descent
import TurnScript.Proofs.Form.Symbol

/-!
# Reading with a stack

Whether tokens can be read is decided in one pass over them, which remembers nothing but the offsets
of the parentheses that are open, the innermost first (`Token.stackError?`). The pass ends at the
first token that is at fault where it stands, or at the end with a parenthesis that is still open.

The reader goes down into lists and comes back from them. It fails just where the pass does, and
with an error of the same kind (`stackError?_of_readTokens_error`, `Reads.stackError?_eq`). Where it
succeeds, the forms are made of the same pieces as the tokens, in the same order (`Reads.pieces`).
-/

namespace TurnScript

/-! ## The pass over the tokens -/

namespace Token

/-- The kind of error that a token is while the parentheses at these offsets are open: a closing
    parenthesis if none is open, an opening one if no more may be open, and a word that is neither a
    number nor a symbol. -/
def faultKind? (maxDepth : Nat) (stack : List Nat) : Kind → Option ParseError.Kind
  | .closing => if stack = [] then some .invalidSyntax else none
  | .opening => if maxDepth ≤ stack.length then some .tooDeeplyNested else none
  | .word letters =>
    if Integer.ofText? letters = none ∧
        (Form.looksNumeric letters.toList ∨ ¬Form.isSymbol letters.toList) then
      some .invalidSyntax
    else none
  | .text _ => none

/-- The offsets of the parentheses that are open behind a token. -/
def openBehind (stack : List Nat) (t : Token) : List Nat :=
  match t.kind with
  | .opening => t.offset :: stack
  | .closing => stack.tail
  | .text _ | .word _ => stack

/-- The kind and the offset of the first error in the tokens, behind parentheses that are open at
    the offsets `stack`. -/
def stackError? (maxDepth : Nat) : (stack : List Nat) → (tokens : List Token) →
    Option (ParseError.Kind × Nat)
  | [], [] => none
  | opened :: _, [] => some (.incomplete, opened)
  | stack, t :: rest =>
    match faultKind? maxDepth stack t.kind with
    | some kind => some (kind, t.offset)
    | none => stackError? maxDepth (openBehind stack t) rest

variable {maxDepth : Nat} {stack : List Nat} {t : Token} {tokens : List Token}

theorem stackError?_cons_some {kind : ParseError.Kind}
    (h : faultKind? maxDepth stack t.kind = some kind) :
    stackError? maxDepth stack (t :: tokens) = some (kind, t.offset) := by
  rw [stackError?, h]

theorem stackError?_cons_none (h : faultKind? maxDepth stack t.kind = none) :
    stackError? maxDepth stack (t :: tokens) =
      stackError? maxDepth (openBehind stack t) tokens := by
  rw [stackError?, h]

end Token

/-! ## Pieces of forms -/

/-- What forms are written with: parentheses, and forms without parts. -/
inductive Piece
  | opening
  | closing
  | atom (form : Form)
  deriving DecidableEq

/-- A token as a piece, a word being the number that it writes or else a symbol. -/
def Token.Kind.piece : Token.Kind → Piece
  | .opening => .opening
  | .closing => .closing
  | .text content => .atom (.text content)
  | .word letters =>
    match Integer.ofText? letters with
    | some n => .atom (.number n)
    | none => .atom (.symbol letters)

namespace Form

mutual

/-- The pieces of a form, from left to right. -/
def pieces : Form → List Piece
  | .list items => .opening :: (piecesIn items ++ [.closing])
  | form => [.atom form]

/-- The pieces of several forms. -/
def piecesIn : List Form → List Piece
  | [] => []
  | form :: rest => pieces form ++ piecesIn rest

end

open Token

variable {maxDepth depth : Nat} {opened? : Option Nat} {stack : List Nat}
  {tokens rest : List Token} {forms : List Form}

/-! ## Words -/

theorem kind_of_ofWord_error {word : String} {fault : SourceFault}
    (h : ofWord word = .error fault) :
    fault.kind = .invalidSyntax ∧
      faultKind? maxDepth stack (.word word) = some .invalidSyntax := by
  cases hn : Integer.ofText? word with
  | some n => simp [ofWord, hn] at h
  | none =>
    cases hl : looksNumeric word.toList with
    | true =>
      simp only [ofWord, hn, hl, if_true, Except.error.injEq] at h
      exact ⟨by rw [← h]; rfl, by simp [faultKind?, hn, hl]⟩
    | false =>
      cases hs : isSymbol word.toList with
      | true => simp [ofWord, hn, hl, hs] at h
      | false =>
        simp only [ofWord, hn, hl, hs, Bool.false_eq_true, if_false, Except.error.injEq] at h
        exact ⟨by rw [← h]; rfl, by simp [faultKind?, hn, hs]⟩

theorem faultKind?_of_ofWord_ok {word : String} {form : Form} (h : ofWord word = .ok form) :
    faultKind? maxDepth stack (.word word) = none := by
  rcases ofWord_eq_ok_iff.1 h with ⟨n, hn, -⟩ | ⟨hn, hs, -⟩
  · simp [faultKind?, hn]
  · simp [faultKind?, hs, looksNumeric_of_isSymbol hs]

/-- A word is read as its piece. -/
theorem pieces_of_ofWord {word : String} {form : Form} (h : ofWord word = .ok form) :
    form.pieces = [(Kind.word word).piece] := by
  rcases ofWord_eq_ok_iff.1 h with ⟨n, hn, rfl⟩ | ⟨hn, -, rfl⟩ <;> simp [Kind.piece, hn, pieces]

/-! ## The reader and the pass -/

/-- What the reader reads, the pass goes over without an error, and it leaves the innermost list. -/
theorem Reads.stackError?_eq (h : Reads maxDepth depth opened? tokens forms rest)
    (hdepth : depth = stack.length) (hopened : opened? = stack.head?) :
    stackError? maxDepth stack tokens = stackError? maxDepth stack.tail rest := by
  induction h generalizing stack with
  | done =>
    obtain rfl := List.head?_eq_none_iff.1 hopened.symm
    rfl
  | closed =>
    cases stack with
    | nil => simp at hopened
    | cons opened stack => exact stackError?_cons_none (by simp [faultKind?])
  | @list depth offset opened? tokens behind rest items forms hless _ _ inner outer =>
    have hnone : faultKind? maxDepth stack .opening = none := by
      simp only [faultKind?, ite_eq_right_iff, reduceCtorEq, imp_false]
      omega
    calc stackError? maxDepth stack (⟨.opening, offset⟩ :: tokens)
        = stackError? maxDepth (offset :: stack) tokens := stackError?_cons_none hnone
      _ = stackError? maxDepth stack behind := inner (by simp [hdepth]) rfl
      _ = stackError? maxDepth stack.tail rest := outer hdepth hopened
  | text _ ih => exact (stackError?_cons_none rfl).trans (ih hdepth hopened)
  | word hword _ ih =>
    exact (stackError?_cons_none (faultKind?_of_ofWord_ok hword)).trans (ih hdepth hopened)

/-- Where the reader fails, the pass ends, with an error of the same kind. As in
    `reads_of_readTokens`, the recursion is on the number of tokens. -/
theorem stackError?_of_readTokens_error {stack : List Nat} {tokens : List Token} {l : LocatedFault}
    (h : readTokens maxDepth stack.length stack.head? tokens = .error l) :
    stackError? maxDepth stack tokens = some (l.fault.kind, l.offset) := by
  match tokens, stack with
  | [], [] => simp [readTokens_nil_none] at h
  | [], opened :: stack =>
    rw [List.head?_cons, readTokens_nil_some] at h
    cases h
    rfl
  | ⟨.closing, offset⟩ :: tokens, [] =>
    rw [List.head?_nil, readTokens_closing_none] at h
    cases h
    rfl
  | ⟨.closing, offset⟩ :: tokens, opened :: stack =>
    rw [List.head?_cons, readTokens_closing_some] at h
    cases h
  | ⟨.opening, offset⟩ :: tokens, stack =>
    by_cases hdepth : stack.length < maxDepth
    · have hnone : faultKind? maxDepth stack .opening = none := by
        simpa [faultKind?] using hdepth
      rw [stackError?_cons_none hnone]
      rw [readTokens_opening hdepth] at h
      cases hinner : readTokens maxDepth (stack.length + 1) (some offset) tokens with
      | error l' =>
        rw [hinner] at h
        cases h
        have hdeeper : readTokens maxDepth (offset :: stack).length (offset :: stack).head? tokens =
            .error l := hinner
        exact stackError?_of_readTokens_error hdeeper
      | ok inner =>
        -- the pass goes on behind the inner list, as the reader does
        obtain ⟨items, behind⟩ := inner
        have hfewer := length_le_of_readTokens hinner
        have houter : readTokens maxDepth stack.length stack.head? behind = .error l := by
          rw [hinner] at h
          exact error_of_map_consForm h
        have hpass : stackError? maxDepth (offset :: stack) tokens =
            stackError? maxDepth stack behind :=
          (reads_of_readTokens hinner).stackError?_eq rfl rfl
        exact hpass.trans (stackError?_of_readTokens_error houter)
    · rw [readTokens_opening_of_le (Nat.not_lt.1 hdepth)] at h
      cases h
      exact stackError?_cons_some (if_pos (Nat.not_lt.1 hdepth))
  | ⟨.text content, offset⟩ :: tokens, stack =>
    rw [readTokens_text] at h
    rw [stackError?_cons_none rfl]
    exact stackError?_of_readTokens_error (error_of_map_consForm h)
  | ⟨.word word, offset⟩ :: tokens, stack =>
    cases hword : ofWord word with
    | error fault =>
      rw [readTokens_word_error hword] at h
      cases h
      obtain ⟨hkind, hfault⟩ := kind_of_ofWord_error hword
      rw [stackError?_cons_some hfault, hkind]
    | ok form =>
      rw [readTokens_word hword] at h
      rw [stackError?_cons_none (faultKind?_of_ofWord_ok hword)]
      exact stackError?_of_readTokens_error (error_of_map_consForm h)
termination_by tokens.length
decreasing_by
  all_goals
    rw [List.length_cons]
    omega

/-- What is read in a list has the pieces of its tokens, up to the parenthesis that closes the
    list. -/
theorem Reads.pieces (h : Reads maxDepth depth opened? tokens forms rest) :
    tokens.map (·.kind.piece) =
      piecesIn forms ++ (opened?.map fun _ => Piece.closing).toList ++ rest.map (·.kind.piece) := by
  induction h with
  | done => rfl
  | closed => rfl
  | list _ _ _ inner outer =>
    rw [List.map_cons, inner, outer]
    simp [piecesIn, Form.pieces, Kind.piece]
  | text _ ih =>
    rw [List.map_cons, ih]
    simp [piecesIn, Form.pieces, Kind.piece]
  | word hword _ ih =>
    rw [List.map_cons, ih]
    simp [piecesIn, pieces_of_ofWord hword]

/-! ## Source texts -/

theorem readAll_of_scan_error {options : ReadOptions} {source : String} {l : LocatedFault}
    (h : Token.scan options.comments source = .error l) :
    readAll options source = .error (l.toParseError source) := by
  rw [readAll, scanAll_eq, h]
  rfl

theorem readAll_of_scan_ok {options : ReadOptions} {source : String} {tokens : List Token}
    (h : Token.scan options.comments source = .ok tokens) :
    readAll options source = ((readTokens options.maxDepth 0 none tokens).map Prod.fst).mapError
      (·.toParseError source) := by
  rw [readAll, scanAll_eq, h]
  rfl

/-- If the text cannot be cut into tokens, then this is the error. Otherwise the pass over the
    tokens decides: its error is the error of reading, and without one the text is read as forms
    that are made of the pieces of the tokens. A reader that goes down from form to form comes to
    the same result, and never looks for a form where there is no token. -/
theorem readAll_eq_stackError (options : ReadOptions) (source : String) :
    match Token.scan options.comments source with
    | .error l => readAll options source = .error (l.toParseError source)
    | .ok tokens =>
      (match stackError? options.maxDepth [] tokens with
        | some (kind, offset) =>
          ∃ e, readAll options source = .error e ∧ e.kind = kind ∧ e.offset = offset
        | none =>
          ∃ forms, readAll options source = .ok forms ∧
            piecesIn forms = tokens.map (·.kind.piece)) ∧
      (∃ r : Except LocatedFault (List Form),
        readForms options.maxDepth tokens = r.mapError .fault ∧
          readAll options source = r.mapError (·.toParseError source)) ∧
      readForms options.maxDepth tokens ≠ .error .noToken := by
  cases hscan : Token.scan options.comments source with
  | error l => exact readAll_of_scan_error hscan
  | ok tokens =>
    have hread := readAll_of_scan_ok hscan
    refine ⟨?_, ⟨_, readForms_eq, hread⟩, ?_⟩
    · cases hr : readTokens options.maxDepth 0 none tokens with
      | error l =>
        have hpass : stackError? options.maxDepth [] tokens = some (l.fault.kind, l.offset) :=
          stackError?_of_readTokens_error hr
        rw [hpass]
        rw [hr] at hread
        exact ⟨_, hread, rfl, rfl⟩
      | ok r =>
        obtain ⟨forms, rest⟩ := r
        have hreads := reads_of_readTokens hr
        obtain rfl := hreads.rest_eq_nil
        have hpass : stackError? options.maxDepth [] tokens = none := hreads.stackError?_eq rfl rfl
        rw [hpass]
        rw [hr] at hread
        exact ⟨forms, hread, by simpa using hreads.pieces.symm⟩
    · rw [readForms_eq]
      cases (readTokens options.maxDepth 0 none tokens).map Prod.fst <;> exact nofun

end Form

end TurnScript
