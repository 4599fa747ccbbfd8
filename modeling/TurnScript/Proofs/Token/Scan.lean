import TurnScript.Token
import TurnScript.Text.Position

/-!
# Scanning what was written

How the scanner goes over the parts of a text that somebody wrote as tokens: a run of word
characters that ends where a word has to end (`run_between_word`), a quoted text with its escapes
(`run_quoted`), a parenthesis, a blank. Every one of them is followed by the scan of the rest, from
between two tokens on and with the tokens so far in front (`prepend`).

`Spells` collects this: characters that are scanned as tokens of given kinds wherever they stand.
-/

namespace TurnScript.Token

open Text

/-! ## Characters -/

theorem isWordChar_iff {c : Char} :
    isWordChar c ↔ isBlank c = false ∧ c ≠ '(' ∧ c ≠ ')' ∧ c ≠ '"' ∧ c ≠ ';' := by
  simp [isWordChar, and_assoc]

/-- No blank begins a token. -/
theorem ne_of_isBlank {c : Char} (hc : isBlank c) :
    c ≠ '(' ∧ c ≠ ')' ∧ c ≠ '"' ∧ c ≠ ';' := by
  refine ⟨?_, ?_, ?_, ?_⟩ <;>
  · rintro rfl
    revert hc
    decide

/-- The text does not go on with a word that stands before it. -/
def Separate (rest : List Char) : Prop := ∀ c ∈ rest.head?, isWordChar c = false

theorem separate_nil : Separate [] := by simp [Separate]

theorem separate_cons {c : Char} {rest : List Char} (hc : isWordChar c = false) :
    Separate (c :: rest) := by
  simpa [Separate] using hc

theorem Separate.append {cs rest : List Char} (hcs : Separate cs) (hrest : Separate rest) :
    Separate (cs ++ rest) := by
  cases cs with
  | nil => exact hrest
  | cons c cs => exact hcs

theorem isWordChar_of_isBlank {c : Char} (hc : isBlank c) : isWordChar c = false := by
  simp [isWordChar, hc]

/-! ## Tokens in front -/

/-- The outcome of a scan with more tokens in front. -/
def prepend (ts : List Token) (r : Except LocatedFault (List Token)) :
    Except LocatedFault (List Token) :=
  r.map (ts ++ ·)

@[simp] theorem prepend_nil (r : Except LocatedFault (List Token)) : prepend [] r = r := by
  cases r <;> rfl

@[simp] theorem prepend_ok (ts us : List Token) : prepend ts (.ok us) = .ok (ts ++ us) := rfl

theorem prepend_prepend (ts us : List Token) (r : Except LocatedFault (List Token)) :
    prepend ts (prepend us r) = prepend (ts ++ us) r := by
  cases r with
  | error l => rfl
  | ok vs => simp

namespace Scanner

variable {comments : Bool} {s s' : Scanner} {offset first : Nat} {c : Char}
  {cs rest letters content : List Char} {ended : List Token}

/-- A scan goes on behind the character that it took. -/
theorem run_cons_of_step (h : s.step comments offset c = .ok (ended, s')) :
    s.run comments offset (c :: cs) = prepend ended (s'.run comments (offset + c.utf8Size) cs) := by
  rw [run, h]
  cases hr : s'.run comments (offset + c.utf8Size) cs <;> simp [bind, Except.bind, hr, prepend,
    Except.map, pure, Except.pure]

/-! ## Between tokens -/

theorem start_of_isWordChar (hc : isWordChar c) :
    start comments offset c = .ok ([], word offset [c]) := by
  obtain ⟨hblank, hopening, hclosing, hquote, hsemicolon⟩ := isWordChar_iff.1 hc
  simp [start, hblank, hopening, hclosing, hquote, hsemicolon]

theorem start_of_isBlank (hc : isBlank c) : start comments offset c = .ok ([], between) := by
  obtain ⟨hopening, hclosing, hquote, hsemicolon⟩ := ne_of_isBlank hc
  simp [start, hc, hopening, hclosing, hquote, hsemicolon]

theorem run_between_blank (hc : isBlank c) :
    between.run comments offset (c :: cs) = between.run comments (offset + c.utf8Size) cs := by
  have hstep : between.step comments offset c = .ok ([], between) := start_of_isBlank hc
  rw [run_cons_of_step hstep, prepend_nil]

theorem run_between_opening :
    between.run comments offset ('(' :: cs) =
      prepend [⟨.opening, offset⟩] (between.run comments (offset + '('.utf8Size) cs) :=
  run_cons_of_step rfl

theorem run_between_closing :
    between.run comments offset (')' :: cs) =
      prepend [⟨.closing, offset⟩] (between.run comments (offset + ')'.utf8Size) cs) :=
  run_cons_of_step rfl

/-! ## Words -/

/-- A word that is begun ends before what separates. -/
theorem run_word_separate (hrest : Separate rest) :
    (word first letters).run comments offset rest =
      prepend [ofLetters first letters] (between.run comments offset rest) := by
  cases rest with
  | nil => rfl
  | cons c rest =>
    have hc : isWordChar c = false := hrest c rfl
    -- the word ends, and `c` is taken as it is between two tokens
    cases hstart : start comments offset c with
    | error l =>
      have hstep : (word first letters).step comments offset c = .error l := by
        simp [step, hc, hstart, Except.map]
      have hbetween : between.step comments offset c = .error l := hstart
      rw [run, run, hstep, hbetween]
      rfl
    | ok next =>
      obtain ⟨ts, s⟩ := next
      have hstep : (word first letters).step comments offset c =
          .ok (ofLetters first letters :: ts, s) := by
        simp [step, hc, hstart, Except.map]
      have hbetween : between.step comments offset c = .ok (ts, s) := hstart
      rw [run_cons_of_step hstep, run_cons_of_step hbetween, prepend_prepend]
      rfl

/-- A word that is begun goes on with word characters. -/
theorem run_word_append (hcs : ∀ c ∈ cs, isWordChar c) (hrest : Separate rest) :
    (word first letters).run comments offset (cs ++ rest) =
      prepend [ofLetters first (cs.reverse ++ letters)]
        (between.run comments (offset + byteLength cs) rest) := by
  induction cs generalizing letters offset with
  | nil => exact run_word_separate hrest
  | cons c cs ih =>
    have hstep : (word first letters).step comments offset c =
        .ok ([], word first (c :: letters)) := by
      simp [step, hcs c List.mem_cons_self]
    rw [List.cons_append, run_cons_of_step hstep, prepend_nil,
      ih fun d hd => hcs d (List.mem_cons_of_mem _ hd)]
    simp [byteLength, Nat.add_assoc]

/-- A run of word characters before what separates is one word. -/
theorem run_between_word (hne : cs ≠ []) (hcs : ∀ c ∈ cs, isWordChar c) (hrest : Separate rest) :
    between.run comments offset (cs ++ rest) =
      prepend [⟨.word (String.ofList cs), offset⟩]
        (between.run comments (offset + byteLength cs) rest) := by
  obtain ⟨c, cs, rfl⟩ := List.exists_cons_of_ne_nil hne
  have hstep : between.step comments offset c = .ok ([], word offset [c]) :=
    start_of_isWordChar (hcs c List.mem_cons_self)
  rw [List.cons_append, run_cons_of_step hstep, prepend_nil,
    run_word_append (fun d hd => hcs d (List.mem_cons_of_mem _ hd)) hrest]
  simp [ofLetters, byteLength, Nat.add_assoc]

/-! ## Quoted texts -/

/-- An escape stands for its character. -/
theorem run_quoted_escape {d : Char} (hd : unescape? c = some d) :
    (quoted first content).run comments offset ('\\' :: c :: cs) =
      (quoted first (d :: content)).run comments (offset + '\\'.utf8Size + c.utf8Size) cs := by
  have hbackslash : (quoted first content).step comments offset '\\' =
      .ok ([], escape first content) := rfl
  have hescape : (escape first content).step comments (offset + '\\'.utf8Size) c =
      .ok ([], quoted first (d :: content)) := by
    simp [step, hd]
  rw [run_cons_of_step hbackslash, prepend_nil, run_cons_of_step hescape, prepend_nil]

/-- Any other character than the quote and the backslash stands for itself. -/
theorem run_quoted_raw (hquote : c ≠ '"') (hbackslash : c ≠ '\\') :
    (quoted first content).run comments offset (c :: cs) =
      (quoted first (c :: content)).run comments (offset + c.utf8Size) cs := by
  have hstep : (quoted first content).step comments offset c =
      .ok ([], quoted first (c :: content)) := by
    simp [step, hquote, hbackslash]
  rw [run_cons_of_step hstep, prepend_nil]

/-- The quote ends a quoted text. -/
theorem run_quoted_quote :
    (quoted first content).run comments offset ('"' :: cs) =
      prepend [⟨.text (String.ofList content.reverse), first⟩]
        (between.run comments (offset + '"'.utf8Size) cs) :=
  run_cons_of_step rfl

theorem run_between_quote :
    between.run comments offset ('"' :: cs) =
      (quoted offset []).run comments (offset + '"'.utf8Size) cs := by
  have hstep : between.step comments offset '"' = .ok ([], quoted offset []) := rfl
  rw [run_cons_of_step hstep, prepend_nil]

end Scanner

/-! ## Characters that spell tokens -/

/-- The characters are scanned as tokens of these kinds, wherever they stand before a text that does
    not go on with a word. -/
def Spells (comments : Bool) (cs : List Char) (kinds : List Kind) : Prop :=
  ∀ offset rest, Separate rest → ∃ ts : List Token, ts.map Token.kind = kinds ∧
    Scanner.between.run comments offset (cs ++ rest) =
      prepend ts (Scanner.between.run comments (offset + byteLength cs) rest)

namespace Spells

variable {comments : Bool} {cs ds : List Char} {kinds more : List Kind}

theorem nil : Spells comments [] [] := fun _ _ _ => ⟨[], rfl, by simp [byteLength]⟩

/-- A blank in front changes nothing. -/
theorem blank {c : Char} (hc : isBlank c) (h : Spells comments cs kinds) :
    Spells comments (c :: cs) kinds := by
  intro offset rest hrest
  obtain ⟨ts, hts, hrun⟩ := h (offset + c.utf8Size) rest hrest
  refine ⟨ts, hts, ?_⟩
  rw [List.cons_append, Scanner.run_between_blank hc, hrun, byteLength, Nat.add_assoc]

theorem opening (h : Spells comments cs kinds) :
    Spells comments ('(' :: cs) (.opening :: kinds) := by
  intro offset rest hrest
  obtain ⟨ts, rfl, hrun⟩ := h (offset + '('.utf8Size) rest hrest
  refine ⟨⟨.opening, offset⟩ :: ts, rfl, ?_⟩
  rw [List.cons_append, Scanner.run_between_opening, hrun, prepend_prepend, byteLength,
    Nat.add_assoc]
  rfl

theorem closing : Spells comments [')'] [.closing] := by
  intro offset rest _
  refine ⟨[⟨.closing, offset⟩], rfl, ?_⟩
  rw [List.cons_append, List.nil_append, Scanner.run_between_closing]
  rfl

/-- Two texts side by side spell the tokens of both, if no word runs from the first into the
    second. -/
theorem append (hcs : Spells comments cs kinds) (hds : Spells comments ds more)
    (hseparate : Separate ds) : Spells comments (cs ++ ds) (kinds ++ more) := by
  intro offset rest hrest
  obtain ⟨ts, rfl, hrun⟩ := hcs offset (ds ++ rest) (hseparate.append hrest)
  obtain ⟨us, rfl, hrun'⟩ := hds (offset + byteLength cs) rest hrest
  refine ⟨ts ++ us, List.map_append, ?_⟩
  rw [List.append_assoc, hrun, hrun', prepend_prepend, byteLength_append, Nat.add_assoc]

/-- A run of word characters spells a word. -/
theorem word (hne : cs ≠ []) (hcs : ∀ c ∈ cs, isWordChar c) :
    Spells comments cs [.word (String.ofList cs)] :=
  fun offset _ hrest => ⟨[⟨_, offset⟩], rfl, Scanner.run_between_word hne hcs hrest⟩

/-- A whole text that spells tokens is scanned as them. -/
theorem scan {source : String} (h : Spells comments source.toList kinds) :
    ∃ ts : List Token, ts.map Token.kind = kinds ∧ Token.scan comments source = .ok ts := by
  obtain ⟨ts, hts, hrun⟩ := h 0 [] separate_nil
  refine ⟨ts, hts, ?_⟩
  rw [List.append_nil] at hrun
  rw [Token.scan, hrun]
  simp [Scanner.run, Scanner.finish]

end Spells

end TurnScript.Token
