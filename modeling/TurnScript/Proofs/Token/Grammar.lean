import Mathlib.Data.List.Induction
import Mathlib.Data.List.TakeWhile
import TurnScript.Proofs.Token.Scan

/-!
# The lexical grammar

What the scanner accepts, said without a scanner. A text is taken apart (`Lexes`) into the
characters of its tokens (`Lexeme`) and what may stand between them (`Trivia`). A word takes all the
word characters that follow it, so that two words never stand side by side, and a comment takes all
of its line.

Whatever cannot be taken apart comes to a place where neither a token nor trivia begins (`Stuck`): a
semicolon that opens no comment, or a quoted text that goes wrong before its closing quote. Every
text has a front part that can be taken apart with nothing, or such a place, behind it
(`exists_lexes`), and the scanner agrees with both (`Lexes.run`, `Stuck.run`).

* `scan_eq_grammar`: a text is scanned as the tokens that it is taken apart into; if there are none,
  the fault is the one behind the longest part that can be taken apart.
-/

namespace TurnScript.Token

open Text

/-! ## The grammar -/

/-- The characters between two quotes and the text that they stand for. -/
inductive Literal : (body content : List Char) → Prop
  | nil : Literal [] []
  /-- A character that stands for itself. -/
  | raw {c : Char} {body content : List Char} (hquote : c ≠ '"') (hbackslash : c ≠ '\\')
      (hbody : Literal body content) : Literal (c :: body) (c :: content)
  /-- An escape. -/
  | escape {c d : Char} {body content : List Char} (hd : unescape? c = some d)
      (hbody : Literal body content) : Literal ('\\' :: c :: body) (d :: content)

/-- The characters of one token before `after`. A word is not cut short: none of what follows
    belongs to it. -/
inductive Lexeme (after : List Char) : List Char → Kind → Prop
  | opening : Lexeme after ['('] .opening
  | closing : Lexeme after [')'] .closing
  | word {letters : List Char} (hne : letters ≠ []) (hletters : ∀ c ∈ letters, isWordChar c)
      (hmaximal : Separate after) : Lexeme after letters (.word (String.ofList letters))
  | text {body content : List Char} (hbody : Literal body content) :
      Lexeme after ('"' :: (body ++ ['"'])) (.text (String.ofList content))

/-- Characters before `after` that separate tokens: a blank, or a comment up to the end of its
    line. -/
inductive Trivia (comments : Bool) (after : List Char) : List Char → Prop
  | blank {c : Char} (hc : isBlank c) : Trivia comments after [c]
  | comment {line : List Char} (hcomments : comments) (hline : '\n' ∉ line)
      (hend : ∀ c ∈ after.head?, c = '\n') : Trivia comments after (';' :: ';' :: line)

/-- The characters between `before` and `after` are taken apart into lexemes and trivia. The tokens
    are those of the lexemes, each at the byte length of all that stands before it. -/
inductive Lexes (comments : Bool) (after : List Char) :
    (before cs : List Char) → List Token → Prop
  | nil {before : List Char} : Lexes comments after before [] []
  | trivia {before passed cs : List Char} {tokens : List Token}
      (hpassed : Trivia comments (cs ++ after) passed)
      (hcs : Lexes comments after (before ++ passed) cs tokens) :
      Lexes comments after before (passed ++ cs) tokens
  | token {before lexeme cs : List Char} {kind : Kind} {tokens : List Token}
      (hlexeme : Lexeme (cs ++ after) lexeme kind)
      (hcs : Lexes comments after (before ++ lexeme) cs tokens) :
      Lexes comments after before (lexeme ++ cs) (⟨kind, byteLength before⟩ :: tokens)

/-- A whole text can be taken apart. -/
def IsLexed (comments : Bool) (cs : List Char) : Prop := ∃ tokens, Lexes comments [] [] cs tokens

/-- A text that begins with neither a lexeme nor trivia: the fault, its kind, and the characters
    before the place of the fault. -/
inductive Stuck (comments : Bool) :
    List Char → SourceFault → ParseError.Kind → (passed : List Char) → Prop
  /-- A semicolon that opens no comment. -/
  | semicolon {cs : List Char} (hcs : ¬ (comments = true ∧ cs.head? = some ';')) :
      Stuck comments (';' :: cs) (.strayCharacter ';') .invalidSyntax []
  /-- A quoted text with a backslash before a character that makes no escape. -/
  | unknownEscape {c : Char} {body content cs : List Char} (hbody : Literal body content)
      (hc : unescape? c = none) :
      Stuck comments ('"' :: (body ++ '\\' :: c :: cs)) .unknownEscape .invalidSyntax ('"' :: body)
  /-- A quoted text that the end of the text leaves open, perhaps in the middle of an escape. -/
  | unterminated {body content tail : List Char} (hbody : Literal body content)
      (htail : tail = [] ∨ tail = ['\\']) :
      Stuck comments ('"' :: (body ++ tail)) .unterminatedText .incomplete []

/-- A text that begins with neither a lexeme nor trivia. -/
def IsStuck (comments : Bool) (cs : List Char) : Prop :=
  ∃ fault kind passed, Stuck comments cs fault kind passed

variable {comments : Bool} {offset first : Nat}
  {before cs ds after later passed lexeme body content tail rest : List Char} {kind : Kind}
  {tokens : List Token} {fault : SourceFault} {k : ParseError.Kind}

/-! ## The scanner follows the grammar -/

/-- A quoted text that is begun goes on with what stands for a text. -/
theorem Literal.run {collected : List Char} (h : Literal body content) :
    (Scanner.quoted first collected).run comments offset (body ++ cs) =
      (Scanner.quoted first (content.reverse ++ collected)).run comments
        (offset + byteLength body) cs := by
  induction h generalizing offset collected with
  | nil => rfl
  | raw hquote hbackslash _ ih =>
    rw [List.cons_append, Scanner.run_quoted_raw hquote hbackslash, ih]
    simp [byteLength, Nat.add_assoc]
  | escape hd _ ih =>
    rw [List.cons_append, List.cons_append, Scanner.run_quoted_escape hd, ih]
    simp [byteLength, Nat.add_assoc]

theorem Lexeme.run (h : Lexeme after lexeme kind) :
    Scanner.between.run comments offset (lexeme ++ after) =
      prepend [⟨kind, offset⟩]
        (Scanner.between.run comments (offset + byteLength lexeme) after) := by
  cases h with
  | opening => exact Scanner.run_between_opening
  | closing => exact Scanner.run_between_closing
  | word hne hletters hmaximal => exact Scanner.run_between_word hne hletters hmaximal
  | @text body content hbody =>
    rw [List.cons_append, List.append_assoc, Scanner.run_between_quote, hbody.run,
      List.singleton_append, Scanner.run_quoted_quote]
    simp [byteLength, byteLength_append, Nat.add_assoc]

/-- A comment that is begun goes on to the end of its line. -/
theorem run_comment {line : List Char} (hline : '\n' ∉ line) (hend : ∀ c ∈ after.head?, c = '\n') :
    Scanner.comment.run comments offset (line ++ after) =
      Scanner.between.run comments (offset + byteLength line) after := by
  induction line generalizing offset with
  | nil =>
    cases after with
    | nil => rfl
    | cons c after =>
      obtain rfl : c = '\n' := hend c rfl
      have hstep : Scanner.comment.step comments offset '\n' = .ok ([], .between) := rfl
      rw [List.nil_append, Scanner.run_cons_of_step hstep, prepend_nil, byteLength,
        Nat.add_zero, Scanner.run_between_blank (by decide)]
  | cons c line ih =>
    obtain ⟨hc, hline⟩ := not_or.1 (List.mem_cons.not.1 hline)
    have hstep : Scanner.comment.step comments offset c = .ok ([], .comment) := by
      simp [Scanner.step, Ne.symm hc]
    rw [List.cons_append, Scanner.run_cons_of_step hstep, prepend_nil, ih hline, byteLength,
      Nat.add_assoc]

theorem Trivia.run (h : Trivia comments after passed) :
    Scanner.between.run comments offset (passed ++ after) =
      Scanner.between.run comments (offset + byteLength passed) after := by
  cases h with
  | blank hc => exact Scanner.run_between_blank hc
  | @comment line hcomments hline hend =>
    have hfirst : Scanner.between.step comments offset ';' = .ok ([], .semicolon offset) := by
      simp [Scanner.step, Scanner.start, hcomments]
    have hsecond : (Scanner.semicolon offset).step comments (offset + ';'.utf8Size) ';' =
        .ok ([], .comment) := rfl
    rw [List.cons_append, List.cons_append, Scanner.run_cons_of_step hfirst, prepend_nil,
      Scanner.run_cons_of_step hsecond, prepend_nil, run_comment hline hend]
    simp [byteLength, Nat.add_assoc]

/-- What is taken apart is scanned as its tokens, before the scan of the rest. -/
theorem Lexes.run (h : Lexes comments after before cs tokens) :
    Scanner.between.run comments (byteLength before) (cs ++ after) =
      prepend tokens (Scanner.between.run comments (byteLength (before ++ cs)) after) := by
  induction h with
  | nil => simp
  | trivia hpassed _ ih =>
    rw [List.append_assoc, hpassed.run, ← byteLength_append, ih, List.append_assoc]
  | token hlexeme _ ih =>
    rw [List.append_assoc, hlexeme.run, ← byteLength_append, ih, prepend_prepend,
      List.append_assoc]
    rfl

theorem Lexes.scan {source : String} (h : Lexes comments [] [] source.toList tokens) :
    scan comments source = .ok tokens := by
  have hrun := h.run
  rw [List.append_nil, List.nil_append] at hrun
  calc Scanner.between.run comments 0 source.toList
      = prepend tokens (.ok []) := hrun
    _ = .ok tokens := by simp

/-- The scanner fails where neither a lexeme nor trivia begins. -/
theorem Stuck.run (h : Stuck comments rest fault k passed) :
    Scanner.between.run comments offset rest = .error ⟨fault, offset + byteLength passed⟩ := by
  cases h with
  | @semicolon cs hcs =>
    cases comments with
    | false => rfl
    | true =>
      cases cs with
      | nil => rfl
      | cons c cs =>
        have hc : c ≠ ';' := by simpa using hcs
        simp [Scanner.run, Scanner.step, Scanner.start, hc, bind, Except.bind, byteLength]
  | @unknownEscape c body content cs hbody hc =>
    have hbackslash (n : Nat) (collected : List Char) :
        (Scanner.quoted offset collected).step comments n '\\' =
          .ok ([], .escape offset collected) := rfl
    rw [Scanner.run_between_quote, hbody.run, Scanner.run_cons_of_step (hbackslash _ _),
      prepend_nil, Scanner.run]
    -- a backslash is one byte
    have hsize : '\\'.utf8Size = 1 := rfl
    simp [Scanner.step, hc, bind, Except.bind, byteLength, hsize, ← Nat.add_assoc]
  | unterminated hbody htail =>
    rw [Scanner.run_between_quote, hbody.run]
    obtain rfl | rfl := htail <;> rfl

/-! ## Quoted texts that go wrong -/

theorem IsStuck.raw {c : Char} (hquote : c ≠ '"') (hbackslash : c ≠ '\\')
    (h : IsStuck comments ('"' :: cs)) : IsStuck comments ('"' :: c :: cs) := by
  obtain ⟨_, _, _, h⟩ := h
  cases h with
  | unknownEscape hbody hc => exact ⟨_, _, _, .unknownEscape (hbody.raw hquote hbackslash) hc⟩
  | unterminated hbody htail => exact ⟨_, _, _, .unterminated (hbody.raw hquote hbackslash) htail⟩

theorem IsStuck.escape {c d : Char} (hd : unescape? c = some d)
    (h : IsStuck comments ('"' :: cs)) : IsStuck comments ('"' :: '\\' :: c :: cs) := by
  obtain ⟨_, _, _, h⟩ := h
  cases h with
  | unknownEscape hbody hc => exact ⟨_, _, _, .unknownEscape (hbody.escape hd) hc⟩
  | unterminated hbody htail => exact ⟨_, _, _, .unterminated (hbody.escape hd) htail⟩

theorem isStuck_quote : IsStuck comments ['"'] :=
  ⟨_, _, _, @Stuck.unterminated _ [] [] [] .nil (.inl rfl)⟩

theorem isStuck_backslash : IsStuck comments ['"', '\\'] :=
  ⟨_, _, _, @Stuck.unterminated _ [] [] ['\\'] .nil (.inr rfl)⟩

theorem isStuck_unknownEscape {c : Char} (hc : unescape? c = none) :
    IsStuck comments ('"' :: '\\' :: c :: cs) :=
  ⟨_, _, _, .unknownEscape .nil hc⟩

/-- Behind a quote, a text closes or goes wrong. -/
theorem exists_literal_or_isStuck (comments : Bool) (cs : List Char) :
    (∃ body content after, Literal body content ∧ cs = body ++ '"' :: after) ∨
      IsStuck comments ('"' :: cs) := by
  induction cs using List.twoStepInduction with
  | nil => exact .inr isStuck_quote
  | singleton c =>
    obtain rfl | hquote := eq_or_ne c '"'
    · exact .inl ⟨[], [], [], .nil, rfl⟩
    obtain rfl | hbackslash := eq_or_ne c '\\'
    · exact .inr isStuck_backslash
    exact .inr (isStuck_quote.raw hquote hbackslash)
  | cons_cons c d cs ih_skip ih =>
    obtain rfl | hquote := eq_or_ne c '"'
    · exact .inl ⟨[], [], _, .nil, rfl⟩
    obtain rfl | hbackslash := eq_or_ne c '\\'
    · cases he : unescape? d with
      | none => exact .inr (isStuck_unknownEscape he)
      | some e =>
        obtain ⟨body, content, after, hbody, rfl⟩ | h := ih_skip
        · exact .inl ⟨_, _, after, hbody.escape he, rfl⟩
        · exact .inr (h.escape he)
    · obtain ⟨body, content, after, hbody, hcs⟩ | h := ih d
      · exact .inl ⟨_, _, after, hbody.raw hquote hbackslash, by rw [hcs, List.cons_append]⟩
      · exact .inr (h.raw hquote hbackslash)

/-- A text that goes wrong behind `body` has gone wrong, or is open, in every part of it. -/
theorem Literal.isStuck_of_isPrefix (h : Literal body content)
    (htail : ∀ p, p <+: tail → IsStuck comments ('"' :: p)) {p : List Char}
    (hp : p <+: body ++ tail) : IsStuck comments ('"' :: p) := by
  induction h generalizing p with
  | nil => exact htail p hp
  | raw hquote hbackslash _ ih =>
    obtain rfl | ⟨q, rfl, hq⟩ := List.prefix_cons_iff.1 hp
    · exact isStuck_quote
    · exact (ih hq).raw hquote hbackslash
  | escape hd _ ih =>
    obtain rfl | ⟨q, rfl, hq⟩ := List.prefix_cons_iff.1 hp
    · exact isStuck_quote
    obtain rfl | ⟨r, rfl, hr⟩ := List.prefix_cons_iff.1 hq
    · exact isStuck_backslash
    · exact (ih hr).escape hd

theorem isStuck_of_isPrefix_unknownEscape {c : Char} (hc : unescape? c = none) {p : List Char}
    (hp : p <+: '\\' :: c :: cs) : IsStuck comments ('"' :: p) := by
  obtain rfl | ⟨q, rfl, hq⟩ := List.prefix_cons_iff.1 hp
  · exact isStuck_quote
  obtain rfl | ⟨r, rfl, _⟩ := List.prefix_cons_iff.1 hq
  · exact isStuck_backslash
  · exact isStuck_unknownEscape hc

/-! ## Parts of a text -/

/-- Where a text is cut does not matter to what begins it. -/
theorem mem_head_of_isPrefix (h : later <+: after) {c : Char} (hc : c ∈ later.head?) :
    c ∈ after.head? := by
  obtain ⟨tail, rfl⟩ := h
  cases later with
  | nil => simp at hc
  | cons d later => exact hc

/-- Lexemes and trivia are the same before less of a text. -/
theorem Lexes.of_isPrefix (hlater : later <+: after) (h : Lexes comments after before cs tokens) :
    Lexes comments later before cs tokens := by
  induction h with
  | nil => exact .nil
  | @trivia before passed cs tokens hpassed _ ih =>
    have hfront : cs ++ later <+: cs ++ after := (List.prefix_append_right_inj cs).2 hlater
    refine .trivia ?_ ih
    cases hpassed with
    | blank hc => exact .blank hc
    | comment hcomments hline hend =>
      exact .comment hcomments hline fun c hc => hend c (mem_head_of_isPrefix hfront hc)
  | @token before lexeme cs kind tokens hlexeme _ ih =>
    have hfront : cs ++ later <+: cs ++ after := (List.prefix_append_right_inj cs).2 hlater
    refine .token ?_ ih
    cases hlexeme with
    | opening => exact .opening
    | closing => exact .closing
    | word hne hletters hmaximal =>
      exact .word hne hletters fun c hc => hmaximal c (mem_head_of_isPrefix hfront hc)
    | text hbody => exact .text hbody

/-- Where neither a lexeme nor trivia begins, none does before less of the text. -/
theorem IsStuck.of_isPrefix (h : IsStuck comments rest) {p : List Char} (hp : p <+: rest)
    (hne : p ≠ []) : IsStuck comments p := by
  obtain ⟨c, q, rfl⟩ := List.exists_cons_of_ne_nil hne
  obtain ⟨_, _, _, h⟩ := h
  cases h with
  | semicolon hcs =>
    obtain ⟨rfl, hq⟩ := List.cons_prefix_cons.1 hp
    exact ⟨_, _, _, .semicolon fun ⟨hcomments, hc⟩ => hcs ⟨hcomments, mem_head_of_isPrefix hq hc⟩⟩
  | unknownEscape hbody hc =>
    obtain ⟨rfl, hq⟩ := List.cons_prefix_cons.1 hp
    exact hbody.isStuck_of_isPrefix (fun _ => isStuck_of_isPrefix_unknownEscape hc) hq
  | unterminated hbody htail =>
    obtain ⟨rfl, hq⟩ := List.cons_prefix_cons.1 hp
    refine hbody.isStuck_of_isPrefix (fun r hr => ?_) hq
    obtain rfl | rfl := htail
    · exact List.prefix_nil.1 hr ▸ isStuck_quote
    · obtain rfl | ⟨t, rfl, ht⟩ := List.prefix_cons_iff.1 hr
      · exact isStuck_quote
      · exact List.prefix_nil.1 ht ▸ isStuck_backslash

/-! ## Every text -/

theorem head?_dropWhile {p : Char → Bool} {c : Char} (hc : c ∈ (cs.dropWhile p).head?) :
    p c = false := by
  have hnot := List.head?_dropWhile_not p cs
  rwa [Option.mem_def.1 hc] at hnot

/-- A text that is not empty begins with trivia or a lexeme, or is stuck. -/
theorem exists_front (comments : Bool) (hne : cs ≠ []) :
    (∃ front rest, front ≠ [] ∧ cs = front ++ rest ∧
      (Trivia comments rest front ∨ ∃ kind, Lexeme rest front kind)) ∨ IsStuck comments cs := by
  obtain ⟨c, cs, rfl⟩ := List.exists_cons_of_ne_nil hne
  by_cases hblank : isBlank c = true
  · exact .inl ⟨[c], cs, List.cons_ne_nil _ _, rfl, .inl (.blank hblank)⟩
  obtain rfl | hopening := eq_or_ne c '('
  · exact .inl ⟨['('], cs, List.cons_ne_nil _ _, rfl, .inr ⟨_, .opening⟩⟩
  obtain rfl | hclosing := eq_or_ne c ')'
  · exact .inl ⟨[')'], cs, List.cons_ne_nil _ _, rfl, .inr ⟨_, .closing⟩⟩
  obtain rfl | hquote := eq_or_ne c '"'
  · obtain ⟨body, content, after, hbody, rfl⟩ | h := exists_literal_or_isStuck comments cs
    · exact .inl ⟨'"' :: (body ++ ['"']), after, List.cons_ne_nil _ _, by simp,
        .inr ⟨_, .text hbody⟩⟩
    · exact .inr h
  obtain rfl | hsemicolon := eq_or_ne c ';'
  · by_cases hcomment : comments = true ∧ cs.head? = some ';'
    · obtain ⟨hcomments, hhead⟩ := hcomment
      obtain ⟨cs, rfl⟩ := List.head?_eq_some_iff.1 hhead
      refine .inl ⟨';' :: ';' :: cs.takeWhile (· != '\n'), cs.dropWhile (· != '\n'),
        List.cons_ne_nil _ _, by simp, .inl (.comment hcomments ?_ ?_)⟩
      · exact fun h => by simpa using List.mem_takeWhile_imp h
      · exact fun d hd => by simpa using head?_dropWhile hd
    · exact .inr ⟨_, _, _, .semicolon hcomment⟩
  · have hc : isWordChar c := isWordChar_iff.2 ⟨by simpa using hblank, hopening, hclosing, hquote,
      hsemicolon⟩
    refine .inl ⟨c :: cs.takeWhile isWordChar, cs.dropWhile isWordChar, List.cons_ne_nil _ _,
      by simp, .inr ⟨_, .word (List.cons_ne_nil _ _) ?_ fun d hd => head?_dropWhile hd⟩⟩
    intro d hd
    obtain rfl | hd := List.mem_cons.1 hd
    · exact hc
    · exact List.mem_takeWhile_imp hd

/-- Every text has a front part that is taken apart, up to its end or to where it is stuck. -/
theorem exists_lexes (comments : Bool) (before cs : List Char) :
    ∃ front rest tokens, cs = front ++ rest ∧ Lexes comments rest before front tokens ∧
      (rest = [] ∨ IsStuck comments rest) := by
  induction hlength : cs.length using Nat.strongRecOn generalizing before cs with
  | ind n ih =>
    obtain rfl | hne := eq_or_ne cs []
    · exact ⟨[], [], [], rfl, .nil, .inl rfl⟩
    obtain ⟨piece, cs, hpiece, rfl, hfront⟩ | hstuck := exists_front comments hne
    · have hshorter : cs.length < n := by
        rw [← hlength, List.length_append]
        have := List.length_pos_iff.2 hpiece
        omega
      obtain ⟨front, rest, tokens, rfl, hlexes, hrest⟩ :=
        ih cs.length hshorter (before ++ piece) cs rfl
      obtain htrivia | ⟨kind, hlexeme⟩ := hfront
      · exact ⟨piece ++ front, rest, tokens, by simp, .trivia htrivia hlexes, hrest⟩
      · exact ⟨piece ++ front, rest, _, by simp, .token hlexeme hlexes, hrest⟩
    · exact ⟨[], cs, [], rfl, .nil, .inr hstuck⟩

/-- Nothing longer than what stands before a stuck rest can be taken apart. -/
theorem Lexes.prefix_of_isStuck {front : List Char} (hfront : Lexes comments rest [] front tokens)
    (hstuck : IsStuck comments rest) {p : List Char} (hp : p <+: front ++ rest)
    (hlexed : IsLexed comments p) : p <+: front := by
  obtain hp' | ⟨q, rfl⟩ := List.prefix_or_prefix_of_prefix hp (List.prefix_append front rest)
  · exact hp'
  have hq : q <+: rest := (List.prefix_append_right_inj front).1 hp
  obtain rfl | hne := eq_or_ne q []
  · simp
  -- the scan of `front ++ q` fails behind `front`
  obtain ⟨_, _, _, hstuck⟩ := hstuck.of_isPrefix hq hne
  obtain ⟨more, hlexed⟩ := hlexed
  have hrun := (hfront.of_isPrefix hq).run
  rw [hstuck.run] at hrun
  have hok := hlexed.run
  rw [List.append_nil, hrun] at hok
  simp [prepend, Except.map, Scanner.run, Scanner.finish] at hok

/-- A source is scanned as the tokens of its lexemes, exactly if it can be taken apart into lexemes
    and trivia. Otherwise the longest part that can be taken apart stands before a semicolon that
    opens no comment or a quoted text that goes wrong, and this is the fault. -/
theorem scan_eq_grammar (comments : Bool) (source : String) :
    (∀ tokens, scan comments source = .ok tokens ↔
      Lexes comments [] [] source.toList tokens) ∧
    (¬ IsLexed comments source.toList → ∃ front rest, source.toList = front ++ rest ∧
      IsLexed comments front ∧
      (∀ p, p <+: source.toList → IsLexed comments p → p <+: front) ∧
      ∃ fault kind passed, Stuck comments rest fault kind passed ∧
        scan comments source = .error ⟨fault, byteLength (front ++ passed)⟩ ∧
        fault.kind = kind) := by
  obtain ⟨front, rest, tokens, hsource, hlexes, hrest⟩ :=
    exists_lexes comments [] source.toList
  obtain rfl | hstuck := hrest
  · rw [List.append_nil] at hsource
    subst hsource
    refine ⟨fun tokens' => ⟨fun h => ?_, Lexes.scan⟩, fun hno => absurd ⟨tokens, hlexes⟩ hno⟩
    obtain rfl : tokens = tokens' := Except.ok.inj (hlexes.scan.symm.trans h)
    exact hlexes
  · obtain ⟨fault, kind, passed, hrest⟩ := id hstuck
    have hscan : scan comments source = .error ⟨fault, byteLength (front ++ passed)⟩ := by
      have hrun := hlexes.run
      rw [hrest.run, List.nil_append, ← byteLength_append, ← hsource] at hrun
      exact hrun
    refine ⟨fun tokens' => ⟨fun h => ?_, Lexes.scan⟩, fun _ => ⟨front, rest, hsource,
      ⟨tokens, hlexes.of_isPrefix List.nil_prefix⟩, fun p hp hlexed => ?_, fault, kind, passed,
      hrest, hscan, ?_⟩⟩
    · rw [hscan] at h
      cases h
    · exact hlexes.prefix_of_isStuck hstuck (hsource ▸ hp) hlexed
    · cases hrest <;> rfl

/-- A semicolon alone, behind a word and a blank. -/
theorem scan_eq_grammar_semicolon :
    ¬ IsLexed true "f ;g".toList ∧ ∃ front rest, "f ;g".toList = front ++ rest ∧
      IsLexed true front ∧
      (∀ p, p <+: "f ;g".toList → IsLexed true p → p <+: front) ∧
      ∃ fault kind passed, Stuck true rest fault kind passed ∧
        scan true "f ;g" = .error ⟨fault, byteLength (front ++ passed)⟩ ∧ fault.kind = kind := by
  have hscan : scan true "f ;g" = .error ⟨.strayCharacter ';', 2⟩ := rfl
  have hno : ¬ IsLexed true "f ;g".toList := fun ⟨tokens, h⟩ => by
    cases hscan.symm.trans ((scan_eq_grammar true "f ;g").1 tokens |>.2 h)
  exact ⟨hno, (scan_eq_grammar true "f ;g").2 hno⟩

end TurnScript.Token
