import TurnScript.Proofs.Error
import TurnScript.Proofs.Form.Stack
import TurnScript.Proofs.Integer.Numeral
import TurnScript.Proofs.Token.Scan

/-!
# Integer literals in source texts

A word that is an integer literal is read as the number that it writes if this fits 64 bits. If it
does not, the word is a fault where it stands, unless its sign is a plus: such a word does not look
like a number and is read as a symbol (`numerals_classified`).
-/

namespace TurnScript

open Text

/-! ## Words that stand alone -/

namespace Token

/-- Blanks between two tokens are passed over. -/
theorem Scanner.run_between_blanks {comments : Bool} {offset : Nat} {blanks rest : List Char}
    (hblanks : ∀ c ∈ blanks, isBlank c) :
    between.run comments offset (blanks ++ rest) =
      between.run comments (offset + byteLength blanks) rest := by
  induction blanks generalizing offset with
  | nil => rfl
  | cons c blanks ih =>
    obtain ⟨hc, hblanks⟩ := List.forall_mem_cons.1 hblanks
    rw [List.cons_append, run_between_blank hc, ih hblanks, byteLength, Nat.add_assoc]

/-- A word between blanks is the only token of its text. -/
theorem scan_word {comments : Bool} {lead letters trail : List Char}
    (hlead : ∀ c ∈ lead, isBlank c) (hne : letters ≠ []) (hletters : ∀ c ∈ letters, isWordChar c)
    (htrail : ∀ c ∈ trail, isBlank c) :
    scan comments (String.ofList (lead ++ (letters ++ trail))) =
      .ok [⟨.word (String.ofList letters), byteLength lead⟩] := by
  have hseparate : Separate trail := fun c hc =>
    isWordChar_of_isBlank (htrail c (List.mem_of_mem_head? hc))
  have hend (offset : Nat) : Scanner.between.run comments offset trail = .ok [] := by
    rw [← List.append_nil trail, Scanner.run_between_blanks htrail]
    rfl
  rw [scan, String.toList_ofList, Scanner.run_between_blanks hlead,
    Scanner.run_between_word hne hletters hseparate, hend, prepend_ok, List.append_nil,
    Nat.zero_add]

end Token

namespace Form

open Integer (Fits Numeral Sign)

variable {letters : List Char} {form : Form} {fault : SourceFault} {c : Char}

/-- The word is read as the form, wherever the reader comes to it among other tokens, and in a text
    that holds only blanks besides. -/
structure ReadAs (letters : List Char) (form : Form) : Prop where
  among : ∀ maxDepth depth opened? offset tokens,
    readTokens maxDepth depth opened? (⟨.word (String.ofList letters), offset⟩ :: tokens) =
      (readTokens maxDepth depth opened? tokens).map (consForm form)
  alone : ∀ options lead trail, (∀ c ∈ lead, isBlank c) → (∀ c ∈ trail, isBlank c) →
    readAll options (String.ofList (lead ++ (letters ++ trail))) = .ok [form]

/-- The word is a syntax error where it stands, wherever the reader comes to it among other tokens,
    and in a text that holds only blanks besides. -/
structure Refused (letters : List Char) : Prop where
  among : ∀ maxDepth depth opened? offset tokens, ∃ fault : SourceFault,
    readTokens maxDepth depth opened? (⟨.word (String.ofList letters), offset⟩ :: tokens) =
      .error ⟨fault, offset⟩ ∧ fault.kind = .invalidSyntax
  alone : ∀ options lead trail, (∀ c ∈ lead, isBlank c) → (∀ c ∈ trail, isBlank c) →
    ∃ e, readAll options (String.ofList (lead ++ (letters ++ trail))) = .error e ∧
      e.kind = .invalidSyntax ∧ e.offset = byteLength lead

theorem readAs_of_ofWord (hne : letters ≠ []) (hletters : ∀ c ∈ letters, Token.isWordChar c)
    (h : ofWord (String.ofList letters) = .ok form) : ReadAs letters form := by
  refine ⟨fun _ _ _ _ _ => readTokens_word h, fun options lead trail hlead htrail => ?_⟩
  rw [readAll_of_scan_ok (Token.scan_word hlead hne hletters htrail), readTokens_word h,
    readTokens_nil_none]
  rfl

theorem refused_of_ofWord (hne : letters ≠ []) (hletters : ∀ c ∈ letters, Token.isWordChar c)
    (h : ofWord (String.ofList letters) = .error fault) : Refused letters := by
  -- the kind does not depend on the lists around the word
  have hkind : fault.kind = .invalidSyntax := (@kind_of_ofWord_error 0 [] _ _ h).1
  refine ⟨fun _ _ _ _ _ => ⟨fault, readTokens_word_error h, hkind⟩,
    fun options lead trail hlead htrail => ?_⟩
  rw [readAll_of_scan_ok (Token.scan_word hlead hne hletters htrail), readTokens_word_error h]
  exact ⟨_, rfl, hkind, rfl⟩

/-! ## Literals -/

theorem isSymbolChar_of_isDigit (hc : c.isDigit) : isSymbolChar c := by
  simp [isSymbolChar, isAlphanumeric, Char.isAlphanum, hc]

/-- All characters of a literal may stand in a symbol. -/
theorem isSymbolChar_of_mem_numeral (l : Numeral) (hc : c ∈ l.toList) : isSymbolChar c := by
  rcases List.mem_append.1 hc with hmark | hdigit
  · have hsign : l.sign.mark.all isSymbolChar := by
      cases l.sign <;> decide
    exact List.all_eq_true.1 hsign c hmark
  · exact isSymbolChar_of_isDigit (l.isDigit_of_mem c hdigit)

/-- A literal looks like a number if its sign is no plus. -/
theorem looksNumeric_numeral (l : Numeral) :
    looksNumeric l.toList = decide (l.sign ≠ .plus) := by
  obtain ⟨c, cs, hcs, hc, -⟩ := l.exists_digits_eq_cons
  rw [Numeral.toList, hcs]
  cases l.sign with
  | unsigned =>
    have hminus : c ≠ '-' := by
      rintro rfl
      cases hc
    rw [Sign.mark, List.nil_append, looksNumeric.eq_2 _ _ (fun _ _ heq _ => hminus heq), hc]
    rfl
  | plus => rfl
  | minus => exact hc

/-- A literal whose number fits 64 bits is that number. -/
theorem ofWord_of_fits {l : Numeral} (h : Fits l.value) :
    ∃ n : Int64, n.toInt = l.value ∧ ofWord l.text = .ok (.number n) := by
  obtain ⟨n, hn, hread⟩ := Integer.ofInt?_of_fits h
  exact ⟨n, hn, by simp only [ofWord, Integer.ofText?_numeral, hread]⟩

/-- A literal whose number does not fit is a fault, or a symbol if its sign is a plus. -/
theorem ofWord_of_not_fits {l : Numeral} (h : ¬ Fits l.value) :
    ofWord l.text =
      if l.sign = .plus then .ok (.symbol l.text) else .error (.badNumber l.text) := by
  have hnone : Integer.ofText? l.text = none := by
    rw [Integer.ofText?_numeral, Integer.ofInt?_of_not_fits h]
  have hchars : l.text.toList = l.toList := String.toList_ofList
  simp only [ofWord, hnone, hchars, looksNumeric_numeral, decide_eq_true_eq]
  by_cases hplus : l.sign = .plus
  · have hsymbol : isSymbol l.toList := by
      simp only [isSymbol, looksNumeric_numeral, hplus, Bool.and_eq_true, Bool.not_eq_true',
        List.isEmpty_eq_false_iff, List.all_eq_true]
      exact ⟨⟨l.toList_ne_nil, rfl⟩, fun c hc => isSymbolChar_of_mem_numeral l hc⟩
    rw [if_neg (fun h => h hplus), if_pos hsymbol, if_pos hplus]
  · rw [if_pos hplus, if_neg hplus]

/-- A literal of any length is read as the number that it writes if this fits 64 bits. If it does
    not fit, the literal is a syntax error where it stands, unless it has a plus sign: then it is
    read as a symbol. -/
theorem numerals_classified (l : Numeral) :
    (Fits l.value → ∃ n : Int64, n.toInt = l.value ∧ ReadAs l.toList (.number n)) ∧
      (¬ Fits l.value → l.sign ≠ .plus → Refused l.toList) ∧
      (¬ Fits l.value → l.sign = .plus → ReadAs l.toList (.symbol l.text)) := by
  have hletters : ∀ c ∈ l.toList, Token.isWordChar c := fun c hc =>
    isWordChar_of_isSymbolChar (isSymbolChar_of_mem_numeral l hc)
  refine ⟨fun h => ?_, fun h hplus => ?_, fun h hplus => ?_⟩
  · obtain ⟨n, hn, hread⟩ := ofWord_of_fits h
    exact ⟨n, hn, readAs_of_ofWord l.toList_ne_nil hletters hread⟩
  · exact refused_of_ofWord l.toList_ne_nil hletters ((ofWord_of_not_fits h).trans (if_neg hplus))
  · exact readAs_of_ofWord l.toList_ne_nil hletters ((ofWord_of_not_fits h).trans (if_pos hplus))

/-- The last literals on both sides that are numbers, and the first that are not. -/
theorem numerals_classified_limits :
    let least : Numeral := { sign := .minus, digits := "9223372036854775808".toList }
    let beyondLeast : Numeral := { sign := .minus, digits := "9223372036854775809".toList }
    let greatest : Numeral := { sign := .plus, digits := "009223372036854775807".toList }
    let beyondGreatest : Numeral := { sign := .plus, digits := "9223372036854775808".toList }
    (Fits least.value ∧ ReadAs least.toList (.number (-9223372036854775808))) ∧
      (Fits greatest.value ∧ ReadAs greatest.toList (.number 9223372036854775807)) ∧
      (¬ Fits beyondLeast.value ∧ beyondLeast.sign ≠ .plus ∧ Refused beyondLeast.toList) ∧
      (¬ Fits beyondGreatest.value ∧ beyondGreatest.sign = .plus ∧
        ReadAs beyondGreatest.toList (.symbol "+9223372036854775808")) := by
  intro least beyondLeast greatest beyondGreatest
  have hleast : Fits least.value := by decide
  have hgreatest : Fits greatest.value := by decide
  have hbeyondLeast : ¬ Fits beyondLeast.value := by decide
  have hbeyondGreatest : ¬ Fits beyondGreatest.value := by decide
  have hminus : beyondLeast.sign ≠ .plus := by decide
  refine ⟨⟨hleast, ?_⟩, ⟨hgreatest, ?_⟩,
    ⟨hbeyondLeast, hminus, (numerals_classified beyondLeast).2.1 hbeyondLeast hminus⟩,
    ⟨hbeyondGreatest, rfl, (numerals_classified beyondGreatest).2.2 hbeyondGreatest rfl⟩⟩
  · obtain ⟨n, hn, hread⟩ := (numerals_classified least).1 hleast
    obtain rfl : n = -9223372036854775808 := Int64.toInt_inj.1 hn
    exact hread
  · obtain ⟨n, hn, hread⟩ := (numerals_classified greatest).1 hgreatest
    obtain rfl : n = 9223372036854775807 := Int64.toInt_inj.1 hn
    exact hread

/-- A literal can be read as a symbol. -/
theorem not_refused_beyond_greatest :
    let l : Numeral := { sign := .plus, digits := "9223372036854775808".toList }
    ¬ Fits l.value ∧ readAll {} l.text = .ok [.symbol "+9223372036854775808"] ∧
      ¬ Refused l.toList := by
  intro l
  have hread : readAll {} l.text = .ok [.symbol "+9223372036854775808"] :=
    eq_ok_of_toOption (by decide +kernel)
  refine ⟨by decide, hread, fun hrefused => ?_⟩
  obtain ⟨e, herror, -⟩ := hrefused.alone {} [] [] nofun nofun
  exact nomatch hread.symm.trans herror

end Form

end TurnScript
