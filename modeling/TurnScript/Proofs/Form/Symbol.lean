import TurnScript.Form.Reader

/-!
# Words that are symbols

A symbol holds no character that ends a word (`isWordChar_of_isSymbolChar`). A word is read as a
symbol just if it is one and writes no number (`ofWord_eq_ok_iff`).
-/

namespace TurnScript

namespace Text

/-- The letters and digits of ASCII lie between the digit zero and the end of ASCII. -/
theorem toNat_of_isAlphanum {c : Char} (hc : c.isAlphanum) : 0x30 ≤ c.toNat ∧ c.toNat < 0x80 := by
  rcases Bool.or_eq_true_iff.1 hc with hletter | hdigit
  · rcases Bool.or_eq_true_iff.1 hletter with hupper | hlower
    · have hrange : 65 ≤ c.toNat ∧ c.toNat ≤ 90 := of_decide_eq_true hupper
      omega
    · obtain ⟨hlow, hhigh⟩ := Bool.and_eq_true_iff.1 hlower
      have hfirst : 97 ≤ c.toNat := of_decide_eq_true hlow
      have hlast : c.toNat ≤ 122 := of_decide_eq_true hhigh
      omega
  · obtain ⟨hlow, hhigh⟩ := Bool.and_eq_true_iff.1 hdigit
    have hfirst : 48 ≤ c.toNat := of_decide_eq_true hlow
    have hlast : c.toNat ≤ 57 := of_decide_eq_true hhigh
    omega

/-- No letter or number of any script is blank. -/
theorem isBlank_of_isAlphanumeric {c : Char} (hc : isAlphanumeric c) : isBlank c = false := by
  -- beyond ASCII, the codes of the blanks are few enough to be looked up one by one
  have htable : ∀ r ∈ blankRanges, ∀ n ∈ List.range' r.1 (r.2 + 1 - r.1),
      0x80 ≤ n ∧ alphanumericRanges.contains n = false := by decide +kernel
  rw [Bool.eq_false_iff]
  intro hblank
  simp only [isBlank, Bool.or_eq_true, Bool.and_eq_true, beq_iff_eq, decide_eq_true_eq,
    List.any_eq_true] at hblank
  simp only [isAlphanumeric, Bool.or_eq_true, Bool.and_eq_true, decide_eq_true_eq] at hc
  rcases hc with hc | ⟨hbeyond, hc⟩
  · obtain ⟨hzero, hascii⟩ := toNat_of_isAlphanum hc
    rcases hblank with (rfl | hcontrol) | ⟨r, hr, hlow, hhigh⟩
    · exact absurd hzero (by decide)
    · omega
    · have := (htable r hr c.toNat (List.mem_range'_1.2 (by omega))).1
      omega
  · rcases hblank with (rfl | hcontrol) | ⟨r, hr, hlow, hhigh⟩
    · exact absurd hbeyond (by decide)
    · omega
    · have hnone := (htable r hr c.toNat (List.mem_range'_1.2 (by omega))).2
      exact absurd hc (by rw [hnone]; decide)

end Text

namespace Form

/-- A symbol character does not end a word. -/
theorem isWordChar_of_isSymbolChar {c : Char} (hc : isSymbolChar c) : Token.isWordChar c := by
  have hblank : Text.isBlank c = false := by
    simp only [isSymbolChar, Bool.or_eq_true, List.contains_iff_mem] at hc
    rcases hc with hc | hc
    · exact Text.isBlank_of_isAlphanumeric hc
    · have hmarks : symbolMarks.all (!Text.isBlank ·) := by decide
      simpa using List.all_eq_true.1 hmarks c hc
  have hends : ['(', ')', '"', ';'].all (!isSymbolChar ·) := by decide
  have hne : ∀ d ∈ ['(', ')', '"', ';'], c ≠ d := by
    rintro d hd rfl
    have hend : isSymbolChar c = false := by simpa using List.all_eq_true.1 hends c hd
    exact absurd hc (by rw [hend]; decide)
  simp only [Token.isWordChar, hblank, Bool.not_false, Bool.true_and, Bool.and_eq_true, bne_iff_ne]
  exact ⟨⟨⟨hne _ (by simp), hne _ (by simp)⟩, hne _ (by simp)⟩, hne _ (by simp)⟩

/-- A symbol is not empty, and all its characters belong to a word. -/
theorem isWord_of_isSymbol {name : List Char} (h : isSymbol name) :
    name ≠ [] ∧ ∀ c ∈ name, Token.isWordChar c := by
  simp only [isSymbol, Bool.and_eq_true, Bool.not_eq_true', List.isEmpty_eq_false_iff,
    List.all_eq_true] at h
  exact ⟨h.1.1, fun c hc => isWordChar_of_isSymbolChar (h.2 c hc)⟩

theorem looksNumeric_of_isSymbol {name : List Char} (h : isSymbol name) :
    looksNumeric name = false := by
  simp only [isSymbol, Bool.and_eq_true, Bool.not_eq_true'] at h
  exact h.1.2

/-- A form that a word is read as: the number that it writes or, where it writes none, itself as a
    symbol. -/
theorem ofWord_eq_ok_iff {word : String} {form : Form} :
    ofWord word = .ok form ↔
      (∃ n, Integer.ofText? word = some n ∧ form = .number n) ∨
        (Integer.ofText? word = none ∧ isSymbol word.toList ∧ form = .symbol word) := by
  cases hn : Integer.ofText? word with
  | some n =>
    have hword : ofWord word = .ok (.number n) := by simp only [ofWord, hn]
    constructor
    · rintro h
      rw [hword] at h
      exact .inl ⟨n, rfl, (Except.ok.inj h).symm⟩
    · rintro (⟨m, hm, rfl⟩ | ⟨hm, -⟩)
      · rw [hword, Option.some.inj hm]
      · exact absurd hm (by simp)
  | none =>
    by_cases hs : isSymbol word.toList
    · have hword : ofWord word = .ok (.symbol word) := by
        simp [ofWord, hn, looksNumeric_of_isSymbol hs, hs]
      simp only [hword, Except.ok.injEq, reduceCtorEq, false_and, exists_false, false_or,
        true_and, hs]
      exact eq_comm
    · cases hl : looksNumeric word.toList <;> simp [ofWord, hn, hl, hs]

end Form

end TurnScript
