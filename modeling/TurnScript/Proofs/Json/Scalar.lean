import Mathlib.Data.Nat.Init
import TurnScript.Json.Conversion
import TurnScript.Proofs.Integer

/-!
# Reading scalars that were written

What the writer makes of a string or an integer is read as this string or integer, and what follows
is left behind (`Reads`). In a string, every character is read from its escape (`reads_string`). The
digits of an integer are collected to its value, as they fit 64 bits (`reads_scalar_toText`); the
text behind them must not continue the number (`Ends`).
-/

namespace TurnScript.Json.Reader

variable {α β : Type} {p q : List Char → Prop} {cs ds rest : List Char} {a : α} {b : β} {c : Char}
  {n : Nat}

/-- What `m` reads is `a`, and it leaves `rest` behind. -/
def Reads (m : Except Fault (α × Subtype p)) (a : α) (rest : List Char) : Prop :=
  ∃ h, m = .ok (a, ⟨rest, h⟩)

/-- One part is read after the other. -/
theorem Reads.bind {m : Except Fault (α × Subtype p)} {left : List Char}
    {f : α × Subtype p → Except Fault (β × Subtype q)} (hm : Reads m a left)
    (hf : ∀ h, Reads (f (a, ⟨left, h⟩)) b rest) : Reads (m >>= f) b rest := by
  obtain ⟨h, rfl⟩ := hm
  exact hf h

/-- What is made of what was read. -/
theorem Reads.map {m : Except Fault (α × Subtype p)} (hm : Reads m a rest) (f : α → β) :
    Reads (m.map fun (a, left) => (f a, left)) (f a) rest := by
  obtain ⟨h, rfl⟩ := hm
  exact ⟨h, rfl⟩

/-! ## Strings -/

/-- A letter behind a backslash stands for a character. -/
theorem reads_escape {letter : Char} (h : escaped? letter = some c) (tail : List Char) :
    Reads (escape (letter :: tail)) c tail := by
  have hletter : letter ≠ 'u' := by
    rintro rfl
    cases h
  rw [escape.eq_3 _ _ hletter, h]
  exact ⟨_, rfl⟩

/-- Two hexadecimal digits write every number below the space. -/
theorem hexValue?_control (h : n < 0x20) :
    hexValue? ['0', '0', Nat.digitChar (n / 16), Nat.digitChar (n % 16)] = some n := by
  revert n
  decide

/-- The characters below the space are written by their number. -/
theorem reads_escape_control (h : c.toNat < 0x20) (tail : List Char) :
    Reads (escape ('u' :: '0' :: '0' :: Nat.digitChar (c.toNat / 16) ::
      Nat.digitChar (c.toNat % 16) :: tail)) c tail := by
  have hlow : isLowSurrogate c.toNat = false := by
    simp only [isLowSurrogate, Bool.and_eq_false_iff, decide_eq_false_iff_not]
    omega
  have hhigh : isHighSurrogate c.toNat = false := by
    simp only [isHighSurrogate, Bool.and_eq_false_iff, decide_eq_false_iff_not]
    omega
  have hunit : Reads (hexUnit ('0' :: '0' :: Nat.digitChar (c.toNat / 16) ::
      Nat.digitChar (c.toNat % 16) :: tail)) c.toNat tail := by
    rw [hexUnit, hexValue?_control h]
    exact ⟨_, rfl⟩
  have hchar : Reads (unicodeEscape ('0' :: '0' :: Nat.digitChar (c.toNat / 16) ::
      Nat.digitChar (c.toNat % 16) :: tail)) c tail := by
    rw [unicodeEscape]
    refine hunit.bind fun _ => ?_
    simp only [hlow, hhigh, Char.ofNat_toNat]
    exact ⟨_, rfl⟩
  rw [escape]
  exact hchar.bind fun _ => ⟨_, rfl⟩

/-- A character is written by a letter behind a backslash, by its number if it is below the space,
    or as it is. -/
theorem escapeChar_cases (c : Char) :
    (∃ letter, escaped? letter = some c ∧ escapeChar c = ['\\', letter]) ∨
      (c.toNat < 0x20 ∧ escapeChar c =
        ['\\', 'u', '0', '0', Nat.digitChar (c.toNat / 16), Nat.digitChar (c.toNat % 16)]) ∨
      (c ≠ '"' ∧ c ≠ '\\' ∧ ¬ c.toNat < 0x20 ∧ escapeChar c = [c]) := by
  fun_cases escapeChar c with
  | case1 => exact .inl ⟨'"', rfl, rfl⟩
  | case2 => exact .inl ⟨'\\', rfl, rfl⟩
  | case3 => exact .inl ⟨'b', rfl, rfl⟩
  | case4 => exact .inl ⟨'f', rfl, rfl⟩
  | case5 => exact .inl ⟨'n', rfl, rfl⟩
  | case6 => exact .inl ⟨'r', rfl, rfl⟩
  | case7 => exact .inl ⟨'t', rfl, rfl⟩
  | case8 _ h => exact .inr (.inl ⟨h, if_pos h⟩)
  | case9 _ h hquote hbackslash => exact .inr (.inr ⟨hquote, hbackslash, h, if_neg h⟩)

/-- What follows a backslash is read as one character. -/
theorem reads_stringChars_escape {letters tail content : List Char}
    (hescape : Reads (escape letters) c tail) (h : Reads (stringChars tail) content rest) :
    Reads (stringChars ('\\' :: letters)) (c :: content) rest := by
  rw [stringChars]
  exact hescape.bind fun _ => h.bind fun _ => ⟨_, rfl⟩

/-- A character is read as it was written. -/
theorem reads_stringChars_escapeChar {tail content : List Char}
    (h : Reads (stringChars tail) content rest) :
    Reads (stringChars (escapeChar c ++ tail)) (c :: content) rest := by
  rcases escapeChar_cases c with ⟨letter, hletter, heq⟩ | ⟨hcontrol, heq⟩ |
    ⟨hquote, hbackslash, hcontrol, heq⟩
  · rw [heq]
    exact reads_stringChars_escape (reads_escape hletter tail) h
  · rw [heq]
    exact reads_stringChars_escape (reads_escape_control hcontrol tail) h
  · rw [heq, List.singleton_append, stringChars.eq_4 _ _ hquote hbackslash, if_neg hcontrol]
    exact h.bind fun _ => ⟨_, rfl⟩

/-- A string is read from what is written between its quotes. -/
theorem reads_string (s : String) (rest : List Char) :
    Reads (string (s.toList.flatMap escapeChar ++ '"' :: rest)) s rest := by
  have hchars : ∀ content : List Char,
      Reads (stringChars (content.flatMap escapeChar ++ '"' :: rest)) content rest := by
    intro content
    induction content with
    | nil =>
      rw [List.flatMap_nil, List.nil_append, stringChars]
      exact ⟨_, rfl⟩
    | cons c content ih =>
      rw [List.flatMap_cons, List.append_assoc]
      exact reads_stringChars_escapeChar ih
  have hstring := (hchars s.toList).map String.ofList
  rwa [String.ofList_toList] at hstring

/-! ## Integers -/

/-- What does not continue a number: the end of the text, or a character that no number holds. -/
def Ends (rest : List Char) : Prop :=
  ∀ c ∈ rest.head?, c.isDigit = false ∧ c ≠ '.' ∧ c ≠ 'e' ∧ c ≠ 'E'

theorem Ends.nil : Ends [] := nofun

theorem Ends.cons (h : c.isDigit = false ∧ c ≠ '.' ∧ c ≠ 'e' ∧ c ≠ 'E') : Ends (c :: rest) := by
  rintro _ ⟨⟩
  exact h

/-- The digits in front of what does not continue them. -/
theorem digits_append (hds : ∀ c ∈ ds, c.isDigit) (hrest : Ends rest) :
    digits (ds ++ rest) = (ds, ⟨rest, (List.sublist_append_right ds rest).length_le⟩) := by
  have hstop : rest.takeWhile Char.isDigit = [] ∧ rest.dropWhile Char.isDigit = rest := by
    cases rest with
    | nil => exact ⟨rfl, rfl⟩
    | cons c rest => simp [(hrest c rfl).1]
  have htake : (ds ++ rest).takeWhile Char.isDigit = ds := by
    rw [List.takeWhile_append_of_pos hds, hstop.1, List.append_nil]
  have hdrop : (ds ++ rest).dropWhile Char.isDigit = rest := by
    rw [List.dropWhile_append_of_pos hds, hstop.2]
  exact Prod.ext htake (Subtype.ext hdrop)

/-- Further digits do not make a number smaller. -/
theorem le_ofDigitChars (ds : List Char) (n : Nat) : n ≤ Nat.ofDigitChars 10 ds n := by
  induction ds generalizing n with
  | nil => exact Nat.le_refl n
  | cons c ds ih =>
    rw [Nat.ofDigitChars_cons]
    exact Nat.le_trans (by omega) (ih _)

/-- All digits are collected if the number that they write fits 64 bits. -/
theorem collect_eq (h : Nat.ofDigitChars 10 ds n ≤ maxSignificand) :
    collect n ds = (Nat.ofDigitChars 10 ds n, ds.length) := by
  induction ds generalizing n with
  | nil => rfl
  | cons c ds ih =>
    rw [Nat.ofDigitChars_cons] at h ⊢
    rw [collect, digitValue, if_pos (Nat.le_trans (le_ofDigitChars ds _) h), ih h]
    rfl

/-- A number is read by its digits, if neither a fraction nor an exponent follows. -/
theorem number_eq (negative : Bool) (hzero : c = '0' → ds = []) (hds : ∀ c ∈ ds, c.isDigit)
    (hrest : Ends rest) {significand kept : Nat}
    (hcollect : collect 0 (c :: ds) = (significand, kept)) :
    number negative c (ds ++ rest) = do
      let (n, ⟨left, h⟩) ← whole negative significand (ds.length + 1 - kept) rest
      return (n, ⟨left, Nat.le_trans h (List.sublist_append_right ds rest).length_le⟩) := by
  have hleading : (c = '0' && !ds.isEmpty) = false := by
    by_cases hc : c = '0'
    · simp [hzero hc]
    · simp [hc]
  rw [number, digits_append hds hrest]
  simp only [hleading, hcollect]
  rw [if_neg Bool.false_ne_true]
  split
  -- neither a point nor the letter of an exponent follows
  · exact absurd rfl (hrest '.' rfl).2.1
  · exact absurd rfl (hrest 'e' rfl).2.2.1
  · exact absurd rfl (hrest 'E' rfl).2.2.2
  · rfl

/-- Digits that write a number of 64 bits are read as it, up to its sign. -/
theorem reads_number {negative : Bool} {m : Nat} {value : Number} (hzero : c = '0' → ds = [])
    (hdigits : ∀ d ∈ c :: ds, d.isDigit) (hvalue : Nat.ofDigitChars 10 (c :: ds) 0 = m)
    (hm : m ≤ maxSignificand) (hrest : Ends rest)
    (hwhole : whole negative m 0 rest = .ok (value, ⟨rest, Nat.le_refl _⟩)) :
    Reads (number negative c (ds ++ rest)) value rest := by
  have hcollect : collect 0 (c :: ds) = (m, ds.length + 1) := by
    rw [collect_eq (hvalue.symm ▸ hm), hvalue, List.length_cons]
  rw [number_eq negative hzero (fun d hd => hdigits d (List.mem_cons_of_mem _ hd)) hrest hcollect,
    Nat.sub_self, hwhole]
  exact ⟨_, rfl⟩

/-- The digits of a number that fits 64 bits are read as it, up to its sign. -/
theorem reads_number_toDigits {negative : Bool} {m : Nat} {value : Number}
    (hm : m ≤ maxSignificand) (hrest : Ends rest) (hdigits : Nat.toDigits 10 m = c :: ds)
    (hwhole : whole negative m 0 rest = .ok (value, ⟨rest, Nat.le_refl _⟩)) :
    Reads (number negative c (ds ++ rest)) value rest := by
  have hvalue : Nat.ofDigitChars 10 (c :: ds) 0 = m := by
    rw [← hdigits, Nat.ofDigitChars_ten_toDigits]
  have hisDigit : ∀ d ∈ c :: ds, d.isDigit := fun d hd =>
    Nat.isDigit_of_mem_toDigits (by decide) (by decide) (hdigits ▸ hd)
  have hzero : c = '0' → ds = [] := fun hc =>
    Integer.eq_nil_of_toDigits_eq_zero_cons (hc ▸ hdigits)
  exact reads_number hzero hisDigit hvalue hm hrest hwhole

/-- A value that begins with a digit is a number. -/
theorem scalar_of_isDigit (hc : c.isDigit) (cs : List Char) :
    scalar c cs = (number false c cs).map fun (n, rest) => (.number n, rest) := by
  unfold scalar
  split
  case h_6 => rw [if_pos hc]
  all_goals cases hc

/-- The digits of a number that fits 64 bits are read as it. -/
theorem reads_scalar_digits {m : Nat} (hm : m ≤ maxSignificand) (hrest : Ends rest)
    (h : Nat.toDigits 10 m = c :: ds) :
    Reads (scalar c (ds ++ rest)) (.number (.integer m)) rest := by
  have hc : c.isDigit :=
    Nat.isDigit_of_mem_toDigits (by decide) (by decide) (h ▸ List.mem_cons_self)
  rw [scalar_of_isDigit hc]
  exact (reads_number_toDigits hm hrest h rfl).map Json.number

/-- Behind a minus sign they are read as the negative number, if that fits 64 bits and is not
    zero. -/
theorem reads_scalar_minus {m : Nat} (hpos : 0 < m) (hm : m ≤ maxNegated) (hrest : Ends rest) :
    Reads (scalar '-' (Nat.toDigits 10 m ++ rest)) (.number (.integer (-m))) rest := by
  obtain ⟨c, ds, h⟩ := List.exists_cons_of_ne_nil (Nat.toDigits_ne_nil (n := m) (b := 10))
  have hc : c.isDigit :=
    Nat.isDigit_of_mem_toDigits (by decide) (by decide) (h ▸ List.mem_cons_self)
  have hwhole : whole true m 0 rest = .ok (.integer (-m), ⟨rest, Nat.le_refl _⟩) := by
    simp [whole, hpos, hm]
  have hnumber : Reads (negativeNumber (c :: (ds ++ rest))) (.integer (-m)) rest := by
    rw [negativeNumber, if_pos hc]
    have hfits : m ≤ maxSignificand := Nat.le_trans hm (by decide)
    exact (reads_number_toDigits hfits hrest h hwhole).bind fun _ => ⟨_, rfl⟩
  rw [h, List.cons_append]
  exact hnumber.map Json.number

/-- A number of 64 bits is read from its text. -/
theorem reads_scalar_toText (n : Int64) (hrest : Ends rest)
    (h : (Integer.toText n).toList = c :: ds) :
    Reads (scalar c (ds ++ rest)) (.number (.integer n.toInt)) rest := by
  have hleast := Integer.least_le_toInt n
  have hgreatest := Integer.toInt_le_greatest n
  rw [Integer.toList_toText] at h
  cases hn : n.toInt with
  | ofNat m =>
    rw [hn] at h hgreatest
    have hm : m ≤ maxSignificand :=
      Nat.le_trans (Int.ofNat_le.1 hgreatest) (by decide)
    exact reads_scalar_digits hm hrest h
  | negSucc m =>
    rw [hn] at h hleast
    obtain ⟨rfl, rfl⟩ := List.cons.inj h
    have hm : m + 1 ≤ maxNegated := by
      rw [Integer.least] at hleast
      rw [maxNegated]
      omega
    exact reads_scalar_minus (Nat.succ_pos m) hm hrest

/-! ## Words and texts -/

/-- A word is read from its letters. -/
theorem reads_word (value : Json) (letters rest : List Char) :
    Reads (word value letters (letters ++ rest)) value rest := by
  induction letters with
  | nil => exact ⟨_, rfl⟩
  | cons letter letters ih =>
    rw [List.cons_append, word, if_pos rfl]
    exact ih.bind fun _ => ⟨_, rfl⟩

/-- A string is read from its literal. -/
theorem reads_scalar_string (s : String) (rest : List Char) :
    Reads (scalar '"' (s.toList.flatMap escapeChar ++ '"' :: rest)) (.string s) rest :=
  (reads_string s rest).map Json.string

end TurnScript.Json.Reader
