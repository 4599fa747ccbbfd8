import TurnScript.Integer

/-!
# Reading numbers back

Digits are read as the number that they write in base ten (`digitsValue?_eq_some`), so the text of
a number is read as that number (`ofText?_toText`), the least one included.
-/

namespace TurnScript.Integer

/-! ## Digits -/

/-- Pushing digits one by one is reading them in base ten. -/
theorem foldl_pushDigit (cs : List Char) (n : Nat) :
    cs.foldl pushDigit n = Nat.ofDigitChars 10 cs n := by
  rw [Nat.ofDigitChars_eq_foldl]
  rfl

/-- A non-empty run of digits has the value that it writes in base ten, up to the ceiling. -/
theorem digitsValue?_eq_some {cs : List Char} (hne : cs ≠ []) (hd : ∀ c ∈ cs, c.isDigit) :
    digitsValue? cs = some (min ceiling (Nat.ofDigitChars 10 cs 0)) := by
  have hall : cs.all Char.isDigit = true := List.all_eq_true.2 hd
  have hempty : cs.isEmpty = false := by simpa using hne
  have hfold := foldl_min_pushDigit cs 0
  rw [Nat.min_zero, foldl_pushDigit] at hfold
  rw [digitsValue?, hempty, hall, hfold]
  rfl

/-- The digits of a number are read as it, up to the ceiling. -/
theorem digitsValue?_toDigits (n : Nat) :
    digitsValue? (Nat.toDigits 10 n) = some (min ceiling n) := by
  rw [digitsValue?_eq_some Nat.toDigits_ne_nil
    fun c hc => Nat.isDigit_of_mem_toDigits (by decide) (by decide) hc,
    Nat.ofDigitChars_ten_toDigits]

/-- The digits of a number begin with a zero only if there is no other digit. -/
theorem eq_nil_of_toDigits_eq_zero_cons {n : Nat} {cs : List Char}
    (h : Nat.toDigits 10 n = '0' :: cs) : cs = [] := by
  induction n using Nat.strongRecOn generalizing cs with
  | ind n ih =>
    rcases Nat.lt_or_ge n 10 with hlt | hge
    · rw [Nat.toDigits_of_lt_base hlt] at h
      exact (List.cons.inj h).2.symm
    · -- the digits before the last one would be those of zero
      rw [Nat.toDigits_of_base_le (by decide) hge] at h
      obtain ⟨c, front, hfront⟩ :=
        List.exists_cons_of_ne_nil (Nat.toDigits_ne_nil (n := n / 10) (b := 10))
      rw [hfront, List.cons_append, List.cons.injEq] at h
      rw [h.1] at hfront
      have hzero : Nat.ofDigitChars 10 (Nat.toDigits 10 (n / 10)) 0 = 0 := by
        rw [hfront, ih (n / 10) (by omega) hfront]
        rfl
      rw [Nat.ofDigitChars_ten_toDigits] at hzero
      omega

/-! ## Signs -/

/-- A text that begins with a digit is read without a sign. -/
theorem ofChars?_of_isDigit {c : Char} {cs : List Char} (hc : c.isDigit) :
    ofChars? (c :: cs) = (digitsValue? (c :: cs)).bind fun n => ofInt? n := by
  have hminus : c ≠ '-' := by rintro rfl; simp at hc
  have hplus : c ≠ '+' := by rintro rfl; simp at hc
  rw [ofChars?.eq_3]
  · rintro cs' ⟨⟩
    exact hminus rfl
  · rintro cs' ⟨⟩
    exact hplus rfl

/-- The digits of a number are read as a number of 64 bits, if there is one of that value. -/
theorem ofChars?_toDigits (n : Nat) :
    ofChars? (Nat.toDigits 10 n) = ofInt? (min ceiling n : Nat) := by
  obtain ⟨c, cs, hcs⟩ := List.exists_cons_of_ne_nil (Nat.toDigits_ne_nil (n := n) (b := 10))
  have hc : c.isDigit :=
    Nat.isDigit_of_mem_toDigits (n := n) (b := 10) (by decide) (by decide) (by simp [hcs])
  rw [hcs, ofChars?_of_isDigit hc, ← hcs, digitsValue?_toDigits]
  rfl

/-! ## Texts of numbers -/

theorem least_le_toInt (n : Int64) : least ≤ n.toInt := n.le_toInt

theorem toInt_le_greatest (n : Int64) : n.toInt ≤ greatest := n.toInt_le

/-- A number of 64 bits is the one of its own value. -/
theorem ofInt?_toInt (n : Int64) : ofInt? n.toInt = some n := by
  rw [ofInt?, if_pos ⟨least_le_toInt n, toInt_le_greatest n⟩, Int64.ofInt_toInt]

/-- The number of 64 bits with a given value has that value. -/
theorem toInt_of_ofInt? {n : Int} {i : Int64} (h : ofInt? n = some i) : i.toInt = n := by
  rw [ofInt?] at h
  split at h
  · next hn =>
    rw [← Option.some.inj h]
    rw [least, greatest] at hn
    exact Int64.toInt_ofInt_of_le hn.1 (Int.lt_add_one_of_le hn.2)
  · cases h

/-- The text of a number: its digits, behind a minus sign if it is negative. -/
theorem toList_toText (n : Int64) :
    (toText n).toList =
      match n.toInt with
      | .ofNat m => Nat.toDigits 10 m
      | .negSucc m => '-' :: Nat.toDigits 10 (m + 1) := by
  have hrepr : toText n = n.toInt.repr := rfl
  rw [hrepr]
  cases n.toInt with
  | ofNat m => exact Nat.toList_repr
  | negSucc m =>
    rw [Int.repr, String.toList_append, Nat.toList_repr]
    rfl

/-- No number reaches the ceiling. -/
theorem natAbs_toInt_le_ceiling (n : Int64) : n.toInt.natAbs ≤ ceiling := by
  have hleast := least_le_toInt n
  have hgreatest := toInt_le_greatest n
  rw [least] at hleast
  rw [greatest] at hgreatest
  rw [ceiling]
  omega

/-- The text of a number is read as that number. -/
theorem ofText?_toText (n : Int64) : ofText? (toText n) = some n := by
  have habs := natAbs_toInt_le_ceiling n
  have hn := ofInt?_toInt n
  rw [ofText?, toList_toText]
  cases hi : n.toInt with
  | ofNat m =>
    rw [hi] at habs hn
    have hm : min ceiling m = m := Nat.min_eq_right habs
    exact (ofChars?_toDigits m).trans (hm.symm ▸ hn)
  | negSucc m =>
    -- behind the minus sign stand the digits of `m + 1`
    rw [hi] at habs hn
    have hm : min ceiling (m + 1) = m + 1 := Nat.min_eq_right habs
    have hread : ofChars? ('-' :: Nat.toDigits 10 (m + 1)) =
        ofInt? (-(min ceiling (m + 1) : Nat)) := by
      rw [ofChars?, digitsValue?_toDigits, Option.bind_some]
    exact hread.trans (hm.symm ▸ hn)

/-- The text of a number is not empty. -/
theorem toList_toText_ne_nil (n : Int64) : (toText n).toList ≠ [] := by
  rw [toList_toText]
  cases n.toInt with
  | ofNat m => exact Nat.toDigits_ne_nil
  | negSucc m => simp

/-- The text of a number holds digits and perhaps a minus sign. -/
theorem isDigit_or_eq_minus_of_mem_toText {n : Int64} {c : Char} (hc : c ∈ (toText n).toList) :
    c.isDigit ∨ c = '-' := by
  have hdigit : ∀ {m : Nat}, c ∈ Nat.toDigits 10 m → c.isDigit :=
    fun h => Nat.isDigit_of_mem_toDigits (by decide) (by decide) h
  rw [toList_toText] at hc
  cases hi : n.toInt with
  | ofNat m =>
    rw [hi] at hc
    exact .inl (hdigit hc)
  | negSucc m =>
    rw [hi] at hc
    rcases List.mem_cons.1 hc with rfl | hc
    · exact .inr rfl
    · exact .inl (hdigit hc)

end TurnScript.Integer
