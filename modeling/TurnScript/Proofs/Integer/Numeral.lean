import TurnScript.Proofs.Integer

/-!
# Integer literals

A literal is a run of decimal digits of any length, perhaps behind a sign (`Numeral`). It is read as
the number that it writes if this is one of 64 bits, and as none otherwise (`ofText?_numeral`).
-/

namespace TurnScript.Integer

/-! ## Numbers of 64 bits -/

/-- The number fits 64 bits with a sign. -/
def Fits (n : Int) : Prop := -9223372036854775808 ≤ n ∧ n ≤ 9223372036854775807

instance (n : Int) : Decidable (Fits n) := inferInstanceAs (Decidable (_ ∧ _))

theorem fits_iff {n : Int} : Fits n ↔ least ≤ n ∧ n ≤ greatest := Iff.rfl

theorem ofInt?_of_fits {n : Int} (h : Fits n) : ∃ i : Int64, i.toInt = n ∧ ofInt? n = some i := by
  have hsome : ofInt? n = some (Int64.ofInt n) := by rw [ofInt?, if_pos (fits_iff.1 h)]
  exact ⟨_, toInt_of_ofInt? hsome, hsome⟩

theorem ofInt?_of_not_fits {n : Int} (h : ¬ Fits n) : ofInt? n = none := by
  rw [ofInt?, if_neg fun hn => h (fits_iff.2 hn)]

/-- No number of 64 bits lies beyond the ceiling, on either side. -/
theorem ofInt?_min_ceiling (m : Nat) :
    ofInt? (min ceiling m : Nat) = ofInt? m ∧ ofInt? (-(min ceiling m : Nat)) = ofInt? (-m) := by
  rcases Nat.le_total m ceiling with hm | hm
  · rw [Nat.min_eq_right hm]
    exact ⟨rfl, rfl⟩
  · rw [Nat.min_eq_left hm]
    rw [ceiling] at hm ⊢
    have hbeyond {n : Nat} (hn : 10000000000000000000 ≤ n) : ¬ Fits n ∧ ¬ Fits (-n) := by
      rw [Fits, Fits]
      omega
    obtain ⟨hceiling, hceiling'⟩ := hbeyond (Nat.le_refl _)
    obtain ⟨hpositive, hnegative⟩ := hbeyond hm
    exact ⟨by rw [ofInt?_of_not_fits hceiling, ofInt?_of_not_fits hpositive],
      by rw [ofInt?_of_not_fits hceiling', ofInt?_of_not_fits hnegative]⟩

/-! ## Literals -/

/-- The sign in front of a literal. -/
inductive Sign
  | unsigned
  | plus
  | minus
  deriving DecidableEq

/-- A sign as it is written. -/
def Sign.mark : Sign → List Char
  | unsigned => []
  | plus => ['+']
  | minus => ['-']

/-- An integer literal: a sign and decimal digits, of which there is one at least. -/
structure Numeral where
  sign : Sign
  digits : List Char
  digits_ne_nil : digits ≠ [] := by decide
  all_isDigit : digits.all Char.isDigit := by decide

namespace Numeral

variable (l : Numeral)

/-- The characters of the literal. -/
def toList : List Char := l.sign.mark ++ l.digits

/-- The text of the literal. -/
def text : String := String.ofList l.toList

/-- The number that the digits write in base ten. -/
def magnitude : Nat := Nat.ofDigitChars 10 l.digits 0

/-- The number that the literal writes. -/
def value : Int :=
  match l.sign with
  | .unsigned | .plus => l.magnitude
  | .minus => -l.magnitude

theorem isDigit_of_mem : ∀ c ∈ l.digits, c.isDigit := List.all_eq_true.1 l.all_isDigit

theorem toList_ne_nil : l.toList ≠ [] := by
  simp [toList, l.digits_ne_nil]

theorem exists_digits_eq_cons :
    ∃ c cs, l.digits = c :: cs ∧ c.isDigit ∧ ∀ d ∈ cs, d.isDigit := by
  obtain ⟨c, cs, h⟩ := List.exists_cons_of_ne_nil l.digits_ne_nil
  have hdigits := l.isDigit_of_mem
  rw [h, List.forall_mem_cons] at hdigits
  exact ⟨c, cs, h, hdigits⟩

end Numeral

/-- A literal is read as the number that it writes, if this fits 64 bits. -/
theorem ofText?_numeral (l : Numeral) : ofText? l.text = ofInt? l.value := by
  have hdigits : digitsValue? l.digits = some (min ceiling l.magnitude) :=
    digitsValue?_eq_some l.digits_ne_nil l.isDigit_of_mem
  obtain ⟨hpositive, hnegative⟩ := ofInt?_min_ceiling l.magnitude
  rw [ofText?, Numeral.text, String.toList_ofList, Numeral.toList, Numeral.value]
  cases l.sign with
  | unsigned =>
    obtain ⟨c, cs, hcs, hc, -⟩ := l.exists_digits_eq_cons
    rw [Sign.mark, List.nil_append, hcs, ofChars?_of_isDigit hc, ← hcs, hdigits]
    exact hpositive
  | plus =>
    rw [Sign.mark, List.singleton_append, ofChars?, hdigits]
    exact hpositive
  | minus =>
    rw [Sign.mark, List.singleton_append, ofChars?, hdigits]
    exact hnegative

end TurnScript.Integer
