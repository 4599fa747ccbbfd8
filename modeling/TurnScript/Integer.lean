/-!
# Integers and their text

Numbers are integers of 64 bits with a sign. Their text is the decimal one; a reader also takes a
plus sign and leading zeros, and refuses what does not fit.
-/

namespace TurnScript.Integer

/-- A number behind which one more digit is written. -/
def pushDigit (n : Nat) (c : Char) : Nat := 10 * n + (c.toNat - '0'.toNat)

/-- A size that no number reaches. -/
def ceiling : Nat := 10000000000000000000

/-- The size that a non-empty run of ASCII digits stands for, or `ceiling` if it is larger. -/
def digitsValue? (cs : List Char) : Option Nat :=
  if cs.isEmpty || !cs.all Char.isDigit then none
  else some (cs.foldl (fun n c => min ceiling (pushDigit n c)) 0)

/-- Stopping at the ceiling after every digit is the same as stopping there at the end. -/
theorem foldl_min_pushDigit (cs : List Char) (n : Nat) :
    cs.foldl (fun n c => min ceiling (pushDigit n c)) (min ceiling n) =
      min ceiling (cs.foldl pushDigit n) := by
  induction cs generalizing n with
  | nil => rfl
  | cons c cs ih =>
    have step : min ceiling (pushDigit (min ceiling n) c) = min ceiling (pushDigit n c) := by
      simp only [pushDigit, ceiling]
      omega
    simp only [List.foldl_cons, step]
    exact ih (pushDigit n c)

/-- The least number. -/
def least : Int := -9223372036854775808

/-- The greatest number. -/
def greatest : Int := 9223372036854775807

/-- The 64-bit integer of that value, if there is one. -/
def ofInt? (n : Int) : Option Int64 :=
  if least ≤ n ∧ n ≤ greatest then some (Int64.ofInt n) else none

/-- The number that is written with an optional sign and decimal digits; none if the text has
    another form or the number does not fit 64 bits. -/
def ofChars? : List Char → Option Int64
  | '-' :: cs => (digitsValue? cs).bind fun n => ofInt? (-n)
  | '+' :: cs => (digitsValue? cs).bind fun n => ofInt? n
  | cs => (digitsValue? cs).bind fun n => ofInt? n

/-- The number that a text writes. -/
def ofText? (s : String) : Option Int64 := ofChars? s.toList

/-- The decimal text of a number. -/
def toText (n : Int64) : String := toString n.toInt

end TurnScript.Integer
