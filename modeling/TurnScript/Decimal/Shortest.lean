/-!
# The shortest decimal of a floating-point number

A floating-point number stands for all the reals that round to it. Among the decimals in that
interval `shortest` chooses one with the fewest digits, of those the nearest, and of two equally
near ones the even. Everything is computed on natural numbers: the number is `m · 2 ^ q`, and a
grid of decimals with a given number of digits is searched only next to it, because if any point of
a grid lies in the interval, so does one of the two neighbours of the number.
-/

namespace TurnScript

/-- A positive number `significand · 2 ^ exponent`, as one of a row of floating-point numbers. -/
structure FloatCell where
  significand : Nat
  exponent : Int
  /-- Whether the number below is only half as far away as the number above. -/
  narrow : Bool
  deriving DecidableEq, Repr

/-- The decimal `digits · 10 ^ exponent`. -/
structure Decimal where
  digits : Nat
  exponent : Int
  deriving DecidableEq, Repr

namespace FloatCell

/-- The magnitude of a finite float of 64 bits: 52 bits of fraction below 11 bits of exponent. -/
def ofBits (bits : Nat) : FloatCell :=
  let hidden : Nat := 1 <<< 52
  let fraction : Nat := bits % hidden
  let biased : Nat := (bits / hidden) % 2048
  if biased = 0 then ⟨fraction, -1074, false⟩
  else ⟨hidden + fraction, (biased : Int) - 1075, fraction == 0 && 1 < biased⟩

/-- Quarters of a unit in the last place, and a unit of the grid `10 ^ k`, as multiples of a common
    measure. -/
def measures (x : FloatCell) (k : Int) : Nat × Nat :=
  let q := x.exponent - 2
  (Nat.pow 2 q.toNat * Nat.pow 10 (-k).toNat, Nat.pow 10 k.toNat * Nat.pow 2 (-q).toNat)

/-- The largest `e` with `10 ^ e` not above the number, which must be at least `10 ^ -400`. -/
def magnitude (x : FloatCell) : Int :=
  let (quarter, unit) := x.measures (-400)
  ((Nat.toDigits 10 (4 * x.significand * quarter / unit)).length : Int) - 401

/-- Whether `d · 10 ^ k` rounds to the number. The ends of the interval do if the significand is
    even. -/
def isReadFrom (x : FloatCell) (k : Int) (d : Nat) : Bool :=
  let (quarter, unit) := x.measures k
  let low := (4 * x.significand - if x.narrow then 1 else 2) * quarter
  let high := (4 * x.significand + 2) * quarter
  let point := d * unit
  if x.significand % 2 = 0 then low ≤ point && point ≤ high else low < point && point < high

/-- The better of the number's two neighbours on the grid `10 ^ k`, if one of them rounds to it. -/
def nearest? (x : FloatCell) (k : Int) : Option Decimal :=
  let (quarter, unit) := x.measures k
  let exact := 4 * x.significand * quarter
  let below := exact / unit
  let above := below + 1
  match x.isReadFrom k below, x.isReadFrom k above with
  | false, false => none
  | true, false => some ⟨below, k⟩
  | false, true => some ⟨above, k⟩
  | true, true =>
    let toBelow := exact - below * unit
    let toAbove := above * unit - exact
    if toBelow < toAbove || (toBelow = toAbove && below % 2 = 0) then some ⟨below, k⟩
    else some ⟨above, k⟩

/-- The decimal with the fewest digits that rounds to the number. Seventeen digits always
    suffice. -/
def shortest (x : FloatCell) : Decimal :=
  let top := x.magnitude
  let grids := (List.range 17).map fun (n : Nat) => top - n
  (grids.findSome? x.nearest?).getD ⟨x.significand, x.exponent⟩

end FloatCell

namespace Decimal

/-- The digits without the zeros at their end, and the power of ten of the first digit. -/
def scientific (d : Decimal) : List Char × Int :=
  let digits := Nat.toDigits 10 d.digits
  let kept := (digits.reverse.dropWhile (· == '0')).reverse
  (kept, d.exponent + (digits.length : Int) - 1)

end Decimal

end TurnScript
