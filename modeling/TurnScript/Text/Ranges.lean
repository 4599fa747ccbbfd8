/-!
# Sets of characters

A set of characters that a standard lists is kept as a table of ranges of code points, in
ascending order and with both ends included. `Ranges.contains` looks a code point up by halving:
it goes to the last range that begins at or before it, which is the only one that can hold it.
-/

namespace TurnScript.Text

/-- Disjoint ranges of code points in ascending order. -/
abbrev Ranges := Array (Nat × Nat)

namespace Ranges

/-- The index of the last range that begins at or before `n`, searched from the index `i` on in
    steps of `2 ^ bits` and smaller ones. -/
def seek (table : Ranges) (n : Nat) : (bits : Nat) → (i : Nat) → Nat
  | 0, i => i
  | bits + 1, i =>
    let next := i + (1 <<< bits)
    match table[next]? with
    | some (low, _) => if low ≤ n then seek table n bits next else seek table n bits i
    | none => seek table n bits i

/-- Whether one of the ranges holds the code point `n`. -/
def contains (table : Ranges) (n : Nat) : Bool :=
  match table[table.seek n (table.size.log2 + 1) 0]? with
  | some (low, high) => low ≤ n && n ≤ high
  | none => false

end Ranges

end TurnScript.Text
